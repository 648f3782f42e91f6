import AisFeed.Output.JsonLines
import AisFeed.Proofs.Forms
import AisFeed.Proofs.Json.OneLine
import AisFeed.Proofs.Lines.Cutting
import AisFeed.Proofs.Text.Utf8

/-!
# Lines of JSON are read back

What a sink has written is a line for each record (`JsonLines.isLines_written`), as the text of a
record is one line. So the lines are found again, and each names its record. Main statement:
`written_forms_round_trip`, for all written forms and for such lines.
-/

set_option autoImplicit false

namespace AisFeed

open Text

/-! ## What is written -/

namespace Writer

variable {w w' : Writer}

theorem written_write {bytes : List UInt8} (done : w.write bytes = (w', none)) :
    w'.written = w.written ++ bytes := by
  unfold write at done
  dsimp only at done
  split at done
  · cases done
  · cases done
    simp [written]

theorem written_writeAll {pieces : List (List UInt8)} (done : w.writeAll pieces = (w', none)) :
    w'.written = w.written ++ pieces.flatten := by
  induction pieces generalizing w with
  | nil =>
    cases done
    simp
  | cons piece pieces ih =>
    rw [writeAll] at done
    split at done
    · rename_i first
      rw [ih done, written_write first, List.append_assoc, List.flatten_cons]
    · cases done

/-- An output that never fails takes everything. -/
theorem exists_write (calm : w.writeFault = none) (bytes : List UInt8) :
    ∃ w', w.write bytes = (w', none) ∧ w'.writeFault = none := by
  unfold write
  rw [calm]
  exact ⟨_, rfl, rfl⟩

theorem exists_writeAll (calm : w.writeFault = none) (pieces : List (List UInt8)) :
    ∃ w', w.writeAll pieces = (w', none) ∧ w'.writeFault = none := by
  induction pieces generalizing w with
  | nil => exact ⟨w, rfl, calm⟩
  | cons piece pieces ih =>
    obtain ⟨next, first, calm⟩ := exists_write calm piece
    rw [writeAll, first]
    exact ih calm

end Writer

namespace JsonLines

variable {w w' : Writer}

theorem exists_accept (calm : w.writeFault = none) (pieces : List (List Char)) :
    ∃ w', accept w pieces = (w', none) ∧ w'.writeFault = none := by
  obtain ⟨inner, body, calm⟩ := Writer.exists_writeAll calm (pieces.map Utf8.encode)
  obtain ⟨outer, newline, calm⟩ := Writer.exists_write calm [0x0A]
  exact ⟨outer, by simp only [accept, body, newline], calm⟩

theorem exists_acceptAll? (calm : w.writeFault = none) (records : List Record) :
    ∃ w', acceptAll? w records = some w' := by
  induction records generalizing w with
  | nil => exact ⟨w, rfl⟩
  | cons r records ih =>
    obtain ⟨next, first, calm⟩ := exists_accept calm (recordPieces r)
    rw [acceptAll?, first]
    exact ih calm

theorem written_accept {pieces : List (List Char)} (done : accept w pieces = (w', none)) :
    w'.written = w.written ++ (Utf8.encode pieces.flatten ++ [0x0A]) := by
  unfold accept at done
  split at done
  · cases done
  · rename_i body
    split at done
    · cases done
    · rename_i newline
      cases done
      rw [Writer.written_write newline, Writer.written_writeAll body, Utf8.flatten_map_encode,
        List.append_assoc]

/-- A line for each record. -/
theorem written_acceptAll? {records : List Record} (done : acceptAll? w records = some w') :
    w'.written = w.written ++ records.flatMap fun r => line r.toJson := by
  induction records generalizing w with
  | nil =>
    cases done
    simp
  | cons r records ih =>
    rw [acceptAll?] at done
    split at done
    · rename_i first
      rw [ih done, written_accept first, flatten_recordPieces, List.flatMap_cons,
        List.append_assoc]
      rfl
    · cases done

/-- The text of each record is a line. -/
theorem isLines_written {records : List Record} {writeFault flushFault : Option Fault}
    (done : acceptAll? (.new writeFault flushFault) records = some w) :
    IsLines w.written (records.map fun r => Utf8.bytesOf (Record.form.text r)) [] where
  whole := by
    rw [written_acceptAll? done, List.flatMap_map, List.append_nil]
    rfl
  lines l mem := by
    obtain ⟨r, -, rfl⟩ := List.mem_map.1 mem
    exact Utf8.newline_not_mem_encode (Json.newline_not_mem_compact _)
  rest := List.not_mem_nil

/-- Each line names its record. -/
theorem ofText?_line {r : Record} (fits : r.Fits) :
    (Utf8.string? (Utf8.bytesOf (Record.form.text r))).bind Record.form.ofText? = some r := by
  rw [Utf8.string?_eq_some_iff.2 rfl, Option.bind_some]
  exact Record.isFaithful_form.roundTrips.ofText?_text r fits

/-- The lines that are written name the records. -/
theorem map_cutLines_written {records : List Record} {writeFault flushFault : Option Fault}
    (fits : ∀ r ∈ records, r.Fits)
    (done : acceptAll? (.new writeFault flushFault) records = some w) :
    (cutLines w.written).2 = [] ∧
      ((cutLines w.written).1.map fun l => (Utf8.string? l).bind Record.form.ofText?) =
        records.map some := by
  rw [(isLines_written done).cutLines_eq]
  refine ⟨rfl, ?_⟩
  rw [List.map_map]
  refine List.map_congr_left fun r mem => ?_
  rw [Function.comp_apply, ofText?_line (fits r mem)]

end JsonLines

/-- **The written forms round trip, and so do lines of records.** The numbers of a value have the
sizes of the fields of its type. An output that does not fail takes all records. -/
theorem written_forms_round_trip :
    Keying.form.RoundTrips (fun _ => True) ∧ Talker.form.RoundTrips (fun _ => True) ∧
      Parity.form.RoundTrips (fun _ => True) ∧ QueuePolicy.form.RoundTrips QueuePolicy.Fits ∧
      Summary.form.RoundTrips Summary.Fits ∧ Sentence.form.RoundTrips Sentence.Fits ∧
      Payload.form.RoundTrips Payload.Fits ∧ Record.form.RoundTrips Record.Fits ∧
      SerialSettings.form.RoundTrips SerialSettings.Fits ∧
      (∀ (records : List Record) (flushFault : Option Fault),
        ∃ w, JsonLines.acceptAll? (.new none flushFault) records = some w) ∧
      ∀ (records : List Record) (writeFault flushFault : Option Fault) (w : Writer),
        (∀ r ∈ records, r.Fits) →
        JsonLines.acceptAll? (.new writeFault flushFault) records = some w →
        (cutLines w.written).2 = [] ∧
          ((cutLines w.written).1.map fun l => (Utf8.string? l).bind Record.form.ofText?) =
            records.map some := by
  refine ⟨Keying.isFaithful_form.roundTrips, Talker.isFaithful_form.roundTrips,
    Parity.isFaithful_form.roundTrips, QueuePolicy.isFaithful_form.roundTrips,
    Summary.isFaithful_form.roundTrips, Sentence.isFaithful_form.roundTrips,
    Payload.isFaithful_form.roundTrips, Record.isFaithful_form.roundTrips,
    SerialSettings.isFaithful_form.roundTrips, ?_, ?_⟩
  · intro records flushFault
    exact JsonLines.exists_acceptAll? rfl records
  · intro records writeFault flushFault w fits done
    exact JsonLines.map_cutLines_written fits done

/-- A record of the first second of all, whose sender has a quote, a line break and a character of
three bytes in its name. -/
def Record.sample : Record :=
  ⟨⟨-8334601228800, 1, by decide, by decide, by decide, by decide⟩, some "a\"\n\u20ac", some 65535,
    [0, 255]⟩

theorem written_forms_round_trip_sample :
    Record.sample.Fits ∧ Record.form.ofText? (Record.form.text Record.sample) = some Record.sample ∧
      ∃ w, JsonLines.acceptAll? (.new none none) [Record.sample, Record.sample] = some w ∧
        (cutLines w.written).2 = [] ∧
          ((cutLines w.written).1.map fun l => (Utf8.string? l).bind Record.form.ofText?) =
            [some Record.sample, some Record.sample] := by
  have fits : Record.sample.Fits := by
    intro port same
    cases same
    decide
  have all : ∀ r ∈ [Record.sample, Record.sample], r.Fits := by
    intro r mem
    simp only [List.mem_cons, List.not_mem_nil, or_false, or_self] at mem
    exact mem ▸ fits
  obtain ⟨-, -, -, -, -, -, -, record, -, accepts, lines⟩ := written_forms_round_trip
  obtain ⟨w, done⟩ := accepts [Record.sample, Record.sample] none
  exact ⟨fits, record.ofText?_text _ fits, w, done, lines _ none none w all done⟩

end AisFeed
