import AisFeed.Capture.Replay
import AisFeed.Proofs.Capture.Lines
import AisFeed.Proofs.Decoder.Framing
import AisFeed.Proofs.Text.Parts

/-!
# Replays and their captures

A replay takes the lines of a text, which line feeds end, and trims whatever is blank in Unicode; a
buffer and a survey take the lines of bytes and drop one carriage return. Both come to the same
lines, since a line feed and a carriage return are a byte each and blank as characters
(`fileLines_encode`, `exists_chomp_encode`). So what a replay writes is read as the lines that it
wrote, and replaying that writes it again (`Replay.Reproduces`).
-/

set_option autoImplicit false

namespace AisFeed

open Text

/-! ## Lines of bytes and lines of text -/

theorem encode_lines (lines : List (List Char)) :
    Utf8.encode (lines.flatMap (· ++ ['\n'])) =
      (lines.map Utf8.encode).flatMap (· ++ [lineFeed]) := by
  induction lines with
  | nil => rfl
  | cons line lines ih =>
    rw [List.flatMap_cons, Utf8.encode_append, Utf8.encode_append, ih]
    rfl

/-- A text and its bytes are cut into lines alike. -/
theorem isLines_encode {lines : List (List Char)} {rest : List Char}
    (each : ∀ line ∈ lines, '\n' ∉ line) (last : '\n' ∉ rest) :
    IsLines (Utf8.encode (lines.flatMap (· ++ ['\n']) ++ rest)) (lines.map Utf8.encode)
      (Utf8.encode rest) := by
  refine ⟨?_, ?_, Utf8.newline_not_mem_encode last⟩
  · rw [Utf8.encode_append, encode_lines]
  · intro line mem
    obtain ⟨text, inside, rfl⟩ := List.mem_map.1 mem
    exact Utf8.newline_not_mem_encode (each text inside)

/-- The lines of a file with a text are those of the text. -/
theorem fileLines_encode (text : List Char) :
    fileLines (Utf8.encode text) = keptLines ((partsBetween '\n' text).map Utf8.encode) := by
  obtain ⟨lines, rest, rfl, each, last⟩ := exists_lines '\n' text
  rw [(isLines_encode each last).fileLines_eq, partsBetween_lines each last, List.map_append,
    keptLines_append, List.map_singleton]

/-- A carriage return in bytes is one in the text, where it is blank. -/
theorem exists_chomp_encode (text : List Char) :
    ∃ chomped, chomp (Utf8.encode text) = Utf8.encode chomped ∧ trim chomped = trim text := by
  unfold chomp
  split
  · rename_i ends
    obtain rfl | ⟨before, c, rfl⟩ := List.eq_nil_or_concat' text
    · cases ends
    have single : Utf8.encode [c] = String.utf8EncodeChar c := List.append_nil _
    have mem : carriageReturn ∈ String.utf8EncodeChar c := by
      rw [Utf8.encode_append, single,
        List.getLast?_append_of_ne_nil _ (Utf8.encodeChar_ne_nil c)] at ends
      exact List.mem_of_getLast? ends
    have code : c.toNat = carriageReturn.toNat := Utf8.toNat_of_mem_encodeChar mem (by decide)
    have same : c = '\r' := Char.toNat_inj.1 code
    subst same
    refine ⟨before, ?_, (trim_append_blank before (by decide)).symm⟩
    rw [Utf8.encode_append]
    exact List.dropLast_concat
  · exact ⟨text, rfl, rfl⟩

/-! ## Lines that are trimmed -/

namespace Replay

/-- What a replay sends for a line of a file, without its end. Nothing is sent for a blank one. -/
def form? (line : List UInt8) : Option (List UInt8) :=
  (Utf8.decode? line).bind fun text =>
    if trim text = [] then none else some (Utf8.encode (trim text))

theorem form?_encode (text : List Char) :
    form? (Utf8.encode text) = if trim text = [] then none else some (Utf8.encode (trim text)) := by
  rw [form?, Utf8.decode?_eq_some_iff.2 rfl, Option.bind_some]

/-- Whether a line ends in a carriage return makes no difference to its form. -/
theorem forms_keptLines_singleton (text : List Char) :
    (keptLines [Utf8.encode text]).filterMap form? = (form? (Utf8.encode text)).toList := by
  obtain ⟨chomped, bytes, trimmed⟩ := exists_chomp_encode text
  have same : form? (Utf8.encode chomped) = form? (Utf8.encode text) := by
    rw [form?_encode, form?_encode, trimmed]
  rw [keptLines_singleton, bytes, ← same]
  split
  · rename_i empty
    rw [empty]
    rfl
  · exact List.filterMap_cons

/-- The lines of a replay are those of a survey, each in its form. -/
theorem linesOf_eq_forms (text : List Char) :
    (linesOf text).map Utf8.encode = (fileLines (Utf8.encode text)).filterMap form? := by
  rw [fileLines_encode, linesOf]
  induction partsBetween '\n' text with
  | nil => rfl
  | cons part parts ih =>
    have split : keptLines ((part :: parts).map Utf8.encode) =
        keptLines [Utf8.encode part] ++ keptLines (parts.map Utf8.encode) :=
      keptLines_append [Utf8.encode part] _
    rw [split, List.filterMap_append, forms_keptLines_singleton, form?_encode, ← ih, List.map_cons]
    by_cases blank : trim part = []
    · rw [if_pos blank, blank]
      rfl
    · rw [if_neg blank, List.filter_cons_of_pos]
      · rfl
      · simpa using blank

theorem linesOf_eq_nil_iff {text : List Char} :
    linesOf text = [] ↔ ∀ line ∈ partsBetween '\n' text, trim line = [] := by
  simp [linesOf, List.filter_eq_nil_iff]

theorem of_mem_linesOf {text line : List Char} (mem : line ∈ linesOf text) :
    trim line = line ∧ line ≠ [] ∧ '\n' ∉ line := by
  obtain ⟨mem, nonempty⟩ := List.mem_filter.1 mem
  obtain ⟨part, inside, rfl⟩ := List.mem_map.1 mem
  refine ⟨trim_trim part, by simpa using nonempty, fun feed => ?_⟩
  exact not_mem_of_mem_partsBetween inside (mem_of_mem_trim feed)

end Replay

/-! ## Sentences that are trimmed -/

theorem not_isBlank_ofNat_of_isAlnumByte : ∀ n < 256, isAlnumByte (UInt8.ofNat n) = true →
    n < 0x80 ∧ isBlank (Char.ofNat n) = false := by
  decide +kernel

/-- A line with the frame of a sentence is trimmed to the frame. -/
theorem exists_around_frame {text : List Char} {f : Frame}
    (framed : Frame.ofLine? (Utf8.encode text) = some f) :
    trim text ≠ [] ∧ ∃ before after, IsBlankRun before ∧ IsBlankRun after ∧
      Utf8.encode text = before ++ Utf8.encode (trim text) ++ after := by
  obtain ⟨before, after, isBefore, isAfter, -, isLow, line⟩ := Frame.ofLine?_eq_some_iff.1 framed
  let inner := f.body ++ [0x2A, f.high]
  have around : Utf8.encode text = before ++ ([0x21] ++ inner ++ [f.low]) ++ after := by
    rw [line]
    simp [inner]
  obtain ⟨whole, bytes⟩ := Utf8.split_of_encode_eq isBefore.ascii isAfter.ascii around
  -- The frame starts and ends with a character of one byte that is not blank.
  have low : f.low.toNat < 0x80 ∧ isBlank (Char.ofNat f.low.toNat) = false := by
    apply not_isBlank_ofNat_of_isAlnumByte f.low.toNat f.low.toNat_lt
    rwa [UInt8.ofNat_toNat]
  have ends : Utf8.lossy ([0x21] ++ inner ++ [f.low]) =
      '!' :: (Utf8.lossy inner ++ [Char.ofNat f.low.toNat]) := by
    apply Utf8.lossy_around inner
    · intro b mem
      rw [List.mem_singleton.1 mem]
      decide
    · intro b mem
      rw [List.mem_singleton.1 mem]
      exact low.1
  have trimmed : trim text = Utf8.lossy ([0x21] ++ inner ++ [f.low]) := by
    rw [whole, trim_around isBefore.isBlank_ofAscii isAfter.isBlank_ofAscii, ends]
    exact trim_of_ends _ (by decide) low.2
  refine ⟨?_, before, after, isBefore, isAfter, ?_⟩
  · rw [trimmed, ends]
    exact List.cons_ne_nil _ _
  · rw [trimmed, bytes]
    exact around

/-- A sentence is read from a line that is trimmed as from the line itself. -/
theorem Sentence.read_trim {text : List Char} {t : Time} {s : Sentence}
    (accepted : read (Utf8.encode text) t = .ok (some s)) :
    trim text ≠ [] ∧ read (Utf8.encode (trim text)) t = .ok (some s) := by
  have framed : ∃ f, Frame.ofLine? (Utf8.encode text) = some f := by
    cases framed : Frame.ofLine? (Utf8.encode text) with
    | some f => exact ⟨f, rfl⟩
    | none =>
      have unparted : Frame.parts? (Utf8.encode text) = none := by
        rw [Frame.parts?, framed]
        rfl
      rw [read, unparted] at accepted
      dsimp only at accepted
      split at accepted
      · cases accepted
      · cases accepted
  obtain ⟨f, framed⟩ := framed
  obtain ⟨nonempty, before, after, isBefore, isAfter, around⟩ := exists_around_frame framed
  rw [around, read_around _ isBefore isAfter] at accepted
  exact ⟨nonempty, accepted⟩

/-! ## Writing -/

/-- No call of a writer fails. -/
def Writer.TakesAll (w : Writer) : Prop :=
  w.writeFault = none ∧ w.flushFault = none

namespace Replay

/-- A line is sent with its end. -/
theorem lineBytes_eq : lineBytes = fun line => Utf8.encode line ++ [0x0D, 0x0A] := by
  funext line
  rw [lineBytes, Utf8.encode_append]
  rfl

/-- A writer that takes everything gets the lines one after the other. -/
theorem writeLines_of_takesAll {w : Writer} (takes : w.TakesAll) (sent : Nat)
    (lines : List (List Char)) :
    (writeLines sent w lines).1.pieces = (lines.map lineBytes).reverse ++ w.pieces ∧
      (writeLines sent w lines).2 = .ok (sent + lines.length) := by
  induction lines generalizing sent w with
  | nil => exact ⟨rfl, rfl⟩
  | cons line rest ih =>
    obtain ⟨writeFault, flushFault, pieces, writes, flushes⟩ := w
    obtain ⟨rfl, rfl⟩ : writeFault = none ∧ flushFault = none := takes
    let next : Writer := ⟨none, none, lineBytes line :: pieces, writes + 1, flushes + 1⟩
    have step : writeLines sent ⟨none, none, pieces, writes, flushes⟩ (line :: rest) =
        writeLines (sent + 1) next rest := rfl
    obtain ⟨later, result⟩ := ih (w := next) ⟨rfl, rfl⟩ (sent + 1)
    rw [step, later, result, List.map_cons, List.reverse_cons, List.append_assoc,
      List.length_cons, Nat.add_right_comm, Nat.add_assoc]
    exact ⟨rfl, rfl⟩

/-- A replay of a file with some bytes goes through: to a writer that takes everything it writes
each of some lines, with a carriage return and a line feed behind it, in this order, and it tells
how many there were. -/
def Writes (bytes : List UInt8) (lines : List (List Char)) : Prop :=
  ∀ (s : Storage) (path : String) (w : Writer), s.openToRead path = .ok (some bytes) →
    w.TakesAll →
      (toWriter s path false w).1.pieces.reverse =
          w.pieces.reverse ++ lines.map (fun line => Utf8.encode line ++ [0x0D, 0x0A]) ∧
        (toWriter s path false w).2 = .ok lines.length

theorem writes_linesOf {text : List Char} (nonempty : linesOf text ≠ []) :
    Writes (Utf8.encode text) (linesOf text) := by
  intro s path w opened takes
  obtain ⟨first, rest, lines⟩ := List.exists_cons_of_ne_nil nonempty
  have read : readLines s path = .ok (linesOf text) := by
    rw [readLines, opened]
    dsimp only
    rw [Utf8.decode?_eq_some_iff.2 rfl]
    dsimp only
    rw [lines]
  obtain ⟨pieces, result⟩ := writeLines_of_takesAll takes 0 (linesOf text)
  rw [toWriter, read]
  dsimp only [repeated]
  rw [if_neg Bool.false_ne_true, pieces, result, List.reverse_append, List.reverse_reverse,
    Nat.zero_add, lineBytes_eq]
  exact ⟨rfl, rfl⟩

/-! ## Reading back -/

/-- The text of lines that are sent. -/
def sentText (lines : List (List Char)) : List Char :=
  (lines.map (· ++ ['\r'])).flatMap (· ++ ['\n'])

theorem encode_sentText (lines : List (List Char)) :
    Utf8.encode (sentText lines) =
      lines.flatMap fun line => Utf8.encode line ++ [0x0D, 0x0A] := by
  induction lines with
  | nil => rfl
  | cons line lines ih =>
    have first : sentText (line :: lines) = line ++ ['\r', '\n'] ++ sentText lines := by
      simp [sentText]
    rw [first, Utf8.encode_append, Utf8.encode_append, ih]
    rfl

theorem keptLines_sent {lines : List (List Char)} (solid : ∀ line ∈ lines, line ≠ []) :
    keptLines ((lines.map (· ++ ['\r'])).map Utf8.encode) = lines.map Utf8.encode := by
  have chomped : ((lines.map (· ++ ['\r'])).map Utf8.encode).map chomp = lines.map Utf8.encode := by
    rw [List.map_map, List.map_map]
    refine List.map_congr_left fun line _ => ?_
    show chomp (Utf8.encode (line ++ ['\r'])) = Utf8.encode line
    rw [Utf8.encode_append]
    exact chomp_returned _
  rw [keptLines, chomped, List.filter_eq_self]
  intro line mem
  obtain ⟨text, inside, rfl⟩ := List.mem_map.1 mem
  simpa using Utf8.encode_ne_nil (solid text inside)

section Sent

variable {lines : List (List Char)}
  (each : ∀ line ∈ lines, trim line = line ∧ line ≠ [] ∧ '\n' ∉ line)
include each

theorem newline_not_mem_sent : ∀ line ∈ lines.map (· ++ ['\r']), '\n' ∉ line := by
  intro line mem
  obtain ⟨text, inside, rfl⟩ := List.mem_map.1 mem
  obtain ⟨-, -, absent⟩ := each text inside
  simpa using absent

/-- The lines of a text that was sent are those that were sent. -/
theorem linesOf_sentText : linesOf (sentText lines) = lines := by
  have parts : partsBetween '\n' (sentText lines ++ []) = lines.map (· ++ ['\r']) ++ [[]] :=
    partsBetween_lines (newline_not_mem_sent each) List.not_mem_nil
  rw [List.append_nil] at parts
  have trimmed : (lines.map (· ++ ['\r'])).map trim = lines := by
    rw [List.map_map]
    refine (List.map_congr_left fun line mem => ?_).trans (List.map_id lines)
    exact (trim_append_blank line (by decide)).trans (each line mem).1
  rw [linesOf, parts, List.map_append, trimmed, List.filter_append,
    List.filter_eq_self.2]
  · exact List.append_nil lines
  · intro line mem
    simpa using (each line mem).2.1

/-- A buffer yields the lines that were sent, however they are cut, and nothing waits in it. -/
theorem extendAll_sent {limit : Option Nat} {chunks : List (List UInt8)}
    (short : ∀ n ∈ limit, ∀ line ∈ lines, (Utf8.encode line).length < n)
    (sent : chunks.flatten = lines.flatMap fun line => Utf8.encode line ++ [0x0D, 0x0A]) :
    (LineBuffer.new limit).extendAll chunks =
      (LineBuffer.new limit, lines.map Utf8.encode, []) := by
  have cut : IsLines chunks.flatten ((lines.map (· ++ ['\r'])).map Utf8.encode) [] := by
    have whole : IsLines (Utf8.encode (sentText lines ++ []))
        ((lines.map (· ++ ['\r'])).map Utf8.encode) (Utf8.encode []) :=
      isLines_encode (newline_not_mem_sent each) List.not_mem_nil
    rw [List.append_nil, encode_sentText, ← sent] at whole
    exact whole
  rw [cut.extendAll_of_ended, keptLines_sent fun line mem => (each line mem).2.1]
  intro n hn line mem
  rw [List.map_map] at mem
  obtain ⟨text, inside, rfl⟩ := List.mem_map.1 mem
  show (Utf8.encode (text ++ ['\r'])).length ≤ n
  rw [Utf8.encode_append, List.length_append]
  exact short n hn text inside

end Sent

/-- What comes of a replay of a file, by the lines that it sends. -/
structure Reproduces (bytes : List UInt8) (lines : List (List Char)) : Prop where
  writes : Writes bytes lines
  /-- A buffer for which no line is too long yields the lines again, and nothing waits in it. -/
  delivered : ∀ (limit : Option Nat) (chunks : List (List UInt8)),
    (∀ n ∈ limit, ∀ line ∈ lines, (Utf8.encode line).length < n) →
      chunks.flatten = lines.flatMap (fun line => Utf8.encode line ++ [0x0D, 0x0A]) →
        (LineBuffer.new limit).extendAll chunks =
          (LineBuffer.new limit, lines.map Utf8.encode, [])
  /-- A file that holds what was written is written again. -/
  again : Writes (lines.flatMap fun line => Utf8.encode line ++ [0x0D, 0x0A]) lines
  /-- The lines are those that a survey finds in the file, each in its form. -/
  forms : lines.map Utf8.encode = (fileLines bytes).filterMap form?
  /-- A line with a sentence has a form, from which the sentence is read, with its end or without. -/
  sentences : ∀ line ∈ fileLines bytes, ∀ t s, Sentence.read line t = .ok (some s) →
    ∃ sent, form? line = some sent ∧ Sentence.read sent t = .ok (some s) ∧
      Sentence.read (sent ++ [0x0D, 0x0A]) t = .ok (some s)

theorem read_form {line : List UInt8} {text : List Char} (mem : line ∈ fileLines (Utf8.encode text))
    {t : Time} {s : Sentence} (accepted : Sentence.read line t = .ok (some s)) :
    ∃ sent, form? line = some sent ∧ Sentence.read sent t = .ok (some s) ∧
      Sentence.read (sent ++ [0x0D, 0x0A]) t = .ok (some s) := by
  rw [fileLines_encode] at mem
  obtain ⟨mem, -⟩ := List.mem_filter.1 mem
  obtain ⟨whole, inside, rfl⟩ := List.mem_map.1 mem
  obtain ⟨part, -, rfl⟩ := List.mem_map.1 inside
  obtain ⟨chomped, bytes, -⟩ := exists_chomp_encode part
  rw [bytes] at accepted ⊢
  obtain ⟨nonempty, read⟩ := Sentence.read_trim accepted
  refine ⟨_, ?_, read, ?_⟩
  · rw [form?_encode, if_neg nonempty]
  · have isBefore : IsBlankRun [] := fun b mem => absurd mem List.not_mem_nil
    have isAfter : IsBlankRun [0x0D, 0x0A] := by
      intro b mem
      obtain rfl | rfl := List.mem_pair.1 mem
      · rfl
      · rfl
    exact (Sentence.read_around _ isBefore isAfter t).trans read

/-- **A replay reproduces a capture.** A file that is text and has a line that is not blank is
replayed by these lines, trimmed and in their order, and tells how many there were. What is written
yields the same lines from a buffer that is not too small, however it is cut, and is written again
if it is replayed itself. The lines are those of a survey, of which none loses its sentence. A file
that is no text or is blank is not replayed at all. -/
theorem toWriter_reproduces (bytes : List UInt8) :
    (∀ text, Utf8.decode? bytes = some text →
      (∃ line ∈ partsBetween '\n' text, trim line ≠ []) → Reproduces bytes (linesOf text)) ∧
    ((∀ text, Utf8.decode? bytes = some text → ∀ line ∈ partsBetween '\n' text, trim line = []) →
      ∀ s path forever w, Storage.openToRead s path = .ok (some bytes) →
        ∃ failure, toWriter s path forever w = (w, .error failure)) := by
  constructor
  · rintro text decoded ⟨line, inside, solid⟩
    have bytes_eq := Utf8.decode?_eq_some_iff.1 decoded
    subst bytes_eq
    have nonempty : linesOf text ≠ [] := fun none => solid (linesOf_eq_nil_iff.1 none line inside)
    have each : ∀ line ∈ linesOf text, trim line = line ∧ line ≠ [] ∧ '\n' ∉ line :=
      fun line mem => of_mem_linesOf mem
    refine ⟨writes_linesOf nonempty, fun limit chunks short sent => extendAll_sent each short sent,
      ?_, linesOf_eq_forms text, fun line mem t s accepted => read_form mem accepted⟩
    have same := linesOf_sentText each
    have nonempty' : linesOf (sentText (linesOf text)) ≠ [] := by
      rw [same]
      exact nonempty
    have again := writes_linesOf nonempty'
    rwa [same, encode_sentText] at again
  · intro blank s path forever w opened
    have fails : ∃ failure, readLines s path = .error failure := by
      rw [readLines, opened]
      dsimp only
      cases decoded : Utf8.decode? bytes with
      | none => exact ⟨_, rfl⟩
      | some text =>
        dsimp only
        rw [linesOf_eq_nil_iff.2 (blank text decoded)]
        exact ⟨_, rfl⟩
    obtain ⟨failure, read⟩ := fails
    refine ⟨failure, ?_⟩
    rw [toWriter, read]

/-- Blanks that are no byte of their own are trimmed as well, and a sentence stands between some
that are. The same blanks alone are no capture. -/
theorem toWriter_reproduces_sentence :
    let text := "\u00A0one\u2003\r\n \r\n  !AIVDM,1,1,,A,15MwkRPP,2*23\t\r\r\nthree"
    let blank := "\u00A0\r\n \r\n\t\r"
    let lines := ["one", "!AIVDM,1,1,,A,15MwkRPP,2*23", "three"].map String.toList
    let storage : String → Storage := fun text => .ofFile "capture" (Utf8.bytesOf text)
    let w := Writer.new none none
    Reproduces (Utf8.bytesOf text) lines ∧
      (toWriter (storage text) "capture" false w).1.pieces.reverse =
        [Utf8.bytesOf "one\r\n", Utf8.bytesOf "!AIVDM,1,1,,A,15MwkRPP,2*23\r\n",
          Utf8.bytesOf "three\r\n"] ∧
      (toWriter (storage text) "capture" false w).2 = .ok 3 ∧
      ∃ failure, toWriter (storage blank) "capture" true w = (w, .error failure) := by
  intro text blank lines storage w
  have decoded (s : String) : Utf8.decode? (Utf8.bytesOf s) = some s.toList :=
    Utf8.decode?_eq_some_iff.2 rfl
  have opened (s : String) : (storage s).openToRead "capture" = .ok (some (Utf8.bytesOf s)) := by
    rfl
  have reproduces : Reproduces (Utf8.bytesOf text) lines := by
    have here := (toWriter_reproduces (Utf8.bytesOf text)).1 text.toList (decoded text)
      (by decide +kernel)
    have same : linesOf text.toList = lines := by decide +kernel
    rwa [same] at here
  obtain ⟨pieces, count⟩ := reproduces.writes (storage text) "capture" w (opened text) ⟨rfl, rfl⟩
  refine ⟨reproduces, pieces, count, ?_⟩
  apply (toWriter_reproduces (Utf8.bytesOf blank)).2 _ _ _ _ _ (opened blank)
  intro chars same
  rw [decoded] at same
  cases same
  decide +kernel

end Replay

end AisFeed
