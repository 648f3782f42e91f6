import AisFeed.Decoder.InPlace
import AisFeed.Proofs.Sentence.Spelling
import AisFeed.Proofs.Text.Trimming

/-!
# Blank bytes around a line

A datagram keeps the end of its line, and a line of a stream comes without it. Neither of the two
grammars minds blank bytes at the ends of a line (`Frame.ofLine?_around`, `isIgnorable_around`), and
what is told of a line is its text without them (`lineText_around`). So a record is read, put to its
message and decoded in the same way however its line is framed: `Decoder.process_padded`.
-/

set_option autoImplicit false

namespace AisFeed

open Text

variable {before after : List UInt8}

/-! ## The text of a line -/

theorem isBlank_ofNat_of_isBlankByte : ∀ n < 256, isBlankByte (UInt8.ofNat n) = true →
    n < 0x80 ∧ isBlank (Char.ofNat n) = true := by
  decide +kernel

/-- A blank byte is a blank character of its own. -/
theorem isBlank_of_isBlankByte {b : UInt8} (blank : isBlankByte b = true) :
    b.toNat < 0x80 ∧ isBlank (Char.ofNat b.toNat) = true := by
  apply isBlank_ofNat_of_isBlankByte b.toNat b.toNat_lt
  rwa [UInt8.ofNat_toNat]

theorem IsBlankRun.ascii (run : IsBlankRun before) : ∀ b ∈ before, b.toNat < 0x80 :=
  fun b mem => (isBlank_of_isBlankByte (run b mem)).1

theorem IsBlankRun.isBlank_ofAscii (run : IsBlankRun before) :
    ∀ c ∈ Utf8.ofAscii before, isBlank c = true := by
  intro c mem
  obtain ⟨b, inside, rfl⟩ := List.mem_map.1 mem
  exact (isBlank_of_isBlankByte (run b inside)).2

/-- What is told of a line does not tell how it is framed, also if it is no text. -/
theorem lineText_around (line : List UInt8) (isBefore : IsBlankRun before)
    (isAfter : IsBlankRun after) : lineText (before ++ line ++ after) = lineText line := by
  unfold lineText
  rw [Utf8.lossy_around line isBefore.ascii isAfter.ascii,
    trim_around isBefore.isBlank_ofAscii isAfter.isBlank_ofAscii]

/-! ## The two grammars -/

/-- The frame of a line does not hold the blank bytes around it. -/
theorem Frame.ofLine?_around (line : List UInt8) (isBefore : IsBlankRun before)
    (isAfter : IsBlankRun after) :
    Frame.ofLine? (before ++ line ++ after) = Frame.ofLine? line := by
  have isAfter' : ∀ b ∈ after.reverse, isBlankByte b = true := by
    intro b mem
    exact isAfter b (List.mem_reverse.1 mem)
  unfold ofLine?
  rw [dropWhile_around isBefore isAfter]
  cases line.dropWhile isBlankByte with
  | nil => rfl
  | cons mark inner =>
    rw [if_neg (List.cons_ne_nil mark inner), List.cons_append]
    dsimp only
    rw [List.reverse_append, List.dropWhile_append_of_pos isAfter']

theorem Frame.parts?_around (line : List UInt8) (isBefore : IsBlankRun before)
    (isAfter : IsBlankRun after) :
    Frame.parts? (before ++ line ++ after) = Frame.parts? line := by
  rw [parts?, parts?, ofLine?_around line isBefore isAfter]

/-- A word without blank bytes does not end in the blank bytes after a text. -/
theorem isPrefixOf_append_blank {word text : List UInt8}
    (solid : ∀ b ∈ word, isBlankByte b = false) (isAfter : IsBlankRun after) :
    word.isPrefixOf (text ++ after) = word.isPrefixOf text := by
  induction word generalizing text with
  | nil => simp
  | cons b word ih =>
    have solid' : ∀ c ∈ word, isBlankByte c = false :=
      fun c mem => solid c (List.mem_cons_of_mem b mem)
    cases text with
    | nil =>
      cases after with
      | nil => rfl
      | cons c after =>
        have ne : b ≠ c := by
          intro same
          have blank := isAfter c List.mem_cons_self
          rw [← same, solid b List.mem_cons_self] at blank
          cases blank
        simp [List.isPrefixOf, ne]
    | cons c text =>
      rw [List.cons_append, List.isPrefixOf_cons_cons, List.isPrefixOf_cons_cons, ih solid']

theorem not_isBlankByte_of_mem_ignorableStarts :
    ∀ word ∈ ignorableStarts, ∀ b ∈ word, isBlankByte b = false := by
  decide +kernel

/-- Whether a line is passed over does not hang on the blank bytes around it. -/
theorem isIgnorable_around (line : List UInt8) (isBefore : IsBlankRun before)
    (isAfter : IsBlankRun after) :
    isIgnorable (before ++ line ++ after) = isIgnorable line := by
  unfold isIgnorable
  rw [dropWhile_around isBefore isAfter]
  cases line.dropWhile isBlankByte with
  | nil => rfl
  | cons b text =>
    rw [if_neg (List.cons_ne_nil b text), Bool.eq_iff_iff, List.any_eq_true, List.any_eq_true]
    constructor
    · rintro ⟨word, known, isStart⟩
      rw [isPrefixOf_append_blank (not_isBlankByte_of_mem_ignorableStarts word known) isAfter]
        at isStart
      exact ⟨word, known, isStart⟩
    · rintro ⟨word, known, isStart⟩
      refine ⟨word, known, ?_⟩
      rwa [isPrefixOf_append_blank (not_isBlankByte_of_mem_ignorableStarts word known) isAfter]

/-- A line is read in the same way however it is framed: as the same sentence, as one that is
passed over, or with the same error and its text. -/
theorem Sentence.read_around (line : List UInt8) (isBefore : IsBlankRun before)
    (isAfter : IsBlankRun after) (t : Time) :
    Sentence.read (before ++ line ++ after) t = Sentence.read line t := by
  have text (d : Defect) : d.error (before ++ line ++ after) = d.error line := by
    rw [Defect.error, Defect.error, lineText_around line isBefore isAfter]
  unfold Sentence.read
  simp only [Frame.parts?_around line isBefore isAfter, isIgnorable_around line isBefore isAfter,
    lineText_around line isBefore isAfter, text]

/-! ## Records -/

/-- The record with bytes before and after its own. -/
def Record.padded (before : List UInt8) (r : Record) (after : List UInt8) : Record :=
  { r with bytes := before ++ r.bytes ++ after }

namespace Decoder

/-- A record is put to its message in the same way however its line is framed. -/
theorem completeInPlace_padded (isBefore : IsBlankRun before) (isAfter : IsBlankRun after)
    (r : Record) (now : Time) :
    completeInPlace (r.padded before after) now = completeInPlace r now := by
  unfold completeInPlace Record.padded
  rw [Sentence.read_around r.bytes isBefore isAfter, lineText_around r.bytes isBefore isAfter]

theorem complete_padded (isBefore : IsBlankRun before) (isAfter : IsBlankRun after) (d : Decoder)
    (r : Record) (now : Time) :
    d.complete (r.padded before after) now = d.complete r now := by
  unfold complete Record.padded
  rw [Sentence.read_around r.bytes isBefore isAfter, lineText_around r.bytes isBefore isAfter]

theorem process_around (isBefore : IsBlankRun before) (isAfter : IsBlankRun after) (d : Decoder)
    (r : Record) (now : Time) :
    d.process (r.padded before after) now = d.process r now := by
  rw [process, process, complete_padded isBefore isAfter]

/-- **How a line is framed makes no difference.** Blank bytes before and after the bytes of a record
change nothing: from every decoder the record brings the same answer, the same decoder after it and
the same events, whose texts are those of the line without blanks at its ends; and if it crashes, it
crashes in the same way and leaves the same behind. -/
theorem process_padded (isBefore : IsBlankRun before) (isAfter : IsBlankRun after) (d : Decoder)
    (r : Record) (now : Time) :
    Sentence.read (r.padded before after).bytes r.receivedAt = Sentence.read r.bytes r.receivedAt ∧
    lineText (r.padded before after).bytes = lineText r.bytes ∧
    d.complete (r.padded before after) now = d.complete r now ∧
    d.process (r.padded before after) now = d.process r now ∧
    (completeInPlace (r.padded before after) now).run d = (completeInPlace r now).run d ∧
    (processInPlace (r.padded before after) now).run d = (processInPlace r now).run d := by
  have inPlace := completeInPlace_padded isBefore isAfter r now
  refine ⟨Sentence.read_around r.bytes isBefore isAfter r.receivedAt,
    lineText_around r.bytes isBefore isAfter, complete_padded isBefore isAfter d r now,
    process_around isBefore isAfter d r now, ?_, ?_⟩
  · rw [inPlace]
  · rw [processInPlace, processInPlace, inPlace]

/-- A line that starts with a blank of two bytes and ends in a broken character, as a datagram that
keeps its end and has a tab before it. -/
theorem process_padded_broken :
    let line : List UInt8 := [0xC2, 0xA0] ++ Utf8.bytesOf "noise" ++ [0xE2, 0x82]
    let r : Record := ⟨.epoch, some "10.0.0.1", some 2000, line⟩
    let d := new .minute .sequenceIdAndChannel Envelope.codec
    IsBlankRun [0x09] ∧ IsBlankRun [0x0D, 0x0A] ∧
      d.process (r.padded [0x09] [0x0D, 0x0A]) .epoch = d.process r .epoch ∧
      (d.process (r.padded [0x09] [0x0D, 0x0A]) .epoch).events =
        [.rejected (.unrecognized "noise\uFFFD") (some "10.0.0.1") "noise\uFFFD"] := by
  intro line r d
  have isBefore : IsBlankRun [0x09] := List.all_eq_true.1 rfl
  have isAfter : IsBlankRun [0x0D, 0x0A] := List.all_eq_true.1 rfl
  obtain ⟨-, -, -, same, -⟩ := process_padded isBefore isAfter d r .epoch
  refine ⟨isBefore, isAfter, same, ?_⟩
  rw [same]
  rfl

end Decoder

end AisFeed
