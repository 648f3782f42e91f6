import AisFeed.Proofs.Decoder.Noise
import AisFeed.Proofs.Sentence.Verdict

/-!
# Corrupted bodies

The checksum covers the bytes between `!` and `*`, and these are found from both ends of the line,
so whatever the body is replaced by is what the checksum of the line is compared with. A body with
another checksum is never accepted (`rejects_corrupted`), and every body that differs in exactly one
byte has another checksum (`IsOneOff.checksum_ne`), also where that byte was or becomes a comma, an
asterisk or a line feed.
-/

set_option autoImplicit false

namespace AisFeed

open Text

/-! ## Checksums -/

theorem checksum_append (front back : List UInt8) :
    checksum (front ++ back) = checksum front ^^^ checksum back := by
  induction back using List.reverseRecOn with
  | nil => simp
  | append_singleton back b ih =>
    rw [← List.append_assoc, checksum_snoc, checksum_snoc, ih, UInt8.xor_assoc]

theorem checksum_cons (b : UInt8) (back : List UInt8) :
    checksum (b :: back) = b ^^^ checksum back := by
  have single : checksum [b] = b := by simp [checksum]
  rw [← List.singleton_append, checksum_append, single]

/-- The bytes differ in exactly one place. -/
def IsOneOff (bytes other : List UInt8) : Prop :=
  ∃ front a b back, a ≠ b ∧ bytes = front ++ a :: back ∧ other = front ++ b :: back

/-- One byte that is replaced changes the checksum. -/
theorem IsOneOff.checksum_ne {bytes other : List UInt8} (h : IsOneOff bytes other) :
    checksum other ≠ checksum bytes := by
  obtain ⟨front, a, b, back, ne, rfl, rfl⟩ := h
  intro same
  rw [checksum_append, checksum_append, checksum_cons, checksum_cons, UInt8.xor_right_inj,
    UInt8.xor_left_inj] at same
  exact ne same.symm

/-! ## Lines -/

namespace Spelling

/-- The line with other bytes in the place of the body. -/
def lineAround (p : Spelling) (bytes : List UInt8) : List UInt8 :=
  p.before ++ 0x21 :: (bytes ++ 0x2A :: p.high :: p.low :: p.after)

theorem lineAround_bytes (p : Spelling) : p.lineAround p.body.bytes = p.line := rfl

/-- The frame of a line holds whatever bytes are in the place of the body. -/
theorem Grammatical.ofLine?_lineAround {p : Spelling} (ok : p.Grammatical) (bytes : List UInt8) :
    Frame.ofLine? (p.lineAround bytes) = some ⟨bytes, p.high, p.low⟩ :=
  Frame.ofLine?_eq_some_iff.2 ⟨p.before, p.after, ok.before, ok.after, ok.high, ok.low, rfl⟩

/-- A spelling of a line with another body has this body, and the same letters after it. -/
theorem Grammatical.frame_eq {p q : Spelling} (ok : p.Grammatical) (ok' : q.Grammatical)
    {bytes : List UInt8} (same : q.line = p.lineAround bytes) :
    q.frame = ⟨bytes, p.high, p.low⟩ := by
  have frame := ok'.ofLine?_lineAround q.body.bytes
  rw [lineAround_bytes, same, ok.ofLine?_lineAround] at frame
  exact (Option.some.inj frame).symm

/-- The letters after an accepted body are its checksum. -/
theorem Grammatical.transmitted?_of_accepted {p : Spelling} (ok : p.Grammatical) {t : Time}
    {s : Sentence} (accepted : Sentence.read p.line t = .ok (some s)) :
    p.frame.transmitted? = some (checksum p.body.bytes) := by
  obtain ⟨f, b, parts, sent, -⟩ := Sentence.read_eq_ok_some_iff.1 accepted
  rw [ok.parts?, Option.some.injEq, Prod.mk.injEq] at parts
  obtain ⟨rfl, rfl⟩ := parts
  exact sent

section Corrupted

variable {p : Spelling} {t : Time} {s : Sentence} {bytes : List UInt8}

/-- A corrupted line that still has the parts of a sentence has a wrong checksum. -/
theorem read_of_corrupted_spelled (ok : p.Grammatical)
    (accepted : Sentence.read p.line t = .ok (some s))
    (corrupted : checksum bytes ≠ checksum p.body.bytes) {q : Spelling} (ok' : q.Grammatical)
    (same : q.line = p.lineAround bytes) (t' : Time) :
    Sentence.read (p.lineAround bytes) t' =
      .error (.checksumMismatch (checksum p.body.bytes) (checksum bytes)) := by
  have frame := ok.frame_eq ok' same
  have body : q.body.bytes = bytes := congrArg Frame.body frame
  have sent : q.frame.transmitted? = some (checksum p.body.bytes) := by
    rw [frame]
    exact ok.transmitted?_of_accepted accepted
  have parity : q.parity = checksum bytes := congrArg checksum body
  rw [← same, read_of_transmitted_some ok' sent, parity, if_pos corrupted.symm]

/-- A corrupted line without the parts of a sentence is not recognized. -/
theorem read_of_corrupted_unspelled (ok : p.Grammatical)
    (unspelled : ∀ q : Spelling, q.Grammatical → q.line ≠ p.lineAround bytes) (t' : Time) :
    Sentence.read (p.lineAround bytes) t' =
      .error (.unrecognized (lineText (p.lineAround bytes))) := by
  have notKnown : isIgnorable (p.lineAround bytes) = false := not_isIgnorable_of_mark ok.before _
  rw [Sentence.read_of_unspelled unspelled, notKnown]
  rfl

end Corrupted

end Spelling

/-! ## Records -/

/-- A line is not accepted, and why. Reading it gives the error at any time, and a decoder counts
its record as such noise, tells the error, and does nothing else. -/
structure IsRejected (line : List UInt8) (error : Error) : Prop where
  read : ∀ t, Sentence.read line t = .error error
  completed : ∀ (d : Decoder) (r : Record) (now : Time), r.bytes = line →
    d.complete r now = .ok ({ d with summary := d.summary.withNoise [error.noise] }, none,
      [.rejected error r.address (lineText line)])
  processed : ∀ (d : Decoder) (r : Record) (now : Time), r.bytes = line →
    d.process r now = ⟨[.rejected error r.address (lineText line)],
      .ok ({ d with summary := d.summary.withNoise [error.noise] }, none)⟩

theorem IsRejected.of_read {line : List UInt8} {error : Error}
    (read : ∀ t, Sentence.read line t = .error error) : IsRejected line error := by
  have completed (d : Decoder) (r : Record) (now : Time) (same : r.bytes = line) :
      d.complete r now = .ok ({ d with summary := d.summary.withNoise [error.noise] }, none,
        [.rejected error r.address (lineText line)]) := by
    subst same
    rw [Decoder.complete, read, ← Summary.reject_eq_withNoise]
  refine ⟨read, completed, fun d r now same => ?_⟩
  rw [Decoder.process, completed d r now same]

/-- **A corrupted body is caught.** Put other bytes in the place of the body of an accepted line. If
their checksum differs, as it does whenever exactly one byte was replaced, the line is not accepted
and not passed over: its checksum is told to be wrong if it still has the parts of a sentence, and
else it is not recognized. -/
theorem Spelling.rejects_corrupted {p : Spelling} {t : Time} {s : Sentence} (ok : p.Grammatical)
    (accepted : Sentence.read p.line t = .ok (some s)) :
    (∀ bytes, IsOneOff p.body.bytes bytes → checksum bytes ≠ checksum p.body.bytes) ∧
    ∀ bytes, checksum bytes ≠ checksum p.body.bytes →
      ((∃ q : Spelling, q.Grammatical ∧ q.line = p.lineAround bytes) →
        IsRejected (p.lineAround bytes)
          (.checksumMismatch (checksum p.body.bytes) (checksum bytes))) ∧
      ((¬∃ q : Spelling, q.Grammatical ∧ q.line = p.lineAround bytes) →
        IsRejected (p.lineAround bytes) (.unrecognized (lineText (p.lineAround bytes)))) := by
  refine ⟨fun bytes oneOff => oneOff.checksum_ne, fun bytes corrupted => ⟨?_, ?_⟩⟩
  · rintro ⟨q, ok', same⟩
    exact .of_read (read_of_corrupted_spelled ok accepted corrupted ok' same)
  · intro unspelled
    have unspelled : ∀ q : Spelling, q.Grammatical → q.line ≠ p.lineAround bytes := by
      simpa using unspelled
    exact .of_read (read_of_corrupted_unspelled ok unspelled)

/-- A byte of a payload becomes a comma, which leaves the parts of a sentence, and the comma after
it becomes a letter, which does not. -/
theorem Spelling.rejects_corrupted_comma :
    let p : Spelling := ⟨[], ⟨.otherVessel, Utf8.bytesOf "2", Utf8.bytesOf "1", some 0x31,
      some 0x41, Utf8.bytesOf "15Mw", Utf8.bytesOf "0"⟩, 0x32, 0x41, []⟩
    let s : Sentence := ⟨.otherVessel, 2, 1, some '1', some 'A', "15Mw", 0, .epoch⟩
    p.Grammatical ∧ p.line = Utf8.bytesOf "!AIVDM,2,1,1,A,15Mw,0*2A" ∧
      Sentence.read p.line .epoch = .ok (some s) ∧
      IsRejected (Utf8.bytesOf "!AIVDM,2,1,1,A,15,w,0*2A") (.checksumMismatch 0x2A 0x4B) ∧
      IsRejected (Utf8.bytesOf "!AIVDM,2,1,1,A,15Mwx0*2A")
        (.unrecognized "!AIVDM,2,1,1,A,15Mwx0*2A") := by
  intro p s
  have numeral (bytes : List UInt8) (nonempty : bytes ≠ []) (digits : bytes.all isDigitByte) :
      IsNumeral bytes := ⟨nonempty, List.all_eq_true.1 digits⟩
  have ok : p.Grammatical :=
    { before := by simp [IsBlankRun, p]
      body :=
        { total := numeral _ (by decide) (by decide)
          number := numeral _ (by decide) (by decide)
          sequenceId := by
            rintro b ⟨⟩
            decide
          channel := by
            rintro b ⟨⟩
            decide
          payload := by decide
          fillBits := numeral _ (by decide) (by decide) }
      high := by decide
      low := by decide
      after := by simp [IsBlankRun, p] }
  have whole : p.line = Utf8.bytesOf "!AIVDM,2,1,1,A,15Mw,0*2A" := by decide
  have accepted : Sentence.read p.line .epoch = .ok (some s) := by
    rw [whole]
    rfl
  obtain ⟨differs, rejects⟩ := rejects_corrupted ok accepted
  refine ⟨ok, whole, accepted, ?comma, ?letter⟩
  case comma =>
    have oneOff : IsOneOff p.body.bytes (Utf8.bytesOf "AIVDM,2,1,1,A,15,w,0") :=
      ⟨Utf8.bytesOf "AIVDM,2,1,1,A,15", 0x4D, 0x2C, Utf8.bytesOf "w,0", by decide, by decide,
        by decide⟩
    have line : p.lineAround (Utf8.bytesOf "AIVDM,2,1,1,A,15,w,0") =
      Utf8.bytesOf "!AIVDM,2,1,1,A,15,w,0*2A" := by decide
    have caught := (rejects _ (differs _ oneOff)).1
    rw [line, show checksum p.body.bytes = 0x2A by decide,
      show checksum (Utf8.bytesOf "AIVDM,2,1,1,A,15,w,0") = 0x4B by decide] at caught
    have parts : Frame.parts? (Utf8.bytesOf "!AIVDM,2,1,1,A,15,w,0*2A") =
        some (⟨Utf8.bytesOf "AIVDM,2,1,1,A,15,w,0", 0x32, 0x41⟩,
          { p.body with payload := Utf8.bytesOf "15,w" }) := by decide
    obtain ⟨q, ok', same, -⟩ := parts?_eq_some_iff.1 parts
    exact caught ⟨q, ok', same⟩
  case letter =>
    have oneOff : IsOneOff p.body.bytes (Utf8.bytesOf "AIVDM,2,1,1,A,15Mwx0") :=
      ⟨Utf8.bytesOf "AIVDM,2,1,1,A,15Mw", 0x2C, 0x78, Utf8.bytesOf "0", by decide, by decide,
        by decide⟩
    have line : p.lineAround (Utf8.bytesOf "AIVDM,2,1,1,A,15Mwx0") =
      Utf8.bytesOf "!AIVDM,2,1,1,A,15Mwx0*2A" := by decide
    have caught := (rejects _ (differs _ oneOff)).2
    rw [line, show lineText (Utf8.bytesOf "!AIVDM,2,1,1,A,15Mwx0*2A") =
      "!AIVDM,2,1,1,A,15Mwx0*2A" by decide] at caught
    apply caught
    rintro ⟨q, ok', same⟩
    have unspelled : Frame.parts? (Utf8.bytesOf "!AIVDM,2,1,1,A,15Mwx0*2A") = none := by decide
    exact Sentence.parts?_eq_none_iff.1 unspelled q ok' same

end AisFeed
