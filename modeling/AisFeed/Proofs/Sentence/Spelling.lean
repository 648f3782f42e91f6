import AisFeed.Sentence.Reader
import Mathlib.Data.List.TakeWhile

/-!
# The spelling of a sentence

A `Body` is spelled by its fields with commas between them (`Body.bytes`), and a line by the body
between `!` and `*`, two letters or digits, and blank bytes around (`Spelling.line`). What reads
the parts of a line inverts this: a reader accepts exactly what is spelled by parts of the right
kinds, so a line has at most one spelling (`Spelling.line_inj`). The payload is the only part
that may hold commas and asterisks; it is found from the end of the body.
-/

set_option autoImplicit false

namespace AisFeed

open Text

/-! ## Runs of bytes -/

section Runs

variable {α : Type} {p : α → Bool}

theorem takeWhile_append_cons {run rest : List α} {a : α} (all : ∀ x ∈ run, p x = true)
    (stop : p a = false) : (run ++ a :: rest).takeWhile p = run := by
  rw [List.takeWhile_append_of_pos all, List.takeWhile_cons_of_neg (by simp [stop]),
    List.append_nil]

theorem dropWhile_append_cons {run rest : List α} {a : α} (all : ∀ x ∈ run, p x = true)
    (stop : p a = false) : (run ++ a :: rest).dropWhile p = a :: rest := by
  rw [List.dropWhile_append_of_pos all, List.dropWhile_cons_of_neg (by simp [stop])]

end Runs

/-- At least one digit, and digits only. -/
def IsNumeral (digits : List UInt8) : Prop :=
  digits ≠ [] ∧ ∀ d ∈ digits, isDigitByte d = true

theorem IsNumeral.reverse {digits : List UInt8} (h : IsNumeral digits) :
    IsNumeral digits.reverse :=
  ⟨by simpa using h.1, fun d mem => h.2 d (List.mem_reverse.1 mem)⟩

/-! ## Fields -/

namespace Body

theorem dropStart?_eq_some_iff {start bytes rest : List UInt8} :
    dropStart? start bytes = some rest ↔ bytes = start ++ rest := by
  unfold dropStart?
  constructor
  · intro h
    split at h
    · rename_i isStart
      obtain ⟨tail, rfl⟩ := List.isPrefixOf_iff_prefix.1 isStart
      rw [List.drop_left] at h
      rw [Option.some.inj h]
    · cases h
  · rintro rfl
    rw [if_pos (List.isPrefixOf_iff_prefix.2 ⟨rest, rfl⟩), List.drop_left]

theorem talker?_eq_some_iff {bytes rest : List UInt8} {talker : Talker} :
    talker? bytes = some (talker, rest) ↔
      bytes = Utf8.bytesOf talker.text ++ comma :: rest := by
  have other : ∀ tail, Utf8.bytesOf "AIVDM," ++ tail =
      Utf8.bytesOf Talker.otherVessel.text ++ comma :: tail := fun _ => rfl
  have own : ∀ tail, Utf8.bytesOf "AIVDO," ++ tail =
      Utf8.bytesOf Talker.ownVessel.text ++ comma :: tail := fun _ => rfl
  unfold talker?
  constructor
  · intro h
    split at h
    · rename_i tail start
      cases h
      rw [← other]
      exact dropStart?_eq_some_iff.1 start
    · obtain ⟨tail, start, same⟩ := Option.map_eq_some_iff.1 h
      cases same
      rw [← own]
      exact dropStart?_eq_some_iff.1 start
  · rintro rfl
    cases talker with
    | otherVessel => rw [← other, dropStart?_eq_some_iff.2 rfl]
    | ownVessel =>
      have notOther : dropStart? (Utf8.bytesOf "AIVDM,") (Utf8.bytesOf "AIVDO," ++ rest) = none :=
        rfl
      rw [← own, notOther, dropStart?_eq_some_iff.2 rfl]
      rfl

theorem digits?_eq_some_iff {bytes digits rest : List UInt8} :
    digits? bytes = some (digits, rest) ↔ IsNumeral digits ∧ bytes = digits ++ comma :: rest := by
  unfold digits?
  constructor
  · intro h
    split at h
    · rename_i d ds c tail taken dropped
      split at h
      · rename_i isComma
        cases h
        subst isComma
        refine ⟨⟨List.cons_ne_nil _ _, ?_⟩, ?_⟩
        · rw [← taken]
          exact fun _ => List.mem_takeWhile_imp
        · rw [← taken, ← dropped, List.takeWhile_append_dropWhile]
      · cases h
    · cases h
  · rintro ⟨⟨nonempty, all⟩, rfl⟩
    rw [takeWhile_append_cons all (by decide), dropWhile_append_cons all (by decide)]
    cases digits with
    | nil => exact absurd rfl nonempty
    | cons d ds => exact if_pos rfl

theorem optional?_eq_some_iff {isMember : UInt8 → Bool} (notComma : isMember comma = false)
    {bytes rest : List UInt8} {o : Option UInt8} :
    optional? isMember bytes = some (o, rest) ↔
      (∀ b ∈ o, isMember b = true) ∧ bytes = o.toList ++ comma :: rest := by
  constructor
  · intro h
    rw [optional?.eq_def] at h
    split at h
    · cases h
    · rename_i b tail
      split at h
      · rename_i isComma
        cases h
        subst isComma
        exact ⟨by simp, rfl⟩
      · split at h
        · rename_i c tail
          split at h
          · rename_i member
            simp only [Bool.and_eq_true, decide_eq_true_eq] at member
            cases h
            rw [member.2]
            exact ⟨by simpa using member.1, rfl⟩
          · cases h
        · cases h
  · rintro ⟨member, rfl⟩
    cases o with
    | none => simp [optional?]
    | some b =>
      have isMember_b : isMember b = true := member b rfl
      have ne : b ≠ comma := fun same => by rw [same, notComma] at isMember_b; cases isMember_b
      simp [optional?, ne, isMember_b]

/-- A payload ends at the last comma. -/
theorem payload?_eq_some_iff {bytes payload digits : List UInt8} :
    payload? bytes = some (payload, digits) ↔
      lineFeed ∉ payload ∧ IsNumeral digits ∧ bytes = payload ++ comma :: digits := by
  rw [payload?]
  constructor
  · intro h
    split at h
    · rename_i d ds c tail taken dropped
      split at h
      · rename_i fits
        simp only [Bool.and_eq_true, decide_eq_true_eq, Bool.not_eq_true', List.contains_eq_mem,
          decide_eq_false_iff_not] at fits
        cases h
        have whole : bytes.reverse = (d :: ds) ++ comma :: tail := by
          rw [← taken, ← fits.1, ← dropped, List.takeWhile_append_dropWhile]
        refine ⟨by simpa using fits.2, ?_, ?_⟩
        · exact IsNumeral.reverse ⟨List.cons_ne_nil _ _, taken ▸ fun _ => List.mem_takeWhile_imp⟩
        · rw [← List.reverse_reverse bytes, whole]
          simp
      · cases h
    · cases h
  · rintro ⟨oneLine, numeral, rfl⟩
    have reversed : (payload ++ comma :: digits).reverse =
        digits.reverse ++ comma :: payload.reverse := by simp
    obtain ⟨nonempty, all⟩ := numeral.reverse
    simp only [reversed]
    rw [takeWhile_append_cons all (by decide), dropWhile_append_cons all (by decide)]
    cases backwards : digits.reverse with
    | nil => exact absurd backwards nonempty
    | cons d ds =>
      have forwards : (d :: ds).reverse = digits := by rw [← backwards, List.reverse_reverse]
      simp [oneLine, forwards]

/-! ## Bodies -/

/-- A body as it is spelled: its fields with commas between them. -/
def bytes (b : Body) : List UInt8 :=
  Utf8.bytesOf b.talker.text ++ comma :: (b.total ++ comma :: (b.number ++ comma ::
    (b.sequenceId.toList ++ comma :: (b.channel.toList ++ comma ::
      (b.payload ++ comma :: b.fillBits)))))

/-- The fields are of the kinds that the grammar gives them. -/
structure Grammatical (b : Body) : Prop where
  total : IsNumeral b.total
  number : IsNumeral b.number
  sequenceId : ∀ c ∈ b.sequenceId, isDigitByte c = true
  channel : ∀ c ∈ b.channel, isWordByte c = true
  payload : lineFeed ∉ b.payload
  fillBits : IsNumeral b.fillBits

/-- The fields of a body are found exactly if it is spelled by them. -/
theorem ofBytes?_eq_some_iff {bytes : List UInt8} {b : Body} :
    ofBytes? bytes = some b ↔ b.Grammatical ∧ bytes = b.bytes := by
  simp only [ofBytes?, Option.bind_eq_bind, Option.bind_eq_some_iff, Prod.exists,
    talker?_eq_some_iff, digits?_eq_some_iff, payload?_eq_some_iff,
    optional?_eq_some_iff (show isDigitByte comma = false by decide),
    optional?_eq_some_iff (show isWordByte comma = false by decide)]
  constructor
  · rintro ⟨talker, _, rfl, total, _, ⟨total_ok, rfl⟩, number, _, ⟨number_ok, rfl⟩, sequenceId, _,
      ⟨sequenceId_ok, rfl⟩, channel, _, ⟨channel_ok, rfl⟩, payload, fillBits,
      ⟨payload_ok, fillBits_ok, rfl⟩, same⟩
    cases same
    exact ⟨⟨total_ok, number_ok, sequenceId_ok, channel_ok, payload_ok, fillBits_ok⟩, rfl⟩
  · rintro ⟨ok, rfl⟩
    exact ⟨b.talker, _, rfl, b.total, _, ⟨ok.total, rfl⟩, b.number, _, ⟨ok.number, rfl⟩,
      b.sequenceId, _, ⟨ok.sequenceId, rfl⟩, b.channel, _, ⟨ok.channel, rfl⟩, b.payload, b.fillBits,
      ⟨ok.payload, ok.fillBits, rfl⟩, rfl⟩

end Body

/-! ## Lines -/

/-- Blank bytes only. -/
def IsBlankRun (bytes : List UInt8) : Prop :=
  ∀ b ∈ bytes, isBlankByte b = true

theorem not_isBlankByte_of_isAlnumByte {b : UInt8} (h : isAlnumByte b = true) :
    isBlankByte b = false := by
  simp only [isAlnumByte, isDigitByte, isBlankByte, Bool.or_eq_true, Bool.and_eq_true,
    decide_eq_true_eq, UInt8.le_iff_toNat_le, Bool.or_eq_false_iff, beq_eq_false_iff_ne, ne_eq,
    Bool.and_eq_false_iff, decide_eq_false_iff_not, ← UInt8.toNat_inj] at h ⊢
  simp only [UInt8.reduceToNat] at h ⊢
  omega

/-- The parts of a line. -/
structure Spelling where
  before : List UInt8
  body : Body
  high : UInt8
  low : UInt8
  after : List UInt8
  deriving DecidableEq, Repr

namespace Spelling

/-- A line as it is spelled by its parts. -/
def line (p : Spelling) : List UInt8 :=
  p.before ++ 0x21 :: (p.body.bytes ++ 0x2A :: p.high :: p.low :: p.after)

/-- The parts are of the kinds that the grammar gives them. -/
structure Grammatical (p : Spelling) : Prop where
  before : IsBlankRun p.before
  body : p.body.Grammatical
  high : isAlnumByte p.high = true
  low : isAlnumByte p.low = true
  after : IsBlankRun p.after

/-- The frame of a line with these parts. -/
def frame (p : Spelling) : Frame :=
  ⟨p.body.bytes, p.high, p.low⟩

end Spelling

/-- What surrounds a body is found from both ends of the line. -/
theorem Frame.ofLine?_eq_some_iff {line : List UInt8} {f : Frame} :
    Frame.ofLine? line = some f ↔ ∃ before after, IsBlankRun before ∧ IsBlankRun after ∧
      isAlnumByte f.high = true ∧ isAlnumByte f.low = true ∧
      line = before ++ 0x21 :: (f.body ++ 0x2A :: f.high :: f.low :: after) := by
  unfold ofLine?
  constructor
  · intro h
    split at h
    · rename_i mark inner dropped
      split at h
      · rename_i isMark
        subst isMark
        split at h
        · rename_i low high star body trimmed
          split at h
          · rename_i fits
            simp only [Bool.and_eq_true, decide_eq_true_eq] at fits
            obtain ⟨⟨rfl, isHigh⟩, isLow⟩ := fits
            cases h
            refine ⟨line.takeWhile isBlankByte, (inner.reverse.takeWhile isBlankByte).reverse,
              fun _ => List.mem_takeWhile_imp,
              fun _ mem => List.mem_takeWhile_imp (List.mem_reverse.1 mem), isHigh, isLow, ?_⟩
            have whole : inner.reverse =
                inner.reverse.takeWhile isBlankByte ++ low :: high :: 0x2A :: body := by
              rw [← trimmed, List.takeWhile_append_dropWhile]
            have ends : inner = body.reverse ++ 0x2A :: high :: low ::
                (inner.reverse.takeWhile isBlankByte).reverse := by
              simpa using congrArg List.reverse whole
            rw [← ends, ← dropped, List.takeWhile_append_dropWhile]
          · cases h
        · cases h
      · cases h
    · cases h
  · rintro ⟨before, after, isBefore, isAfter, isHigh, isLow, rfl⟩
    have backwards : (f.body ++ 0x2A :: f.high :: f.low :: after).reverse =
        after.reverse ++ f.low :: f.high :: 0x2A :: f.body.reverse := by simp
    have trimmed : (after.reverse ++ f.low :: f.high :: 0x2A :: f.body.reverse).dropWhile
        isBlankByte = f.low :: f.high :: 0x2A :: f.body.reverse :=
      dropWhile_append_cons (fun b mem => isAfter b (List.mem_reverse.1 mem))
        (not_isBlankByte_of_isAlnumByte isLow)
    rw [dropWhile_append_cons isBefore (by decide)]
    simp only [if_true, backwards, trimmed]
    simp [isHigh, isLow]

namespace Spelling

/-- A line has the parts of a sentence exactly if it is spelled by them. -/
theorem parts?_eq_some_iff {line : List UInt8} {f : Frame} {b : Body} :
    Frame.parts? line = some (f, b) ↔
      ∃ p : Spelling, p.Grammatical ∧ p.line = line ∧ p.frame = f ∧ p.body = b := by
  simp only [Frame.parts?, Option.bind_eq_bind, Option.bind_eq_some_iff,
    Frame.ofLine?_eq_some_iff, Body.ofBytes?_eq_some_iff]
  constructor
  · rintro ⟨frame, ⟨before, after, isBefore, isAfter, isHigh, isLow, rfl⟩, body, ⟨ok, spelled⟩,
      same⟩
    cases same
    refine ⟨⟨before, b, f.high, f.low, after⟩, ⟨isBefore, ok, isHigh, isLow, isAfter⟩, ?_, ?_, rfl⟩
    · rw [line, ← spelled]
    · rw [frame, ← spelled]
  · rintro ⟨p, ok, rfl, rfl, rfl⟩
    exact ⟨p.frame, ⟨p.before, p.after, ok.before, ok.after, ok.high, ok.low, rfl⟩, p.body,
      ⟨ok.body, rfl⟩, rfl⟩

theorem Grammatical.parts? {p : Spelling} (ok : p.Grammatical) :
    Frame.parts? p.line = some (p.frame, p.body) :=
  parts?_eq_some_iff.2 ⟨p, ok, rfl, rfl, rfl⟩

/-- The blank bytes before a sentence end at its mark. -/
theorem Grammatical.takeWhile_line {p : Spelling} (ok : p.Grammatical) :
    p.line.takeWhile isBlankByte = p.before :=
  takeWhile_append_cons ok.before (by decide)

/-- A line has at most one spelling. -/
theorem line_inj {p q : Spelling} (hp : p.Grammatical) (hq : q.Grammatical)
    (same : p.line = q.line) : p = q := by
  have parts : some (p.frame, p.body) = some (q.frame, q.body) := by
    rw [← hp.parts?, same, hq.parts?]
  have before : p.before = q.before := by
    rw [← hp.takeWhile_line, same, hq.takeWhile_line]
  obtain ⟨_, _, high, low, after⟩ := p
  obtain ⟨_, _, high', low', after'⟩ := q
  simp only [frame, Option.some.injEq, Prod.mk.injEq, Frame.mk.injEq] at parts before
  obtain ⟨⟨-, rfl, rfl⟩, rfl⟩ := parts
  subst before
  simpa [line] using same

end Spelling

end AisFeed
