import AisFeed.Proofs.Sentence.Spelling
import AisFeed.Proofs.Text.Utf8
import AisFeed.Text.Numeral

/-!
# Which lines are accepted, and as what

A spelling denotes a sentence if its numbers are decimal numerals of the sentence's, its payload
is the encoding of the sentence's, and its last two letters are the checksum of the body in
hexadecimal, in either case. `read_accepts_iff` says that a line is accepted exactly as the
sentence that its spelling denotes.
-/

set_option autoImplicit false

namespace AisFeed

open Text

/-! ## Numbers -/

theorem numberOf_eq_ofDecimal (digits : List UInt8) :
    numberOf digits = ofDecimal (digits.map charOfByte) := by
  rw [numberOf, ofDecimal, Nat.ofDigitChars, List.foldl_map]
  congr 1
  funext n d
  have byte : (charOfByte d).toNat = d.toNat :=
    Utf8.val_ofNat (Or.inl (Nat.lt_trans d.toNat_lt (by decide)))
  rw [byte, Nat.mul_comm n 10]
  rfl

/-- The upper case character of a byte. -/
def upperOfByte (b : UInt8) : Char :=
  (charOfByte b).toUpper

theorem hexByte?_ofNat : ∀ b < 256, ∀ d < 16,
    hexByte? (UInt8.ofNat b) = some (UInt8.ofNat d) ↔
      upperOfByte (UInt8.ofNat b) = (Nat.digitChar d).toUpper := by
  decide +kernel

theorem hexByte?_ofNat_lt : ∀ b < 256, ∀ d ∈ hexByte? (UInt8.ofNat b), d.toNat < 16 := by
  decide +kernel

theorem hexByte_ofNat : ∀ v < 256, hexByte (UInt8.ofNat v) =
    [(Nat.digitChar (v / 16)).toUpper, (Nat.digitChar (v % 16)).toUpper] := by
  decide +kernel

theorem hexByte?_eq_some_iff {b d : UInt8} :
    hexByte? b = some d ↔ d.toNat < 16 ∧ upperOfByte b = (Nat.digitChar d.toNat).toUpper := by
  have hb := b.toNat_lt
  constructor
  · intro h
    have less : d.toNat < 16 := hexByte?_ofNat_lt b.toNat hb d (by rwa [UInt8.ofNat_toNat])
    refine ⟨less, ?_⟩
    have same := hexByte?_ofNat b.toNat hb d.toNat less
    rw [UInt8.ofNat_toNat, UInt8.ofNat_toNat] at same
    exact same.1 h
  · rintro ⟨less, same⟩
    have := (hexByte?_ofNat b.toNat hb d.toNat less).2 (by rwa [UInt8.ofNat_toNat])
    rwa [UInt8.ofNat_toNat, UInt8.ofNat_toNat] at this

theorem hexByte_eq (v : UInt8) : hexByte v =
    [(Nat.digitChar (v.toNat / 16)).toUpper, (Nat.digitChar (v.toNat % 16)).toUpper] := by
  rw [← hexByte_ofNat v.toNat v.toNat_lt, UInt8.ofNat_toNat]

/-- The checksum that is read is the one that is written. -/
theorem Frame.transmitted?_eq_some_iff {f : Frame} {v : UInt8} :
    f.transmitted? = some v ↔ [upperOfByte f.high, upperOfByte f.low] = hexByte v := by
  simp only [transmitted?, Option.bind_eq_bind, Option.bind_eq_some_iff, hexByte?_eq_some_iff,
    Option.some.injEq, hexByte_eq, List.cons.injEq, and_true]
  have hv := v.toNat_lt
  constructor
  · rintro ⟨h, ⟨hh, high⟩, l, ⟨hl, low⟩, rfl⟩
    have value : (h * 16 + l).toNat = h.toNat * 16 + l.toNat := by
      rw [UInt8.toNat_add, UInt8.toNat_mul]
      simp only [UInt8.reduceToNat]
      omega
    rw [value, show (h.toNat * 16 + l.toNat) / 16 = h.toNat by omega,
      show (h.toNat * 16 + l.toNat) % 16 = l.toNat by omega]
    exact ⟨high, low⟩
  · rintro ⟨high, low⟩
    have hh : (UInt8.ofNat (v.toNat / 16)).toNat = v.toNat / 16 := by
      rw [UInt8.toNat_ofNat', Nat.mod_eq_of_lt (by omega)]
    have hl : (UInt8.ofNat (v.toNat % 16)).toNat = v.toNat % 16 := by
      rw [UInt8.toNat_ofNat', Nat.mod_eq_of_lt (by omega)]
    refine ⟨UInt8.ofNat (v.toNat / 16), ⟨by omega, by rw [hh, high]⟩,
      UInt8.ofNat (v.toNat % 16), ⟨by omega, by rw [hl, low]⟩, ?_⟩
    rw [← UInt8.toNat_inj, UInt8.toNat_add, UInt8.toNat_mul, hh, hl]
    simp only [UInt8.reduceToNat]
    omega

theorem exists_hexDigit : ∀ d < 16, ∃ b < 256, isAlnumByte (UInt8.ofNat b) = true ∧
    upperOfByte (UInt8.ofNat b) = (Nat.digitChar d).toUpper := by
  decide +kernel

/-- Every checksum can be written. -/
theorem exists_hexByte (v : UInt8) : ∃ high low, isAlnumByte high = true ∧
    isAlnumByte low = true ∧ [upperOfByte high, upperOfByte low] = hexByte v := by
  have hv := v.toNat_lt
  obtain ⟨high, -, isHigh, sameHigh⟩ := exists_hexDigit (v.toNat / 16) (by omega)
  obtain ⟨low, -, isLow, sameLow⟩ := exists_hexDigit (v.toNat % 16) (by omega)
  exact ⟨_, _, isHigh, isLow, by rw [hexByte_eq, sameHigh, sameLow]⟩

/-! ## Sentences -/

/-- The exclusive or of the bytes of the body. -/
def Spelling.parity (p : Spelling) : UInt8 :=
  p.body.bytes.foldl (· ^^^ ·) 0

/-- A spelling of a sentence. -/
structure Spelling.Denotes (p : Spelling) (s : Sentence) : Prop extends p.Grammatical where
  talker : p.body.talker = s.talker
  total_eq : ofDecimal (p.body.total.map charOfByte) = s.total
  number_eq : ofDecimal (p.body.number.map charOfByte) = s.number
  sequenceId : p.body.sequenceId.map charOfByte = s.sequenceId
  channel : p.body.channel.map charOfByte = s.channel
  payload : p.body.payload = Utf8.bytesOf s.payload
  fillBits_eq : ofDecimal (p.body.fillBits.map charOfByte) = s.fillBits
  number_pos : 1 ≤ s.number
  number_le : s.number ≤ s.total
  total_le : s.total ≤ 255
  fillBits_le : s.fillBits ≤ 5
  checksum : [upperOfByte p.high, upperOfByte p.low] = hexByte p.parity

/-- The fields of a body make a sentence exactly if they are in range and the payload is text. -/
theorem Body.sentence_eq_ok_iff {b : Body} {t : Time} {s : Sentence} :
    b.sentence t = .ok s ↔
      (b.talker = s.talker ∧ numberOf b.total = s.total ∧ numberOf b.number = s.number ∧
        b.sequenceId.map charOfByte = s.sequenceId ∧ b.channel.map charOfByte = s.channel ∧
        b.payload = Utf8.bytesOf s.payload ∧ numberOf b.fillBits = s.fillBits ∧
        s.receivedAt = t) ∧
      1 ≤ s.number ∧ s.number ≤ s.total ∧ s.total ≤ 255 ∧ s.fillBits ≤ 5 := by
  have bound : byteBound = 255 := rfl
  simp only [sentence]
  constructor
  · intro h
    split at h
    · cases h
    split at h
    · cases h
    split at h
    · cases h
    split at h
    · cases h
    split at h
    · cases h
    split at h
    · cases h
    split at h
    · cases h
    · rename_i payload text
      cases h
      refine ⟨⟨rfl, rfl, rfl, rfl, rfl, Utf8.string?_eq_some_iff.1 text, rfl, rfl⟩, ?_⟩
      dsimp only
      omega
  · rintro ⟨⟨talker, total, number, sequenceId, channel, payload, fillBits, received⟩, bounds⟩
    rw [total, number, fillBits, if_neg (by omega), if_neg (by omega), if_neg (by omega),
      if_neg (by omega), if_neg (by omega), if_neg (by omega), Utf8.string?_eq_some_iff.2 payload,
      talker, sequenceId, channel, ← received]

/-- A line is accepted if it has the parts of a sentence, the right checksum, and fields in
range. -/
theorem Sentence.read_eq_ok_some_iff {line : List UInt8} {t : Time} {s : Sentence} :
    read line t = .ok (some s) ↔ ∃ f b, Frame.parts? line = some (f, b) ∧
      f.transmitted? = some (AisFeed.checksum f.body) ∧ b.sentence t = .ok s := by
  unfold read
  constructor
  · intro h
    split at h
    · split at h <;> cases h
    · rename_i f b parts
      refine ⟨f, b, parts, ?_⟩
      split at h
      · cases h
      · rename_i transmitted sent
        split at h
        · cases h
        · rename_i same
          split at h
          · cases h
          · rename_i sentence made
            cases h
            rw [not_not] at same
            exact ⟨by rw [sent, same], made⟩
  · rintro ⟨f, b, parts, sent, made⟩
    simp [parts, sent, made]

/-- A line is read as the sentence that a spelling of it denotes. -/
theorem Spelling.Denotes.read {p : Spelling} {s : Sentence} (h : p.Denotes s) :
    Sentence.read p.line s.receivedAt = .ok (some s) := by
  refine Sentence.read_eq_ok_some_iff.2 ⟨p.frame, p.body, h.toGrammatical.parts?, ?_, ?_⟩
  · exact Frame.transmitted?_eq_some_iff.2 h.checksum
  · refine Body.sentence_eq_ok_iff.2
      ⟨⟨h.talker, ?_, ?_, h.sequenceId, h.channel, h.payload, ?_, rfl⟩,
        h.number_pos, h.number_le, h.total_le, h.fillBits_le⟩
    · rw [numberOf_eq_ofDecimal, h.total_eq]
    · rw [numberOf_eq_ofDecimal, h.number_eq]
    · rw [numberOf_eq_ofDecimal, h.fillBits_eq]

/-- An accepted line has a spelling that denotes what it is read as. -/
theorem Sentence.exists_denotes {line : List UInt8} {t : Time} {s : Sentence}
    (h : read line t = .ok (some s)) :
    s.receivedAt = t ∧ ∃ p : Spelling, p.Denotes s ∧ p.line = line := by
  obtain ⟨f, b, parts, sent, made⟩ := read_eq_ok_some_iff.1 h
  obtain ⟨p, grammatical, rfl, rfl, rfl⟩ := Spelling.parts?_eq_some_iff.1 parts
  obtain ⟨⟨talker, total, number, sequenceId, channel, payload, fillBits, received⟩, number_pos,
    number_le, total_le, fillBits_le⟩ := Body.sentence_eq_ok_iff.1 made
  rw [numberOf_eq_ofDecimal] at total number fillBits
  exact ⟨received, p, ⟨grammatical, talker, total, number, sequenceId, channel, payload, fillBits,
    number_pos, number_le, total_le, fillBits_le, Frame.transmitted?_eq_some_iff.1 sent⟩, rfl⟩

theorem digitByte_ofNat : ∀ n < 10, isDigitByte (UInt8.ofNat (0x30 + n)) = true ∧
    ofDecimal ([UInt8.ofNat (0x30 + n)].map charOfByte) = n := by
  decide +kernel

/-- Every text without a line feed can be sent in one sentence. -/
theorem Sentence.exists_alone {text : String} (oneLine : lineFeed ∉ Utf8.bytesOf text)
    {fillBits : Nat} (few : fillBits ≤ 5) (t : Time) :
    ∃ p : Spelling, p.Denotes ⟨.otherVessel, 1, 1, none, none, text, fillBits, t⟩ := by
  have numeral (n : Nat) (h : n < 10) : IsNumeral [UInt8.ofNat (0x30 + n)] := by
    refine ⟨List.cons_ne_nil _ _, fun d mem => ?_⟩
    rw [List.mem_singleton.1 mem]
    exact (digitByte_ofNat n h).1
  have value (n : Nat) (h : n < 10) := (digitByte_ofNat n h).2
  have blank : IsBlankRun [] := fun b mem => absurd mem List.not_mem_nil
  let body : Body := ⟨.otherVessel, [UInt8.ofNat (0x30 + 1)], [UInt8.ofNat (0x30 + 1)], none, none,
    Utf8.bytesOf text, [UInt8.ofNat (0x30 + fillBits)]⟩
  have grammatical : body.Grammatical :=
    { total := numeral 1 (by decide)
      number := numeral 1 (by decide)
      sequenceId := fun _ given => absurd given (Option.not_mem_none _)
      channel := fun _ given => absurd given (Option.not_mem_none _)
      payload := oneLine
      fillBits := numeral fillBits (by omega) }
  obtain ⟨high, low, isHigh, isLow, written⟩ := exists_hexByte (AisFeed.checksum body.bytes)
  exact ⟨⟨[], body, high, low, []⟩,
    { before := blank
      body := grammatical
      high := isHigh
      low := isLow
      after := blank
      talker := rfl
      total_eq := value 1 (by decide)
      number_eq := value 1 (by decide)
      sequenceId := rfl
      channel := rfl
      payload := rfl
      fillBits_eq := value fillBits (by omega)
      number_pos := Nat.le_refl 1
      number_le := Nat.le_refl 1
      total_le := show 1 ≤ 255 by decide
      fillBits_le := few
      checksum := written }⟩

/-- **Exactly the spellings of sentences are accepted.** A line has at most one spelling, and a
spelling denotes at most one sentence of a given time. -/
theorem Sentence.read_accepts_iff (line : List UInt8) (t : Time) (s : Sentence) :
    (read line t = .ok (some s) ↔
      s.receivedAt = t ∧ ∃ p : Spelling, p.Denotes s ∧ p.line = line) ∧
    (∀ p q : Spelling, p.Grammatical → q.Grammatical → p.line = line → q.line = line → p = q) ∧
    ∀ (p : Spelling) (s' : Sentence), p.Denotes s → p.Denotes s' →
      s.receivedAt = s'.receivedAt → s = s' := by
  refine ⟨⟨exists_denotes, ?_⟩, ?_, ?_⟩
  · rintro ⟨rfl, p, denotes, rfl⟩
    exact denotes.read
  · rintro p q hp hq rfl same
    exact Spelling.line_inj hp hq same.symm
  · intro p s' h h' same
    have read := h.read
    rw [same, h'.read] at read
    cases read
    rfl

/-- A number with leading zeros, a payload in which there are a comma and an asterisk, and a
checksum in lower case. Next to its own checksum a sentence is not accepted with another. -/
theorem Sentence.read_accepts_iff_lower_case :
    let s : Sentence := ⟨.otherVessel, 2, 1, some '3', some 'J', "a,b*c", 0, .epoch⟩
    let line := Utf8.bytesOf "\t!AIVDM,002,1,3,J,a,b*c,0*7b\r\n"
    let other := Utf8.bytesOf "\t!AIVDM,002,1,3,J,a,b*c,0*7c\r\n"
    read line .epoch = .ok (some s) ∧ (∃ p : Spelling, p.Denotes s ∧ p.line = line) ∧
      ¬∃ p : Spelling, p.Denotes s ∧ p.line = other := by
  intro s line other
  have accepted : read line .epoch = .ok (some s) := by decide +kernel
  have refused : read other .epoch = .error (.checksumMismatch 0x7C 0x7B) := by decide +kernel
  refine ⟨accepted, ((read_accepts_iff line .epoch s).1.1 accepted).2, fun spelled => ?_⟩
  have accepted' := (read_accepts_iff other .epoch s).1.2 ⟨rfl, spelled⟩
  rw [refused] at accepted'
  cases accepted'

end AisFeed
