import AisFeed.Proofs.Armor.Armoring

/-!
# Headers

Every message starts with a header of 38 bits: type, repeat indicator and vessel. These are three
digits of one number, which the first seven characters of a payload hold. `Envelope.Verdict` says
what is to come of a payload by its characters and their values alone, without a look at single
bits. `Envelope.decode_eq_iff_verdict` says that decoding comes to that, that the header hangs on
the first seven characters only, and that a header which is armored in front of anything is read
back.
-/

set_option autoImplicit false

namespace AisFeed

namespace Armor

/-! ## Bits of a payload -/

variable {payload : String} {fillBits : Nat}

theorem dearmor_of_large (large : 5 < fillBits) :
    dearmor payload fillBits = .error (.fillBits fillBits) := by
  rw [dearmor, if_pos large]

theorem find?_eq_some_iff {cs : List Char} {c : Char} :
    (cs.find? fun c => (value? c).isNone) = some c ↔
      ∃ before after, cs = before ++ c :: after ∧ (∀ b ∈ before, IsArmored b) ∧ ¬IsArmored c := by
  rw [List.find?_eq_some_iff_append, isNone_value?_iff]
  constructor
  · rintro ⟨foreign, before, after, split, armored⟩
    refine ⟨before, after, split, ?_, foreign⟩
    intro b mem
    have known := armored b mem
    rw [Bool.not_eq_true', ← Bool.not_eq_true, isNone_value?_iff, not_not] at known
    exact known
  · rintro ⟨before, after, split, armored, foreign⟩
    refine ⟨foreign, before, after, split, ?_⟩
    intro b mem
    rw [Bool.not_eq_true', ← Bool.not_eq_true, isNone_value?_iff, not_not]
    exact armored b mem

theorem find?_eq_none_iff {cs : List Char} :
    (cs.find? fun c => (value? c).isNone) = none ↔ ∀ c ∈ cs, IsArmored c := by
  simp only [List.find?_eq_none, isNone_value?_iff, not_not]

theorem dearmor_of_foreign (few : fillBits ≤ 5) {before after : List Char} {c : Char}
    (split : payload.toList = before ++ c :: after) (armored : ∀ b ∈ before, IsArmored b)
    (foreign : ¬IsArmored c) : dearmor payload fillBits = .error (.invalidCharacter c) := by
  have found := find?_eq_some_iff.2 ⟨before, after, split, armored, foreign⟩
  rw [dearmor, if_neg (Nat.not_lt.2 few), found]

/-- The bits of a payload are those of its values, without the last. -/
theorem dearmor_of_values (few : fillBits ≤ 5) {values : List Nat} (small : ∀ v ∈ values, v < 64)
    (armored : payload.toList = values.map charOf) :
    dearmor payload fillBits =
      .ok ((values.flatMap bitsOf).take (6 * payload.length - fillBits)) := by
  have known : (payload.toList.find? fun c => (value? c).isNone) = none := by
    rw [armored]
    exact find?_eq_none_iff.2 (isArmored_of_mem_map small)
  have long : payload.length = values.length := by
    rw [← String.length_toList, armored, List.length_map]
  rw [dearmor, if_neg (Nat.not_lt.2 few), known]
  dsimp only
  rw [armored, flatMap_charBits_map small, length_flatMap_bitsOf, long]

end Armor

namespace Envelope

open Armor

/-! ## Headers as numbers -/

/-- What all messages start with. -/
structure Header where
  messageType : Nat
  repeatIndicator : Nat
  mmsi : Nat
  messageType_lt : messageType < 2 ^ 6
  repeatIndicator_lt : repeatIndicator < 2 ^ 2
  mmsi_lt : mmsi < 2 ^ 30

namespace Header

/-- The number of a header, of 38 bits. -/
def number (h : Header) : Nat :=
  h.messageType * 2 ^ 32 + h.repeatIndicator * 2 ^ 30 + h.mmsi

/-- The number tells the header. -/
theorem number_inj {h h' : Header} (same : h.number = h'.number) : h = h' := by
  obtain ⟨messageType, repeatIndicator, mmsi, type_lt, repeat_lt, mmsi_lt⟩ := h
  obtain ⟨messageType', repeatIndicator', mmsi', type_lt', repeat_lt', mmsi_lt'⟩ := h'
  simp only [number] at same
  have types : messageType = messageType' := by omega
  have repeats : repeatIndicator = repeatIndicator' := by omega
  have vessels : mmsi = mmsi' := by omega
  subst types repeats vessels
  rfl

/-- The bits of a header. -/
def bits (h : Header) : List Bool :=
  bitsOfNumber 6 h.messageType ++ bitsOfNumber 2 h.repeatIndicator ++ bitsOfNumber 30 h.mmsi

@[simp] theorem length_bits (h : Header) : h.bits.length = 38 := by
  simp [bits]

theorem numberOfBits_bits (h : Header) : numberOfBits h.bits = h.number := by
  rw [bits, numberOfBits_append, numberOfBits_append, numberOfBits_bitsOfNumber,
    numberOfBits_bitsOfNumber, numberOfBits_bitsOfNumber, Nat.mod_eq_of_lt h.messageType_lt,
    Nat.mod_eq_of_lt h.repeatIndicator_lt, Nat.mod_eq_of_lt h.mmsi_lt, length_bitsOfNumber,
    length_bitsOfNumber, number]
  ring

/-- The header that bits start with. -/
def ofBits (bits : List Bool) : Header where
  messageType := numberOfBits (bits.take 6)
  repeatIndicator := numberOfBits ((bits.drop 6).take 2)
  mmsi := numberOfBits ((bits.drop 8).take 30)
  messageType_lt := numberOfBits_take_lt 6 bits
  repeatIndicator_lt := numberOfBits_take_lt 2 (bits.drop 6)
  mmsi_lt := numberOfBits_take_lt 30 (bits.drop 8)

/-- The header that bits start with is the number of the first 38. -/
theorem number_ofBits {bits : List Bool} (enough : 38 ≤ bits.length) :
    (ofBits bits).number = numberOfBits (bits.take 38) := by
  have middle : ((bits.drop 6).take 2).length = 2 := by
    rw [List.length_take, List.length_drop]
    omega
  have last : ((bits.drop 8).take 30).length = 30 := by
    rw [List.length_take, List.length_drop]
    omega
  have parts : bits.take 38 = bits.take 6 ++ (bits.drop 6).take 2 ++ (bits.drop 8).take 30 := by
    rw [show 38 = 8 + 30 from rfl, List.take_add, show 8 = 6 + 2 from rfl, List.take_add]
  rw [parts, numberOfBits_append, numberOfBits_append, middle, last, number]
  dsimp only [ofBits]
  ring

/-- What follows the first 38 bits does not belong to the header. -/
theorem ofBits_append {bits : List Bool} (enough : 38 ≤ bits.length) (rest : List Bool) :
    ofBits (bits ++ rest) = ofBits bits := by
  have more : 38 ≤ (bits ++ rest).length := by
    rw [List.length_append]
    omega
  apply number_inj
  rw [number_ofBits more, number_ofBits enough, List.take_append_of_le_length enough]

theorem ofBits_take {n : Nat} (enough : 38 ≤ n) {bits : List Bool} (long : n ≤ bits.length) :
    ofBits (bits.take n) = ofBits bits := by
  have enough' : 38 ≤ (bits.take n).length := by
    rw [List.length_take]
    omega
  rw [← ofBits_append enough' (bits.drop n), List.take_append_drop]

/-- A header is read from its bits. -/
theorem ofBits_bits (h : Header) (rest : List Bool) : ofBits (h.bits ++ rest) = h := by
  have enough : 38 ≤ h.bits.length := Nat.le_of_eq h.length_bits.symm
  apply number_inj
  rw [ofBits_append enough, number_ofBits enough, ← h.length_bits, List.take_length,
    numberOfBits_bits]

/-- The fields of a payload with a header. -/
def fields (h : Header) (payload : String) (fillBits : Nat) : Fields :=
  [("bits", .ofNat (6 * payload.length - fillBits)),
   ("fill_bits", .ofNat fillBits),
   ("mmsi", .ofNat h.mmsi),
   ("msg_type", .ofNat h.messageType),
   ("payload", .string payload),
   ("repeat", .ofNat h.repeatIndicator)]

theorem fields_inj {h h' : Header} {payload : String} {fillBits : Nat}
    (same : h.fields payload fillBits = h'.fields payload fillBits) : h = h' := by
  obtain ⟨messageType, repeatIndicator, mmsi, _, _, _⟩ := h
  obtain ⟨messageType', repeatIndicator', mmsi', _, _, _⟩ := h'
  simp only [fields, Json.ofNat, List.cons.injEq, Prod.mk.injEq, Json.number.injEq,
    Json.Number.integer.injEq, Nat.cast_inj, true_and, and_true] at same
  obtain ⟨rfl, rfl, rfl⟩ := same
  rfl

end Header

/-! ## Decoding -/

/-- What is to come of a payload: the first complaint that applies, or else the fields of the header
that is the number of its first 38 bits. -/
inductive Verdict (payload : String) (fillBits : Nat) : Except CodecError Fields → Prop where
  | fillBits (large : 5 < fillBits) : Verdict payload fillBits (.error (.fillBits fillBits))
  | invalidCharacter {before after : List Char} {c : Char} (few : fillBits ≤ 5)
      (split : payload.toList = before ++ c :: after) (armored : ∀ b ∈ before, IsArmored b)
      (foreign : ¬IsArmored c) : Verdict payload fillBits (.error (.invalidCharacter c))
  | notEnoughBits (few : fillBits ≤ 5) (armored : ∀ c ∈ payload.toList, IsArmored c)
      (short : 6 * payload.length - fillBits < 38) :
      Verdict payload fillBits (.error (.notEnoughBits (6 * payload.length - fillBits) 38))
  | header {values : List Nat} {h : Header} (few : fillBits ≤ 5)
      (small : ∀ v ∈ values, v < 64) (armored : payload.toList = values.map charOf)
      (long : 38 ≤ 6 * payload.length - fillBits)
      (number : h.number = Nat.ofDigits 64 values.reverse / 2 ^ (6 * payload.length - 38)) :
      Verdict payload fillBits (.ok (h.fields payload fillBits))

section Decoding

variable {payload : String} {fillBits : Nat}

theorem decode_of_dearmor_error {error : CodecError}
    (unread : dearmor payload fillBits = .error error) :
    decode payload fillBits = .error error := by
  rw [decode, unread]

theorem length_of_values {values : List Nat} (armored : payload.toList = values.map charOf) :
    payload.length = values.length := by
  rw [← String.length_toList, armored, List.length_map]

section Values

variable (few : fillBits ≤ 5) {values : List Nat} (small : ∀ v ∈ values, v < 64)
  (armored : payload.toList = values.map charOf)
include few small armored

theorem decode_of_short (short : 6 * payload.length - fillBits < 38) :
    decode payload fillBits = .error (.notEnoughBits (6 * payload.length - fillBits) 38) := by
  have length : ((values.flatMap bitsOf).take (6 * payload.length - fillBits)).length =
      6 * payload.length - fillBits := by
    rw [List.length_take, length_flatMap_bitsOf, length_of_values armored]
    omega
  rw [decode, dearmor_of_values few small armored]
  dsimp only
  rw [length, if_pos (show _ < headerBits from short), headerBits]

/-- A payload that is long enough is decoded to the header that its bits start with. -/
theorem decode_of_long (long : 38 ≤ 6 * payload.length - fillBits) :
    decode payload fillBits =
      .ok ((Header.ofBits (values.flatMap bitsOf)).fields payload fillBits) := by
  have within : 6 * payload.length - fillBits ≤ (values.flatMap bitsOf).length := by
    rw [length_flatMap_bitsOf, length_of_values armored]
    omega
  have length : ((values.flatMap bitsOf).take (6 * payload.length - fillBits)).length =
      6 * payload.length - fillBits := by
    rw [List.length_take, Nat.min_eq_left within]
  rw [decode, dearmor_of_values few small armored]
  dsimp only
  rw [length, if_neg (show ¬_ < headerBits from Nat.not_lt.2 long), Envelope.fields, length,
    ← Header.ofBits_take long within]
  rfl

/-- The header is the number of the first 38 bits of the number that the values denote. -/
theorem number_of_values (long : 38 ≤ 6 * payload.length - fillBits) :
    (Header.ofBits (values.flatMap bitsOf)).number =
      Nat.ofDigits 64 values.reverse / 2 ^ (6 * payload.length - 38) := by
  have enough : 38 ≤ (values.flatMap bitsOf).length := by
    rw [length_flatMap_bitsOf, ← length_of_values armored]
    omega
  rw [Header.number_ofBits enough, numberOfBits_take, numberOfBits_flatMap_bitsOf small,
    length_flatMap_bitsOf, length_of_values armored]

/-- The header hangs on the first seven characters only. -/
theorem ofBits_of_seven (long : 38 ≤ 6 * payload.length - fillBits) :
    Header.ofBits (values.flatMap bitsOf) =
      Header.ofBits ((payload.toList.take 7).flatMap charBits) := by
  have seven : ∀ v ∈ values.take 7, v < 64 := fun v mem => small v (List.mem_of_mem_take mem)
  have enough : 38 ≤ ((values.take 7).flatMap bitsOf).length := by
    rw [length_flatMap_bitsOf, List.length_take, ← length_of_values armored]
    omega
  have split : values.flatMap bitsOf =
      (values.take 7).flatMap bitsOf ++ (values.drop 7).flatMap bitsOf := by
    rw [← List.flatMap_append, List.take_append_drop]
  rw [armored, ← List.map_take, flatMap_charBits_map seven, split, Header.ofBits_append enough]

end Values

/-- Every payload has a verdict. -/
theorem verdict_decode (payload : String) (fillBits : Nat) :
    Verdict payload fillBits (decode payload fillBits) := by
  by_cases large : 5 < fillBits
  · rw [decode_of_dearmor_error (dearmor_of_large large)]
    exact .fillBits large
  have few : fillBits ≤ 5 := Nat.le_of_not_lt large
  cases found : payload.toList.find? fun c => (value? c).isNone with
  | some c =>
    obtain ⟨before, after, split, armored, foreign⟩ := find?_eq_some_iff.1 found
    rw [decode_of_dearmor_error (dearmor_of_foreign few split armored foreign)]
    exact .invalidCharacter few split armored foreign
  | none =>
    have armored := find?_eq_none_iff.1 found
    obtain ⟨values, small, spelled⟩ := exists_values armored
    by_cases short : 6 * payload.length - fillBits < 38
    · rw [decode_of_short few small spelled short]
      exact .notEnoughBits few armored short
    · have long := Nat.le_of_not_lt short
      rw [decode_of_long few small spelled long]
      exact .header few small spelled long (number_of_values few small spelled long)

/-- A payload is decoded as its verdict says. -/
theorem decode_of_verdict {result : Except CodecError Fields}
    (verdict : Verdict payload fillBits result) : decode payload fillBits = result := by
  cases verdict with
  | fillBits large => exact decode_of_dearmor_error (dearmor_of_large large)
  | invalidCharacter few split armored foreign =>
    exact decode_of_dearmor_error (dearmor_of_foreign few split armored foreign)
  | notEnoughBits few armored short =>
    obtain ⟨values, small, spelled⟩ := exists_values armored
    exact decode_of_short few small spelled short
  | header few small armored long number =>
    have same := Header.number_inj (number.trans (number_of_values few small armored long).symm)
    rw [same]
    exact decode_of_long few small armored long

/-- What a header is read from. -/
theorem header_eq_of_decode {h : Header}
    (read : decode payload fillBits = .ok (h.fields payload fillBits)) :
    h = Header.ofBits ((payload.toList.take 7).flatMap charBits) := by
  have verdict := verdict_decode payload fillBits
  generalize decode payload fillBits = result at read verdict
  cases verdict with
  | fillBits large => cases read
  | invalidCharacter few split armored foreign => cases read
  | notEnoughBits few armored short => cases read
  | header few small armored long number =>
    have same := Header.fields_inj (Except.ok.inj read)
    rw [← same, ← ofBits_of_seven few small armored long]
    exact Header.number_inj (number.trans (number_of_values few small armored long).symm)

/-- A header that is armored in front of anything is read back. -/
theorem decode_armor (h : Header) {spare : List Bool} (four : spare.length = 4) {tail : List Char}
    (armored : ∀ c ∈ tail, IsArmored c)
    (spelled : payload = String.ofList (armor (h.bits ++ spare) ++ tail)) (few : fillBits ≤ 5)
    (long : 38 ≤ 6 * payload.length - fillBits) :
    decode payload fillBits = .ok (h.fields payload fillBits) := by
  have chars : payload.toList = armor (h.bits ++ spare) ++ tail := by
    rw [spelled, String.toList_ofList]
  have all : ∀ c ∈ payload.toList, IsArmored c := by
    intro c mem
    rw [chars] at mem
    rcases List.mem_append.1 mem with mem | mem
    · exact isArmored_of_mem_armor c mem
    · exact armored c mem
  obtain ⟨values, small, same⟩ := exists_values all
  have sixes : 6 ∣ (h.bits ++ spare).length := by
    rw [List.length_append, Header.length_bits, four]
    decide
  have bits : values.flatMap bitsOf = h.bits ++ (spare ++ tail.flatMap charBits) := by
    rw [← flatMap_charBits_map small, ← same, chars, List.flatMap_append,
      flatMap_charBits_armor sixes, List.append_assoc]
  rw [decode_of_long few small same long, bits, Header.ofBits_bits]

end Decoding

/-- **A payload is decoded as its characters say.** Too many fill bits are told first, then the
first character that stands for no value, then too few bits; else the fields are those of the header
that is the number of the first 38 bits. The header hangs on the first seven characters only,
whatever follows them and however many fill bits there are. Every header is read back if it is
armored, with any four bits to fill the seventh character, in front of any armored text that leaves
enough bits. -/
theorem decode_eq_iff_verdict (payload : String) (fillBits : Nat) :
    (∀ result, decode payload fillBits = result ↔ Verdict payload fillBits result) ∧
    (∀ (h h' : Header) (payload' : String) (fillBits' : Nat),
      decode payload fillBits = .ok (h.fields payload fillBits) →
      decode payload' fillBits' = .ok (h'.fields payload' fillBits') →
      payload.toList.take 7 = payload'.toList.take 7 → h = h') ∧
    ∀ (h : Header) (spare : List Bool) (tail : List Char), spare.length = 4 →
      (∀ c ∈ tail, IsArmored c) → payload = String.ofList (armor (h.bits ++ spare) ++ tail) →
      fillBits ≤ 5 → 38 ≤ 6 * payload.length - fillBits →
      decode payload fillBits = .ok (h.fields payload fillBits) := by
  refine ⟨fun result => ⟨?_, decode_of_verdict⟩, ?_, ?_⟩
  · rintro rfl
    exact verdict_decode payload fillBits
  · intro h h' payload' fillBits' read read' seven
    rw [header_eq_of_decode read, header_eq_of_decode read', seven]
  · intro h spare tail four armored spelled few long
    exact decode_armor h four armored spelled few long

/-- The header of a position report. -/
example : decode "15NPOOPP00o?b=bE\x60UNv4?w428D?" 0 =
    .ok ((⟨1, 0, 367533950, by decide, by decide, by decide⟩ : Header).fields
      "15NPOOPP00o?b=bE\x60UNv4?w428D?" 0) := by
  cbv

end Envelope

end AisFeed
