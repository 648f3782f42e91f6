import AisFeed.Proofs.Armor.Header
import AisFeed.Proofs.Reassembly.Gaps
import Mathlib.Algebra.Order.BigOperators.Group.List

/-!
# Unpacking

Armoring and unpacking undo each other: bits that are filled up to whole characters are unpacked
again without what filled them up (`dearmor_armor_filled`), and a text is the armor of its bits
(`armor_flatMap_charBits`). Two texts in one are unpacked one after the other, with the same
complaint if there is one (`dearmor_append`), so the bits of a message that was put together are
those of its fragments in their order (`dearmor_join`).
-/

set_option autoImplicit false

namespace AisFeed.Armor

/-! ## Armor of bits -/

/-- How many bits are missing at the end for whole characters. -/
def fillOf (bits : List Bool) : Nat :=
  (6 - bits.length % 6) % 6

/-- Bits filled up with zeros to whole characters. -/
def filled (bits : List Bool) : List Bool :=
  bits ++ List.replicate (fillOf bits) false

theorem fillOf_le (bits : List Bool) : fillOf bits ≤ 5 := by
  unfold fillOf
  omega

theorem length_filled (bits : List Bool) : (filled bits).length = bits.length + fillOf bits := by
  rw [filled, List.length_append, List.length_replicate]

theorem six_dvd_length_filled (bits : List Bool) : 6 ∣ (filled bits).length := by
  rw [length_filled, fillOf]
  omega

theorem armor_bitsOf_append {v : Nat} (small : v < 64) (rest : List Bool) :
    armor (bitsOf v ++ rest) = charOf v :: armor rest := by
  show charOf (numberOfBits (bitsOf v)) :: armor rest = charOf v :: armor rest
  rw [numberOfBits_bitsOf small]

theorem armor_flatMap_bitsOf {values : List Nat} (small : ∀ v ∈ values, v < 64) :
    armor (values.flatMap bitsOf) = values.map charOf := by
  induction values with
  | nil => rfl
  | cons v values ih =>
    obtain ⟨here, later⟩ := List.forall_mem_cons.1 small
    rw [List.flatMap_cons, armor_bitsOf_append here, ih later, List.map_cons]

section Characters

variable {cs : List Char} (armored : ∀ c ∈ cs, IsArmored c)
include armored

/-- Characters are the armor of their bits. -/
theorem armor_flatMap_charBits : armor (cs.flatMap charBits) = cs := by
  obtain ⟨values, small, rfl⟩ := exists_values armored
  rw [flatMap_charBits_map small, armor_flatMap_bitsOf small]

theorem length_flatMap_charBits : (cs.flatMap charBits).length = 6 * cs.length := by
  obtain ⟨values, small, rfl⟩ := exists_values armored
  rw [flatMap_charBits_map small, length_flatMap_bitsOf, List.length_map]

end Characters

theorem length_armor {bits : List Bool} (sixes : 6 ∣ bits.length) :
    6 * (armor bits).length = bits.length := by
  rw [← length_flatMap_charBits isArmored_of_mem_armor, flatMap_charBits_armor sixes]

/-! ## Bits of texts -/

section Texts

variable {payload : String} {fillBits : Nat}

theorem dearmor_of_armored (few : fillBits ≤ 5) (armored : ∀ c ∈ payload.toList, IsArmored c) :
    dearmor payload fillBits =
      .ok ((payload.toList.flatMap charBits).take (6 * payload.length - fillBits)) := by
  obtain ⟨values, small, spelled⟩ := exists_values armored
  rw [dearmor_of_values few small spelled, spelled, flatMap_charBits_map small]

/-- Without fill bits the bits of a text are those of all its characters. -/
theorem dearmor_zero (armored : ∀ c ∈ payload.toList, IsArmored c) :
    dearmor payload 0 = .ok (payload.toList.flatMap charBits) := by
  have long := length_flatMap_charBits armored
  rw [String.length_toList] at long
  rw [dearmor_of_armored (Nat.zero_le 5) armored, Nat.sub_zero, ← long, List.take_length]

/-- A text has all its characters in the alphabet, or there is a first that is not. -/
theorem armored_or_foreign (cs : List Char) :
    (∀ c ∈ cs, IsArmored c) ∨
      ∃ before c after, cs = before ++ c :: after ∧ (∀ b ∈ before, IsArmored b) ∧ ¬IsArmored c := by
  cases found : cs.find? fun c => (value? c).isNone with
  | none => exact Or.inl (find?_eq_none_iff.1 found)
  | some c =>
    obtain ⟨before, after, split, armored, foreign⟩ := find?_eq_some_iff.1 found
    exact Or.inr ⟨before, c, after, split, armored, foreign⟩

theorem dearmor_eq_ok_iff {bits : List Bool} :
    dearmor payload fillBits = .ok bits ↔
      fillBits ≤ 5 ∧ (∀ c ∈ payload.toList, IsArmored c) ∧
        bits = (payload.toList.flatMap charBits).take (6 * payload.length - fillBits) := by
  constructor
  · intro unpacked
    have few : fillBits ≤ 5 := by
      by_contra large
      rw [dearmor_of_large (Nat.lt_of_not_le large)] at unpacked
      cases unpacked
    obtain armored | ⟨before, c, after, split, armored, foreign⟩ :=
      armored_or_foreign payload.toList
    · rw [dearmor_of_armored few armored] at unpacked
      exact ⟨few, armored, (Except.ok.inj unpacked).symm⟩
    · rw [dearmor_of_foreign few split armored foreign] at unpacked
      cases unpacked
  · rintro ⟨few, armored, rfl⟩
    exact dearmor_of_armored few armored

/-- The bits of a text with those that were left out at its end are all its bits. -/
theorem exists_removed {bits : List Bool} (unpacked : dearmor payload fillBits = .ok bits) :
    bits.length = 6 * payload.length - fillBits ∧
      ∃ removed, removed.length = min fillBits (6 * payload.length) ∧
        dearmor payload 0 = .ok (bits ++ removed) ∧
        String.ofList (armor (bits ++ removed)) = payload := by
  obtain ⟨-, armored, rfl⟩ := dearmor_eq_ok_iff.1 unpacked
  have long := length_flatMap_charBits armored
  rw [String.length_toList] at long
  refine ⟨by rw [List.length_take]; omega,
    (payload.toList.flatMap charBits).drop (6 * payload.length - fillBits), ?_, ?_, ?_⟩
  · rw [List.length_drop]
    omega
  · rw [List.take_append_drop, dearmor_zero armored]
  · rw [List.take_append_drop, armor_flatMap_charBits armored, String.ofList_toList]

/-- A text without fill bits is the armor of its bits. -/
theorem ofList_armor_of_dearmor {bits : List Bool} (unpacked : dearmor payload 0 = .ok bits) :
    String.ofList (armor bits) = payload := by
  obtain ⟨-, removed, few, -, back⟩ := exists_removed unpacked
  have none : removed = [] := List.eq_nil_of_length_eq_zero (by rw [few, Nat.zero_min])
  rwa [none, List.append_nil] at back

/-- Armored bits are unpacked again. -/
theorem dearmor_armor_filled (bits : List Bool) :
    dearmor (String.ofList (armor (filled bits))) (fillOf bits) = .ok bits := by
  have chars : (String.ofList (armor (filled bits))).toList = armor (filled bits) :=
    String.toList_ofList
  have long : 6 * (String.ofList (armor (filled bits))).length = bits.length + fillOf bits := by
    rw [← String.length_toList, chars, length_armor (six_dvd_length_filled bits), length_filled]
  refine dearmor_eq_ok_iff.2 ⟨fillOf_le bits, ?_, ?_⟩
  · rw [chars]
    exact isArmored_of_mem_armor
  · rw [chars, long, flatMap_charBits_armor (six_dvd_length_filled bits), Nat.add_sub_cancel, filled,
      List.take_left]

end Texts

/-! ## Texts one after the other -/

/-- Two texts in one are unpacked one after the other, if the second has room for the fill bits.
What is told of a character that stands for no value is the same as well. -/
theorem dearmor_append {p q : String} {fillBits : Nat} (few : fillBits ≤ 5)
    (room : fillBits ≤ 6 * q.length) :
    dearmor (p ++ q) fillBits = do
      let bits ← dearmor p 0
      let more ← dearmor q fillBits
      return bits ++ more := by
  have chars : (p ++ q).toList = p.toList ++ q.toList := String.toList_append
  obtain armored | ⟨before, c, after, split, armored, foreign⟩ := armored_or_foreign p.toList
  · rw [dearmor_zero armored]
    obtain armored' | ⟨before, c, after, split, armored', foreign⟩ := armored_or_foreign q.toList
    · have long := length_flatMap_charBits armored
      rw [String.length_toList] at long
      have all : ∀ c ∈ (p ++ q).toList, IsArmored c := by
        rw [chars]
        exact List.forall_mem_append.2 ⟨armored, armored'⟩
      have cut : 6 * (p ++ q).length - fillBits =
          (p.toList.flatMap charBits).length + (6 * q.length - fillBits) := by
        rw [String.length_append, long]
        omega
      rw [dearmor_of_armored few armored', dearmor_of_armored few all, chars, List.flatMap_append,
        cut, List.take_length_add_append]
      rfl
    · have split' : (p ++ q).toList = p.toList ++ before ++ c :: after := by
        rw [chars, split, List.append_assoc]
      rw [dearmor_of_foreign few split armored' foreign,
        dearmor_of_foreign few split' (List.forall_mem_append.2 ⟨armored, armored'⟩) foreign]
      rfl
  · have split' : (p ++ q).toList = before ++ c :: (after ++ q.toList) := by
      rw [chars, split, List.append_assoc, List.cons_append]
    rw [dearmor_of_foreign (Nat.zero_le 5) split armored foreign,
      dearmor_of_foreign few split' armored foreign]
    rfl

/-- The bits of texts one after the other. The fill bits are at the end of the last. -/
def dearmorEach (fillBits : Nat) : List String → Except CodecError (List Bool)
  | [] => .ok []
  | [last] => dearmor last fillBits
  | text :: rest => do
    let bits ← dearmor text 0
    let more ← dearmorEach fillBits rest
    return bits ++ more

/-- Texts in one are unpacked one after the other. -/
theorem dearmor_join {texts : List String} {fillBits : Nat} (few : fillBits ≤ 5)
    {last : String} (ends : texts.getLast? = some last) (room : fillBits ≤ 6 * last.length) :
    dearmor (String.join texts) fillBits = dearmorEach fillBits texts := by
  induction texts with
  | nil => cases ends
  | cons text rest ih =>
    cases rest with
    | nil =>
      rw [String.join_cons, String.join_nil, String.append_empty]
      rfl
    | cons next rest =>
      rw [List.getLast?_cons_cons] at ends
      have long : last.length ≤ (String.join (next :: rest)).length := by
        rw [String.length_join]
        exact List.le_sum_of_mem (List.mem_map_of_mem (List.mem_of_getLast? ends))
      rw [String.join_cons, dearmor_append few (by omega), ih ends]
      rfl

/-- **Unpacking undoes armoring.** Bits that are armored with zeros to fill them up come back. A
text that is unpacked without its fill bits gives six bits for each character less these, and with
those that were left out the bits are armored to the text again; so texts with the same bits are the
same. Two texts in one are unpacked one after the other, if the second has room for the fill bits.
So the bits of a message that fragments have completed are those of the latest fragments of its
group, one after the other in the order of their numbers, whatever came before and whichever calls
crashed. -/
theorem unpacking_undoes_armoring :
    (∀ bits, dearmor (String.ofList (armor (filled bits))) (fillOf bits) = .ok bits) ∧
    (∀ payload fillBits bits, dearmor payload fillBits = .ok bits →
      bits.length = 6 * payload.length - fillBits ∧
        ∃ removed, removed.length = min fillBits (6 * payload.length) ∧
          dearmor payload 0 = .ok (bits ++ removed) ∧
          String.ofList (armor (bits ++ removed)) = payload) ∧
    (∀ payload payload' bits, dearmor payload 0 = .ok bits → dearmor payload' 0 = .ok bits →
      payload = payload') ∧
    (∀ p q fillBits, fillBits ≤ 5 → fillBits ≤ 6 * q.length →
      dearmor (p ++ q) fillBits = do
        let bits ← dearmor p 0
        let more ← dearmor q fillBits
        return bits ++ more) ∧
    ∀ (ttl : Span) (keying : Keying) (calls : List Call) before s now p events after last,
      1 < s.total →
      ((Reassembler.new ttl keying).attemptAll calls).2 =
        before ++ .ok ⟨.push s now, some p, events⟩ :: after →
      let parts :=
        (Life.upTo keying (before.filterMap Except.toOption) ⟨.push s now, some p, events⟩ s).parts
      parts.getLast? = some last → p.fillBits ≤ 5 → p.fillBits ≤ 6 * last.payload.length →
      dearmor p.text p.fillBits = dearmorEach p.fillBits (parts.map Sentence.payload) := by
  refine ⟨dearmor_armor_filled, fun _ _ _ => exists_removed, ?injective,
    fun _ _ _ => dearmor_append, ?reassembled⟩
  case injective =>
    intro payload payload' bits unpacked unpacked'
    rw [← ofList_armor_of_dearmor unpacked, ← ofList_armor_of_dearmor unpacked']
  case reassembled =>
    intro ttl keying calls before s now p events after last multipart completed parts ends few room
    have made := Reassembler.message?_upTo multipart completed
    have text := (Life.enough_of_message? made).2
    rw [text, ← Life.map_payload_parts]
    exact dearmor_join few (by rw [List.getLast?_map, ends]; rfl) room

/-- A text of two characters less three bits, a text without any less five, and a message of two
fragments that came in the wrong order and of which the second ends within its first character. -/
theorem unpacking_undoes_armoring_across_fragments :
    let first : Sentence := ⟨.otherVessel, 2, 1, some '1', some 'A', "w0", 0, .epoch⟩
    let second : Sentence := ⟨.otherVessel, 2, 2, some '1', some 'A', "W", 4, .epoch⟩
    let waits : Exchange := ⟨.push second .epoch, none, []⟩
    let completes : Exchange := ⟨.push first .epoch, some ⟨"w0W", 4, .epoch⟩, []⟩
    ((Reassembler.new .minute .sequenceId).attemptAll [waits.call, completes.call]).2 =
        [.ok waits, .ok completes] ∧
      dearmor "w0W" 4 = dearmorEach 4 ["w0", "W"] ∧
      dearmor "w0" 3 = .ok [true, true, true, true, true, true, false, false, false] ∧
      (∃ removed, removed.length = 3 ∧
        String.ofList (armor ([true, true, true, true, true, true, false, false, false] ++ removed)) =
          "w0") ∧
      dearmor ("w0" ++ "W") 4 = (do
        let bits ← dearmor "w0" 0
        let more ← dearmor "W" 4
        return bits ++ more) ∧
      dearmor "" 5 = .ok [] := by
  intro first second waits completes
  obtain ⟨-, partly, -, concatenated, reassembled⟩ := unpacking_undoes_armoring
  have run : ((Reassembler.new .minute .sequenceId).attemptAll [waits.call, completes.call]).2 =
      [.ok waits] ++ .ok completes :: [] := rfl
  have nine : dearmor "w0" 3 = .ok [true, true, true, true, true, true, false, false, false] := by
    decide +kernel
  obtain ⟨-, removed, three, -, back⟩ := partly _ _ _ nine
  exact ⟨run, reassembled _ _ _ _ _ _ _ _ _ second (by decide) run (by decide) (by decide)
    (by decide), nine, ⟨removed, three, back⟩, concatenated _ _ _ (by decide) (by decide), rfl⟩

end AisFeed.Armor
