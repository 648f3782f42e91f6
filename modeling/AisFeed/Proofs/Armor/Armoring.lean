import AisFeed.Codec
import Mathlib.Data.List.Basic
import Mathlib.Data.Nat.Digits.Defs

/-!
# Armoring

`Armor.armor` writes bits as characters, six bits to each, and undoes what `Armor.charBits` does
(`flatMap_charBits_armor`). The values of a text are the digits of a number to the base 64, and the
bits of the text are the digits of the same number to the base 2 (`numberOfBits_flatMap_bitsOf`).
-/

set_option autoImplicit false

namespace AisFeed

/-! ## Numbers as bits -/

/-- The lowest bits of a number, `width` of them, the most significant first. -/
def bitsOfNumber : Nat → Nat → List Bool
  | 0, _ => []
  | width + 1, n => n.testBit width :: bitsOfNumber width n

@[simp] theorem length_bitsOfNumber (width n : Nat) : (bitsOfNumber width n).length = width := by
  induction width with
  | zero => rfl
  | succ width ih => rw [bitsOfNumber, List.length_cons, ih]

theorem foldl_bits (bits : List Bool) (n : Nat) :
    bits.foldl (fun n b => 2 * n + b.toNat) n = n * 2 ^ bits.length + numberOfBits bits := by
  induction bits generalizing n with
  | nil => simp [numberOfBits]
  | cons b bits ih =>
    rw [numberOfBits, List.foldl_cons, List.foldl_cons, ih, ih, List.length_cons, Nat.pow_succ]
    ring

theorem numberOfBits_append (high low : List Bool) :
    numberOfBits (high ++ low) = numberOfBits high * 2 ^ low.length + numberOfBits low := by
  rw [numberOfBits, List.foldl_append, foldl_bits]
  rfl

theorem numberOfBits_cons (b : Bool) (bits : List Bool) :
    numberOfBits (b :: bits) = b.toNat * 2 ^ bits.length + numberOfBits bits := by
  have single : numberOfBits [b] = b.toNat := by simp [numberOfBits]
  rw [← List.singleton_append, numberOfBits_append, single]

theorem numberOfBits_lt (bits : List Bool) : numberOfBits bits < 2 ^ bits.length := by
  induction bits with
  | nil => exact Nat.one_pos
  | cons b bits ih =>
    have most : b.toNat * 2 ^ bits.length ≤ 1 * 2 ^ bits.length :=
      Nat.mul_le_mul_right _ b.toNat_le
    rw [numberOfBits_cons, List.length_cons, Nat.pow_succ]
    omega

theorem numberOfBits_take_lt (k : Nat) (bits : List Bool) : numberOfBits (bits.take k) < 2 ^ k :=
  Nat.lt_of_lt_of_le (numberOfBits_lt _)
    (Nat.pow_le_pow_right Nat.two_pos (List.length_take_le k bits))

theorem numberOfBits_bitsOfNumber (width n : Nat) :
    numberOfBits (bitsOfNumber width n) = n % 2 ^ width := by
  induction width with
  | zero => simp [bitsOfNumber, numberOfBits, Nat.mod_one]
  | succ width ih =>
    rw [bitsOfNumber, numberOfBits_cons, length_bitsOfNumber, ih, Nat.mod_pow_succ,
      Nat.toNat_testBit]
    ring

/-- Bits are told by their number. -/
theorem numberOfBits_inj {as bs : List Bool} (long : as.length = bs.length)
    (same : numberOfBits as = numberOfBits bs) : as = bs := by
  induction as generalizing bs with
  | nil => exact (List.eq_nil_of_length_eq_zero long.symm).symm
  | cons a as ih =>
    cases bs with
    | nil => cases long
    | cons b bs =>
      have long' : as.length = bs.length := Nat.succ.inj long
      have less := numberOfBits_lt as
      have less' := numberOfBits_lt bs
      rw [numberOfBits_cons, numberOfBits_cons, long'] at same
      rw [long'] at less
      -- the first bit is the quotient, and the number of the others is less than the divisor
      have first : a = b := by
        cases a <;> cases b
        · rfl
        · simp only [Bool.toNat_false, Bool.toNat_true, Nat.zero_mul, Nat.one_mul] at same
          omega
        · simp only [Bool.toNat_false, Bool.toNat_true, Nat.zero_mul, Nat.one_mul] at same
          omega
        · rfl
      subst first
      rw [ih long' (Nat.add_left_cancel same)]

theorem bitsOfNumber_numberOfBits (bits : List Bool) :
    bitsOfNumber bits.length (numberOfBits bits) = bits := by
  apply numberOfBits_inj (length_bitsOfNumber _ _)
  rw [numberOfBits_bitsOfNumber, Nat.mod_eq_of_lt (numberOfBits_lt bits)]

/-- The number of the first bits is the number of all bits, cut at the end. -/
theorem numberOfBits_take (k : Nat) (bits : List Bool) :
    numberOfBits (bits.take k) = numberOfBits bits / 2 ^ (bits.length - k) := by
  have rest := numberOfBits_lt (bits.drop k)
  have whole := numberOfBits_append (bits.take k) (bits.drop k)
  rw [List.take_append_drop] at whole
  rw [List.length_drop] at whole rest
  rw [whole, Nat.mul_comm, Nat.mul_add_div (Nat.two_pow_pos _), Nat.div_eq_of_lt rest, Nat.add_zero]

namespace Armor

/-! ## The alphabet -/

/-- Does the character stand for a value? -/
def IsArmored (c : Char) : Prop :=
  ('0' ≤ c ∧ c ≤ 'W') ∨ ('\x60' ≤ c ∧ c ≤ 'w')

instance : DecidablePred IsArmored :=
  fun c => inferInstanceAs (Decidable (('0' ≤ c ∧ c ≤ 'W') ∨ ('\x60' ≤ c ∧ c ≤ 'w')))

/-- The character of a value. -/
def charOf (v : Nat) : Char :=
  Char.ofNat (if v < 40 then v + 48 else v + 56)

theorem value?_charOf : ∀ v < 64, value? (charOf v) = some v := by
  decide

theorem isNone_value?_iff {c : Char} : (value? c).isNone = true ↔ ¬IsArmored c := by
  unfold value? IsArmored
  split
  · rename_i low
    simp [low]
  · rename_i notLow
    split
    · rename_i high
      simp [high]
    · rename_i notHigh
      simp [notLow, notHigh]

/-- A character that stands for a value is the character of that value. -/
theorem value?_eq_some_iff {c : Char} {v : Nat} : value? c = some v ↔ v < 64 ∧ c = charOf v := by
  constructor
  · intro h
    have code : Char.ofNat c.toNat = c := Char.ofNat_toNat c
    have order (a b : Char) : a ≤ b ↔ a.toNat ≤ b.toNat := UInt32.le_iff_toNat_le
    simp only [value?, order, Char.reduceToNat] at h
    unfold charOf
    split at h
    · cases h
      rw [if_pos (by omega), Nat.sub_add_cancel (by omega), code]
      exact ⟨by omega, rfl⟩
    · split at h
      · cases h
        rw [if_neg (by omega), Nat.sub_add_cancel (by omega), code]
        exact ⟨by omega, rfl⟩
      · cases h
  · rintro ⟨small, rfl⟩
    exact value?_charOf v small

theorem charBits_charOf {v : Nat} (small : v < 64) : charBits (charOf v) = bitsOf v := by
  rw [charBits, value?_charOf v small]

theorem isArmored_charOf {v : Nat} (small : v < 64) : IsArmored (charOf v) := by
  by_contra foreign
  rw [← isNone_value?_iff, value?_charOf v small] at foreign
  cases foreign

/-- Characters that stand for values are those of some values. -/
theorem exists_values {cs : List Char} (armored : ∀ c ∈ cs, IsArmored c) :
    ∃ values : List Nat, (∀ v ∈ values, v < 64) ∧ cs = values.map charOf := by
  induction cs with
  | nil => exact ⟨[], by simp, rfl⟩
  | cons c cs ih =>
    obtain ⟨values, small, rest⟩ := ih fun d mem => armored d (List.mem_cons_of_mem c mem)
    cases value : value? c with
    | none =>
      have foreign : ¬IsArmored c := isNone_value?_iff.1 (by rw [value]; rfl)
      exact absurd (armored c List.mem_cons_self) foreign
    | some v =>
      obtain ⟨less, first⟩ := value?_eq_some_iff.1 value
      refine ⟨v :: values, ?_, by rw [first, rest, List.map_cons]⟩
      intro w mem
      rcases List.mem_cons.1 mem with rfl | mem
      · exact less
      · exact small w mem

/-! ## Texts -/

theorem length_bitsOf (v : Nat) : (bitsOf v).length = 6 := rfl

theorem numberOfBits_bitsOf {v : Nat} (small : v < 64) : numberOfBits (bitsOf v) = v := by
  have same : bitsOf v = bitsOfNumber 6 v := rfl
  rw [same, numberOfBits_bitsOfNumber]
  exact Nat.mod_eq_of_lt small

theorem length_flatMap_bitsOf (values : List Nat) :
    (values.flatMap bitsOf).length = 6 * values.length := by
  induction values with
  | nil => rfl
  | cons v values ih =>
    rw [List.flatMap_cons, List.length_append, ih, length_bitsOf, List.length_cons]
    ring

section Values

variable {values : List Nat} (small : ∀ v ∈ values, v < 64)
include small

theorem isArmored_of_mem_map : ∀ c ∈ values.map charOf, IsArmored c := by
  intro c mem
  obtain ⟨v, inside, rfl⟩ := List.mem_map.1 mem
  exact isArmored_charOf (small v inside)

theorem flatMap_charBits_map :
    (values.map charOf).flatMap charBits = values.flatMap bitsOf := by
  rw [List.flatMap_map]
  apply List.flatMap_congr
  intro v mem
  exact charBits_charOf (small v mem)

/-- The values of a text are the digits of the number of its bits. -/
theorem numberOfBits_flatMap_bitsOf :
    numberOfBits (values.flatMap bitsOf) = Nat.ofDigits 64 values.reverse := by
  induction values with
  | nil => rfl
  | cons v values ih =>
    have power : 2 ^ (6 * values.length) = 64 ^ values.length := Nat.pow_mul 2 6 _
    rw [List.flatMap_cons, numberOfBits_append, length_flatMap_bitsOf,
      numberOfBits_bitsOf (small v List.mem_cons_self),
      ih fun w mem => small w (List.mem_cons_of_mem v mem), List.reverse_cons, Nat.ofDigits_append,
      Nat.ofDigits_singleton, List.length_reverse, power]
    ring

end Values

/-- The characters of bits, six bits to each. Bits at the end that do not make six are left out. -/
def armor : List Bool → List Char
  | a :: b :: c :: d :: e :: f :: rest => charOf (numberOfBits [a, b, c, d, e, f]) :: armor rest
  | _ => []

theorem isArmored_of_mem_armor {bits : List Bool} : ∀ c ∈ armor bits, IsArmored c := by
  fun_induction armor bits with
  | case1 a b c d e f rest ih =>
    intro x mem
    rcases List.mem_cons.1 mem with rfl | mem
    · exact isArmored_charOf (numberOfBits_lt [a, b, c, d, e, f])
    · exact ih x mem
  | case2 => simp

/-- Armored bits are the bits of their characters. -/
theorem flatMap_charBits_armor {bits : List Bool} (sixes : 6 ∣ bits.length) :
    (armor bits).flatMap charBits = bits := by
  fun_induction armor bits with
  | case1 a b c d e f rest ih =>
    have less : numberOfBits [a, b, c, d, e, f] < 64 := numberOfBits_lt [a, b, c, d, e, f]
    have back : bitsOf (numberOfBits [a, b, c, d, e, f]) = [a, b, c, d, e, f] :=
      bitsOfNumber_numberOfBits [a, b, c, d, e, f]
    have sixes' : 6 ∣ rest.length := by
      simp only [List.length_cons] at sixes
      omega
    rw [List.flatMap_cons, charBits_charOf less, back, ih sixes']
    rfl
  | case2 bits few =>
    match bits with
    | [] => rfl
    | [_] | [_, _] | [_, _, _] | [_, _, _, _] | [_, _, _, _, _] =>
      simp only [List.length_cons, List.length_nil] at sixes
      omega
    | a :: b :: c :: d :: e :: f :: rest => exact absurd rfl (few a b c d e f rest)

end Armor

end AisFeed
