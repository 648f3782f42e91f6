import AisFeed.Text.Numeral
import Mathlib.Algebra.Group.Nat.Defs

/-!
# Digits of numbers

Numbers have no zeros in front (`eq_zero_of_decimal`), and padded ones have as many digits as they
are padded to, if they are small enough (`length_decimalPadded`). Digits that are followed by
something else are found again by `takeWhile` (`takeWhile_isDigit`).
-/

set_option autoImplicit false

namespace AisFeed.Text

theorem decimal_eq (n : Nat) :
    decimal n = if n < 10 then [n.digitChar] else decimal (n / 10) ++ [(n % 10).digitChar] :=
  Nat.toDigits_eq_if (by decide)

/-- Digits start with a digit. -/
theorem exists_first {digits : List Char} (nonempty : digits ≠ [])
    (all : ∀ c ∈ digits, c.isDigit = true) : ∃ c rest, digits = c :: rest ∧ c.isDigit = true := by
  cases digits with
  | nil => exact absurd rfl nonempty
  | cons c rest => exact ⟨c, rest, rfl, all c List.mem_cons_self⟩

theorem exists_digit (n : Nat) : ∃ c rest, decimal n = c :: rest ∧ c.isDigit = true :=
  exists_first (decimal_ne_nil n) fun _ => isDigit_of_mem_decimal

/-- An integer starts with its sign or with a digit. -/
theorem exists_start (i : Int) :
    ∃ c rest, decimalInt i = c :: rest ∧ (c = '-' ∨ c.isDigit = true) := by
  unfold decimalInt
  split
  · exact ⟨'-', _, rfl, Or.inl rfl⟩
  · obtain ⟨c, rest, digits, digit⟩ := exists_digit i.natAbs
    exact ⟨c, rest, digits, Or.inr digit⟩

/-- Only zero starts with a zero. -/
theorem eq_zero_of_decimal {n : Nat} {rest : List Char} (starts : decimal n = '0' :: rest) :
    n = 0 := by
  induction n using Nat.strongRecOn generalizing rest with
  | ind n ih =>
    rw [decimal_eq] at starts
    by_cases small : n < 10
    · rw [if_pos small] at starts
      injection starts with digit
      have code := Nat.toNat_digitChar_of_lt_ten small
      rw [digit] at code
      have zero : '0'.toNat = 48 := rfl
      omega
    · rw [if_neg small] at starts
      cases front : decimal (n / 10) with
      | nil => exact absurd front (decimal_ne_nil _)
      | cons c cs =>
        rw [front, List.cons_append] at starts
        injection starts with same
        have none := ih (n / 10) (by omega) (same ▸ front)
        omega

theorem length_decimal_le {n k : Nat} (positive : 0 < k) (small : n < 10 ^ k) :
    (decimal n).length ≤ k :=
  (Nat.length_toDigits_le_iff (by decide) positive).2 small

/-! ## Padded numbers -/

variable {width n : Nat}

theorem length_decimalPadded (positive : 0 < width) (small : n < 10 ^ width) :
    (decimalPadded width n).length = width := by
  have short := length_decimal_le positive small
  rw [decimalPadded, padLeft, List.length_append, List.length_replicate]
  omega

theorem decimalPadded_ne_nil (width n : Nat) : decimalPadded width n ≠ [] := by
  rw [decimalPadded, padLeft]
  exact List.append_ne_nil_of_right_ne_nil _ (decimal_ne_nil n)

theorem isDigit_of_mem_decimalPadded {c : Char} (mem : c ∈ decimalPadded width n) :
    c.isDigit = true := by
  rw [decimalPadded, padLeft, List.mem_append, List.mem_replicate] at mem
  obtain ⟨-, rfl⟩ | mem := mem
  · rfl
  · exact isDigit_of_mem_decimal mem

theorem exists_digit_decimalPadded (width n : Nat) :
    ∃ c rest, decimalPadded width n = c :: rest ∧ c.isDigit = true :=
  exists_first (decimalPadded_ne_nil width n) fun _ => isDigit_of_mem_decimalPadded

@[simp] theorem ofDecimal_decimalPadded (width n : Nat) :
    ofDecimal (decimalPadded width n) = n := by
  have value := ofDecimal_decimal n
  rw [ofDecimal] at value
  rw [ofDecimal, decimalPadded, padLeft, Nat.ofDigitChars_append, Nat.ofDigitChars_replicate_zero,
    Nat.mul_zero, value]

/-! ## Where digits end -/

/-- What follows a run of digits: nothing that goes on with it. -/
def EndsDigits (rest : List Char) : Prop :=
  ∀ c ∈ rest.head?, c.isDigit = false

theorem takeWhile_isDigit {digits rest : List Char} (all : ∀ c ∈ digits, c.isDigit = true)
    (ends : EndsDigits rest) :
    (digits ++ rest).takeWhile Char.isDigit = digits ∧
      (digits ++ rest).dropWhile Char.isDigit = rest := by
  rw [List.takeWhile_append_of_pos all, List.dropWhile_append_of_pos all]
  cases rest with
  | nil => simp
  | cons c rest =>
    have stop := ends c (by simp)
    simp [stop]

theorem takeWhile_decimalPadded (width n : Nat) {rest : List Char} (ends : EndsDigits rest) :
    (decimalPadded width n ++ rest).takeWhile Char.isDigit = decimalPadded width n ∧
      (decimalPadded width n ++ rest).dropWhile Char.isDigit = rest :=
  takeWhile_isDigit (fun _ => isDigit_of_mem_decimalPadded) ends

end AisFeed.Text
