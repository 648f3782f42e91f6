/-!
# Numerals

Decimal and hexadecimal text of numbers, padded on the left, and the number that a run of
decimal digits denotes.
-/

set_option autoImplicit false

namespace AisFeed.Text

/-- `text` brought to at least `width` characters by `fill` on its left. -/
def padLeft (width : Nat) (fill : Char) (text : List Char) : List Char :=
  List.replicate (width - text.length) fill ++ text

/-- The decimal digits of `n`. -/
def decimal (n : Nat) : List Char :=
  Nat.toDigits 10 n

/-- The decimal digits of `n`, with zeros in front up to `width`. -/
def decimalPadded (width n : Nat) : List Char :=
  padLeft width '0' (decimal n)

/-- The decimal digits of `n` with zeros in front, each zero by itself. -/
def paddedParts (width n : Nat) : List (List Char) :=
  List.replicate (width - (decimal n).length) ['0'] ++ [decimal n]

theorem flatten_paddedParts (width n : Nat) :
    (paddedParts width n).flatten = decimalPadded width n := by
  simp [paddedParts, decimalPadded, padLeft]

/-- The decimal text of an integer, with a sign only for negative ones. -/
def decimalInt (i : Int) : List Char :=
  if i < 0 then '-' :: decimal i.natAbs else decimal i.natAbs

/-- The number that decimal digits denote. -/
def ofDecimal (digits : List Char) : Nat :=
  Nat.ofDigitChars 10 digits 0

/-- Lower case hexadecimal digits of `n`. -/
def hexadecimal (n : Nat) : List Char :=
  Nat.toDigits 16 n

/-- A byte as two upper case hexadecimal digits. -/
def hexByte (b : UInt8) : List Char :=
  (padLeft 2 '0' (hexadecimal b.toNat)).map Char.toUpper

/-- The value of a hexadecimal digit of either case. -/
def hexDigit? (c : Char) : Option Nat :=
  if c.isDigit then some (c.toNat - '0'.toNat)
  else if 'a' ≤ c ∧ c ≤ 'f' then some (c.toNat - 'a'.toNat + 10)
  else if 'A' ≤ c ∧ c ≤ 'F' then some (c.toNat - 'A'.toNat + 10)
  else none

@[simp] theorem ofDecimal_decimal (n : Nat) : ofDecimal (decimal n) = n :=
  Nat.ofDigitChars_ten_toDigits

theorem decimal_ne_nil (n : Nat) : decimal n ≠ [] :=
  Nat.toDigits_ne_nil

theorem isDigit_of_mem_decimal {n : Nat} {c : Char} (h : c ∈ decimal n) : c.isDigit = true :=
  Nat.isDigit_of_mem_toDigits (by decide) (by decide) h

end AisFeed.Text
