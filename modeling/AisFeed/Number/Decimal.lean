import AisFeed.Number.Binary64
import AisFeed.Text.Numeral

/-!
# Decimal text of floating point numbers

A number is written with its shortest digits: positional, with at least one digit on both
sides of the point, if the point falls within the first sixteen digits or at most five places
before the first one, else with a power of ten, whose sign is always written.
-/

set_option autoImplicit false

namespace AisFeed.Binary64

open Text

/-- The text of the size of a number whose digits are `digits`, times `10 ^ k`. -/
def decimalText (digits : List Char) (k : Int) : List Char :=
  let point := (digits.length : Int) + k
  if 0 ≤ k ∧ point ≤ 16 then digits ++ List.replicate k.toNat '0' ++ ['.', '0']
  else if 0 < point ∧ point ≤ 16 then
    digits.take point.toNat ++ ['.'] ++ digits.drop point.toNat
  else if -5 < point ∧ point ≤ 0 then
    ['0', '.'] ++ List.replicate (-point).toNat '0' ++ digits
  else
    let mantissa := match digits with
      | d :: e :: rest => d :: '.' :: e :: rest
      | ds => ds
    mantissa ++ (if 0 < point then ['e', '+'] else ['e']) ++ decimalInt (point - 1)

/-- The text of a number. -/
def text (x : Binary64) : List Char :=
  let (digits, k) := x.shortest
  (if x.negative then ['-'] else []) ++ decimalText (decimal digits) k

end AisFeed.Binary64
