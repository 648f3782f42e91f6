/-!
# Binary floating point numbers of 64 bits

A finite number is a sign, a mantissa below `2 ^ 53` and an exponent. `nearest?` rounds a
fraction to the nearest number, ties to the even mantissa; all arithmetic is exact arithmetic
followed by it. `shortest` finds the decimal of fewest digits, and among those the nearest,
that lies closer to a number than to any other.
-/

set_option autoImplicit false

namespace AisFeed

/-- The number `± mantissa * 2 ^ exponent`. -/
structure Binary64 where
  negative : Bool
  mantissa : Nat
  exponent : Int
  deriving DecidableEq, Repr

namespace Binary64

/-- Zero with a sign. -/
def zero (negative : Bool) : Binary64 := ⟨negative, 0, -1074⟩

/-- A power of `base` as numerator and denominator. -/
def scale (base : Nat) (e : Int) : Nat × Nat :=
  if 0 ≤ e then (Nat.pow base e.toNat, 1) else (1, Nat.pow base (-e).toNat)

/-- Two to the power of 53, which all mantissas are below. -/
def mantissaBound : Nat := 9007199254740992

/-- The least mantissa of 53 bits. -/
def fullMantissa : Nat := 4503599627370496

/-- `num / den` to the nearest integer, a half to the even neighbour. -/
def roundHalfEven (num den : Nat) : Nat :=
  let q := num / den
  let r := num % den
  if 2 * r < den then q
  else if den < 2 * r then q + 1
  else if q % 2 = 0 then q else q + 1

/-- The exponent with which the mantissa of `num / den` has 53 bits, or the least one. -/
def exponentFor (num den : Nat) : Int :=
  let e : Int := (Nat.log2 num : Int) - (Nat.log2 den : Int) - 52
  let (up, down) := scale 2 e
  max (if num * down < fullMantissa * (den * up) then e - 1 else e) (-1074)

/-- The number nearest to `num / den`, if it is not too large for the format. -/
def nearest? (negative : Bool) (num den : Nat) : Option Binary64 :=
  if num = 0 then some (zero negative)
  else
    let e := exponentFor num den
    let (up, down) := scale 2 e
    let m := roundHalfEven (num * down) (den * up)
    let (m, e) := if m = mantissaBound then (fullMantissa, e + 1) else (m, e)
    if e ≤ 971 then some ⟨negative, m, e⟩ else none

/-- The size of a number as a fraction. -/
def ratio (x : Binary64) : Nat × Nat :=
  let (up, down) := scale 2 x.exponent
  (x.mantissa * up, down)

/-- `x * y` for the size of `y`. -/
def mul? (x y : Binary64) : Option Binary64 :=
  nearest? x.negative (x.ratio.1 * y.ratio.1) (x.ratio.2 * y.ratio.2)

/-- `x / y` for the size of `y`, which is not zero. -/
def div? (x y : Binary64) : Option Binary64 :=
  nearest? x.negative (x.ratio.1 * y.ratio.2) (x.ratio.2 * y.ratio.1)

/-- The number nearest to `10 ^ k`. -/
def powerOfTen? (k : Nat) : Option Binary64 := nearest? false (Nat.pow 10 k) 1

/-- `x * 10 ^ e` by one multiplication, or by divisions each by at most `10 ^ 308`. -/
def timesPowerOfTen? (x : Binary64) (e : Int) : Option Binary64 :=
  if h : -308 ≤ e then
    if e < 0 then (powerOfTen? (-e).toNat).bind x.div?
    else if x.mantissa = 0 then some x
    else if e ≤ 308 then (powerOfTen? e.toNat).bind x.mul?
    else none
  else if x.mantissa = 0 then some x
  else (powerOfTen? 308).bind fun p => (x.div? p).bind fun y => y.timesPowerOfTen? (e + 308)
termination_by (-e).toNat
decreasing_by omega

/-- Is the size of `x` at least `n`? -/
def isAtLeast (x : Binary64) (n : Nat) : Bool :=
  decide (n * x.ratio.2 ≤ x.ratio.1)

/-! ## The shortest decimal -/

/-- Does the decimal `c * 10 ^ k` lie closer to `x` than to its neighbours? At equal distance
it counts if the mantissa of `x` is even. -/
def isClosest (x : Binary64) (k : Int) (c : Nat) : Bool :=
  let below := if x.mantissa = fullMantissa ∧ x.exponent ≠ -1074 then 1 else 2
  let (up, down) := scale 2 (x.exponent - 2)
  let (tens, parts) := scale 10 k
  let low := (4 * x.mantissa - below) * up * parts
  let high := (4 * x.mantissa + 2) * up * parts
  let here := c * down * tens
  if x.mantissa % 2 = 0 then decide (low ≤ here ∧ here ≤ high) else decide (low < here ∧ here < high)

/-- The better of the two multiples of `10 ^ k` around `x`, if one is closest to `x`. -/
def candidate? (x : Binary64) (k : Int) : Option Nat :=
  let (up, down) := scale 2 x.exponent
  let (tens, parts) := scale 10 k
  let num := x.mantissa * up * parts
  let den := down * tens
  let c := num / den
  match x.isClosest k c, x.isClosest k (c + 1) with
  | true, true => some (roundHalfEven num den)
  | true, false => some c
  | false, true => some (c + 1)
  | false, false => none

/-- The first exponent from `k` downwards, in at most `fuel` steps, that has a candidate. -/
def shortestFrom (x : Binary64) : Nat → Int → Nat × Int
  | 0, k => (0, k)
  | fuel + 1, k =>
    match x.candidate? k with
    | some c => (c, k)
    | none => shortestFrom x fuel (k - 1)

/-- Digits and exponent of the shortest decimal of the size of `x`. -/
def shortest (x : Binary64) : Nat × Int :=
  if x.mantissa = 0 then (0, 0)
  else x.shortestFrom 24 (((Nat.log2 x.mantissa : Int) + 1 + x.exponent) * 30103 / 100000 + 2)

end Binary64

end AisFeed
