import AisFeed.Number.Binary64
import AisFeed.Number.Bounds
import AisFeed.Text.Numeral

/-!
# Values of options

Numbers as they are spelled on a command line: a sign is allowed, and a decimal fraction may have
an exponent or be a word for infinity or for no number at all.
-/

set_option autoImplicit false

namespace AisFeed.CommandLine

open Text

/-- A sign at the start of a text, and what follows it. -/
def sign (text : List Char) : Bool × List Char :=
  match text with
  | '-' :: rest => (true, rest)
  | '+' :: rest => (false, rest)
  | rest => (false, rest)

/-- The number of a whole text of decimal digits. -/
def digits? (text : List Char) : Option Nat :=
  if !text.isEmpty && text.all Char.isDigit then some (ofDecimal text) else none

/-- An integer within bounds. -/
def integer? (low high : Int) (text : String) : Option Int :=
  let (negative, rest) := sign text.toList
  match digits? rest with
  | none => none
  | some n =>
    let i : Int := if negative then -(n : Int) else n
    if low ≤ i ∧ i ≤ high then some i else none

/-- A natural number up to a bound. -/
def natural? (bound : Nat) (text : String) : Option Nat :=
  (integer? 0 bound text).map Int.toNat

/-- A count, which has no minus sign, not even as zero. -/
def count? (text : String) : Option Nat :=
  if text.toList.head? = some '-' then none else natural? countBound text

/-- A path, which is not empty. -/
def path? (text : String) : Option String :=
  if text.isEmpty then none else some text

/-- A number with a fraction: a finite one, or none for infinity or no number. -/
abbrev Amount := Option Binary64

/-- Words that are numbers without a value. -/
def isWordForNone (text : List Char) : Bool :=
  let word := String.ofList (text.map Char.toLower)
  word = "nan" || word = "inf" || word = "infinity"

/-- An exponent of ten. -/
def exponent? (text : List Char) : Option Int :=
  match text with
  | [] => some 0
  | c :: rest =>
    if c = 'e' ∨ c = 'E' then
      let (negative, ds) := sign rest
      (digits? ds).map fun n => if negative then -(n : Int) else n
    else none

/-- The number nearest to `n * 10 ^ e`. Beyond all numbers of the format the exponent itself
does not count. -/
def nearestDecimal (negative : Bool) (n : Nat) (e : Int) : Amount :=
  if n = 0 then some (.zero negative)
  else
    let size := e + (decimal n).length
    if 400 < size then none
    else if size < -400 then some (.zero negative)
    else
      let (up, down) := Binary64.scale 10 e
      Binary64.nearest? negative (n * up) down

/-- A number with a fraction. -/
def amount? (text : String) : Option Amount :=
  let (negative, rest) := sign text.toList
  if isWordForNone rest then some none
  else
    let whole := rest.takeWhile Char.isDigit
    let afterWhole := rest.dropWhile Char.isDigit
    let (fraction, tail) := match afterWhole with
      | '.' :: tail => (tail.takeWhile Char.isDigit, tail.dropWhile Char.isDigit)
      | tail => ([], tail)
    if whole.isEmpty && fraction.isEmpty then none
    else
      (exponent? tail).map fun e =>
        nearestDecimal negative (ofDecimal (whole ++ fraction)) (e - fraction.length)

/-- Can one wait so many seconds? -/
def isWait : Amount → Bool
  | none => false
  | some x => (!x.negative || x.mantissa = 0) && !x.isAtLeast (countBound + 1)

end AisFeed.CommandLine
