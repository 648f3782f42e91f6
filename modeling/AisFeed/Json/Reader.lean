import AisFeed.Json.Basic
import AisFeed.Number.Binary64
import AisFeed.Number.Bounds
import AisFeed.Text.Numeral

/-!
# Reading JSON text

A text is read into a `Tree`, which keeps numbers as they are spelled and all members of an
object, and in which a string whose escapes name half a surrogate pair has no text. What a
reader of a particular type does not look at needs no value; `Tree.value?` is the value of a
whole tree. Numbers without fraction and exponent that fit 64 bits are integers; any other is
the digits that fit 64 bits, rounded, times a rounded power of ten.
-/

set_option autoImplicit false

namespace AisFeed.Json

open Text

/-- A number as it is spelled: its digits before the point, after the point and in the
exponent. -/
structure Literal where
  negative : Bool
  whole : List Char
  fraction : List Char
  hasFraction : Bool
  exponent : Option (Bool × List Char)
  deriving DecidableEq, Repr

/-- A JSON text by its structure. -/
inductive Tree where
  | null
  | bool (b : Bool)
  | number (n : Literal)
  | string (s : Option String)
  | array (items : List Tree)
  | object (members : List (Option String × Tree))
  deriving Repr, Inhabited

/-! ## Numbers -/

namespace Literal

/-- Is the number spelled as an integer? -/
def isIntegral (n : Literal) : Bool :=
  !n.hasFraction && n.exponent.isNone

/-- The natural number that is spelled, if it is an integer without a sign. -/
def nat? (n : Literal) : Option Nat :=
  if n.isIntegral && !n.negative then some (ofDecimal n.whole) else none

/-- The exponent of ten as it is spelled. -/
def exponentValue (n : Literal) : Int :=
  match n.exponent with
  | none => 0
  | some (negative, digits) => if negative then -(ofDecimal digits : Int) else ofDecimal digits

/-- A number with as many of `digits` behind it as fit 64 bits, and the count of the others. -/
def withDigits (start : Nat) (digits : List Char) : Nat × Nat :=
  digits.foldl (fun s d =>
    let next := s.1 * 10 + (d.toNat - '0'.toNat)
    if s.2 = 0 && decide (next ≤ countBound) then (next, 0) else (s.1, s.2 + 1)) (start, 0)

/-- The floating point number of a spelling. Digits that do not fit 64 bits say nothing but how
large the number is, first those before the point, then those after it. -/
def real? (n : Literal) : Option Binary64 := do
  let (whole, wholeLeft) := withDigits 0 n.whole
  let (s, fractionLeft) := withDigits whole n.fraction
  let power : Int := wholeLeft + fractionLeft - n.fraction.length + n.exponentValue
  let x ← Binary64.nearest? n.negative s 1
  x.timesPowerOfTen? power

/-- The number of a spelling, if it is not too large. -/
def number? (n : Literal) : Option Number :=
  let size := ofDecimal n.whole
  if n.isIntegral && !n.negative && decide (size ≤ countBound) then some (.integer size)
  else if n.isIntegral && n.negative && decide (0 < size ∧ size ≤ integerBound + 1) then
    some (.integer (-(size : Int)))
  else n.real?.map .real

end Literal

/-! ## The parts of a text -/

/-- The text after blanks between the parts of a value. -/
def skipBlank (text : List Char) : List Char :=
  text.dropWhile fun c => c == ' ' || c == '\n' || c == '\t' || c == '\r'

/-- The number of four hexadecimal digits. -/
def hex4? (a b c d : Char) : Option Nat := do
  some ((← hexDigit? a) * 4096 + (← hexDigit? b) * 256 + (← hexDigit? c) * 16 + (← hexDigit? d))

/-- The character that a one letter escape names. -/
def unescape? : Char → Option Char
  | '\x22' => some '\x22'
  | '\\' => some '\\'
  | '/' => some '/'
  | 'b' => some '\x08'
  | 'f' => some '\x0c'
  | 'n' => some '\n'
  | 'r' => some '\r'
  | 't' => some '\t'
  | _ => none

/-- The code units of a string after its opening quote, the last first, in front of `units`;
and what follows the closing quote. -/
def units? (units : List Nat) : List Char → Option (List Nat × List Char)
  | [] => none
  | '\x22' :: rest => some (units, rest)
  | '\\' :: 'u' :: a :: b :: c :: d :: rest =>
    match hex4? a b c d with
    | some n => units? (n :: units) rest
    | none => none
  | '\\' :: e :: rest =>
    match unescape? e with
    | some c => units? (c.toNat :: units) rest
    | none => none
  | c :: rest => if c.toNat < 0x20 then none else units? (c.toNat :: units) rest

/-- The characters of code units, given the last first, in front of `text`: a high and a low
surrogate are one character, and each alone is none. -/
def charsOfUnits? (text : List Char) : List Nat → Option (List Char)
  | [] => some text
  | [u] => if 0xD800 ≤ u ∧ u < 0xE000 then none else some (Char.ofNat u :: text)
  | u :: v :: rest =>
    if 0xDC00 ≤ u ∧ u < 0xE000 then
      if 0xD800 ≤ v ∧ v < 0xDC00 then
        charsOfUnits? (Char.ofNat (0x10000 + (v - 0xD800) * 0x400 + (u - 0xDC00)) :: text) rest
      else none
    else if 0xD800 ≤ u ∧ u < 0xDC00 then none
    else charsOfUnits? (Char.ofNat u :: text) (v :: rest)

/-- A string after its opening quote, and what follows it. -/
def stringAfterQuote? (text : List Char) : Option (Option String × List Char) :=
  (units? [] text).map fun p => ((charsOfUnits? [] p.1).map String.ofList, p.2)

/-- An exponent, if there is one, and what follows it. -/
def exponent? (text : List Char) : Option (Option (Bool × List Char) × List Char) :=
  match text with
  | c :: rest =>
    if c = 'e' ∨ c = 'E' then
      let (negative, rest) := match rest with
        | '-' :: rest => (true, rest)
        | '+' :: rest => (false, rest)
        | rest => (false, rest)
      let digits := rest.takeWhile Char.isDigit
      if digits.isEmpty then none
      else some (some (negative, digits), rest.dropWhile Char.isDigit)
    else some (none, text)
  | [] => some (none, [])

/-- A number without its sign, and what follows it. -/
def magnitude? (negative : Bool) (text : List Char) : Option (Literal × List Char) := do
  let whole := match text with
    | '0' :: _ => ['0']
    | text => text.takeWhile Char.isDigit
  let rest := text.drop whole.length
  if whole.isEmpty || (whole = ['0'] && (rest.head?.map Char.isDigit).getD false) then none
  else
    match rest with
    | '.' :: after =>
      let fraction := after.takeWhile Char.isDigit
      if fraction.isEmpty then none
      else
        let (exponent, rest) ← exponent? (after.dropWhile Char.isDigit)
        some (⟨negative, whole, fraction, true, exponent⟩, rest)
    | rest =>
      let (exponent, rest) ← exponent? rest
      some (⟨negative, whole, [], false, exponent⟩, rest)

/-- A number and what follows it. -/
def literal? : List Char → Option (Literal × List Char)
  | '-' :: rest => magnitude? true rest
  | text => magnitude? false text

/-- What follows the word `word` at the start of `text`. -/
def word? (word : String) (text : List Char) : Option (List Char) :=
  let w := word.toList
  if text.take w.length = w then some (text.drop w.length) else none

mutual

/-- A value and what follows it, in at most `fuel` nested steps. -/
def tree? : Nat → List Char → Option (Tree × List Char)
  | 0, _ => none
  | fuel + 1, text =>
    match skipBlank text with
    | '\x22' :: rest => (stringAfterQuote? rest).map fun p => (.string p.1, p.2)
    | '[' :: rest =>
      match skipBlank rest with
      | ']' :: rest => some (.array [], rest)
      | _ => (items? fuel rest).map fun p => (.array p.1, p.2)
    | '\x7b' :: rest =>
      match skipBlank rest with
      | '\x7d' :: rest => some (.object [], rest)
      | _ => (members? fuel rest).map fun p => (.object p.1, p.2)
    | 'n' :: rest => (word? "ull" rest).map fun rest => (.null, rest)
    | 't' :: rest => (word? "rue" rest).map fun rest => (.bool true, rest)
    | 'f' :: rest => (word? "alse" rest).map fun rest => (.bool false, rest)
    | rest => (literal? rest).map fun p => (.number p.1, p.2)

/-- The items of an array from one item to the closing bracket, and what follows it. -/
def items? : Nat → List Char → Option (List Tree × List Char)
  | 0, _ => none
  | fuel + 1, text => do
    let (item, rest) ← tree? fuel text
    match skipBlank rest with
    | ',' :: rest =>
      let (items, rest) ← items? fuel rest
      some (item :: items, rest)
    | ']' :: rest => some ([item], rest)
    | _ => none

/-- The members of an object from one key to the closing brace, and what follows it. -/
def members? : Nat → List Char → Option (List (Option String × Tree) × List Char)
  | 0, _ => none
  | fuel + 1, text =>
    match skipBlank text with
    | '\x22' :: rest => do
      let (key, rest) ← stringAfterQuote? rest
      match skipBlank rest with
      | ':' :: rest =>
        let (value, rest) ← tree? fuel rest
        match skipBlank rest with
        | ',' :: rest =>
          let (members, rest) ← members? fuel rest
          some ((key, value) :: members, rest)
        | '\x7d' :: rest => some ([(key, value)], rest)
        | _ => none
      | _ => none
    | _ => none

end

/-- The tree of a whole text. -/
def Tree.ofText? (text : String) : Option Tree :=
  let cs := text.toList
  match tree? (cs.length + 1) cs with
  | some (tree, rest) => if (skipBlank rest).isEmpty then some tree else none
  | none => none

mutual

/-- The value of a tree, if its strings have texts and its numbers are not too large. The
members of an object come out in ascending order of their keys. -/
def Tree.value? : Tree → Option Json
  | .null => some .null
  | .bool b => some (.bool b)
  | .number n => n.number?.map .number
  | .string s => s.map .string
  | .array items => (Tree.itemValues? items).map .array
  | .object members => (Tree.memberValues? members).map fun ms => .object (sortMembers ms)

/-- The values of the items of an array. -/
def Tree.itemValues? : List Tree → Option (List Json)
  | [] => some []
  | item :: rest => do
    let v ← Tree.value? item
    let vs ← Tree.itemValues? rest
    some (v :: vs)

/-- The members of an object with the values of their trees. -/
def Tree.memberValues? : List (Option String × Tree) → Option (List (String × Json))
  | [] => some []
  | (key, tree) :: rest => do
    let k ← key
    let v ← Tree.value? tree
    let vs ← Tree.memberValues? rest
    some ((k, v) :: vs)

end

/-- The value of a whole text. -/
def ofText? (text : String) : Option Json :=
  (Tree.ofText? text).bind Tree.value?

end AisFeed.Json
