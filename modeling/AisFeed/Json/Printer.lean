import AisFeed.Json.Basic
import AisFeed.Number.Decimal

/-!
# JSON text

The compact text of a value is written in pieces, one for each write to an output; `compact`
joins them. Strings escape the quote, the backslash and the characters below the space, and
nothing else. `pretty` sets every item and member on a line of its own.
-/

set_option autoImplicit false

namespace AisFeed.Json

open Text

/-- The escape of a character inside a string, for the characters that need one. -/
def escape? (c : Char) : Option (List Char) :=
  match c with
  | '\x22' => some ['\\', c]
  | '\\' => some ['\\', '\\']
  | '\x08' => some ['\\', 'b']
  | '\x0c' => some ['\\', 'f']
  | '\n' => some ['\\', 'n']
  | '\r' => some ['\\', 'r']
  | '\t' => some ['\\', 't']
  | c =>
    if c.toNat < 0x20 then some (['\\', 'u', '0', '0'] ++ padLeft 2 '0' (hexadecimal c.toNat))
    else none

/-- The piece in front of `pieces` that holds `run`, none for an empty run. -/
def withRun (run : List Char) (pieces : List (List Char)) : List (List Char) :=
  if run.isEmpty then pieces else run :: pieces

/-- The pieces of a text inside a string: each escape, and each run of characters between. -/
def textPieces (text : List Char) : List (List Char) :=
  let (run, pieces) := text.foldr (fun c s =>
    match escape? c with
    | some e => ([], e :: withRun s.1 s.2)
    | none => (c :: s.1, s.2)) ([], [])
  withRun run pieces

/-- The character `c` as it stands inside a string. -/
def escaped (c : Char) : List Char :=
  (escape? c).getD [c]

theorem flatten_withRun (run : List Char) (pieces : List (List Char)) :
    (withRun run pieces).flatten = run ++ pieces.flatten := by
  unfold withRun
  split
  · simp_all
  · simp

theorem flatten_textPieces (text : List Char) :
    (textPieces text).flatten = text.flatMap escaped := by
  simp only [textPieces, flatten_withRun]
  induction text with
  | nil => rfl
  | cons c text ih =>
    simp only [List.foldr_cons, List.flatMap_cons, ← ih]
    cases h : escape? c <;> simp [escaped, h, flatten_withRun]

/-- The pieces of a string that is written part by part, with its quotes. -/
def quotedPieces (parts : List (List Char)) : List (List Char) :=
  ['\x22'] :: (parts.flatMap textPieces ++ [['\x22']])

/-- The pieces of a string with its quotes. -/
def stringPieces (s : String) : List (List Char) :=
  quotedPieces [s.toList]

theorem flatten_quotedPieces (parts : List (List Char)) :
    (quotedPieces parts).flatten = '\x22' :: (parts.flatten.flatMap escaped ++ ['\x22']) := by
  have h : (parts.flatMap textPieces).flatten = parts.flatten.flatMap escaped := by
    induction parts with
    | nil => rfl
    | cons part parts ih => simp [flatten_textPieces, ih]
  simp [quotedPieces, h]

theorem flatten_stringPieces (s : String) :
    (stringPieces s).flatten = '\x22' :: (s.toList.flatMap escaped ++ ['\x22']) := by
  simp [stringPieces, flatten_quotedPieces]

/-- The text of a number. -/
def Number.text : Number → List Char
  | .integer i => decimalInt i
  | .real x => x.text

mutual

/-- The pieces in which the compact text of a value is written. -/
def pieces : Json → List (List Char)
  | .null => ["null".toList]
  | .bool b => [if b then "true".toList else "false".toList]
  | .number n => [n.text]
  | .string s => stringPieces s
  | .array items => ['['] :: (itemPieces true items ++ [[']']])
  | .object members => ['\x7b'] :: (memberPieces true members ++ [['\x7d']])

/-- The pieces of the items of an array, with a comma before all but the first. -/
def itemPieces (first : Bool) : List Json → List (List Char)
  | [] => []
  | item :: rest => (if first then [] else [[',']]) ++ pieces item ++ itemPieces false rest

/-- The pieces of the members of an object, with a comma before all but the first. -/
def memberPieces (first : Bool) : List (String × Json) → List (List Char)
  | [] => []
  | (key, value) :: rest =>
    (if first then [] else [[',']]) ++ stringPieces key ++ [[':']] ++ pieces value ++
      memberPieces false rest

end

/-- The compact text of a value. -/
def compact (j : Json) : String :=
  String.ofList (pieces j).flatten

/-- A new line with `depth` steps of indentation. -/
def newline (depth : Nat) : List Char :=
  '\n' :: List.replicate (2 * depth) ' '

mutual

/-- The text of a value with its items and members on lines of their own. -/
def prettyText (depth : Nat) : Json → List Char
  | .array items =>
    if items.isEmpty then ['[', ']']
    else ['['] ++ prettyItems (depth + 1) true items ++ newline depth ++ [']']
  | .object members =>
    if members.isEmpty then ['\x7b', '\x7d']
    else ['\x7b'] ++ prettyMembers (depth + 1) true members ++ newline depth ++ ['\x7d']
  | .null => "null".toList
  | .bool b => if b then "true".toList else "false".toList
  | .number n => n.text
  | .string s => (stringPieces s).flatten

/-- The items of an array on lines of their own. -/
def prettyItems (depth : Nat) (first : Bool) : List Json → List Char
  | [] => []
  | item :: rest =>
    (if first then [] else [',']) ++ newline depth ++ prettyText depth item ++
      prettyItems depth false rest

/-- The members of an object on lines of their own. -/
def prettyMembers (depth : Nat) (first : Bool) : List (String × Json) → List Char
  | [] => []
  | (key, value) :: rest =>
    (if first then [] else [',']) ++ newline depth ++ (stringPieces key).flatten ++ [':', ' '] ++
      prettyText depth value ++ prettyMembers depth false rest

end

/-- The text of a value over several lines, two spaces to a step. -/
def pretty (j : Json) : String :=
  String.ofList (prettyText 0 j)

end AisFeed.Json
