import AisFeed.Text.Numeral
import AisFeed.Text.Unprinted

/-!
# Quoted text

Characters, strings, optional values and lists as messages show them: in quotes, with the
quote in use, the backslash, the usual controls and every character that does not print
written by an escape.
-/

set_option autoImplicit false

namespace AisFeed.Text

/-- One character between quotes `quote`. -/
def escaped (quote c : Char) : List Char :=
  match c with
  | '\x00' => ['\\', '0']
  | '\t' => ['\\', 't']
  | '\r' => ['\\', 'r']
  | '\n' => ['\\', 'n']
  | '\\' => ['\\', '\\']
  | c =>
    if c = quote then ['\\', c]
    else if isUnprinted c then ['\\', 'u', '\x7b'] ++ hexadecimal c.toNat ++ ['\x7d']
    else [c]

/-- A character in single quotes. -/
def quotedChar (c : Char) : String :=
  String.ofList (['\x27'] ++ escaped '\x27' c ++ ['\x27'])

/-- A string in double quotes. -/
def quoted (s : String) : String :=
  String.ofList (['\x22'] ++ s.toList.flatMap (escaped '\x22') ++ ['\x22'])

/-- An optional value, shown by `f` if it is there. -/
def optional {α : Type} (f : α → String) : Option α → String
  | none => "None"
  | some a => "Some(" ++ f a ++ ")"

/-- A list of values in brackets, shown by `f`. -/
def bracketed {α : Type} (f : α → String) (as : List α) : String :=
  "[" ++ String.intercalate ", " (as.map f) ++ "]"

end AisFeed.Text
