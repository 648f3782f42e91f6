import AisFeed.Json.Printer
import AisFeed.Json.Reader

/-!
# Written forms of types

A `Form` says how the values of a type are written as JSON and which texts are read as one. A
structure is written as an object and read also from an array of all its fields in order; of an
object, members with other names say nothing, and none of its own may be there twice. A field
that may be absent is absent if its member is missing or null.
-/

set_option autoImplicit false

namespace AisFeed.Json

/-- How the values of a type are written, and what is read as one. -/
structure Form (α : Type) where
  write : α → Json
  read? : Tree → Option α

namespace Form

variable {α : Type}

/-- The text of a value. -/
def text (f : Form α) (a : α) : String :=
  (f.write a).compact

/-- The value that a text names. -/
def ofText? (f : Form α) (text : String) : Option α :=
  (Tree.ofText? text).bind f.read?

/-- The text of the value that a text names. -/
def restate? (f : Form α) (text : String) : Option String :=
  (f.ofText? text).map f.text

end Form

namespace Tree

/-- The trees of the fields of a structure, none for a field that is missing. -/
def fields? (names : List String) : Tree → Option (List (Option Tree))
  | .array items => if items.length = names.length then some (items.map some) else none
  | .object members =>
    if members.all (fun m => m.1.isSome) &&
        names.all (fun n => decide ((members.countP fun m => m.1 = some n) ≤ 1)) then
      some (names.map fun n => (members.find? fun m => m.1 = some n).map Prod.snd)
    else none
  | _ => none

/-- The trees of the fields of a structure that has no members with other names. -/
def onlyFields? (names : List String) (t : Tree) : Option (List (Option Tree)) :=
  match t with
  | .object members =>
    if members.all (fun m => m.1.any names.contains) then t.fields? names else none
  | t => t.fields? names

/-- The natural number of a tree, if it is at most `bound`. -/
def natAtMost? (bound : Nat) : Tree → Option Nat
  | .number n =>
    match n.nat? with
    | some k => if k ≤ bound then some k else none
    | none => none
  | _ => none

/-- The text of a tree. -/
def text? : Tree → Option String
  | .string s => s
  | _ => none

/-- The character of a tree: a text of one. -/
def char? (t : Tree) : Option Char :=
  match t.text?.map String.toList with
  | some [c] => some c
  | _ => none

/-- The items of a tree, each read by `f`. -/
def list? {α : Type} (f : Tree → Option α) : Tree → Option (List α)
  | .array items => items.mapM f
  | _ => none

/-- What may be null, else read by `f`. -/
def nullable? {α : Type} (f : Tree → Option α) : Tree → Option (Option α)
  | .null => some none
  | t => (f t).map some

/-- A field that may be missing or null. -/
def optional? {α : Type} (f : Tree → Option α) : Option Tree → Option (Option α)
  | none => some none
  | some t => nullable? f t

/-- The name of a variant that has no fields: a text, or an object with one null member. -/
def variant? : Tree → Option String
  | .string s => s
  | .object [(name, .null)] => name
  | _ => none

/-- The value of a variant among those without fields. -/
def oneOf? {α : Type} (variants : List (String × α)) (t : Tree) : Option α := do
  let name ← t.variant?
  (variants.find? fun v => v.1 = name).map Prod.snd

end Tree

end AisFeed.Json
