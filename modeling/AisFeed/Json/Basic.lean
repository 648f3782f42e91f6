import AisFeed.Number.Binary64

/-!
# JSON values

Members of an object keep the order in which they are written. Integers and floating point
numbers are told apart, as `1` and `1.0` are two texts.
-/

set_option autoImplicit false

namespace AisFeed

/-- A number: an integer of at most 64 bits, or a floating point number. -/
inductive Json.Number where
  | integer (i : Int)
  | real (x : Binary64)
  deriving DecidableEq, Repr

/-- A JSON value. -/
inductive Json where
  | null
  | bool (b : Bool)
  | number (n : Json.Number)
  | string (s : String)
  | array (items : List Json)
  | object (members : List (String × Json))
  deriving Repr, Inhabited

namespace Json

/-- A natural number as a value. -/
def ofNat (n : Nat) : Json := .number (.integer n)

/-- A value that may be absent, `null` for none. -/
def ofOption {α : Type} (f : α → Json) : Option α → Json
  | none => .null
  | some a => f a

/-- The natural number that a value is, if it is an integer and not negative. -/
def nat? : Json → Option Nat
  | .number (.integer (.ofNat n)) => some n
  | _ => none

/-- The text that a value is, if it is one. -/
def string? : Json → Option String
  | .string s => some s
  | _ => none

/-- The value of the member `key`. -/
def member? (key : String) : List (String × Json) → Option Json
  | [] => none
  | (k, v) :: rest => if k = key then some v else member? key rest

/-- `members`, which are in ascending order of their keys, with `key` set to `value`. -/
def insertMember (key : String) (value : Json) : List (String × Json) → List (String × Json)
  | [] => [(key, value)]
  | (k, v) :: rest =>
    if key < k then (key, value) :: (k, v) :: rest
    else if key = k then (key, value) :: rest
    else (k, v) :: insertMember key value rest

/-- Members in ascending order of their keys; of two members with one key the later counts. -/
def sortMembers (members : List (String × Json)) : List (String × Json) :=
  members.foldl (fun sorted m => insertMember m.1 m.2 sorted) []

end Json

end AisFeed
