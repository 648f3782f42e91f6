import AisFeed.Network.Address
import AisFeed.Text.Split

/-!
# Hosts by name

A listener names its host by an address, by fewer numbers than an address has, or as this
machine. Numbers have points between them and are decimal, octal after a zero, or hexadecimal
after a zero and an x; each is a byte except the last, which fills what is left of four bytes. An
eight word address may be followed by a percent sign and its scope.
-/

set_option autoImplicit false

namespace AisFeed.HostName

open Text

/-- The number that digits of a base denote, of which there is at least one. -/
def digits? (base : Nat) (text : List Char) : Option Nat :=
  if text.isEmpty then none
  else text.foldlM (fun n c => (hexDigit? c).bind fun d =>
    if d < base then some (n * base + d) else none) 0

/-- A number with the mark of its base in front. -/
def number? (text : List Char) : Option Nat :=
  match text with
  | '0' :: 'x' :: ds => digits? 16 ds
  | '0' :: 'X' :: ds => digits? 16 ds
  | '0' :: d :: ds => digits? 8 (d :: ds)
  | ds => digits? 10 ds

/-- The host of one to four numbers: bytes, and what fills the rest. -/
def ofNumbers? (numbers : List Nat) : Option Host :=
  let bytes := numbers.dropLast
  let room := Nat.pow 256 (4 - bytes.length)
  match numbers.getLast? with
  | none => none
  | some last =>
    if bytes.length ≤ 3 ∧ bytes.all (· ≤ byteBound) ∧ last < room then
      let n := bytes.foldl (fun n b => n * 256 + b) 0 * room + last
      some (.v4 (n / 16777216) (n / 65536 % 256) (n / 256 % 256) (n % 256))
    else none

/-- The host of numbers with points between them. -/
def numeric? (text : List Char) : Option Host :=
  ((partsBetween '.' text).mapM number?).bind ofNumbers?

/-- Is an eight word address one on a link, whose name can be its scope? -/
def isOnLink (words : List Nat) : Bool :=
  match words with
  | w :: _ => w / 64 = 0x3FA || (w / 256 = 0xFF && w % 16 = 2)
  | [] => false

/-- The scope of an eight word address: the name of the first link, or a number. -/
def scope? (words : List Nat) (text : List Char) : Option Nat :=
  if isOnLink words && text = ['l', 'o'] then some 1
  else
    match SocketAddress.decimal? wordBound text with
    | some (n, []) => some n
    | _ => none

/-- The host of an eight word address, and its scope. -/
def scoped? (text : List Char) : Option (Host × Nat) :=
  match SocketAddress.v6? text with
  | some (words, []) => some (.v6 words, 0)
  | some (words, '%' :: scope) => (scope? words scope).map fun n => (.v6 words, n)
  | _ => none

/-- The name of this machine. -/
def isThisMachine (text : List Char) : Bool :=
  String.ofList (text.map Char.toLower) = "localhost"

/-- The host of a name, and its scope. -/
def host? (name : String) : Option (Host × Nat) :=
  if isThisMachine name.toList then some (.v4 127 0 0 1, 0)
  else ((numeric? name.toList).map fun h => (h, 0)).or (scoped? name.toList)

end AisFeed.HostName
