import AisFeed.Number.Bounds
import AisFeed.Text.Numeral

/-!
# Socket addresses

Addresses of hosts, four bytes or eight words of sixteen bits, and ports. The text of an eight
word address leaves out the longest run of at least two zero words (the first of several), and
an address that embeds a four byte one shows it in its own form.
-/

set_option autoImplicit false

namespace AisFeed

open Text

/-- The address of a host. -/
inductive Host where
  | v4 (a b c d : Nat)
  | v6 (words : List Nat)
  deriving DecidableEq, Repr

/-- A host and a port on it. The scope tells which link an eight word address belongs to. -/
structure SocketAddress where
  host : Host
  scope : Nat
  port : Nat
  deriving DecidableEq, Repr

namespace Host

/-- The length of the run of zero words at the start. -/
def zeroRun (words : List Nat) : Nat :=
  (words.takeWhile (· == 0)).length

/-- The start and the length of the longest run of zero words, the first of several. -/
def longestZeroRun : List Nat → Nat × Nat
  | [] => (0, 0)
  | w :: rest =>
    let (start, length) := longestZeroRun rest
    let here := zeroRun (w :: rest)
    if length ≤ here then (0, here) else (start + 1, length)

/-- Words in hexadecimal with colons between them. -/
def wordsText (words : List Nat) : List Char :=
  [':'].intercalate (words.map hexadecimal)

/-- A four byte address. -/
def dotted (a b c d : Nat) : List Char :=
  ['.'].intercalate ([a, b, c, d].map decimal)

/-- The text of an address as characters. -/
def chars : Host → List Char
  | v4 a b c d => dotted a b c d
  | v6 [0, 0, 0, 0, 0, 0xFFFF, g, h] =>
    "::ffff:".toList ++ dotted (g / 256) (g % 256) (h / 256) (h % 256)
  | v6 words =>
    let (start, length) := longestZeroRun words
    if length ≤ 1 then wordsText words
    else wordsText (words.take start) ++ [':', ':'] ++ wordsText (words.drop (start + length))

/-- The text of an address. -/
def text (h : Host) : String :=
  String.ofList h.chars

end Host

namespace SocketAddress

/-- The text of a socket address. -/
def text (a : SocketAddress) : String :=
  let port := ':' :: decimal a.port
  match a.host with
  | .v4 .. => String.ofList (a.host.chars ++ port)
  | .v6 _ =>
    let scope := if a.scope = 0 then [] else '%' :: decimal a.scope
    String.ofList (['['] ++ a.host.chars ++ scope ++ [']'] ++ port)

/-! ## Reading -/

/-- What follows the character `c`. -/
def after? (c : Char) : List Char → Option (List Char)
  | d :: rest => if d = c then some rest else none
  | [] => none

/-- A decimal number of at most `bound`, and what follows it. -/
def decimal? (bound : Nat) (text : List Char) : Option (Nat × List Char) :=
  let digits := text.takeWhile Char.isDigit
  if digits.isEmpty || decide (bound < ofDecimal digits) then none
  else some (ofDecimal digits, text.dropWhile Char.isDigit)

/-- A byte of a four byte address: at most three digits, no zero in front. -/
def octet? (text : List Char) : Option (Nat × List Char) :=
  let digits := text.takeWhile Char.isDigit
  if digits.length > 3 || (digits.head? = some '0' && decide (digits.length > 1)) then none
  else decimal? byteBound text

/-- A four byte address and what follows it. -/
def v4? (text : List Char) : Option ((Nat × Nat × Nat × Nat) × List Char) := do
  let (a, rest) ← octet? text
  let (b, rest) ← octet? (← after? '.' rest)
  let (c, rest) ← octet? (← after? '.' rest)
  let (d, rest) ← octet? (← after? '.' rest)
  some ((a, b, c, d), rest)

/-- A word of at most four hexadecimal digits. -/
def word? (text : List Char) : Option (Nat × List Char) :=
  let isHex := fun c => (hexDigit? c).isSome
  let digits := text.takeWhile isHex
  if digits.isEmpty || decide (digits.length > 4) then none
  else
    some (digits.foldl (fun n c => n * 16 + (hexDigit? c).getD 0) 0, text.dropWhile isHex)

/-- The text after the colon between two words, which the first word has none of. -/
def afterColon? (first : Bool) (text : List Char) : Option (List Char) :=
  if first then some text else after? ':' text

/-- At most `limit` words with colons between them, the last two possibly as a four byte
address, which ends them; whether it did; and what follows. -/
def words (first : Bool) : Nat → List Char → List Nat × Bool × List Char
  | 0, text => ([], false, text)
  | limit + 1, text =>
    match (if limit = 0 then none else (afterColon? first text).bind v4?) with
    | some ((a, b, c, d), rest) => ([a * 256 + b, c * 256 + d], true, rest)
    | none =>
      match (afterColon? first text).bind word? with
      | some (w, rest) =>
        let (ws, embedded, rest) := words false limit rest
        (w :: ws, embedded, rest)
      | none => ([], false, text)

/-- An eight word address: all words, or those before and after a run of zeros. -/
def v6? (text : List Char) : Option (List Nat × List Char) :=
  let (head, embedded, rest) := words true 8 text
  if head.length = 8 then some (head, rest)
  else if embedded then none
  else do
    let rest ← after? ':' (← after? ':' rest)
    let (tail, _, rest) := words true (7 - head.length) rest
    some (head ++ List.replicate (8 - head.length - tail.length) 0 ++ tail, rest)

/-- The socket address of a four byte host, and what follows it. -/
def ofV4? (text : List Char) : Option (SocketAddress × List Char) := do
  let ((a, b, c, d), rest) ← v4? text
  let (port, rest) ← decimal? portBound (← after? ':' rest)
  some (⟨.v4 a b c d, 0, port⟩, rest)

/-- The scope after an eight word address, zero if there is none, and what follows it. -/
def scope? (text : List Char) : Option (Nat × List Char) :=
  match text with
  | '%' :: rest => decimal? wordBound rest
  | rest => some (0, rest)

/-- The socket address of an eight word host in brackets, and what follows it. -/
def ofV6? (text : List Char) : Option (SocketAddress × List Char) := do
  let (ws, rest) ← v6? (← after? '[' text)
  let (scope, rest) ← scope? rest
  let (port, rest) ← decimal? portBound (← after? ':' (← after? ']' rest))
  some (⟨.v6 ws, scope, port⟩, rest)

/-- The socket address that a text names. -/
def ofText? (text : String) : Option SocketAddress := do
  let (a, rest) ← (ofV4? text.toList).or (ofV6? text.toList)
  if rest.isEmpty then some a else none

end SocketAddress

end AisFeed
