/-!
# UTF-8: bytes as characters

A scan reads bytes one at a time and keeps what the character under way still
expects. Each byte sequence that cannot be continued to a character counts once
(`none`), as long as it could still have become one. From the scan come the strict
reading (`decode?`, nothing for text with a broken sequence) and the lossy one
(`lossy`, the replacement character for each broken sequence). `encode` is the inverse
direction.
-/

set_option autoImplicit false

namespace AisFeed.Text.Utf8

/-- What a scan expects next: the start of a character, or a continuation byte in
`low..high`, where `value` are the bits read so far and `more` bytes are missing. -/
inductive State where
  | start
  | inside (value more low high : Nat)
  deriving DecidableEq, Repr

/-- What the first byte of a character yields, and what is expected after it. The bounds on the
second byte shut out overlong forms, surrogates and values above the last code point. -/
def State.begin (b : Nat) : List (Option Char) × State :=
  if b < 0x80 then ([some (Char.ofNat b)], .start)
  else if b < 0xC2 then ([none], .start)
  else if b < 0xE0 then ([], .inside (b - 0xC0) 1 0x80 0xBF)
  else if b < 0xF0 then
    ([], .inside (b - 0xE0) 2 (if b = 0xE0 then 0xA0 else 0x80) (if b = 0xED then 0x9F else 0xBF))
  else if b < 0xF5 then
    ([], .inside (b - 0xF0) 3 (if b = 0xF0 then 0x90 else 0x80) (if b = 0xF4 then 0x8F else 0xBF))
  else ([none], .start)

/-- One byte of a scan. A byte that does not continue the character under way ends it as broken
and starts the next. -/
def State.next : State → Nat → List (Option Char) × State
  | .start, b => begin b
  | .inside value more low high, b =>
    if low ≤ b ∧ b ≤ high then
      if more ≤ 1 then ([some (Char.ofNat (value * 64 + (b - 0x80)))], .start)
      else ([], .inside (value * 64 + (b - 0x80)) (more - 1) 0x80 0xBF)
    else (none :: (begin b).1, (begin b).2)

/-- What the end of the bytes yields: a character that was under way is broken. -/
def State.finish : State → List (Option Char)
  | .start => []
  | .inside .. => [none]

/-- A scan so far: what it yielded, the last first, and what it expects. -/
structure Scan where
  yielded : List (Option Char)
  state : State

/-- Feed one byte to a scan. -/
def Scan.push (s : Scan) (b : UInt8) : Scan :=
  let (out, state) := s.state.next b.toNat
  ⟨out.reverse ++ s.yielded, state⟩

/-- The characters of `bytes`, `none` for each broken sequence. -/
def scan (bytes : List UInt8) : List (Option Char) :=
  let s := bytes.foldl Scan.push ⟨[], .start⟩
  s.yielded.reverse ++ s.state.finish

/-- The text of `bytes`, if no sequence in them is broken. -/
def decode? (bytes : List UInt8) : Option (List Char) :=
  let cs := scan bytes
  if cs.all Option.isSome then some (cs.filterMap id) else none

/-- The text of `bytes` with U+FFFD for each broken sequence. -/
def lossy (bytes : List UInt8) : List Char :=
  (scan bytes).map fun c => c.getD '\uFFFD'

/-- The bytes of a text. -/
def encode (text : List Char) : List UInt8 :=
  text.flatMap String.utf8EncodeChar

/-- The bytes of a string. -/
def bytesOf (s : String) : List UInt8 :=
  encode s.toList

/-- The lossy text of `bytes` as a string. -/
def lossyString (bytes : List UInt8) : String :=
  String.ofList (lossy bytes)

/-- The text of `bytes` as a string, if no sequence in them is broken. -/
def string? (bytes : List UInt8) : Option String :=
  (decode? bytes).map String.ofList

@[simp] theorem scan_nil : scan [] = [] := rfl

@[simp] theorem lossy_nil : lossy [] = [] := rfl

theorem encode_append (a b : List Char) : encode (a ++ b) = encode a ++ encode b := by
  simp [encode]

theorem flatten_map_encode (texts : List (List Char)) :
    (texts.map encode).flatten = encode texts.flatten := by
  induction texts with
  | nil => rfl
  | cons text texts ih =>
    rw [List.map_cons, List.flatten_cons, List.flatten_cons, encode_append, ih]

end AisFeed.Text.Utf8
