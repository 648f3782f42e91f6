import AisFeed.Sentence.Basic
import AisFeed.Text.Utf8

/-!
# The parts of a sentence

A line is blank bytes, `!`, a body, `*`, two letters or digits and blank bytes (`Frame`). A body
is a talker, two numbers, an optional digit, an optional word character, a payload and a number,
with commas between them (`Body`). A payload may hold commas itself: it ends at the last comma.
`isIgnorable` tells the lines that are known and passed over.
-/

set_option autoImplicit false

namespace AisFeed

open Text

/-! ## Classes of bytes -/

/-- Space, tab, and the bytes from line feed to carriage return. -/
def isBlankByte (b : UInt8) : Bool :=
  b == 0x20 || (decide (0x09 ≤ b) && decide (b ≤ 0x0D))

/-- Is `b` a decimal digit? -/
def isDigitByte (b : UInt8) : Bool :=
  decide (0x30 ≤ b) && decide (b ≤ 0x39)

/-- Is `b` a letter or a digit? -/
def isAlnumByte (b : UInt8) : Bool :=
  isDigitByte b || (decide (0x41 ≤ b) && decide (b ≤ 0x5A)) ||
    (decide (0x61 ≤ b) && decide (b ≤ 0x7A))

/-- Is `b` a letter, a digit or an underscore? -/
def isWordByte (b : UInt8) : Bool :=
  isAlnumByte b || b == 0x5F

/-- The comma between two fields. -/
def comma : UInt8 := 0x2C

/-- The end of a line. -/
def lineFeed : UInt8 := 0x0A

/-- The number that digits denote. -/
def numberOf (digits : List UInt8) : Nat :=
  digits.foldl (fun n d => n * 10 + (d.toNat - 0x30)) 0

/-- The value of a hexadecimal digit of either case. -/
def hexByte? (b : UInt8) : Option UInt8 :=
  if isDigitByte b then some (b - 0x30)
  else if 0x61 ≤ b ∧ b ≤ 0x66 then some (b - 0x61 + 10)
  else if 0x41 ≤ b ∧ b ≤ 0x46 then some (b - 0x41 + 10)
  else none

/-- What follows `start` at the start of `bytes`. -/
def dropStart? (start bytes : List UInt8) : Option (List UInt8) :=
  if start.isPrefixOf bytes then some (bytes.drop start.length) else none

/-! ## Frames -/

/-- A line without what surrounds the body. -/
structure Frame where
  body : List UInt8
  high : UInt8
  low : UInt8
  deriving DecidableEq, Repr

/-- The frame of a line. -/
def Frame.ofLine? (line : List UInt8) : Option Frame :=
  match line.dropWhile isBlankByte with
  | mark :: inner =>
    if mark = 0x21 then
      match inner.reverse.dropWhile isBlankByte with
      | low :: high :: star :: body =>
        if star = 0x2A && isAlnumByte high && isAlnumByte low then
          some ⟨body.reverse, high, low⟩
        else none
      | _ => none
    else none
  | [] => none

/-- The checksum that is written after the body. -/
def Frame.transmitted? (f : Frame) : Option UInt8 := do
  some ((← hexByte? f.high) * 16 + (← hexByte? f.low))

/-! ## Bodies -/

/-- The fields of a body as they are spelled. -/
structure Body where
  talker : Talker
  total : List UInt8
  number : List UInt8
  sequenceId : Option UInt8
  channel : Option UInt8
  payload : List UInt8
  fillBits : List UInt8
  deriving DecidableEq, Repr

namespace Body

/-- The talker at the start of a body, and what follows its comma. -/
def talker? (bytes : List UInt8) : Option (Talker × List UInt8) :=
  match dropStart? (Utf8.bytesOf "AIVDM,") bytes with
  | some rest => some (.otherVessel, rest)
  | none => (dropStart? (Utf8.bytesOf "AIVDO,") bytes).map fun rest => (.ownVessel, rest)

/-- A number and what follows its comma. -/
def digits? (bytes : List UInt8) : Option (List UInt8 × List UInt8) :=
  match bytes.takeWhile isDigitByte, bytes.dropWhile isDigitByte with
  | d :: ds, c :: rest => if c = comma then some (d :: ds, rest) else none
  | _, _ => none

/-- A byte of a class or none, and what follows the comma. -/
def optional? (isMember : UInt8 → Bool) (bytes : List UInt8) :
    Option (Option UInt8 × List UInt8) :=
  match bytes with
  | [] => none
  | b :: rest =>
    if b = comma then some (none, rest)
    else
      match rest with
      | c :: rest => if isMember b && c = comma then some (some b, rest) else none
      | [] => none

/-- A payload and the number after the last comma. -/
def payload? (bytes : List UInt8) : Option (List UInt8 × List UInt8) :=
  let reversed := bytes.reverse
  match reversed.takeWhile isDigitByte, reversed.dropWhile isDigitByte with
  | d :: ds, c :: rest =>
    if c = comma && !rest.contains lineFeed then some (rest.reverse, (d :: ds).reverse) else none
  | _, _ => none

/-- The fields of a body. -/
def ofBytes? (bytes : List UInt8) : Option Body := do
  let (talker, rest) ← talker? bytes
  let (total, rest) ← digits? rest
  let (number, rest) ← digits? rest
  let (sequenceId, rest) ← optional? isDigitByte rest
  let (channel, rest) ← optional? isWordByte rest
  let (payload, fillBits) ← payload? rest
  some ⟨talker, total, number, sequenceId, channel, payload, fillBits⟩

end Body

/-! ## Lines that are passed over -/

/-- The starts of lines that are known and not processed. -/
def ignorableStarts : List (List UInt8) :=
  ["$PFEC,", "$AIALR,", "$AIABK,", "$AITXT,"].map Utf8.bytesOf

/-- Is the line known and passed over? -/
def isIgnorable (line : List UInt8) : Bool :=
  let text := line.dropWhile isBlankByte
  ignorableStarts.any (·.isPrefixOf text)

end AisFeed
