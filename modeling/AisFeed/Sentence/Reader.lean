import AisFeed.Error
import AisFeed.Number.Bounds
import AisFeed.Sentence.Grammar
import AisFeed.Text.Blank

/-!
# Reading sentences

A line that has the parts of a sentence is accepted if its checksum is right and its fields are
in range; the first check that fails names the error, in the order in which `Sentence.read` and
`Body.sentence` make them. A line without those parts is passed over if it is one of the known
kinds, and unrecognized otherwise.
-/

set_option autoImplicit false

namespace AisFeed

open Text

/-- The text of a line without blanks at its ends. -/
def lineText (line : List UInt8) : String :=
  String.ofList (trim (Utf8.lossy line))

/-- A field without meaning. -/
inductive Defect where
  | checksumNotHex
  | totalTooLarge
  | numberTooLarge
  | fillBitsTooLarge
  | zeroTotal
  | numberOutOfRange
  | fillBitsOutOfRange
  | payloadNotText
  deriving DecidableEq, Repr

/-- The words for a defect. -/
def Defect.text : Defect → String
  | checksumNotHex => "checksum is not hex"
  | totalTooLarge => "total fragments"
  | numberTooLarge => "fragment number"
  | fillBitsTooLarge => "fill bits"
  | zeroTotal => "zero total fragments"
  | numberOutOfRange => "fragment number out of range"
  | fillBitsOutOfRange => "fill bits out of range"
  | payloadNotText => "payload not ascii"

/-- The error for a defect of a line. -/
def Defect.error (d : Defect) (line : List UInt8) : Error :=
  .malformed (d.text ++ ": " ++ lineText line)

/-- The character of one byte. -/
def charOfByte (b : UInt8) : Char :=
  Char.ofNat b.toNat

/-- The sentence of a body whose fields are in range. -/
def Body.sentence (b : Body) (receivedAt : Time) : Except Defect Sentence :=
  let total := numberOf b.total
  let number := numberOf b.number
  let fillBits := numberOf b.fillBits
  if byteBound < total then .error .totalTooLarge
  else if byteBound < number then .error .numberTooLarge
  else if byteBound < fillBits then .error .fillBitsTooLarge
  else if total = 0 then .error .zeroTotal
  else if number = 0 ∨ total < number then .error .numberOutOfRange
  else if 5 < fillBits then .error .fillBitsOutOfRange
  else
    match Utf8.string? b.payload with
    | none => .error .payloadNotText
    | some payload =>
      .ok ⟨b.talker, total, number, b.sequenceId.map charOfByte, b.channel.map charOfByte, payload,
        fillBits, receivedAt⟩

/-- The frame and the body of a line, if it has the parts of a sentence. -/
def Frame.parts? (line : List UInt8) : Option (Frame × Body) := do
  let frame ← Frame.ofLine? line
  let body ← Body.ofBytes? frame.body
  some (frame, body)

/-- The sentence in a line, `none` for a line that is passed over. -/
def Sentence.read (line : List UInt8) (receivedAt : Time) : Except Error (Option Sentence) :=
  match Frame.parts? line with
  | none => if isIgnorable line then .ok none else .error (.unrecognized (lineText line))
  | some (frame, body) =>
    match frame.transmitted? with
    | none => .error (Defect.checksumNotHex.error line)
    | some transmitted =>
      if transmitted ≠ checksum frame.body then
        .error (.checksumMismatch transmitted (checksum frame.body))
      else
        match body.sentence receivedAt with
        | .error defect => .error (defect.error line)
        | .ok sentence => .ok (some sentence)

end AisFeed
