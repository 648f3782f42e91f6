import AisFeed.Armor
import AisFeed.Message

/-!
# Codecs

A codec turns a whole armored payload into named fields. `Envelope.decode` reads the header that
all messages have: type, repeat indicator and vessel.
-/

set_option autoImplicit false

namespace AisFeed

/-- Fields of a payload and its fill bits; or an error; or a crash of the codec itself. -/
abbrev Codec := String → Nat → Except Crash (Except CodecError Fields)

/-- The number that bits denote, the most significant first. -/
def numberOfBits (bits : List Bool) : Nat :=
  bits.foldl (fun n b => 2 * n + b.toNat) 0

namespace Envelope

/-- Bits of type, repeat indicator and vessel. -/
def headerBits : Nat := 38

/-- The fields of a header and of the payload that it stands in. -/
def fields (payload : String) (fillBits : Nat) (bits : List Bool) : Fields :=
  [("bits", .ofNat bits.length),
   ("fill_bits", .ofNat fillBits),
   ("mmsi", .ofNat (numberOfBits ((bits.drop 8).take 30))),
   ("msg_type", .ofNat (numberOfBits (bits.take 6))),
   ("payload", .string payload),
   ("repeat", .ofNat (numberOfBits ((bits.drop 6).take 2)))]

/-- The header of a payload. -/
def decode (payload : String) (fillBits : Nat) : Except CodecError Fields :=
  match Armor.dearmor payload fillBits with
  | .error e => .error e
  | .ok bits =>
    if bits.length < headerBits then .error (.notEnoughBits bits.length headerBits)
    else .ok (fields payload fillBits bits)

/-- Reading the header as a codec, which never crashes. -/
def codec : Codec := fun payload fillBits => .ok (decode payload fillBits)

end Envelope

end AisFeed
