import AisFeed.Error

/-!
# Armored text

Six bits to a character: values below 40 are the characters from `0`, the others those from the
backquote. `dearmor` gives the bits of a payload, the most significant of each character first,
less the fill bits at the end.
-/

set_option autoImplicit false

namespace AisFeed.Armor

/-- The value of a character. -/
def value? (c : Char) : Option Nat :=
  if '0' ≤ c ∧ c ≤ 'W' then some (c.toNat - 48)
  else if '\x60' ≤ c ∧ c ≤ 'w' then some (c.toNat - 56)
  else none

/-- The six bits of a value, the most significant first. -/
def bitsOf (v : Nat) : List Bool :=
  [v.testBit 5, v.testBit 4, v.testBit 3, v.testBit 2, v.testBit 1, v.testBit 0]

/-- The bits of a character, none if it stands for no value. -/
def charBits (c : Char) : List Bool :=
  match value? c with
  | none => []
  | some v => bitsOf v

/-- The bits of a payload without its fill bits. Of several characters that stand for no value
the first is told. -/
def dearmor (payload : String) (fillBits : Nat) : Except CodecError (List Bool) :=
  if 5 < fillBits then .error (.fillBits fillBits)
  else
    match payload.toList.find? fun c => (value? c).isNone with
    | some c => .error (.invalidCharacter c)
    | none =>
      let bits := payload.toList.flatMap charBits
      .ok (bits.take (bits.length - fillBits))

end AisFeed.Armor
