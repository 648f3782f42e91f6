import AisFeed.Time.Basic

/-!
# Sentences

A sentence carries one fragment of a message: which of how many it is, what groups the fragments,
and a chunk of the armored payload. The checksum of a sentence is the exclusive or of the bytes
of its body.
-/

set_option autoImplicit false

namespace AisFeed

/-- Who a sentence reports on: other vessels, or the own one. -/
inductive Talker where
  | otherVessel
  | ownVessel
  deriving DecidableEq, Repr

/-- The word for a talker at the start of a sentence. -/
def Talker.text : Talker → String
  | otherVessel => "AIVDM"
  | ownVessel => "AIVDO"

/-- One fragment of a message. -/
structure Sentence where
  talker : Talker
  /-- How many fragments the message has. -/
  total : Nat
  /-- Which of them this is, counted from one. -/
  number : Nat
  sequenceId : Option Char
  channel : Option Char
  /-- Armored text, six bits to a character. -/
  payload : String
  /-- Bits at the end of the payload that say nothing. -/
  fillBits : Nat
  receivedAt : Time
  deriving DecidableEq, Repr

/-- The exclusive or of all bytes. -/
def checksum (body : List UInt8) : UInt8 :=
  body.foldl (· ^^^ ·) 0

@[simp] theorem checksum_nil : checksum [] = 0 := rfl

theorem checksum_snoc (body : List UInt8) (b : UInt8) :
    checksum (body ++ [b]) = checksum body ^^^ b := by
  simp [checksum, List.foldl_append]

end AisFeed
