import AisFeed.Sentence.Basic

/-!
# Groups of fragments

The fragments of one message share a key. A `Group` holds the chunks that have arrived, in
ascending order of their numbers and one for each number.
-/

set_option autoImplicit false

namespace AisFeed

/-- How fragments are put together. -/
inductive Keying where
  | sequenceIdAndChannel
  | sequenceId
  deriving DecidableEq, Repr

/-- What the fragments of one message have in common. -/
structure GroupKey where
  sequenceId : Option Char
  channel : Option Char
  deriving DecidableEq, Repr

/-- The key of a sentence. -/
def Keying.key : Keying → Sentence → GroupKey
  | sequenceIdAndChannel, s => ⟨s.sequenceId, s.channel⟩
  | sequenceId, s => ⟨s.sequenceId, none⟩

/-- A whole armored payload. -/
structure Payload where
  text : String
  fillBits : Nat
  /-- When the first fragment of it was received. -/
  receivedAt : Time
  deriving DecidableEq, Repr

/-- The fragments of a message that have arrived. -/
structure Group where
  chunks : List (Nat × String)
  fillBits : Nat
  firstSeen : Time
  deriving DecidableEq, Repr

namespace Group

/-- A group before its first fragment, which arrives at the given time. -/
def openedAt (t : Time) : Group :=
  ⟨[], 0, t⟩

/-- Chunks in ascending order of their numbers, with the chunk of `number` set. -/
def setChunk (number : Nat) (chunk : String) : List (Nat × String) → List (Nat × String)
  | [] => [(number, chunk)]
  | (n, c) :: rest =>
    if number < n then (number, chunk) :: (n, c) :: rest
    else if number = n then (number, chunk) :: rest
    else (n, c) :: setChunk number chunk rest

/-- A group with the fragment of a sentence. The last fragment of a message brings the fill bits
of all of it. -/
def add (g : Group) (s : Sentence) : Group :=
  { g with
    chunks := setChunk s.number s.payload g.chunks
    fillBits := if s.number = s.total then s.fillBits else g.fillBits }

/-- The numbers of the fragments that have arrived. -/
def numbers (g : Group) : List Nat :=
  g.chunks.map Prod.fst

/-- The chunks in one. -/
def payload (g : Group) : Payload :=
  ⟨String.join (g.chunks.map Prod.snd), g.fillBits, g.firstSeen⟩

end Group

end AisFeed
