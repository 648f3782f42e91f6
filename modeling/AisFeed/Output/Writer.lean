import AisFeed.Error

/-!
# Writers

Where bytes are written to. The write and the flush of given numbers fail, if any do.
-/

set_option autoImplicit false

namespace AisFeed

/-- A failure that waits for one call. -/
structure Fault where
  /-- The number of the call, counted from zero. -/
  call : Nat
  error : IoError
  deriving DecidableEq, Repr

/-- An output, what was written to it, and how often it was called. -/
structure Writer where
  writeFault : Option Fault
  flushFault : Option Fault
  /-- What was written at one time each, the last first. -/
  pieces : List (List UInt8)
  writes : Nat
  flushes : Nat
  deriving DecidableEq, Repr

namespace Writer

/-- An output to which nothing was written. -/
def new (writeFault flushFault : Option Fault) : Writer :=
  ⟨writeFault, flushFault, [], 0, 0⟩

/-- All bytes that were written. -/
def written (w : Writer) : List UInt8 :=
  w.pieces.reverse.flatten

/-- The error of the call with a number. -/
def errorAt (fault : Option Fault) (call : Nat) : Option IoError :=
  match fault with
  | none => none
  | some f => if f.call = call then some f.error else none

/-- Write bytes. -/
def write (w : Writer) (bytes : List UInt8) : Writer × Option IoError :=
  let called := { w with writes := w.writes + 1 }
  match errorAt w.writeFault w.writes with
  | some error => (called, some error)
  | none => ({ called with pieces := bytes :: w.pieces }, none)

/-- Write several pieces, up to the first that fails. -/
def writeAll (w : Writer) : List (List UInt8) → Writer × Option IoError
  | [] => (w, none)
  | piece :: rest =>
    match w.write piece with
    | (w, none) => writeAll w rest
    | (w, some error) => (w, some error)

/-- Pass on what is held back. -/
def flush (w : Writer) : Writer × Option IoError :=
  ({ w with flushes := w.flushes + 1 }, errorAt w.flushFault w.flushes)

/-- After how many rounds, of a write and a flush at least, a fault has struck, if there is one. -/
def patience (w : Writer) : Option Nat :=
  match w.writeFault, w.flushFault with
  | none, none => none
  | some f, none => some (f.call + 1)
  | none, some g => some (g.call + 1)
  | some f, some g => some (min f.call g.call + 1)

end Writer

end AisFeed
