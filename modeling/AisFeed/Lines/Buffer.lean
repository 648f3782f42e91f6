import AisFeed.Event
import AisFeed.Sentence.Grammar
import AisFeed.Text.Split

/-!
# Lines of a stream

A line ends at a line feed; a carriage return before it belongs to the end, and empty lines do
not count. What follows the last line feed waits for the rest of its line. If more than a limit
of it waits, it is thrown away, and so is the rest of its line.
-/

set_option autoImplicit false

namespace AisFeed

open Text

/-- The lines that line feeds end, and what follows the last. -/
def cutLines (bytes : List UInt8) : List (List UInt8) × List UInt8 :=
  let (first, rest) := splitAtAll lineFeed bytes
  match rest.getLast? with
  | none => ([], first)
  | some last => (first :: rest.dropLast, last)

/-- The end of a line before its line feed. -/
def carriageReturn : UInt8 := 0x0D

/-- A line without one carriage return at its end. -/
def chomp (line : List UInt8) : List UInt8 :=
  if line.getLast? = some carriageReturn then line.dropLast else line

/-- The lines that count: without their ends, and not empty. -/
def keptLines (lines : List (List UInt8)) : List (List UInt8) :=
  (lines.map chomp).filter fun line => !line.isEmpty

/-- Bytes that wait for the end of their line. -/
structure LineBuffer where
  /-- The bytes since the last line feed. -/
  pending : List UInt8
  /-- How many may wait. -/
  limit : Option Nat
  /-- Whether the start of the current line was thrown away. -/
  discarding : Bool
  deriving DecidableEq, Repr

namespace LineBuffer

/-- How many bytes may wait unless it is said otherwise. -/
def defaultLimit : Nat := 65536

/-- An empty buffer. -/
def new (limit : Option Nat) : LineBuffer :=
  ⟨[], limit, false⟩

/-- Throw away what waits if it is more than the limit. -/
def enforce (b : LineBuffer) : LineBuffer × Option Event :=
  match b.limit with
  | none => (b, none)
  | some limit =>
    let pending := b.pending.length
    if limit < pending then
      ({ b with pending := [], discarding := true }, some (.overlong pending limit))
    else (b, none)

/-- Add bytes that belong to no line that was thrown away. -/
def append (b : LineBuffer) (bytes : List UInt8) :
    LineBuffer × List (List UInt8) × Option Event :=
  let (lines, pending) := cutLines (b.pending ++ bytes)
  let (b, event) := { b with pending }.enforce
  (b, keptLines lines, event)

/-- Add bytes, and take the lines that they complete. -/
def extend (b : LineBuffer) (bytes : List UInt8) :
    LineBuffer × List (List UInt8) × Option Event :=
  if b.discarding then
    match bytes.dropWhile (· != lineFeed) with
    | [] => (b, [], none)
    | _ :: rest => { b with discarding := false }.append rest
  else b.append bytes

end LineBuffer

end AisFeed
