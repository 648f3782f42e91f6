import AisFeed.Lines.Buffer
import AisFeed.Source.Basic

/-!
# Serial lines

A serial line yields blocks of bytes, which a buffer cuts into lines; each line is a record
without a sender. A reading without a byte is the end of the line, and so are the failures that
say that the device is gone; the absence of data for now is no failure at all.
-/

set_option autoImplicit false

namespace AisFeed

/-- What one reading of a device yields. -/
inductive DeviceReading where
  | data (bytes : List UInt8)
  | failure (error : IoError)
  deriving DecidableEq, Repr

/-- How many bytes one reading of a device takes at most. -/
def readSize : Nat := 65536

/-- `bytes` in blocks of `size`, the last of which may be shorter. -/
def blocks (size : Nat) (bytes : List UInt8) : List (List UInt8) :=
  if _ : bytes.length ≤ size ∨ size = 0 then [bytes]
  else bytes.take size :: blocks size (bytes.drop size)
termination_by bytes.length
decreasing_by simp only [List.length_drop]; omega

/-- The readings that it takes to get what a device has ready. -/
def DeviceReading.split : DeviceReading → List DeviceReading
  | data bytes => (blocks readSize bytes).map data
  | failure error => [failure error]

/-- A serial line: its name and what waits for the end of its line. -/
structure SerialLine where
  name : String
  buffer : LineBuffer
  deriving DecidableEq, Repr

/-- What one reading of a serial line yields. -/
structure SerialReading where
  line : SerialLine
  lines : List (List UInt8)
  error : Option Error
  events : List Event
  deriving DecidableEq, Repr

namespace SerialLine

/-- A serial line from which nothing was read yet. -/
def new (name : String) : SerialLine :=
  ⟨name, .new (some LineBuffer.defaultLimit)⟩

/-- The error at the end of a serial line. -/
def ended (s : SerialLine) : Error :=
  .endOfInput s.name

/-- Read a serial line once. -/
def read (s : SerialLine) : DeviceReading → SerialReading
  | .data [] => ⟨s, [], some s.ended, []⟩
  | .data bytes =>
    let (buffer, lines, event) := s.buffer.extend bytes
    ⟨{ s with buffer }, lines, none, event.toList⟩
  | .failure error =>
    if error.kind.isIdle then ⟨s, [], none, []⟩
    else if error.kind.isGone then ⟨s, [], some s.ended, []⟩
    else ⟨s, [], some (.io error), []⟩

/-- Read a serial line until it ends; after the last reading the device has no more data. -/
def readAll (s : SerialLine) : List DeviceReading → List SerialReading
  | [] => [s.read (.data [])]
  | reading :: rest =>
    let r := s.read reading
    if r.error.any Error.isFatal then [r] else r :: r.line.readAll rest

end SerialLine

/-- The reading of a source at the time `now`, where each line is a record. -/
def SerialReading.toReading (r : SerialReading) (now : Time) : Reading :=
  ⟨r.events, r.lines.map (Record.ofBytes now), false, none, r.error⟩

/-- A serial line as a source, where `clock` tells when each reading is made. A device may have
more ready than one reading takes. -/
def SerialLine.source (s : SerialLine) (readings : List DeviceReading) (clock : Nat → Time) :
    Source :=
  ⟨s.name,
   (s.readAll (readings.flatMap DeviceReading.split)).zipIdx.map fun (r, i) => r.toReading (clock i),
   false⟩

end AisFeed
