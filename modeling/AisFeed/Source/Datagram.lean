import AisFeed.Number.Bounds
import AisFeed.Source.Basic

/-!
# Datagrams

Each datagram is one record, cut to the size of the buffer that receives it.
-/

set_option autoImplicit false

namespace AisFeed

/-- Bytes on their way, and where they come from. -/
structure Datagram where
  sender : SocketAddress
  bytes : List UInt8
  deriving DecidableEq, Repr

namespace Datagram

/-- The size of the buffer unless it is said otherwise: twenty long sentences. -/
def defaultBufferSize : Nat := 20 * 85

/-- Why there cannot be a buffer of a size, if there cannot: memory is addressed by sixty-three
bits. -/
def bufferFault? (size : Nat) : Option Crash :=
  if integerBound < size then some .outOfMemory else none

/-- The record of a datagram that is received at the time `now`. -/
def record (d : Datagram) (bufferSize : Nat) (now : Time) : Record :=
  (Record.ofBytes now (d.bytes.take bufferSize)).withSender d.sender

/-- The reading of a datagram: one record. -/
def reading (d : Datagram) (bufferSize : Nat) (now : Time) : Reading :=
  ⟨[], [d.record bufferSize now], false, none, none⟩

/-- Datagrams as a source, where `clock` tells when each arrives. The source has no end. -/
def source (name : String) (bufferSize : Nat) (datagrams : List Datagram) (clock : Nat → Time) :
    Source :=
  ⟨name, datagrams.zipIdx.map fun (d, i) => d.reading bufferSize (clock i), true⟩

end Datagram

end AisFeed
