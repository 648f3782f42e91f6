import AisFeed.Network.Address
import AisFeed.Text.Quoted
import AisFeed.Text.Utf8
import AisFeed.Time.Timestamp

/-!
# Records

One line or datagram as it was received, with the time and, where the source knows it, the
sender.
-/

set_option autoImplicit false

namespace AisFeed

open Text

/-- One received line or datagram. -/
structure Record where
  receivedAt : Time
  /-- The host of the sender. -/
  address : Option String
  port : Option Nat
  bytes : List UInt8
  deriving DecidableEq, Repr

namespace Record

/-- A record of which no sender is known. -/
def ofBytes (receivedAt : Time) (bytes : List UInt8) : Record :=
  ⟨receivedAt, none, none, bytes⟩

/-- The record with a sender. -/
def withSender (r : Record) (sender : SocketAddress) : Record :=
  { r with address := some sender.host.text, port := some sender.port }

/-- The text of the bytes. -/
def text (r : Record) : String :=
  Utf8.lossyString r.bytes

/-- The text of the bytes without blanks at its ends. -/
def line (r : Record) : List Char :=
  trim (Utf8.lossy r.bytes)

/-- A record in one line for people to read. -/
def display (r : Record) : String :=
  "RawRecord\x7bt=" ++ r.receivedAt.display ++
    ", addr=" ++ optional quoted r.address ++
    ", port=" ++ optional (fun p => String.ofList (decimal p)) r.port ++
    ", bytes=" ++ quoted r.text ++ "\x7d"

end Record

end AisFeed
