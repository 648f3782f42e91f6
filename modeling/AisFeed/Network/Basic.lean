import AisFeed.Error
import AisFeed.Network.Address

/-!
# Networks

A machine on a network sends to any host and listens on any. While the network is down it still
sends to the host without a number, which is the machine itself, but nothing arrives; and it
listens on hosts that it need not be one of.
-/

set_option autoImplicit false

namespace AisFeed

namespace Host

/-- The bytes of a four byte address, also of one that an eight word address embeds. -/
def bytes? : Host → Option (List Nat)
  | v4 a b c d => some [a, b, c, d]
  | v6 [0, 0, 0, 0, 0, 0xFFFF, g, h] => some [g / 256, g % 256, h / 256, h % 256]
  | v6 _ => none

/-- Does an eight word address stand for a group of hosts? -/
def isGroup (words : List Nat) : Bool :=
  match words with
  | w :: _ => w / 256 = 0xFF
  | [] => false

/-- Is a group one of hosts on one link or on one machine, so that its scope has to be told? -/
def isLocalGroup (words : List Nat) : Bool :=
  match words with
  | w :: _ => isGroup words && (w % 16 = 1 || w % 16 = 2)
  | [] => false

end Host

/-- The network of a machine. -/
inductive Network where
  | connected
  | down
  deriving DecidableEq, Repr

namespace Network

/-- How many bytes a datagram holds at most, with the headers that go before them. -/
def mostWithHeaders : Nat := 65535

/-- How many bytes a datagram holds at most. -/
def mostBytes : Nat := mostWithHeaders - 28

/-- Can a datagram be sent to a host? -/
def reaches (n : Network) (h : Host) : Bool :=
  match n with
  | connected => true
  | down => h.bytes? = some [0, 0, 0, 0]

/-- Do the datagrams that are sent arrive? -/
def delivers : Network → Bool
  | connected => true
  | down => false

/-- What hinders a datagram from being sent, if anything does. -/
def fault? (n : Network) (target : SocketAddress) (bytes : List UInt8) : Option IoError :=
  if mostWithHeaders < bytes.length then some (.system .messageTooLong)
  else if target.port = 0 then some (.system .invalidArgument)
  else if !n.reaches target.host then some (.system .networkUnreachable)
  else if mostBytes < bytes.length then some (.system .messageTooLong)
  else none

/-- Can one listen on a host? While the network is down, four byte addresses are not looked at;
of the others only the one without a host and groups are at hand, and the only link is the first,
within the machine. -/
def canListen (n : Network) (h : Host) (scope : Nat) : Bool :=
  match n, h with
  | connected, _ => true
  | down, .v4 .. => true
  | down, .v6 words =>
    words.all (· == 0) || h.bytes?.isSome ||
      (Host.isGroup words && (!Host.isLocalGroup words || scope = 1))

end Network

end AisFeed
