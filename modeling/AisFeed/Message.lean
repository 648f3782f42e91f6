import AisFeed.Json.Printer
import AisFeed.Time.Timestamp

/-!
# Messages

A decoded message is the receive time of its first fragment and its fields, in ascending order
of their names.
-/

set_option autoImplicit false

namespace AisFeed

/-- Named values in ascending order of their names. -/
abbrev Fields := List (String × Json)

/-- A decoded message. -/
structure Message where
  receivedAt : Time
  fields : Fields
  deriving Repr

namespace Message

/-- The value of a field. -/
def get? (m : Message) (name : String) : Option Json :=
  Json.member? name m.fields

/-- The identity of the vessel, if the message names one. -/
def mmsi? (m : Message) : Option Nat :=
  (m.get? "mmsi").bind Json.nat?

/-- The type of the message, if it has one. -/
def type? (m : Message) : Option Nat :=
  (m.get? "msg_type").bind Json.nat?

/-- The payload, if the message keeps it as a text. -/
def payload? (m : Message) : Option String :=
  (m.get? "payload").bind Json.string?

/-- A message as one object: the time, then the fields. -/
def toJson (m : Message) : Json :=
  .object (("received_at", .string m.receivedAt.rfc3339) :: m.fields)

end Message

end AisFeed
