import AisFeed.Json.Printer
import AisFeed.Message
import AisFeed.Forms
import AisFeed.Output.Writer
import AisFeed.Text.Utf8

/-!
# Lines of JSON

Values are written as their compact texts, a line for each. A text goes out in pieces, one for
each write, so that an output that fails has got those before the failure. Records and messages
start with their times, which are written in parts of their own.
-/

set_option autoImplicit false

namespace AisFeed.JsonLines

open Text

/-- Write the pieces of a value and the end of its line. A failure within the value is one of the
sink, a failure of the end of the line one of the output. -/
def accept (w : Writer) (pieces : List (List Char)) : Writer × Option Error :=
  match w.writeAll (pieces.map Utf8.encode) with
  | (w, some error) => (w, some (.sink ("serializing to json: " ++ error.message)))
  | (w, none) =>
    match w.write [0x0A] with
    | (w, some error) => (w, some (.io error))
    | (w, none) => (w, none)

/-- Pass on what is held back. -/
def flush (w : Writer) : Writer × Option Error :=
  let (w, error) := w.flush
  (w, error.map .io)

/-- The line of a value. -/
def line (j : Json) : List UInt8 :=
  Utf8.bytesOf j.compact ++ [0x0A]

/-- The pieces of an object whose first member is a receive time. -/
def timedPieces (receivedAt : Time) (members : List (String × Json)) : List (List Char) :=
  ['\x7b'] :: (Json.stringPieces "received_at" ++ [[':']] ++
    Json.quotedPieces receivedAt.rfc3339Parts ++ Json.memberPieces false members ++ [['\x7d']])

/-- The pieces of a message. -/
def messagePieces (m : Message) : List (List Char) :=
  timedPieces m.receivedAt m.fields

/-- The pieces of a record. -/
def recordPieces (r : Record) : List (List Char) :=
  timedPieces r.receivedAt r.members

/-- Hand a sink records one after the other, none if it refuses one of them. -/
def acceptAll? (w : Writer) : List Record → Option Writer
  | [] => some w
  | r :: rest =>
    match accept w (recordPieces r) with
    | (w, none) => acceptAll? w rest
    | (_, some _) => none

theorem flatten_timedPieces (t : Time) (members : List (String × Json)) :
    (timedPieces t members).flatten =
      (Json.object (("received_at", t.toJson) :: members)).pieces.flatten := by
  simp [timedPieces, Json.pieces, Json.memberPieces, Time.toJson, Json.flatten_quotedPieces,
    Json.flatten_stringPieces, Time.flatten_rfc3339Parts]

theorem flatten_recordPieces (r : Record) :
    (recordPieces r).flatten = r.toJson.compact.toList := by
  simp [recordPieces, flatten_timedPieces, Record.toJson, Json.compact]

end AisFeed.JsonLines
