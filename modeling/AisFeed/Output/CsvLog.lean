import AisFeed.Failure
import AisFeed.Message
import AisFeed.Record
import AisFeed.Storage

/-!
# Logs in CSV files

Records and messages are added to the end of a file, a row for each. A file that is made for
them starts with a header. Times are written in seconds since the start of 1970 with six digits
of a second. The body of a record stands in single quotes and nothing in it is escaped.
-/

set_option autoImplicit false

namespace AisFeed

open Text

/-- The seconds of a time, and the microseconds within the second after a point. -/
def Time.epochText (t : Time) : List Char :=
  decimalInt t.seconds ++ ['.'] ++ decimalPadded 6 (t.nanos / 1000)

/-- A kind of rows, and the header above them. -/
structure CsvLog (α : Type) where
  header : String
  row : α → List Char

namespace CsvLog

variable {α : Type}

/-- A line of a file. -/
def lineBytes (text : List Char) : List UInt8 :=
  Utf8.encode (text ++ ['\n'])

/-- Open a file for rows; one that is made for them gets the header. -/
def openIn (log : CsvLog α) (s : Storage) (path : String) : Except Failure (Storage × Route) :=
  match s.openToAppend path with
  | .error error => .error (.during ("opening " ++ quoted path) error)
  | .ok (opened, r) =>
    if s.leadsSomewhere path then .ok (opened, r)
    else .ok (opened.append r (lineBytes log.header.toList), r)

/-- Add a row to an open file. -/
def add (log : CsvLog α) (s : Storage) (r : Route) (a : α) : Storage :=
  s.append r (lineBytes (log.row a))

/-- Add rows one after the other. -/
def addAll (log : CsvLog α) (s : Storage) (r : Route) (items : List α) : Storage :=
  s.append r (items.flatMap fun a => lineBytes (log.row a))

/-- Open the file at a path, add rows to it one after the other, and leave it. -/
def session (log : CsvLog α) (s : Storage) (path : String) (items : List α) :
    Except Failure Storage :=
  match log.openIn s path with
  | .error failure => .error failure
  | .ok (s, r) => .ok (items.foldl (fun s a => log.add s r a) s)

/-- Sessions at one path, one after the other, unless one of them fails. -/
def sessions (log : CsvLog α) (s : Storage) (path : String) :
    List (List α) → Except Failure Storage
  | [] => .ok s
  | items :: rest =>
    match log.session s path items with
    | .error failure => .error failure
    | .ok s => log.sessions s path rest

end CsvLog

/-- The row of a record: time, address, port and body. -/
def Record.csvRow (r : Record) : List Char :=
  r.receivedAt.epochText ++ [','] ++ (r.address.getD "").toList ++ [','] ++
    (match r.port with
      | none => []
      | some port => decimal port) ++
    [',', '\x27'] ++ r.line ++ ['\x27']

/-- The row of a message: time, vessel, type and payload. -/
def Message.csvRow (m : Message) : List Char :=
  let number := fun n : Option Nat => match n with
    | none => []
    | some n => decimal n
  m.receivedAt.epochText ++ [','] ++ number m.mmsi? ++ [','] ++ number m.type? ++ [','] ++
    (m.payload?.getD "").toList

/-- Logs of records. -/
def rawLog : CsvLog Record where
  header := "t,ipAddr,port,body"
  row := Record.csvRow

/-- Logs of messages. -/
def decodedLog : CsvLog Message where
  header := "t,mmsi,msg_type,payload"
  row := Message.csvRow

end AisFeed
