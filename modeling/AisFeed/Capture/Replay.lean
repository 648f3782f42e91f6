import AisFeed.Failure
import AisFeed.Lines.Buffer
import AisFeed.Network.Basic
import AisFeed.Output.Writer
import AisFeed.Storage
import AisFeed.Text.Blank
import AisFeed.Text.Quoted
import AisFeed.Text.Split

/-!
# Replaying a capture

The lines of a capture that are not blank are sent one after the other, without the blanks at
their ends and with a carriage return and a line feed behind each. A capture has to be text.
-/

set_option autoImplicit false

namespace AisFeed.Replay

open Text

/-- The lines of a text that are not blank, without the blanks at their ends. -/
def linesOf (text : List Char) : List (List Char) :=
  ((partsBetween '\n' text).map trim).filter fun line => !line.isEmpty

/-- The lines of the file at a path. -/
def readLines (s : Storage) (path : String) : Except Failure (List (List Char)) :=
  match s.openToRead path with
  | .error error => .error (.during "opening input" error)
  | .ok none => .error (.during "reading input" (.system .isDirectory))
  | .ok (some bytes) =>
    match Utf8.decode? bytes with
    | none =>
      .error (.during "reading input" (.described .invalidData "stream did not contain valid UTF-8"))
    | some text =>
      match linesOf text with
      | [] => .error (.ofText (quoted path ++ " contains no sentences"))
      | lines => .ok lines

/-- The bytes that are sent for a line. -/
def lineBytes (line : List Char) : List UInt8 :=
  Utf8.encode (line ++ ['\r', '\n'])

/-- How a replay ends: so many lines were sent, or a failure. -/
abbrev Result := Except Failure Nat

/-- Write lines and flush each. -/
def writeLines (sent : Nat) (w : Writer) : List (List Char) → Writer × Result
  | [] => (w, .ok sent)
  | line :: rest =>
    match w.write (lineBytes line) with
    | (w, some error) => (w, .error (.during "writing sentence" error))
    | (w, none) =>
      match w.flush with
      | (w, some error) => (w, .error (.during "flushing sentence" error))
      | (w, none) => writeLines (sent + 1) w rest

/-- The lines to write: those of the file once, or for a replay that only a failure ends over and
over, until the writer has failed. A writer that never fails is not kept busy for ever: it gets no
lines. -/
def repeated (forever : Bool) (w : Writer) (lines : List (List Char)) : List (List Char) :=
  if forever then (List.replicate (w.patience.getD 0) lines).flatten else lines

/-- Write the lines of the file at a path. -/
def toWriter (s : Storage) (path : String) (forever : Bool) (w : Writer) : Writer × Result :=
  match readLines s path with
  | .error failure => (w, .error failure)
  | .ok lines => writeLines 0 w (repeated forever w lines)

/-- Send lines as datagrams: those that arrive, and how it ended. -/
def sendLines (n : Network) (target : SocketAddress) (sent : Nat) :
    List (List Char) → List (List UInt8) × Result
  | [] => ([], .ok sent)
  | line :: rest =>
    match n.fault? target (lineBytes line) with
    | some error => ([], .error (.during ("sending to " ++ target.text) error))
    | none =>
      let (datagrams, result) := sendLines n target (sent + 1) rest
      (if n.delivers then lineBytes line :: datagrams else datagrams, result)

/-- Send the lines of the file at a path as datagrams. -/
def toNetwork (s : Storage) (path : String) (n : Network) (target : SocketAddress) :
    List (List UInt8) × Result :=
  match readLines s path with
  | .error failure => ([], .error failure)
  | .ok lines => sendLines n target 0 lines

end AisFeed.Replay
