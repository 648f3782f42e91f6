import AisFeed.Decoder.Run
import AisFeed.Failure
import AisFeed.Forms
import AisFeed.Lines.Buffer
import AisFeed.Storage
import AisFeed.Text.Html

/-!
# Surveys of captures

A survey decodes the lines of a file and counts: what happened to the lines, the vessels, and
for each type of message how many there were and from how many vessels.
-/

set_option autoImplicit false

namespace AisFeed

open Text

/-- The parts of a file as they are read one after the other, of which the first is begun with some
bytes, the last in front. A line feed ends a part and is left out; the end of the file ends one only
if a byte of it was read. -/
def fileParts (begun : List UInt8) : List UInt8 → List (List UInt8)
  | [] => if begun.isEmpty then [] else [begun.reverse]
  | b :: rest =>
    if b = lineFeed then begun.reverse :: fileParts [] rest else fileParts (b :: begun) rest

/-- The lines of a file. -/
def fileLines (bytes : List UInt8) : List (List UInt8) :=
  keptLines (fileParts [] bytes)

/-- Messages of one type. -/
structure TypeCount where
  count : Nat
  /-- From how many vessels they came. -/
  vessels : Nat
  deriving DecidableEq, Repr

/-- What is known of the vessels and types of messages so far. -/
structure Tally where
  /-- The types of messages that each vessel sent, in ascending order of the vessels. -/
  vessels : List (Nat × List Nat)
  /-- The messages of each type, in ascending order of the types. -/
  types : List (Nat × TypeCount)
  deriving DecidableEq, Repr

namespace Tally

/-- Entries in ascending order of their keys, with that of `key` changed by `f`, from `initial`
if there was none. -/
def alter {α : Type} (key : Nat) (initial : α) (f : α → α) : List (Nat × α) → List (Nat × α)
  | [] => [(key, f initial)]
  | (k, a) :: rest =>
    if key < k then (key, f initial) :: (k, a) :: rest
    else if key = k then (key, f a) :: rest
    else (k, a) :: alter key initial f rest

/-- The entry of a key. -/
def find? {α : Type} (key : Nat) (entries : List (Nat × α)) : Option α :=
  (entries.find? fun e => e.1 = key).map Prod.snd

/-- Count a message of a vessel. -/
def add (t : Tally) (type mmsi : Nat) : Tally :=
  let isNew := !((find? mmsi t.vessels).getD []).contains type
  { vessels := alter mmsi [] (fun types => if isNew then types ++ [type] else types) t.vessels
    types := alter type ⟨0, 0⟩
      (fun c => ⟨c.count + 1, if isNew then c.vessels + 1 else c.vessels⟩) t.types }

/-- Count a message, if it names its type and its vessel. -/
def addMessage (t : Tally) (m : Message) : Tally :=
  match m.type?, m.mmsi? with
  | some type, some mmsi => t.add type mmsi
  | _, _ => t

/-- The counts of some messages. -/
def ofMessages (messages : List Message) : Tally :=
  messages.foldl addMessage ⟨[], []⟩

end Tally

/-- What a capture holds. -/
structure Survey where
  filename : String
  summary : Summary
  /-- Messages that were never completed. -/
  incomplete : Nat
  vessels : Nat
  types : List (Nat × TypeCount)
  deriving DecidableEq, Repr

namespace Survey

/-- When a line of a file is taken for a record, and when that is processed. -/
structure Moment where
  received : Time
  now : Time
  deriving DecidableEq, Repr

/-- The records of lines, where `clock` tells the moments of each. -/
def arrivals (lines : List (List UInt8)) (clock : Nat → Moment) : List Arrival :=
  lines.zipIdx.map fun (line, i) => ⟨.ofBytes (clock i).received line, (clock i).now⟩

theorem bytes_arrivals (lines : List (List UInt8)) (clock : Nat → Moment) :
    (arrivals lines clock).map (fun a => a.record.bytes) = lines := by
  rw [arrivals, List.map_map]
  exact List.zipIdx_map_fst 0 lines

/-- The decoder of a survey. -/
def decoder : Decoder :=
  .new .minute .sequenceIdAndChannel Envelope.codec

/-- The survey of a file. -/
def ofBytes (filename : String) (bytes : List UInt8) (clock : Nat → Moment) : Outcome Survey :=
  let history := decoder.processAll (arrivals (fileLines bytes) clock)
  let tally := Tally.ofMessages history.messages
  ⟨history.events, history.result.map fun d =>
    ⟨filename, d.summary, d.pending, tally.vessels.length, tally.types⟩⟩

/-- A survey tells what is known of the decoder and its messages, if nothing has crashed. -/
theorem ofBytes_of_processed (filename : String) {bytes : List UInt8} {clock : Nat → Moment}
    {last : Decoder}
    (processed : (decoder.processAll (arrivals (fileLines bytes) clock)).result = .ok last) :
    let tally := Tally.ofMessages (decoder.processAll (arrivals (fileLines bytes) clock)).messages
    (ofBytes filename bytes clock).result =
      .ok ⟨filename, last.summary, last.pending, tally.vessels.length, tally.types⟩ := by
  dsimp only [ofBytes]
  rw [processed]
  rfl

/-- The survey of the file at a path. -/
def ofFile (s : Storage) (path : String) (clock : Nat → Moment) :
    Except Failure (Outcome Survey) :=
  match s.openToRead path with
  | .error error => .error (.during "opening input" error)
  | .ok none => .error (.during "reading line 1" (.system .isDirectory))
  | .ok (some bytes) => .ok (ofBytes path bytes clock)

/-- How a survey is shown. -/
inductive Format where
  | json
  | text
  deriving DecidableEq, Repr

/-- A survey as JSON. -/
def toJson (s : Survey) : Json :=
  .object
    [("filename", .string s.filename),
     ("summary", Summary.form.write s.summary),
     ("incomplete", .ofNat s.incomplete),
     ("vessels", .ofNat s.vessels),
     ("msg_types", .object (s.types.map fun (type, c) =>
       (String.ofList (decimal type),
         .object [("count", .ofNat c.count), ("vessels", .ofNat c.vessels)])))]

/-- A line of a text with a name and a number. -/
def countLine (name : String) (n : Nat) : List Char :=
  name.toList ++ decimal n ++ ['\n']

/-- A rule across the page. -/
def rule (c : Char) : List Char :=
  List.replicate 59 c ++ ['\n']

/-- A line of the table of types. -/
def typeLine (type : List Char) (c : TypeCount) : List Char :=
  padLeft 4 ' ' type ++ [' ', ' '] ++ padLeft 8 ' ' (decimal c.count) ++ [' ', ' '] ++
    padLeft 8 ' ' (decimal c.vessels) ++ ['\n']

/-- The types in ascending order of their texts. -/
def sortedTypes (s : Survey) : List (String × TypeCount) :=
  (s.types.map fun e => (String.ofList (decimal e.1), e.2)).mergeSort
    fun a b => decide (a.1 ≤ b.1)

/-- A survey as a page of text. -/
def toText (s : Survey) : String :=
  String.ofList <|
    (html s.filename).toList ++ ['\n'] ++ rule '=' ++
    countLine "Lines:         " s.summary.records ++
    countLine "Sentences:     " s.summary.sentences ++
    countLine "Ignored:       " s.summary.ignored ++
    countLine "Unrecognized:  " s.summary.unrecognized ++
    countLine "Bad checksum:  " s.summary.checksumMismatches ++
    countLine "Malformed:     " s.summary.malformed ++
    countLine "Single:        " s.summary.singleFragment ++
    countLine "Multipart:     " s.summary.multipartCompleted ++
    countLine "Incomplete:    " s.incomplete ++
    countLine "Decoded:       " s.summary.decoded ++
    countLine "Failed:        " s.summary.decodeFailures ++
    countLine "Vessels:       " s.vessels ++
    rule '-' ++ "Type     Count   Vessels\n".toList ++ rule '-' ++
    s.sortedTypes.flatMap fun e => typeLine e.1.toList e.2

/-- The text of a survey in a format. -/
def render (s : Survey) : Format → String
  | .json => s.toJson.pretty
  | .text => s.toText

end Survey

end AisFeed
