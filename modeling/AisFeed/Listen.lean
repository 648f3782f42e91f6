import AisFeed.Output.CsvLog
import AisFeed.Output.JsonLines
import AisFeed.Pipeline.Basic

/-!
# Listening

A listener runs a pipeline over a source into CSV files and lines of JSON. That it ends is always
a failure, unless it crashes.
-/

set_option autoImplicit false

namespace AisFeed

open Text

/-- What a listener writes, and how it puts messages together. -/
structure ListenSettings where
  /-- The file for records. -/
  rawCsv : Option String
  /-- The file for messages. -/
  decodedCsv : Option String
  /-- Whether messages are written as JSON. -/
  json : Bool
  /-- How many seconds a message may wait for its fragments. -/
  ttl : Int
  keying : Keying
  /-- How many items a queue holds at most, if that is limited. -/
  queueCapacity : Option Nat
  deriving DecidableEq, Repr

/-- What became of a listener. -/
structure ListenRun where
  ending : Except Crash Failure
  stdout : List UInt8
  storage : Storage

namespace ListenSettings

/-- The policy of all queues. -/
def policy (l : ListenSettings) : QueuePolicy :=
  match l.queueCapacity with
  | none => .unbounded
  | some n => .dropOldest n

/-- The time-to-live, if the settings have an output and a time-to-live that is a span. -/
def checked (l : ListenSettings) : Except Failure Span :=
  if l.rawCsv.isNone && l.decodedCsv.isNone && !l.json then
    .error (.ofText "no outputs; use at least one of --raw-csv, --decoded-csv, --json")
  else
    match Span.ofSeconds? l.ttl with
    | none => .error (.ofText ("invalid ttl " ++ String.ofList (decimalInt l.ttl)))
    | some ttl => .ok ttl

/-- The store after the attempt to open a log, and the file if there is to be one. -/
def openLog {α : Type} (log : CsvLog α) (s : Storage) :
    Option String → Storage × Except Failure (Option Route)
  | none => (s, .ok none)
  | some path =>
    match log.openIn s path with
    | .error failure => (s, .error failure)
    | .ok (s, r) => (s, .ok (some r))

/-- The store after the attempt to open the files for records and for messages, and the files.
That for records may have been made before the other cannot be opened. -/
def openFiles (l : ListenSettings) (s : Storage) :
    Storage × Except Failure (Option Route × Option Route) :=
  match openLog rawLog s l.rawCsv with
  | (s, .error failure) => (s, .error failure)
  | (s, .ok raw) =>
    match openLog decodedLog s l.decodedCsv with
    | (s, .error failure) => (s, .error failure)
    | (s, .ok decoded) => (s, .ok (raw, decoded))

/-- The pipeline of a listener with a time-to-live. -/
def pipeline (l : ListenSettings) (ttl : Span) : Pipeline where
  decoder := .new ttl l.keying Envelope.codec
  policy := l.policy
  rawSinks := l.rawCsv.toList.map fun _ => .keeping "raw_csv"
  messageSinks :=
    (l.decodedCsv.toList.map fun _ => .keeping "decoded_csv") ++
      if l.json then [.keeping "json"] else []

/-- The records that the sink for records kept. -/
def records (done : Shutdown) : List Record :=
  (done.raw.head?.map SinkRun.kept).getD []

/-- The messages that a sink for messages kept. -/
def messages (done : Shutdown) : List Message :=
  (done.messages.head?.map SinkRun.kept).getD []

/-- What the sinks of a listener have written by the end, to the files `raw` and `decoded`. -/
def written (l : ListenSettings) (s : Storage) (raw decoded : Option Route) (done : Shutdown) :
    ListenRun :=
  let s := match raw with
    | none => s
    | some r => rawLog.addAll s r (records done)
  let s := match decoded with
    | none => s
    | some r => decodedLog.addAll s r (messages done)
  let stdout := if l.json then (messages done).flatMap fun m => JsonLines.line m.toJson else []
  ⟨.ok (.ofError done.cause), stdout, s⟩

/-- Run a listener, where `clock` tells when each record is decoded. -/
def run (l : ListenSettings) (source : Source) (s : Storage) (clock : Nat → Time) :
    ListenRun :=
  match l.checked with
  | .error failure => ⟨.ok failure, [], s⟩
  | .ok ttl =>
    match l.openFiles s with
    | (s, .error failure) => ⟨.ok failure, [], s⟩
    | (s, .ok (raw, decoded)) =>
      match (l.pipeline ttl).start source clock with
      | .error crash => ⟨.error crash, [], s⟩
      | .ok done => l.written s raw decoded done

end ListenSettings

end AisFeed
