import AisFeed.Queue.Distributor
import AisFeed.Record

/-!
# Sources

A source hands out records, some at each reading, and a reading may fail or crash after it has
handed out its records. `Source.run` reads until the source ends, while its flag says so, and
publishes every record; errors that do not end the source are told in events.
-/

set_option autoImplicit false

namespace AisFeed

/-- One reading of a source. -/
structure Reading where
  /-- What it tells before it hands out records. -/
  events : List Event
  /-- The records that it hands out. -/
  records : List Record
  /-- Whether it then clears the flag that keeps a run going. -/
  stops : Bool
  /-- The words with which it then crashes. -/
  crash : Option String
  /-- The error with which it else fails. -/
  error : Option Error
  deriving DecidableEq, Repr

/-- A source and what its readings will yield. -/
structure Source where
  name : String
  readings : List Reading
  /-- Whether it goes on without records after the last reading, rather than come to its end. -/
  isIdle : Bool
  deriving DecidableEq, Repr

/-- How a run of a source ends. -/
inductive SourceEnd where
  /-- The flag was cleared. -/
  | stopped
  /-- A fatal error. -/
  | failed (error : Error)
  | crashed (text : String)
  /-- Nothing more to read, and no end: a run waits for its flag to be cleared. -/
  | waiting
  deriving DecidableEq, Repr

/-- A run of a source. -/
structure SourceRun where
  queues : Distributor Record
  ending : SourceEnd
  /-- How many readings were not made. -/
  left : Nat
  events : List Event
  deriving DecidableEq, Repr

namespace SourceRun

/-- A run with events before its own. -/
def after (run : SourceRun) (events : List Event) : SourceRun :=
  { run with events := events ++ run.events }

end SourceRun

namespace Source

/-- Read from a source while the flag is set. -/
def runReadings (name : String) (isIdle : Bool) :
    Bool → Distributor Record → List Reading → SourceRun
  | false, queues, readings => ⟨queues, .stopped, readings.length, []⟩
  | true, queues, [] =>
    if isIdle then ⟨queues, .waiting, 0, []⟩
    else
      let error := .endOfInput name
      ⟨queues, .failed error, 0, [.sourceEnded error name]⟩
  | true, queues, reading :: readings =>
    let (queues, told) := queues.publishAll reading.records
    let events := reading.events ++ told
    match reading.crash, reading.error with
    | some text, _ => ⟨queues, .crashed text, readings.length, events⟩
    | none, none =>
      (runReadings name isIdle (!reading.stops) queues readings).after events
    | none, some error =>
      if error.isFatal then
        ⟨queues, .failed error, readings.length, events ++ [.sourceEnded error name]⟩
      else
        (runReadings name isIdle (!reading.stops) queues readings).after
          (events ++ [.readFailed error name])

/-- Read from a source while the flag is set, publishing every record. -/
def run (s : Source) (isRunning : Bool) (queues : Distributor Record) : SourceRun :=
  runReadings s.name s.isIdle isRunning queues s.readings

end Source

end AisFeed
