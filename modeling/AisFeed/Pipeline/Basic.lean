import AisFeed.Decoder.Basic
import AisFeed.Pipeline.Supervisor
import AisFeed.Sink
import AisFeed.Source.Basic

/-!
# Pipelines

A pipeline reads a source, decodes its records, and hands records and messages to sinks. Its
stages are joined by queues: every record goes to the decoder and to each raw sink, every
message to each message sink. `Pipeline.run` lets the source run to its end, then the decoder,
then the sinks. Each stage keeps a log of its own. A pipeline cannot be started at all if there
cannot be queues as large as its policy says, or stages of the names of its sinks.
-/

set_option autoImplicit false

namespace AisFeed

/-- A decoder, sinks, and the policy of the queues between them. -/
structure Pipeline where
  decoder : Decoder
  policy : QueuePolicy
  rawSinks : List (Sink Record)
  messageSinks : List (Sink Message)

/-- What the decoder stage has done. -/
structure DecoderRun where
  /-- The decoder at the end, unless it crashed. -/
  result : Except Crash Decoder
  messages : Distributor Message
  events : List Event

/-- What became of a pipeline. -/
structure Shutdown where
  cause : Error
  summary : Summary
  raw : List (SinkRun Record)
  messages : List (SinkRun Message)
  /-- The events of the reader, of the decoder, and of those who waited for the stages. -/
  reader : List Event
  decoder : List Event
  main : List Event

namespace Pipeline

/-- The queue of records to the decoder and to each raw sink. -/
def recordQueues (p : Pipeline) : Distributor Record :=
  p.rawSinks.foldl (fun d s => d.register s.name p.policy)
    (Distributor.empty.register "decoder" p.policy)

/-- The queue of messages to each message sink. -/
def messageQueues (p : Pipeline) : Distributor Message :=
  p.messageSinks.foldl (fun d s => d.register s.name p.policy) .empty

/-- Decode records one after the other and publish the messages. The clock stands at `clock n`
when the record after `n` others is decoded. -/
def decodeAll (clock : Nat → Time) (n : Nat) (d : Decoder) (queues : Distributor Message) :
    List Record → DecoderRun
  | [] => ⟨.ok d, queues, []⟩
  | r :: rest =>
    let out := d.process r (clock n)
    match out.result with
    | .error crash => ⟨.error crash, queues, out.events⟩
    | .ok (d, none) =>
      let run := decodeAll clock (n + 1) d queues rest
      { run with events := out.events ++ run.events }
    | .ok (d, some message) =>
      let (queues, told) := queues.publish message
      let run := decodeAll clock (n + 1) d queues rest
      { run with events := out.events ++ told ++ run.events }

/-- Hand to each sink what waits in its queue, where the first sink has the ticket `ticket`. -/
def runSinks {α : Type} (queues : Distributor α) (ticket : Nat) :
    List (Sink α) → List (SinkRun α)
  | [] => []
  | s :: rest =>
    let (queues, items) := queues.drain ticket
    s.run items :: runSinks queues (ticket + 1) rest

/-- What the end of a source signals, if it signals anything. -/
def signalOf : SourceEnd → Option Error
  | .failed error => some error
  | .crashed _ => some (.stageCrashed "reader")
  | .stopped | .waiting => none

/-- The event of a crash of a stage, as told by itself. -/
def crashEvents (hasCrashed : Bool) (stage : String) : List Event :=
  if hasCrashed then [.crashed stage] else []

/-- The events of crashed sinks. -/
def sinkEvents {α : Type} (sinks : List (Sink α)) (runs : List (SinkRun α)) : List Event :=
  (sinks.zip runs).filterMap fun p => if p.2.hasCrashed then some (.sinkCrashed p.1.name) else none

/-- Run a pipeline over a source to its end, where `clock` tells when each record is decoded. -/
def run (p : Pipeline) (source : Source) (clock : Nat → Time) : Shutdown :=
  let reading := source.run true p.recordQueues
  let readerCrashed := match reading.ending with
    | .crashed _ => true
    | _ => false
  let (recordQueues, records) := reading.queues.drain 0
  let decoding := decodeAll clock 0 p.decoder p.messageQueues records
  let (summary, decoderCrashed) := match decoding.result with
    | .ok d => (d.summary, false)
    | .error _ => (Summary.zero, true)
  let signals := (signalOf reading.ending).toList ++
    (if decoderCrashed then [.stageCrashed "decoder"] else [])
  let raw := runSinks recordQueues 1 p.rawSinks
  let messages := runSinks decoding.messages 0 p.messageSinks
  { cause := Supervisor.causeOf signals
    summary
    raw
    messages
    reader := reading.events ++ crashEvents readerCrashed "reader"
    decoder := decoding.events ++ crashEvents decoderCrashed "decoder"
    main :=
      (if readerCrashed then [.foundCrashed "reader"] else []) ++
      (if decoderCrashed then [.foundCrashed "decoder"] else []) ++
      sinkEvents p.rawSinks raw ++ sinkEvents p.messageSinks messages }

/-- Why a pipeline cannot be started, if it cannot: the queue of the decoder comes first, then
the sinks in their order. -/
def fault? (p : Pipeline) : Option Crash :=
  (Channel.fault? p.policy.capacity?).or
    ((p.rawSinks.findSome? Sink.fault?).or (p.messageSinks.findSome? Sink.fault?))

/-- Start a pipeline and run it over a source to its end. -/
def start (p : Pipeline) (source : Source) (clock : Nat → Time) : Except Crash Shutdown :=
  match p.fault? with
  | some crash => .error crash
  | none => .ok (p.run source clock)

end Pipeline

end AisFeed
