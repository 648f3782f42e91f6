import AisFeed.Pipeline.Basic
import AisFeed.Queue.Hub

/-!
# Stages

The stages of a pipeline as they run side by side: the reader, the decoder, and the sinks. A
step of a stage is one operation on what it shares with others, or work of its own: the reader
polls the flag that keeps it going, puts a record into one queue, or signals why the source
ended; the decoder and a sink receive an item or go away from their queue. A stage that is done
closes its queues, one after the other. No result means that a stage has to wait, or is done.
-/

set_option autoImplicit false

namespace AisFeed

/-- What all stages share: the flag that keeps the reader going, and the supervisor. -/
structure Control where
  running : Bool
  supervisor : Supervisor
  deriving DecidableEq, Repr

namespace Control

/-- Nothing was signalled yet. -/
def new : Control := ⟨true, .new⟩

/-- Signal why the pipeline ends. -/
def signal (c : Control) (error : Error) : Control :=
  { c with supervisor := c.supervisor.signal error }

/-- Clear the flag, if someone says so. -/
def stopIf (c : Control) (stops : Bool) : Control :=
  { c with running := c.running && !stops }

end Control

/-! ## The reader -/

/-- What the reader is about. -/
inductive ReaderPhase where
  /-- It is to look at the flag. -/
  | polling
  /-- In a reading, of which this much is left. -/
  | reading (left : Reading)
  /-- It puts a record of a reading into the queues. -/
  | handing (record : Record) (tickets : List Nat) (left : Reading)
  | signalling (error : Error)
  | closing (tickets : List Nat) (hasCrashed : Bool)
  /-- It has crashed, and is to signal that. -/
  | reporting
  | done (hasCrashed : Bool)
  deriving DecidableEq, Repr

/-- The stage that reads the source. -/
structure ReaderStage where
  source : Source
  phase : ReaderPhase
  events : List Event
  deriving DecidableEq, Repr

namespace ReaderStage

/-- A reader that is to begin. -/
def new (source : Source) : ReaderStage :=
  ⟨source, .polling, []⟩

/-- Go over to another phase, telling events. -/
def goTo (s : ReaderStage) (phase : ReaderPhase) (told : List Event) : ReaderStage :=
  { s with phase, events := s.events ++ told }

/-- Begin the next reading, if the source comes to one. -/
def read (s : ReaderStage) : ReaderStage :=
  match s.source.readings with
  | reading :: readings =>
    { s with source := { s.source with readings } }.goTo (.reading reading) reading.events
  | [] =>
    if s.source.isIdle then s
    else
      let error := .endOfInput s.source.name
      s.goTo (.signalling error) [.sourceEnded error s.source.name]

/-- Go on after a reading that has handed out its records. -/
def finish (s : ReaderStage) (reading : Reading) (tickets : List Nat) : ReaderStage :=
  match reading.crash, reading.error with
  | some _, _ => s.goTo (.closing tickets true) []
  | none, none => s.goTo .polling []
  | none, some error =>
    if error.isFatal then s.goTo (.signalling error) [.sourceEnded error s.source.name]
    else s.goTo .polling [.readFailed error s.source.name]

/-- One step of the reader. -/
def step (s : ReaderStage) (c : Control) (h : Hub Record) :
    Option (ReaderStage × Control × Hub Record) :=
  match s.phase with
  | .polling =>
    if c.running then some (s.read, c, h) else some (s.goTo (.closing h.tickets false) [], c, h)
  | .reading left =>
    match left.records with
    | r :: records => some (s.goTo (.handing r h.tickets { left with records }) [], c, h)
    | [] => some (s.finish left h.tickets, c.stopIf left.stops, h)
  | .handing _ [] left => some (s.goTo (.reading left) [], c, h)
  | .handing r (ticket :: tickets) left =>
    let (h, told) := h.put ticket r
    some (s.goTo (.handing r tickets left) told, c, h)
  | .signalling error => some (s.goTo (.closing h.tickets false) [], c.signal error, h)
  | .closing (ticket :: tickets) hasCrashed =>
    some (s.goTo (.closing tickets hasCrashed) [], c, h.close ticket)
  | .closing [] true => some (s.goTo .reporting [], c, h)
  | .closing [] false => some (s.goTo (.done false) [], c, h)
  | .reporting =>
    some (s.goTo (.done true) [.crashed "reader"], c.signal (.stageCrashed "reader"), h)
  | .done _ => none

end ReaderStage

/-! ## The decoder -/

/-- What the decoder stage is about. -/
inductive DecoderPhase where
  | receiving
  /-- It puts a message into the queues. -/
  | handing (message : Message) (tickets : List Nat)
  /-- It is to go away from its queue. -/
  | leaving (hasCrashed : Bool)
  /-- It has crashed, and is to signal that. -/
  | reporting
  | closing (tickets : List Nat) (hasCrashed : Bool)
  | done (hasCrashed : Bool)
  deriving Repr

/-- The stage that decodes records. -/
structure DecoderStage where
  decoder : Decoder
  /-- How many records it has received. -/
  count : Nat
  phase : DecoderPhase
  events : List Event

namespace DecoderStage

/-- A decoder that has received nothing. -/
def new (decoder : Decoder) : DecoderStage :=
  ⟨decoder, 0, .receiving, []⟩

/-- Go over to another phase, telling events. -/
def goTo (s : DecoderStage) (phase : DecoderPhase) (told : List Event) : DecoderStage :=
  { s with phase, events := s.events ++ told }

/-- Decode a record that was received. -/
def decode (s : DecoderStage) (clock : Nat → Time) (r : Record) (tickets : List Nat) :
    DecoderStage :=
  let out := s.decoder.process r (clock s.count)
  match out.result with
  | .error _ => { s with count := s.count + 1 }.goTo (.leaving true) out.events
  | .ok (decoder, none) => { s with decoder, count := s.count + 1 }.goTo .receiving out.events
  | .ok (decoder, some message) =>
    { s with decoder, count := s.count + 1 }.goTo (.handing message tickets) out.events

/-- One step of the decoder, whose queue has the first ticket. Records come from one hub, and
messages go into another. -/
def step (clock : Nat → Time) (s : DecoderStage) (c : Control) (records : Hub Record)
    (messages : Hub Message) : Option (DecoderStage × Control × Hub Record × Hub Message) :=
  match s.phase with
  | .receiving =>
    match records.receive 0 with
    | none => none
    | some (records, none) => some (s.goTo (.leaving false) [], c, records, messages)
    | some (records, some r) => some (s.decode clock r messages.tickets, c, records, messages)
  | .handing _ [] => some (s.goTo .receiving [], c, records, messages)
  | .handing message (ticket :: tickets) =>
    let (messages, told) := messages.put ticket message
    some (s.goTo (.handing message tickets) told, c, records, messages)
  | .leaving true => some (s.goTo .reporting [], c, records.leave 0, messages)
  | .leaving false =>
    some (s.goTo (.closing messages.tickets false) [], c, records.leave 0, messages)
  | .reporting =>
    some (s.goTo (.closing messages.tickets true) [.crashed "decoder"],
      c.signal (.stageCrashed "decoder"), records, messages)
  | .closing (ticket :: tickets) hasCrashed =>
    some (s.goTo (.closing tickets hasCrashed) [], c, records, messages.close ticket)
  | .closing [] hasCrashed => some (s.goTo (.done hasCrashed) [], c, records, messages)
  | .done _ => none

/-- What the decoder has counted, which is lost in a crash. -/
def summary (s : DecoderStage) : Summary :=
  match s.phase with
  | .done true => .zero
  | _ => s.decoder.summary

end DecoderStage

/-! ## Sinks -/

/-- What a sink stage is about. -/
inductive SinkPhase where
  | receiving
  /-- It is to go away from its queue, and to flush unless it has crashed. -/
  | leaving
  | done
  deriving DecidableEq, Repr

/-- The stage of a sink. -/
structure SinkStage (α : Type) where
  sink : Sink α
  /-- What it has done so far. -/
  run : SinkRun α
  phase : SinkPhase

namespace SinkStage

variable {α : Type}

/-- A sink that was handed nothing. -/
def new (sink : Sink α) : SinkStage α :=
  ⟨sink, ⟨[], [], false, false, []⟩, .receiving⟩

/-- Hand an item to the sink. -/
def accept (s : SinkStage α) (a : α) : SinkStage α :=
  let run := { s.run with handed := s.run.handed ++ [a] }
  match s.sink.accept s.run.handed a with
  | .kept => { s with run := { run with kept := run.kept ++ [a] } }
  | .refused error =>
    { s with run := { run with events := run.events ++ [.refused error s.sink.name] } }
  | .crashed _ => { s with run := { run with hasCrashed := true }, phase := .leaving }

/-- Flush the sink, unless it has crashed. -/
def flush (s : SinkStage α) : SinkRun α :=
  if s.run.hasCrashed then s.run
  else
    let told := match s.sink.flush s.run.handed with
      | none => []
      | some error => [.unflushed error s.sink.name]
    { s.run with isFlushed := true, events := s.run.events ++ told }

/-- One step of a sink whose queue has the ticket. -/
def step (s : SinkStage α) (ticket : Nat) (h : Hub α) : Option (SinkStage α × Hub α) :=
  match s.phase with
  | .receiving =>
    match h.receive ticket with
    | none => none
    | some (h, none) => some ({ s with phase := .leaving }, h)
    | some (h, some a) => some (s.accept a, h)
  | .leaving => some ({ s with run := s.flush, phase := .done }, h.leave ticket)
  | .done => none

end SinkStage

end AisFeed
