import AisFeed.Pipeline.Stages

/-!
# Schedules

A pipeline whose stages run side by side, in any order of their steps. Who started it waits for
the first signal, clears the flag that keeps the reader going, waits for all stages, and returns.
`Pipeline.run` is what comes of one of the orders: first the source, then the decoder, then the
sinks.
-/

set_option autoImplicit false

namespace AisFeed

/-- What the one who started a pipeline is about. -/
inductive MainPhase where
  /-- He waits for a signal. -/
  | waiting
  | stopping (cause : Error)
  /-- He waits for the stages. -/
  | joining (cause : Error)
  | returned (cause : Error)
  deriving DecidableEq, Repr

/-- A pipeline that runs. -/
structure System where
  control : Control
  reader : ReaderStage
  records : Hub Record
  decoder : DecoderStage
  messages : Hub Message
  rawSinks : List (SinkStage Record)
  messageSinks : List (SinkStage Message)
  main : MainPhase

/-- Who makes a step. -/
inductive Agent where
  | reader
  | decoder
  | rawSink (n : Nat)
  | messageSink (n : Nat)
  | main
  deriving DecidableEq, Repr

namespace System

/-- All stages are at their beginning. -/
def new (p : Pipeline) (source : Source) : System where
  control := .new
  reader := .new source
  records := .ofDistributor p.recordQueues
  decoder := .new p.decoder
  messages := .ofDistributor p.messageQueues
  rawSinks := p.rawSinks.map .new
  messageSinks := p.messageSinks.map .new
  main := .waiting

/-- Have all stages come to their ends? -/
def isOver (s : System) : Bool :=
  (match s.reader.phase with | .done _ => true | _ => false) &&
  (match s.decoder.phase with | .done _ => true | _ => false) &&
  s.rawSinks.all (·.phase = .done) && s.messageSinks.all (·.phase = .done)

/-- Can no one signal any more? The reader can until it is done, and the decoder until it closes
its queues. -/
def isDisconnected (s : System) : Bool :=
  (match s.reader.phase with | .done _ => true | _ => false) &&
  (match s.decoder.phase with | .closing .. | .done _ => true | _ => false)

/-- One step of the one who started the pipeline. -/
def stepMain (s : System) : Option System :=
  match s.main with
  | .waiting =>
    if s.control.supervisor.cause?.isSome || s.isDisconnected then
      some { s with main := .stopping s.control.supervisor.cause }
    else none
  | .stopping cause => some { s with control := s.control.stopIf true, main := .joining cause }
  | .joining cause => if s.isOver then some { s with main := .returned cause } else none
  | .returned _ => none

/-- What a step of the one who started the pipeline can be. -/
theorem stepMain_cases {s s' : System} (step : s.stepMain = some s') :
    (s.main = .waiting ∧
        (s.control.supervisor.cause?.isSome = true ∨ s.isDisconnected = true) ∧
        s' = { s with main := .stopping s.control.supervisor.cause }) ∨
      (∃ cause, s.main = .stopping cause ∧
        s' = { s with control := s.control.stopIf true, main := .joining cause }) ∨
      ∃ cause, s.main = .joining cause ∧ s.isOver = true ∧
        s' = { s with main := .returned cause } := by
  unfold stepMain at step
  split at step
  · rename_i phase
    split at step <;> cases step
    rename_i told
    exact .inl ⟨phase, by simpa using told, rfl⟩
  · rename_i cause phase
    cases step
    exact .inr (.inl ⟨cause, phase, rfl⟩)
  · rename_i cause phase
    split at step <;> cases step
    rename_i finished
    exact .inr (.inr ⟨cause, phase, finished, rfl⟩)
  · cases step

/-- One step, if the one whose turn it is can make one. -/
def step? (clock : Nat → Time) (s : System) : Agent → Option System
  | .reader =>
    (s.reader.step s.control s.records).map fun (reader, control, records) =>
      { s with reader, control, records }
  | .decoder =>
    (s.decoder.step clock s.control s.records s.messages).map
      fun (decoder, control, records, messages) => { s with decoder, control, records, messages }
  | .rawSink n =>
    (s.rawSinks[n]?.bind fun stage => stage.step (n + 1) s.records).map fun (stage, records) =>
      { s with rawSinks := s.rawSinks.set n stage, records }
  | .messageSink n =>
    (s.messageSinks[n]?.bind fun stage => stage.step n s.messages).map fun (stage, messages) =>
      { s with messageSinks := s.messageSinks.set n stage, messages }
  | .main => s.stepMain

/-- One turn. Who cannot make a step waits. -/
def turn (clock : Nat → Time) (s : System) (agent : Agent) : System :=
  (s.step? clock agent).getD s

/-- Turns in the order of a schedule. -/
def run (clock : Nat → Time) (s : System) (schedule : List Agent) : System :=
  schedule.foldl (turn clock) s

/-- What has become of the pipeline, once it has returned. -/
def shutdown? (s : System) : Option Shutdown :=
  match s.main with
  | .returned cause =>
    let raw := s.rawSinks.map (·.run)
    let messages := s.messageSinks.map (·.run)
    some
      { cause
        summary := s.decoder.summary
        raw
        messages
        reader := s.reader.events
        decoder := s.decoder.events
        main :=
          (if s.reader.phase = .done true then [.foundCrashed "reader"] else []) ++
          (match s.decoder.phase with | .done true => [.foundCrashed "decoder"] | _ => []) ++
          Pipeline.sinkEvents (s.rawSinks.map (·.sink)) raw ++
          Pipeline.sinkEvents (s.messageSinks.map (·.sink)) messages }
  | _ => none

end System

/-- Start the stages of a pipeline. -/
def Pipeline.launch (p : Pipeline) (source : Source) : Except Crash System :=
  match p.fault? with
  | some crash => .error crash
  | none => .ok (.new p source)

theorem Pipeline.eq_new_of_launch {p : Pipeline} {source : Source} {start : System}
    (launched : p.launch source = .ok start) : start = .new p source := by
  unfold launch at launched
  split at launched <;> cases launched
  rfl

end AisFeed
