import AisFeed.Pipeline.Codecs
import AisFeed.Proofs.Pipeline.Sequence
import AisFeed.Proofs.Pipeline.Sinks

/-!
# How often sinks are flushed

The stage of a sink flushes it in the step that takes it from `leaving` to `done`, if it has not
crashed (`SinkStage.step`). `System.flushCount` counts these steps in a run. A sink that does not
crash is flushed once in every run that gets it to its end.
-/

set_option autoImplicit false

namespace AisFeed

variable {α : Type}

/-! ## One sink -/

namespace SinkStage

/-- Does the next step flush the sink? -/
def isFlushing (s : SinkStage α) : Bool :=
  s.phase = .leaving && !s.run.hasCrashed

/-- How many flushes are still to come. -/
def flushesLeft (s : SinkStage α) : Nat :=
  if s.phase = .done then 0 else 1

/-- A sink that has not crashed and will not. -/
structure IsCalm (s : SinkStage α) : Prop where
  sink : s.sink.IsCalm
  run : s.run.hasCrashed = false

variable {s s' : SinkStage α} {h h' : Hub α} {ticket : Nat}

/-- One step of a sink: it flushes, or it has as many flushes before it as it had. -/
theorem IsCalm.step (calm : s.IsCalm) (step : s.step ticket h = some (s', h')) :
    s'.IsCalm ∧ s.isFlushing.toNat + s'.flushesLeft = s.flushesLeft := by
  obtain ⟨sink, run⟩ := calm
  cases phase : s.phase with
  | receiving =>
    rw [SinkStage.step, phase] at step
    dsimp only at step
    split at step
    · cases step
    · cases step
      exact ⟨⟨sink, run⟩, by simp [isFlushing, flushesLeft, phase]⟩
    · rename_i a _
      cases step
      obtain ⟨same, none⟩ := accept_of_calm sink a
      refine ⟨⟨(sink_accept s a).symm ▸ sink, none.trans run⟩, ?_⟩
      simp [isFlushing, flushesLeft, same, phase]
  | leaving =>
    rw [SinkStage.step, phase] at step
    cases step
    refine ⟨⟨sink, ?_⟩, by simp [isFlushing, flushesLeft, phase, run]⟩
    simp [flush, run]
  | done =>
    rw [SinkStage.step, phase] at step
    cases step

/-- A sink that is to be flushed does not wait. -/
theorem isFlushing_of_stuck (stuck : s.step ticket h = none) : s.isFlushing = false := by
  unfold isFlushing
  cases phase : s.phase with
  | leaving =>
    rw [SinkStage.step, phase] at stuck
    cases stuck
  | receiving | done => rfl

/-- How many flushes of the sink at a place are still to come. -/
def flushesLeftAt (stages : List (SinkStage α)) (n : Nat) : Nat :=
  (stages[n]?.map flushesLeft).getD 0

theorem flushesLeftAt_new {sinks : List (Sink α)} {n : Nat} (inside : n < sinks.length) :
    flushesLeftAt (sinks.map .new) n = 1 := by
  rw [flushesLeftAt, List.getElem?_map, List.getElem?_eq_getElem inside]
  rfl

theorem flushesLeftAt_of_done {stages : List (SinkStage α)}
    (done : ∀ stage ∈ stages, stage.phase = .done) (n : Nat) : flushesLeftAt stages n = 0 := by
  unfold flushesLeftAt
  cases here : stages[n]? with
  | none => rfl
  | some stage =>
    rw [Option.map_some, Option.getD_some, flushesLeft,
      if_pos (done stage (List.mem_of_getElem? here))]

/-- One step of one of the sinks: only it can flush. -/
theorem flushesLeftAt_set {stages : List (SinkStage α)} (calm : ∀ stage ∈ stages, stage.IsCalm)
    {n : Nat} (here : stages[n]? = some s) (step : s.step ticket h = some (s', h')) (m : Nat) :
    (decide (n = m) && stages[m]?.any isFlushing).toNat + flushesLeftAt (stages.set n s') m =
      flushesLeftAt stages m := by
  obtain ⟨-, count⟩ := (calm s (List.mem_of_getElem? here)).step step
  unfold flushesLeftAt
  by_cases same : n = m
  · subst same
    obtain ⟨inside, -⟩ := List.getElem?_eq_some_iff.1 here
    rw [List.getElem?_set_self inside, here]
    simpa using count
  · rw [List.getElem?_set_ne same]
    simp [same]

theorem isCalm_set {stages : List (SinkStage α)} (calm : ∀ stage ∈ stages, stage.IsCalm)
    {n : Nat} (here : stages[n]? = some s) (step : s.step ticket h = some (s', h')) :
    ∀ stage ∈ stages.set n s', stage.IsCalm := by
  intro stage mem
  obtain mem | rfl := List.mem_or_eq_of_mem_set mem
  · exact calm stage mem
  · exact ((calm s (List.mem_of_getElem? here)).step step).1

end SinkStage

/-! ## All sinks of a pipeline -/

namespace System

/-- Is it the turn of a sink that is flushed now? -/
def flushes (s : System) : Agent → Bool
  | .rawSink n => s.rawSinks[n]?.any (·.isFlushing)
  | .messageSink n => s.messageSinks[n]?.any (·.isFlushing)
  | .reader | .decoder | .main => false

/-- How often an agent flushes in a run. -/
def flushCount (codecs : Nat → Codec) (clock : Nat → Time) (agent : Agent) :
    System → List Agent → Nat
  | _, [] => 0
  | s, next :: rest =>
    (next = agent && s.flushes agent).toNat +
      flushCount codecs clock agent (s.turnWith codecs clock next) rest

/-- How many flushes of an agent are still to come. -/
def flushesLeft (s : System) : Agent → Nat
  | .rawSink n => SinkStage.flushesLeftAt s.rawSinks n
  | .messageSink n => SinkStage.flushesLeftAt s.messageSinks n
  | .reader | .decoder | .main => 0

/-- No sink has crashed, and none will. -/
structure HasCalmSinks (s : System) : Prop where
  raw : ∀ stage ∈ s.rawSinks, stage.IsCalm
  messages : ∀ stage ∈ s.messageSinks, stage.IsCalm

variable {codecs : Nat → Codec} {clock : Nat → Time} {s s' : System}

/-- A step of anyone but a sink leaves the sinks alone. -/
theorem sinks_of_step {agent : Agent} (step : s.step? clock agent = some s')
    (raw : ∀ n, agent ≠ .rawSink n) (messages : ∀ n, agent ≠ .messageSink n) :
    s'.rawSinks = s.rawSinks ∧ s'.messageSinks = s.messageSinks := by
  cases agent with
  | reader | decoder =>
    obtain ⟨_, _, rfl⟩ := Option.map_eq_some_iff.1 step
    exact ⟨rfl, rfl⟩
  | rawSink n => exact absurd rfl (raw n)
  | messageSink n => exact absurd rfl (messages n)
  | main =>
    obtain ⟨-, -, rfl⟩ | ⟨_, -, rfl⟩ | ⟨_, -, -, rfl⟩ := stepMain_cases step <;> exact ⟨rfl, rfl⟩

/-- One step: who flushes has one flush less before him. -/
theorem HasCalmSinks.step (calm : s.HasCalmSinks) {next : Agent}
    (step : s.step? clock next = some s') (agent : Agent) :
    s'.HasCalmSinks ∧
      (decide (next = agent) && s.flushes agent).toNat + s'.flushesLeft agent =
        s.flushesLeft agent := by
  obtain ⟨raw, messages⟩ := calm
  cases next with
  | rawSink n =>
    obtain ⟨⟨stage', records'⟩, made, rfl⟩ := Option.map_eq_some_iff.1 step
    obtain ⟨stage, here, made⟩ := Option.bind_eq_some_iff.1 made
    refine ⟨⟨SinkStage.isCalm_set raw here made, messages⟩, ?_⟩
    cases agent with
    | rawSink m => simpa [flushes, flushesLeft] using SinkStage.flushesLeftAt_set raw here made m
    | messageSink m => simp [flushesLeft]
    | reader | decoder | main => rfl
  | messageSink n =>
    obtain ⟨⟨stage', messages'⟩, made, rfl⟩ := Option.map_eq_some_iff.1 step
    obtain ⟨stage, here, made⟩ := Option.bind_eq_some_iff.1 made
    refine ⟨⟨raw, SinkStage.isCalm_set messages here made⟩, ?_⟩
    cases agent with
    | messageSink m =>
      simpa [flushes, flushesLeft] using SinkStage.flushesLeftAt_set messages here made m
    | rawSink m => simp [flushesLeft]
    | reader | decoder | main => rfl
  | reader | decoder | main =>
    obtain ⟨same, same'⟩ := sinks_of_step step nofun nofun
    refine ⟨⟨same ▸ raw, same' ▸ messages⟩, ?_⟩
    cases agent <;> simp [flushes, flushesLeft, same, same']

theorem flushes_of_stuck {agent : Agent} (stuck : s.step? clock agent = none) :
    s.flushes agent = false := by
  cases agent with
  | rawSink n =>
    rw [step?, Option.map_eq_none_iff] at stuck
    cases here : s.rawSinks[n]? with
    | none => simp [flushes, here]
    | some stage =>
      rw [here, Option.bind_some] at stuck
      simp [flushes, here, SinkStage.isFlushing_of_stuck stuck]
  | messageSink n =>
    rw [step?, Option.map_eq_none_iff] at stuck
    cases here : s.messageSinks[n]? with
    | none => simp [flushes, here]
    | some stage =>
      rw [here, Option.bind_some] at stuck
      simp [flushes, here, SinkStage.isFlushing_of_stuck stuck]
  | reader | decoder | main => rfl

theorem HasCalmSinks.turnWith (calm : s.HasCalmSinks) (next agent : Agent) :
    (s.turnWith codecs clock next).HasCalmSinks ∧
      (decide (next = agent) && s.flushes agent).toNat +
        (s.turnWith codecs clock next).flushesLeft agent = s.flushesLeft agent := by
  have same : HasCalmSinks { s with decoder := s.decoder.withCodec codecs } :=
    ⟨calm.raw, calm.messages⟩
  rw [System.turnWith, turn]
  cases step : step? clock { s with decoder := s.decoder.withCodec codecs } next with
  | some s' => exact same.step step agent
  | none =>
    refine ⟨same, ?_⟩
    have stuck : s.flushes next = false := by
      have waits := flushes_of_stuck step
      exact waits
    by_cases is : next = agent
    · subst is
      rw [stuck, Bool.and_false]
      exact Nat.zero_add _
    · rw [decide_eq_false is, Bool.false_and]
      exact Nat.zero_add _

/-- The flushes in a run are those that were to come and are not to come any more. -/
theorem HasCalmSinks.flushCount (calm : s.HasCalmSinks) (agent : Agent) (schedule : List Agent) :
    System.flushCount codecs clock agent s schedule +
        (s.runWith codecs clock schedule).flushesLeft agent = s.flushesLeft agent := by
  induction schedule generalizing s with
  | nil => exact Nat.zero_add _
  | cons next rest ih =>
    obtain ⟨calm, count⟩ := @HasCalmSinks.turnWith codecs clock s calm next agent
    rw [System.flushCount, ← count, ← ih calm, Nat.add_assoc]
    rfl

theorem hasCalmSinks_new {p : Pipeline} (raw : ∀ sink ∈ p.rawSinks, sink.IsCalm)
    (messages : ∀ sink ∈ p.messageSinks, sink.IsCalm) (source : Source) :
    (new p source).HasCalmSinks := by
  constructor
  · intro stage mem
    obtain ⟨sink, inside, rfl⟩ := List.mem_map.1 mem
    exact ⟨raw sink inside, rfl⟩
  · intro stage mem
    obtain ⟨sink, inside, rfl⟩ := List.mem_map.1 mem
    exact ⟨messages sink inside, rfl⟩

/-- **Every sink is flushed once** in a run that gets all stages to their ends, if none crashes. -/
theorem flushCount_eq_one {p : Pipeline} (raw : ∀ sink ∈ p.rawSinks, sink.IsCalm)
    (messages : ∀ sink ∈ p.messageSinks, sink.IsCalm) {source : Source} {schedule : List Agent}
    (finished : ((new p source).runWith codecs clock schedule).isOver = true) :
    (∀ n < p.rawSinks.length, flushCount codecs clock (.rawSink n) (new p source) schedule = 1) ∧
      ∀ n < p.messageSinks.length,
        flushCount codecs clock (.messageSink n) (new p source) schedule = 1 := by
  have calm := hasCalmSinks_new raw messages source
  obtain ⟨-, -, rawDone, messagesDone⟩ := isOver_iff.1 finished
  refine ⟨fun n inside => ?_, fun n inside => ?_⟩
  · have count := @HasCalmSinks.flushCount codecs clock _ calm (.rawSink n) schedule
    rw [flushesLeft, SinkStage.flushesLeftAt_of_done rawDone] at count
    exact count.trans (SinkStage.flushesLeftAt_new inside)
  · have count := @HasCalmSinks.flushCount codecs clock _ calm (.messageSink n) schedule
    rw [flushesLeft, SinkStage.flushesLeftAt_of_done messagesDone] at count
    exact count.trans (SinkStage.flushesLeftAt_new inside)

end System

end AisFeed
