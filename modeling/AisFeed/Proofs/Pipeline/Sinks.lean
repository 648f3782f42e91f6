import AisFeed.Pipeline.Stages
import AisFeed.Proofs.Queue.Unbounded

/-!
# What a sink is handed

A sink is handed items in order, each once, up to the first one on which it crashes, and it is
flushed after the last unless it has crashed (`Sink.isServed_run`). A sink that takes its items
from a hub, one at a time and whenever it gets its turn, ends with the same run as one that is
handed all of them at once: `SinkStage.Attends` holds from step to step.
-/

set_option autoImplicit false

namespace AisFeed

variable {α : Type}

/-- What it means that a sink, after some items, was handed others. -/
structure Sink.IsServed (s : Sink α) (before items : List α) (run : SinkRun α) : Prop where
  inOrder : run.handed <+: items
  complete : run.hasCrashed = false → run.handed = items
  /-- If it crashed, it did so on the last item that it was handed. -/
  crash : run.hasCrashed = true →
    ∃ earlier a text, run.handed = earlier ++ [a] ∧ s.accept (before ++ earlier) a = .crashed text
  /-- If it crashes on an item, then it is handed nothing more. -/
  last : ∀ earlier a later text, run.handed = earlier ++ a :: later →
    s.accept (before ++ earlier) a = .crashed text → later = [] ∧ run.hasCrashed = true
  flushed : run.isFlushed = !run.hasCrashed

/-- The run with one more item before the others. -/
theorem Sink.IsServed.cons {s : Sink α} {before items : List α} {run run' : SinkRun α} {a : α}
    (served : s.IsServed (before ++ [a]) items run)
    (calm : ∀ text, s.accept before a ≠ .crashed text)
    (handed : run'.handed = a :: run.handed) (hasCrashed : run'.hasCrashed = run.hasCrashed)
    (isFlushed : run'.isFlushed = run.isFlushed) : s.IsServed before (a :: items) run' where
  inOrder := by
    rw [handed]
    exact List.cons_prefix_cons.2 ⟨rfl, served.inOrder⟩
  complete := by
    rw [handed, hasCrashed]
    exact fun none => congrArg (a :: ·) (served.complete none)
  crash := by
    rw [handed, hasCrashed]
    intro crashed
    obtain ⟨earlier, b, text, split, crash⟩ := served.crash crashed
    rw [List.append_assoc] at crash
    exact ⟨a :: earlier, b, text, by rw [split, List.cons_append], crash⟩
  last := by
    rw [handed, hasCrashed]
    intro earlier b later text split crash
    cases earlier with
    | nil =>
      cases split
      rw [List.append_nil] at crash
      exact absurd crash (calm text)
    | cons c earlier =>
      injection split with same tail
      subst same
      refine served.last earlier b later text tail ?_
      rwa [List.append_assoc]
  flushed := by rw [isFlushed, hasCrashed, served.flushed]

theorem Sink.isServed_runFrom (s : Sink α) (before items : List α) :
    s.IsServed before items (s.runFrom before items) := by
  induction items generalizing before with
  | nil =>
    refine ⟨List.nil_prefix, fun _ => rfl, fun crashed => Bool.noConfusion crashed, ?_, rfl⟩
    intro earlier a later text split
    have short := congrArg List.length split
    simp [runFrom] at short
  | cons a rest ih =>
    unfold runFrom
    split
    · rename_i text crash
      refine ⟨List.cons_prefix_cons.2 ⟨rfl, List.nil_prefix⟩, fun calm => Bool.noConfusion calm,
        fun _ => ⟨[], a, text, rfl, by rwa [List.append_nil]⟩, ?_, rfl⟩
      intro earlier b later text' split _
      have short := congrArg List.length split
      simp at short
      exact ⟨List.eq_nil_of_length_eq_zero (by omega), rfl⟩
    · rename_i keeps
      exact (ih (before ++ [a])).cons (by simp [keeps]) rfl rfl rfl
    · rename_i error refuses
      exact (ih (before ++ [a])).cons (by simp [refuses]) rfl rfl rfl

theorem Sink.isServed_run (s : Sink α) (items : List α) : s.IsServed [] items (s.run items) :=
  s.isServed_runFrom [] items

/-- A run that goes on with another one. -/
def SinkRun.goOn (run later : SinkRun α) : SinkRun α :=
  ⟨run.handed ++ later.handed, run.kept ++ later.kept, later.hasCrashed, later.isFlushed,
    run.events ++ later.events⟩

namespace SinkStage

/-- A sink that receives has neither crashed nor been flushed. -/
structure IsReceiving (s : SinkStage α) : Prop where
  phase : s.phase = .receiving
  calm : s.run.hasCrashed = false
  unflushed : s.run.isFlushed = false

/-- What a sink that receives will have done, if it is handed more items before it comes to its
end. -/
def outlook (s : SinkStage α) (rest : List α) : SinkRun α :=
  s.run.goOn (s.sink.runFrom s.run.handed rest)

variable {s s' : SinkStage α} {a : α}

theorem isReceiving_new (sink : Sink α) : (new sink).IsReceiving :=
  ⟨rfl, rfl, rfl⟩

theorem outlook_new (sink : Sink α) (items : List α) :
    (new sink).outlook items = sink.run items := by
  simp [outlook, new, SinkRun.goOn, Sink.run]

theorem sink_accept (s : SinkStage α) (a : α) : (s.accept a).sink = s.sink := by
  unfold accept
  split <;> rfl

/-- A sink that is handed an item goes on, or has crashed on it. Its outlook stays the same. -/
theorem accept_cases (receiving : s.IsReceiving) (a : α) :
    ((s.accept a).IsReceiving ∧ (s.accept a).run.handed = s.run.handed ++ [a] ∧
        ∀ rest, (s.accept a).outlook rest = s.outlook (a :: rest)) ∨
      ((s.accept a).phase = .leaving ∧ ∀ rest, (s.accept a).flush = s.outlook (a :: rest)) := by
  obtain ⟨phase, calm, unflushed⟩ := receiving
  unfold accept outlook
  split
  · rename_i keeps
    refine .inl ⟨⟨phase, calm, unflushed⟩, rfl, fun rest => ?_⟩
    rw [Sink.runFrom, keeps]
    simp [SinkRun.goOn]
  · rename_i error refuses
    refine .inl ⟨⟨phase, calm, unflushed⟩, rfl, fun rest => ?_⟩
    rw [Sink.runFrom, refuses]
    simp [SinkRun.goOn]
  · rename_i text crashes
    refine .inr ⟨rfl, fun rest => ?_⟩
    rw [Sink.runFrom, crashes]
    simp [flush, SinkRun.goOn, unflushed]

theorem flush_eq_outlook (receiving : s.IsReceiving) : s.flush = s.outlook [] := by
  obtain ⟨-, calm, -⟩ := receiving
  rw [outlook, flush, if_neg (by simp [calm]), Sink.runFrom]
  cases s.sink.flush s.run.handed <;> simp [SinkRun.goOn, calm]

/-- The stage of a sink is on its way to having been handed all items: it will end as a sink that
is handed them at once. -/
inductive Attends (h : Hub α) (ticket : Nat) (coming all : List α) (s : SinkStage α) : Prop
  | receiving (receiving : s.IsReceiving) (serves : h.Serves ticket s.run.handed coming all)
      (goesOn : ∀ rest, s.sink.run (s.run.handed ++ rest) = s.outlook rest)
  | leaving (phase : s.phase = .leaving) (run : s.flush = s.sink.run all)
  | done (phase : s.phase = .done) (run : s.run = s.sink.run all)

variable {h h' : Hub α} {ticket : Nat} {coming coming' all : List α}

/-- What others do with the hub may change what is still to come, if it serves the sink as it
did. -/
theorem Attends.mono (attends : s.Attends h ticket coming all)
    (serves : ∀ taken, h.Serves ticket taken coming all → h'.Serves ticket taken coming' all) :
    s.Attends h' ticket coming' all := by
  cases attends with
  | receiving receiving here goesOn => exact .receiving receiving (serves _ here) goesOn
  | leaving phase run => exact .leaving phase run
  | done phase run => exact .done phase run

theorem attends_new (sink : Sink α) (serves : h.Serves ticket [] coming all) :
    (new sink).Attends h ticket coming all :=
  .receiving (isReceiving_new sink) serves fun rest => (outlook_new sink rest).symm

/-- A sink that takes an item goes on, or has crashed on it. -/
theorem attends_accept (receiving : s.IsReceiving)
    (serves : h.Serves ticket (s.run.handed ++ [a]) coming all)
    (goesOn : ∀ rest, s.sink.run (s.run.handed ++ rest) = s.outlook rest) :
    (s.accept a).Attends h ticket coming all := by
  obtain ⟨receiving, handed, same⟩ | ⟨phase, same⟩ := accept_cases receiving a
  · refine .receiving receiving (handed ▸ serves) fun rest => ?_
    rw [handed, sink_accept, List.append_assoc, same]
    exact goesOn (a :: rest)
  · obtain ⟨waiting, -, total⟩ := serves.queue
    refine .leaving phase ?_
    rw [← total, sink_accept, same, List.append_assoc, List.append_assoc]
    exact (goesOn (a :: (waiting ++ coming))).symm

/-- One step of a sink: it stays on its way, and other consumers are served as they were. -/
theorem Attends.step (attends : s.Attends h ticket coming all)
    (step : s.step ticket h = some (s', h')) :
    s'.Attends h' ticket coming all ∧ s'.sink = s.sink ∧
      ∀ other ≠ ticket, ∀ taken coming all, h.Serves other taken coming all →
        h'.Serves other taken coming all := by
  cases attends with
  | receiving receiving serves goesOn =>
    rw [SinkStage.step, receiving.phase] at step
    dsimp only at step
    cases got : h.receive ticket with
    | none =>
      rw [got] at step
      cases step
    | some result =>
      obtain ⟨next, item⟩ := result
      rw [got] at step
      have frame (other : Nat) (ne : other ≠ ticket) (taken coming all : List α)
          (serves : h.Serves other taken coming all) : next.Serves other taken coming all :=
        serves.receive_of_ne (Ne.symm ne) got
      cases item with
      | none =>
        cases step
        obtain ⟨rfl, took⟩ := serves.receive_none got
        refine ⟨.leaving rfl ?_, rfl, frame⟩
        have ended := goesOn []
        rw [List.append_nil, took, ← flush_eq_outlook receiving] at ended
        exact ended.symm
      | some a =>
        cases step
        exact ⟨attends_accept receiving (serves.receive got) goesOn, sink_accept s a, frame⟩
  | leaving phase run =>
    rw [SinkStage.step, phase] at step
    cases step
    exact ⟨.done rfl run, rfl, fun other ne _ _ _ serves => serves.leave_of_ne (Ne.symm ne)⟩
  | done phase run =>
    rw [SinkStage.step, phase] at step
    cases step

/-! ## All sinks of a hub -/

/-- Sinks are on their way to having been handed all items, where the first has the ticket
`first`. -/
structure AllAttend (h : Hub α) (first : Nat) (coming : Nat → List α) (all : List α)
    (sinks : List (Sink α)) (stages : List (SinkStage α)) : Prop where
  same : stages.map (·.sink) = sinks
  attends : ∀ (n : Nat) (stage : SinkStage α), stages[n]? = some stage →
    stage.Attends h (n + first) (coming (n + first)) all

variable {first : Nat} {each each' : Nat → List α} {sinks : List (Sink α)}
  {stages : List (SinkStage α)}

theorem AllAttend.mono (attend : AllAttend h first each all sinks stages)
    (serves : ∀ ticket, first ≤ ticket → ∀ taken, h.Serves ticket taken (each ticket) all →
      h'.Serves ticket taken (each' ticket) all) :
    AllAttend h' first each' all sinks stages :=
  ⟨attend.same, fun n stage here =>
    (attend.attends n stage here).mono (serves (n + first) (Nat.le_add_left first n))⟩

theorem allAttend_new (sinks : List (Sink α))
    (serves : ∀ n < sinks.length, h.Serves (n + first) [] (each (n + first)) all) :
    AllAttend h first each all sinks (sinks.map .new) := by
  refine ⟨(List.map_map ..).trans (List.map_id sinks), fun n stage here => ?_⟩
  rw [List.getElem?_map, Option.map_eq_some_iff] at here
  obtain ⟨sink, here, rfl⟩ := here
  exact attends_new sink (serves n (List.getElem?_eq_some_iff.1 here).1)

/-- One step of one of the sinks. -/
theorem AllAttend.step (attend : AllAttend h first each all sinks stages) {n : Nat}
    (here : stages[n]? = some s) (step : s.step (n + first) h = some (s', h')) :
    AllAttend h' first each all sinks (stages.set n s') ∧
      ∀ other ≠ n + first, ∀ taken coming all, h.Serves other taken coming all →
        h'.Serves other taken coming all := by
  obtain ⟨attends, sink, frame⟩ := (attend.attends n s here).step step
  refine ⟨⟨?_, fun m stage there => ?_⟩, frame⟩
  · have kept : (stages.map (·.sink))[n]? = some s'.sink := by
      rw [List.getElem?_map, here, Option.map_some, sink]
    obtain ⟨_, same⟩ := List.getElem?_eq_some_iff.1 kept
    rw [List.map_set, ← same, List.set_getElem_self, attend.same]
  · rw [List.getElem?_set] at there
    split at there
    · rename_i same
      split at there
      · cases there
        exact same ▸ attends
      · cases there
    · rename_i ne
      exact (attend.attends m stage there).mono fun taken => frame _ (by omega) taken _ all

/-- Sinks that are done were handed all items. -/
theorem AllAttend.run_of_done (attend : AllAttend h first each all sinks stages)
    (done : ∀ stage ∈ stages, stage.phase = .done) :
    stages.map (·.run) = sinks.map fun sink => sink.run all := by
  rw [← attend.same, List.map_map]
  refine List.map_congr_left fun stage mem => ?_
  obtain ⟨n, here⟩ := List.mem_iff_getElem?.1 mem
  cases attend.attends n stage here with
  | done phase run => exact run
  | receiving receiving => exact absurd (receiving.phase.symm.trans (done stage mem)) (by simp)
  | leaving phase => exact absurd (phase.symm.trans (done stage mem)) (by simp)

end SinkStage

/-! ## Sinks that do not crash -/

/-- A sink that never crashes. -/
def Sink.IsCalm (s : Sink α) : Prop :=
  ∀ before a text, s.accept before a ≠ .crashed text

theorem Sink.isCalm_toChannel (name : String) (isAttended : Bool) :
    (toChannel name isAttended : Sink α).IsCalm := by
  intro before a text crash
  cases isAttended <;> cases crash

/-- A sink that never crashes is handed everything, and is flushed then. -/
theorem Sink.IsCalm.run {s : Sink α} (calm : s.IsCalm) (items : List α) :
    (s.run items).handed = items ∧ (s.run items).isFlushed = true ∧
      (s.run items).hasCrashed = false := by
  have served := s.isServed_run items
  have none : (s.run items).hasCrashed = false := by
    cases crashed : (s.run items).hasCrashed with
    | false => rfl
    | true =>
      obtain ⟨earlier, a, text, -, crash⟩ := served.crash crashed
      exact absurd crash (calm _ a text)
  exact ⟨served.complete none, by rw [served.flushed, none]; rfl, none⟩

namespace SinkStage

variable {s s' : SinkStage α} {h h' : Hub α} {ticket first : Nat} {coming coming' all : List α}
  {each each' : Nat → List α} {sinks : List (Sink α)} {stages : List (SinkStage α)}

theorem accept_of_calm (calm : s.sink.IsCalm) (a : α) :
    (s.accept a).phase = s.phase ∧ (s.accept a).run.hasCrashed = s.run.hasCrashed := by
  unfold accept
  dsimp only
  split
  · exact ⟨rfl, rfl⟩
  · exact ⟨rfl, rfl⟩
  · rename_i text crash
    exact absurd crash (calm _ a text)

/-- More items may be meant for a sink so long as it receives. -/
theorem Attends.extend {more : List α} (attends : s.Attends h ticket coming all)
    (phase : s.phase = .receiving)
    (serves : ∀ taken, h.Serves ticket taken coming all →
      h'.Serves ticket taken coming' (all ++ more)) :
    s.Attends h' ticket coming' (all ++ more) := by
  cases attends with
  | receiving receiving here goesOn => exact .receiving receiving (serves _ here) goesOn
  | leaving other | done other => exact absurd (phase.symm.trans other) (by simp)

/-- Sinks receive so long as their queues are not closed. -/
def AllReceive (h : Hub α) (first : Nat) (stages : List (SinkStage α)) : Prop :=
  ∀ (n : Nat) (stage : SinkStage α), stages[n]? = some stage → n + first ∉ h.closed →
    stage.phase = .receiving

theorem allReceive_new (sinks : List (Sink α)) : AllReceive h first (sinks.map .new) := by
  intro n stage here _
  rw [List.getElem?_map, Option.map_eq_some_iff] at here
  obtain ⟨sink, -, rfl⟩ := here
  rfl

theorem AllReceive.mono (receive : AllReceive h first stages) (closed : h.closed ⊆ h'.closed) :
    AllReceive h' first stages :=
  fun n stage here isOpen => receive n stage here fun mem => isOpen (closed mem)

/-- A sink that does not crash goes away only from a queue that is closed. -/
theorem phase_of_step (calm : s.sink.IsCalm) (phase : s.phase = .receiving)
    (step : s.step ticket h = some (s', h')) (isOpen : ticket ∉ h.closed) :
    s'.phase = .receiving := by
  rw [SinkStage.step, phase] at step
  dsimp only at step
  split at step
  · cases step
  · rename_i got
    exact absurd (Hub.mem_closed_of_receive_none got) isOpen
  · cases step
    exact (accept_of_calm calm _).1.trans phase

theorem closed_step (step : s.step ticket h = some (s', h')) : h'.closed = h.closed := by
  unfold SinkStage.step at step
  split at step
  · split at step
    · cases step
    · rename_i got
      cases step
      exact Hub.closed_receive got
    · rename_i got
      cases step
      exact Hub.closed_receive got
  · cases step
    rfl
  · cases step

/-- One step of one of the sinks. -/
theorem AllReceive.step (receive : AllReceive h first stages) {n : Nat}
    (here : stages[n]? = some s) (calm : s.sink.IsCalm)
    (step : s.step (n + first) h = some (s', h')) : AllReceive h' first (stages.set n s') := by
  intro m stage there isOpen
  rw [closed_step step] at isOpen
  rw [List.getElem?_set] at there
  split at there
  · rename_i same
    subst same
    split at there
    · cases there
      exact phase_of_step calm (receive n s here isOpen) step isOpen
    · cases there
  · exact receive m stage there isOpen

/-- More items may be meant for all sinks so long as no queue is closed. -/
theorem AllAttend.extend {more : List α} (attend : AllAttend h first each all sinks stages)
    (receive : AllReceive h first stages) (isOpen : more ≠ [] → h.closed = [])
    (serves : ∀ ticket taken, h.Serves ticket taken (each ticket) all →
      h'.Serves ticket taken (each' ticket) (all ++ more)) :
    AllAttend h' first each' (all ++ more) sinks stages := by
  refine ⟨attend.same, fun n stage here => ?_⟩
  have attends := attend.attends n stage here
  by_cases none : more = []
  · subst none
    rw [List.append_nil] at serves ⊢
    exact attends.mono (serves (n + first))
  · have phase := receive n stage here (by simp [isOpen none])
    exact attends.extend phase (serves (n + first))

end SinkStage

end AisFeed
