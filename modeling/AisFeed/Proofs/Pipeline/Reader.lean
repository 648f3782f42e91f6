import AisFeed.Pipeline.Stages
import AisFeed.Proofs.Queue.Unbounded

/-!
# What the reader brings

Readings yield records and end with a fatal error: `Reading.Yields`. The reader puts all of the
records into each queue, then signals the error, and only then closes the queues. At every point
in between, what is still to come to a queue is known: `ReaderStage.Brings` holds from step to
step, whatever the consumers do meanwhile.
-/

set_option autoImplicit false

namespace AisFeed

namespace Reading

/-- A reading that neither crashes nor stops its reader. -/
structure IsCalm (r : Reading) : Prop where
  crash : r.crash = none
  stops : r.stops = false

/-- The records that readings hand out up to the first fatal error, and that error. The records
of the reading that fails are among them, those of later readings are not. A source that is not
idle and has nothing more to read comes to its end. -/
inductive Yields (name : String) (isIdle : Bool) : List Reading → List Record → Error → Prop
  | ended (ends : isIdle = false) : Yields name isIdle [] [] (.endOfInput name)
  | failed {reading : Reading} {error : Error} (calm : reading.IsCalm)
      (fails : reading.error = some error) (fatal : error.isFatal = true) (rest : List Reading) :
      Yields name isIdle (reading :: rest) reading.records error
  | goesOn {reading : Reading} {rest : List Reading} {records : List Record} {error : Error}
      (calm : reading.IsCalm) (transient : ∀ e, reading.error = some e → e.isFatal = false)
      (later : Yields name isIdle rest records error) :
      Yields name isIdle (reading :: rest) (reading.records ++ records) error

variable {name : String} {isIdle : Bool}

/-- A reading that has handed out its first record. -/
theorem Yields.tail {left : Reading} {rest : List Reading} {records all : List Record}
    {error : Error} {r : Record} (yields : Yields name isIdle (left :: rest) all error)
    (next : left.records = r :: records) :
    ∃ later, all = r :: later ∧ Yields name isIdle ({ left with records } :: rest) later error := by
  cases yields with
  | failed calm fails fatal =>
    have still : ({ left with records } : Reading).IsCalm := ⟨calm.crash, calm.stops⟩
    exact ⟨records, next, .failed still fails fatal rest⟩
  | goesOn calm transient later =>
    have still : ({ left with records } : Reading).IsCalm := ⟨calm.crash, calm.stops⟩
    rw [next, List.cons_append]
    exact ⟨_, rfl, .goesOn still transient later⟩

/-- A run of such a source ends with the error. -/
theorem Yields.ending {readings : List Reading} {records : List Record} {error : Error}
    (yields : Yields name isIdle readings records error) {queues : Distributor Record} :
    (Source.runReadings name isIdle true queues readings).ending = .failed error := by
  induction yields generalizing queues with
  | ended ends => rw [Source.runReadings, if_neg (by simp [ends])]
  | failed calm fails fatal =>
    rw [Source.runReadings, calm.crash, fails]
    dsimp only
    rw [if_pos fatal]
  | @goesOn reading rest records error calm transient _ ih =>
    rw [Source.runReadings, calm.crash, calm.stops]
    cases fails : reading.error with
    | none => exact ih
    | some e =>
      dsimp only
      rw [if_neg (by simp [transient e fails])]
      exact ih

end Reading

/-- A source comes to its end with an error, after it has handed out some records. -/
def Source.Yields (s : Source) (records : List Record) (error : Error) : Prop :=
  Reading.Yields s.name s.isIdle s.readings records error

namespace ReaderStage

/-- The reader is on its way to the end of its source: what is still to come to each queue, and
whether the error was signalled. -/
inductive Brings (error : Error) (s : ReaderStage) : (Nat → List Record) → Bool → Prop
  | polling {later : List Record} (phase : s.phase = .polling)
      (yields : s.source.Yields later error) : Brings error s (fun _ => later) false
  | reading {left : Reading} {later : List Record} (phase : s.phase = .reading left)
      (yields : Reading.Yields s.source.name s.source.isIdle (left :: s.source.readings) later
        error) :
      Brings error s (fun _ => later) false
  | handing {r : Record} {tickets : List Nat} {left : Reading} {later : List Record}
      (phase : s.phase = .handing r tickets left)
      (yields : Reading.Yields s.source.name s.source.isIdle (left :: s.source.readings) later
        error) :
      Brings error s (fun ticket => List.replicate (tickets.count ticket) r ++ later) false
  | signalling (phase : s.phase = .signalling error) : Brings error s (fun _ => []) false
  | closing {tickets : List Nat} (phase : s.phase = .closing tickets false) :
      Brings error s (fun _ => []) true
  | done (phase : s.phase = .done false) : Brings error s (fun _ => []) true

variable {error : Error} {s s' : ReaderStage} {c c' : Control} {h h' : Hub Record}
  {coming : Nat → List Record} {signalled : Bool}

/-- The reader begins a reading, or its source has come to its end. -/
theorem brings_read {later : List Record} (yields : s.source.Yields later error) :
    s.read.Brings error (fun _ => later) false := by
  unfold read
  split
  · rename_i reading readings next
    rw [Source.Yields, next] at yields
    exact .reading rfl yields
  · rename_i none
    rw [Source.Yields, none] at yields
    cases yields with
    | ended ends =>
      rw [if_neg (by simp [ends])]
      exact .signalling rfl

/-- A reading that has handed out its records: the reader polls again, or has the error that it
is to signal. -/
theorem brings_finish {left : Reading} {later : List Record}
    (yields : Reading.Yields s.source.name s.source.isIdle (left :: s.source.readings) later error)
    (none : left.records = []) (tickets : List Nat) :
    left.stops = false ∧ (s.finish left tickets).Brings error (fun _ => later) false := by
  unfold finish
  cases yields with
  | failed calm fails fatal =>
    refine ⟨calm.stops, ?_⟩
    rw [calm.crash, fails, none]
    dsimp only
    rw [if_pos fatal]
    exact .signalling rfl
  | goesOn calm transient later =>
    refine ⟨calm.stops, ?_⟩
    rw [calm.crash, none, List.nil_append]
    cases fails : left.error with
    | none => exact .polling rfl later
    | some e =>
      dsimp only
      rw [if_neg (by simp [transient e fails])]
      exact .polling rfl later

/-- What a step of the reader does to the signals. -/
def Signals (error : Error) (signalled signalled' : Bool) (c c' : Control) : Prop :=
  (signalled' = signalled ∧ c' = c) ∨
    (signalled = false ∧ signalled' = true ∧ c' = c.signal error)

/-- One step of the reader: what it puts into a queue has come to the consumer. -/
theorem Brings.step (brings : s.Brings error coming signalled)
    (running : signalled = false → c.running = true) (step : s.step c h = some (s', c', h')) :
    ∃ coming' signalled', s'.Brings error coming' signalled' ∧
      Signals error signalled signalled' c c' ∧
      ∀ ticket taken all, h.Serves ticket taken (coming ticket) all →
        h'.Serves ticket taken (coming' ticket) all := by
  cases brings with
  | polling phase yields =>
    rw [ReaderStage.step, phase] at step
    dsimp only at step
    rw [if_pos (running rfl)] at step
    cases step
    exact ⟨_, _, brings_read yields, .inl ⟨rfl, rfl⟩, fun _ _ _ serves => serves⟩
  | reading phase yields =>
    rename_i left later
    rw [ReaderStage.step, phase] at step
    dsimp only at step
    split at step
    · rename_i r records next
      cases step
      obtain ⟨later, rfl, still⟩ := yields.tail next
      exact ⟨_, _, .handing rfl still, .inl ⟨rfl, rfl⟩,
        fun _ _ _ serves => serves.replicate_tickets⟩
    · rename_i none
      cases step
      obtain ⟨stops, brings⟩ := brings_finish yields none h.tickets
      refine ⟨_, _, brings, .inl ⟨rfl, ?_⟩, fun _ _ _ serves => serves⟩
      simp [Control.stopIf, stops]
  | handing phase yields =>
    rename_i r tickets left later
    rw [ReaderStage.step, phase] at step
    cases tickets with
    | nil =>
      cases step
      exact ⟨_, _, .reading rfl yields, .inl ⟨rfl, rfl⟩, fun _ _ _ serves => serves⟩
    | cons ticket tickets =>
      cases step
      exact ⟨_, _, .handing rfl yields, .inl ⟨rfl, rfl⟩, fun _ _ _ serves => serves.put_next⟩
  | signalling phase =>
    rw [ReaderStage.step, phase] at step
    cases step
    exact ⟨_, _, .closing rfl, .inr ⟨rfl, rfl, rfl⟩, fun _ _ _ serves => serves⟩
  | closing phase =>
    rename_i tickets
    rw [ReaderStage.step, phase] at step
    cases tickets with
    | nil =>
      cases step
      exact ⟨_, _, .done rfl, .inl ⟨rfl, rfl⟩, fun _ _ _ serves => serves⟩
    | cons ticket tickets =>
      cases step
      exact ⟨_, _, .closing rfl, .inl ⟨rfl, rfl⟩, fun _ _ _ serves => serves.close ticket⟩
  | done phase =>
    rw [ReaderStage.step, phase] at step
    cases step

/-- A reader that has not signalled is not done. -/
theorem Brings.signalled_of_done (brings : s.Brings error coming signalled) {hasCrashed : Bool}
    (done : s.phase = .done hasCrashed) : signalled = true ∧ hasCrashed = false := by
  cases brings with
  | done phase =>
    rw [phase] at done
    cases done
    exact ⟨rfl, rfl⟩
  | polling phase | reading phase | handing phase | signalling phase | closing phase =>
    exact absurd (phase.symm.trans done) (by simp)

end ReaderStage

end AisFeed
