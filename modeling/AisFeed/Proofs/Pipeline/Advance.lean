import AisFeed.Proofs.Pipeline.Reader

/-!
# How far the reader gets

A reader whose flag may be cleared stops between two readings. Then it has handed out the records
of the readings that it has begun, and no others, so what is meant for a queue grows with every
reading. `ReaderStage.Advances` says what of the reading that goes on is still to come to each
queue, and what later readings would bring; it holds from step to step, whatever others do with the
flag.
-/

set_option autoImplicit false

namespace AisFeed

/-- A source yields the records of its first reading before all others. -/
theorem Reading.Yields.split {name : String} {isIdle : Bool} {reading : Reading}
    {rest : List Reading} {all : List Record} {error : Error}
    (yields : Yields name isIdle (reading :: rest) all error) :
    ∃ later, all = reading.records ++ later := by
  cases yields with
  | failed => exact ⟨[], (List.append_nil _).symm⟩
  | goesOn => exact ⟨_, rfl⟩

namespace ReaderStage

/-- How it stands with a reader. -/
inductive Standing where
  /-- It has still to read or to signal. -/
  | reading
  /-- It has signalled the error of its source. -/
  | ended
  /-- It was stopped by its flag. -/
  | stopped

/-- What a reader that is over has left to read. -/
inductive Standing.IsOver : Standing → List Record → Prop
  | ended : IsOver .ended []
  | stopped (later : List Record) : IsOver .stopped later

/-- The reader is on its way through its source: what of the reading that goes on is still to come
to each queue, and what later readings would bring up to the error. -/
inductive Advances (error : Error) (s : ReaderStage) :
    (Nat → List Record) → List Record → Standing → Prop
  | polling {later : List Record} (phase : s.phase = .polling)
      (yields : s.source.Yields later error) : Advances error s (fun _ => []) later .reading
  | reading {left : Reading} {later : List Record} (phase : s.phase = .reading left)
      (yields : Reading.Yields s.source.name s.source.isIdle (left :: s.source.readings)
        (left.records ++ later) error) :
      Advances error s (fun _ => left.records) later .reading
  | handing {r : Record} {tickets : List Nat} {left : Reading} {later : List Record}
      (phase : s.phase = .handing r tickets left)
      (yields : Reading.Yields s.source.name s.source.isIdle (left :: s.source.readings)
        (left.records ++ later) error) :
      Advances error s (fun ticket => List.replicate (tickets.count ticket) r ++ left.records)
        later .reading
  | signalling (phase : s.phase = .signalling error) : Advances error s (fun _ => []) [] .reading
  | closing {tickets : List Nat} {later : List Record} {standing : Standing}
      (phase : s.phase = .closing tickets false) (past : standing.IsOver later) :
      Advances error s (fun _ => []) later standing
  | done {later : List Record} {standing : Standing} (phase : s.phase = .done false)
      (past : standing.IsOver later) : Advances error s (fun _ => []) later standing

variable {error : Error} {s s' : ReaderStage} {c c' : Control} {h h' : Hub Record}
  {coming : Nat → List Record} {later : List Record} {standing : Standing}

/-- The reader begins a reading, or its source has come to its end. -/
theorem advances_read (yields : s.source.Yields later error) :
    ∃ begun coming later', s.read.Advances error coming later' .reading ∧
      s.source.readings = begun ++ s.read.source.readings ∧
      later = begun.flatMap Reading.records ++ later' ∧
      ∀ ticket, coming ticket = begun.flatMap Reading.records := by
  unfold read
  split
  · rename_i reading readings next
    rw [Source.Yields, next] at yields
    obtain ⟨later', rfl⟩ := yields.split
    exact ⟨[reading], _, later', .reading rfl yields, next, by simp, by simp⟩
  · rename_i none
    rw [Source.Yields, none] at yields
    cases yields with
    | ended ends =>
      rw [if_neg (by simp [ends])]
      exact ⟨[], _, [], .signalling rfl, rfl, rfl, fun _ => rfl⟩

/-- A reading that has handed out its records: the reader polls again, or has the error that it
is to signal. -/
theorem advances_finish {left : Reading}
    (yields : Reading.Yields s.source.name s.source.isIdle (left :: s.source.readings)
      (left.records ++ later) error)
    (none : left.records = []) (tickets : List Nat) :
    left.stops = false ∧ (s.finish left tickets).Advances error (fun _ => []) later .reading ∧
      (s.finish left tickets).source = s.source := by
  rw [none, List.nil_append] at yields
  unfold finish
  cases yields with
  | failed calm fails fatal =>
    refine ⟨calm.stops, ?_⟩
    rw [calm.crash, fails, none]
    dsimp only
    rw [if_pos fatal]
    exact ⟨.signalling rfl, rfl⟩
  | goesOn calm transient later =>
    refine ⟨calm.stops, ?_⟩
    rw [calm.crash, none, List.nil_append]
    cases fails : left.error with
    | none => exact ⟨.polling rfl later, rfl⟩
    | some e =>
      dsimp only
      rw [if_neg (by simp [transient e fails])]
      exact ⟨.polling rfl later, rfl⟩

/-- What a step of the reader does to its standing and to the signals. -/
inductive Turns (error : Error) : Standing → Standing → Control → Control → Prop
  | stays (standing : Standing) (c : Control) : Turns error standing standing c c
  | stops {c : Control} (cleared : c.running = false) : Turns error .reading .stopped c c
  | signals (c : Control) : Turns error .reading .ended c (c.signal error)

/-! ## One step -/

/-- What comes of a step of the reader: the readings `begun` with it, which are meant for each
queue, and how it stands with the reader and the queues after it. What it puts into a queue has come
to the consumer. -/
structure Stepped (error : Error) (s s' : ReaderStage) (c c' : Control) (h h' : Hub Record)
    (begun : List Reading) (coming coming' : Nat → List Record) (later later' : List Record)
    (standing standing' : Standing) : Prop where
  advances : s'.Advances error coming' later' standing'
  readings : s.source.readings = begun ++ s'.source.readings
  split : later = begun.flatMap Reading.records ++ later'
  turns : Turns error standing standing' c c'
  isOpen : standing' = .reading → h'.closed = []
  /-- A reading begins only while all queues are open. -/
  begins : begun ≠ [] → h.closed = []
  closed : h.closed ⊆ h'.closed
  serves : ∀ ticket taken all, h.Serves ticket taken (coming ticket) all →
    h'.Serves ticket taken (coming' ticket) (all ++ begun.flatMap Reading.records)

variable {coming' : Nat → List Record} {standing' : Standing}

/-- A step that begins no reading leaves as much of the source. -/
theorem stepped_of_same (advances : s'.Advances error coming' later standing')
    (same : s'.source = s.source) (turns : Turns error standing standing' c c')
    (isOpen : standing' = .reading → h'.closed = []) (closed : h.closed ⊆ h'.closed)
    (serves : ∀ ticket taken all, h.Serves ticket taken (coming ticket) all →
      h'.Serves ticket taken (coming' ticket) all) :
    Stepped error s s' c c' h h' [] coming coming' later later standing standing' where
  advances := advances
  readings := by rw [same, List.nil_append]
  split := rfl
  turns := turns
  isOpen := isOpen
  begins := absurd rfl
  closed := closed
  serves := by simpa using serves

/-- The reader looks at its flag, and begins a reading or stops. -/
theorem stepped_polling (phase : s.phase = .polling) (yields : s.source.Yields later error)
    (isOpen : h.closed = []) (step : s.step c h = some (s', c', h')) :
    ∃ begun coming' later' standing', Stepped error s s' c c' h h' begun (fun _ => []) coming' later
      later' .reading standing' := by
  rw [ReaderStage.step, phase] at step
  dsimp only at step
  split at step
  · cases step
    obtain ⟨begun, coming', later', advances, readings, split, brings⟩ := advances_read yields
    refine ⟨begun, coming', later', _, advances, readings, split, .stays _ _, fun _ => isOpen,
      fun _ => isOpen, fun _ mem => mem, fun ticket taken all serves => ?_⟩
    rw [brings]
    exact serves.extend (by simp [isOpen]) _
  · rename_i cleared
    cases step
    exact ⟨_, _, _, _, stepped_of_same (.closing rfl (.stopped later)) rfl
      (.stops (by simpa using cleared)) (by rintro ⟨⟩) (List.Subset.refl _)
      fun _ _ _ serves => serves⟩

/-- The reader goes on to the next record of a reading, or finishes the reading. -/
theorem stepped_reading {left : Reading} (phase : s.phase = .reading left)
    (yields : Reading.Yields s.source.name s.source.isIdle (left :: s.source.readings)
      (left.records ++ later) error)
    (isOpen : h.closed = []) (step : s.step c h = some (s', c', h')) :
    ∃ coming', Stepped error s s' c c' h h' [] (fun _ => left.records) coming' later later .reading
      .reading := by
  rw [ReaderStage.step, phase] at step
  dsimp only at step
  split at step
  · rename_i r records next
    cases step
    obtain ⟨rest, same, still⟩ := yields.tail next
    have same : rest = records ++ later := by
      rw [next, List.cons_append, List.cons.injEq] at same
      exact same.2.symm
    subst same
    refine ⟨_, stepped_of_same (.handing rfl still) rfl (.stays _ _) (fun _ => isOpen)
      (List.Subset.refl _) fun ticket taken all serves => ?_⟩
    rw [next] at serves
    exact serves.replicate_tickets
  · rename_i none
    cases step
    obtain ⟨stops, advances, same⟩ := advances_finish yields none h.tickets
    have kept : c.stopIf left.stops = c := by simp [Control.stopIf, stops]
    rw [kept]
    refine ⟨_, stepped_of_same advances same (.stays _ _) (fun _ => isOpen) (List.Subset.refl _)
      fun ticket taken all serves => ?_⟩
    rwa [none] at serves

/-- The reader puts a record into the next of the queues, or has put it into all. -/
theorem stepped_handing {r : Record} {tickets : List Nat} {left : Reading}
    (phase : s.phase = .handing r tickets left)
    (yields : Reading.Yields s.source.name s.source.isIdle (left :: s.source.readings)
      (left.records ++ later) error)
    (isOpen : h.closed = []) (step : s.step c h = some (s', c', h')) :
    ∃ coming', Stepped error s s' c c' h h' []
      (fun ticket => List.replicate (tickets.count ticket) r ++ left.records) coming' later later
      .reading .reading := by
  rw [ReaderStage.step, phase] at step
  cases tickets with
  | nil =>
    cases step
    exact ⟨_, stepped_of_same (.reading rfl yields) rfl (.stays _ _) (fun _ => isOpen)
      (List.Subset.refl _) fun _ _ _ serves => serves⟩
  | cons ticket tickets =>
    cases step
    have closed := Hub.closed_put h ticket r
    have kept : h.closed ⊆ (h.put ticket r).1.closed := by
      rw [closed]
      exact List.Subset.refl _
    exact ⟨_, stepped_of_same (.handing rfl yields) rfl (.stays _ _)
      (fun _ => closed.trans isOpen) kept fun _ _ _ serves => serves.put_next⟩

/-- The reader closes the next of the queues, or has closed all. -/
theorem stepped_closing {tickets : List Nat} (phase : s.phase = .closing tickets false)
    (past : standing.IsOver later) (step : s.step c h = some (s', c', h')) :
    Stepped error s s' c c' h h' [] (fun _ => []) (fun _ => []) later later standing standing := by
  rw [ReaderStage.step, phase] at step
  have going (is : standing = .reading) : h'.closed = [] := by
    subst is
    cases past
  cases tickets with
  | nil =>
    cases step
    exact stepped_of_same (.done rfl past) rfl (.stays _ _) going (List.Subset.refl _)
      fun _ _ _ serves => serves
  | cons ticket tickets =>
    cases step
    exact stepped_of_same (.closing rfl past) rfl (.stays _ _) going
      (List.subset_cons_self _ _) fun _ _ _ serves => serves.close ticket

/-- One step of the reader. -/
theorem Advances.step (advances : s.Advances error coming later standing)
    (isOpen : standing = .reading → h.closed = [])
    (step : s.step c h = some (s', c', h')) :
    ∃ begun coming' later' standing',
      Stepped error s s' c c' h h' begun coming coming' later later' standing standing' := by
  cases advances with
  | polling phase yields => exact stepped_polling phase yields (isOpen rfl) step
  | reading phase yields =>
    obtain ⟨coming', stepped⟩ := stepped_reading phase yields (isOpen rfl) step
    exact ⟨_, coming', _, _, stepped⟩
  | handing phase yields =>
    obtain ⟨coming', stepped⟩ := stepped_handing phase yields (isOpen rfl) step
    exact ⟨_, coming', _, _, stepped⟩
  | signalling phase =>
    rw [ReaderStage.step, phase] at step
    cases step
    exact ⟨_, _, _, _, stepped_of_same (.closing rfl .ended) rfl (.signals c) (by rintro ⟨⟩)
      (List.Subset.refl _) fun _ _ _ serves => serves⟩
  | closing phase past => exact ⟨_, _, _, _, stepped_closing phase past step⟩
  | done phase past =>
    rw [ReaderStage.step, phase] at step
    cases step

/-- A reader that has nothing more to read or to signal is over. -/
theorem Advances.isOver (advances : s.Advances error coming later standing)
    (ne : standing ≠ .reading) : standing.IsOver later := by
  cases advances with
  | closing phase past | done phase past => exact past
  | polling | reading | handing | signalling => exact absurd rfl ne

theorem Advances.ne_reading_of_done (advances : s.Advances error coming later standing)
    {hasCrashed : Bool} (done : s.phase = .done hasCrashed) : standing ≠ .reading := by
  cases advances with
  | done phase past =>
    rintro rfl
    cases past
  | polling phase | reading phase | handing phase | signalling phase | closing phase =>
    exact absurd (phase.symm.trans done) (by simp)

end ReaderStage

end AisFeed
