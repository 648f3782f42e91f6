import AisFeed.Proofs.Pipeline.Sinks
import Mathlib.Logic.Relation

/-!
# Stages that are left alone

What becomes of a stage that makes all of its steps while the others wait. The reader does what
`Source.runReadings` says, the decoder what `Pipeline.decodeAll` says, and a sink what `Sink.run`
says; and each of them comes to its end, unless its source only waits.
-/

set_option autoImplicit false

namespace AisFeed

/-- A stage gets from one situation to another, step by step. -/
abbrev Leads {σ : Type} (step : σ → Option σ) : σ → σ → Prop :=
  Relation.ReflTransGen fun before after => step before = some after

/-- Is the end a crash? -/
def SourceEnd.isCrash : SourceEnd → Bool
  | crashed _ => true
  | stopped | failed _ | waiting => false

/-- Has the decoder crashed? -/
def DecoderRun.hasCrashed (run : DecoderRun) : Bool :=
  match run.result with
  | .ok _ => false
  | .error _ => true

namespace Distributor

variable {α : Type}

theorem sublist_putAll (a : α) (queues : List (Nat × Queue α)) :
    ((putAll a queues).1.map Prod.fst).Sublist (queues.map Prod.fst) := by
  induction queues with
  | nil => exact .slnil
  | cons p rest ih =>
    simp only [putAll]
    split
    · exact ih.cons_cons _
    · exact ih.cons _

/-- The tickets of the queues differ from each other. -/
def IsDistinct (d : Distributor α) : Prop :=
  (d.queues.map Prod.fst).Nodup

theorem IsDistinct.publish {d : Distributor α} (distinct : d.IsDistinct) (a : α) :
    (d.publish a).1.IsDistinct :=
  (sublist_putAll a d.queues).nodup distinct

theorem IsDistinct.publishAll {d : Distributor α} (distinct : d.IsDistinct) (items : List α) :
    (d.publishAll items).1.IsDistinct := by
  induction items generalizing d with
  | nil => exact distinct
  | cons a rest ih => exact ih (distinct.publish a)

end Distributor

/-! ## The reader -/

namespace ReaderStage

/-- One step of a reader that is left alone. -/
def move : ReaderStage × Control × Hub Record → Option (ReaderStage × Control × Hub Record)
  | (s, c, h) => s.step c h

section Reader

variable {source : Source} {c : Control} {r : Record}

/-- A record is put into one queue after the other. -/
theorem leads_puts (events : List Event) (h : Hub Record) (left : Reading) (tickets : List Nat) :
    Leads move (⟨source, .handing r tickets left, events⟩, c, h)
      (⟨source, .reading left, events ++ (h.putEach r tickets).2⟩, c, (h.putEach r tickets).1) := by
  induction tickets generalizing h events with
  | nil => exact .single rfl
  | cons ticket tickets ih =>
    have later := ih (events ++ (h.put ticket r).2) (h.put ticket r).1
    rw [List.append_assoc] at later
    exact .head rfl later

/-- The records of a reading are published. -/
theorem leads_records (events : List Event) {h : Hub Record} (distinct : h.queues.IsDistinct)
    (left : Reading) (records : List Record) :
    Leads move (⟨source, .reading { left with records }, events⟩, c, h)
      (⟨source, .reading { left with records := [] },
        events ++ (h.queues.publishAll records).2⟩, c,
        { h with queues := (h.queues.publishAll records).1 }) := by
  induction records generalizing h events with
  | nil =>
    rw [Distributor.publishAll, List.append_nil]
  | cons r records ih =>
    have puts : Leads move (⟨source, .handing r h.tickets { left with records }, events⟩, c, h) _ :=
      leads_puts events h { left with records } h.tickets
    rw [Hub.putEach_tickets distinct] at puts
    have later := @ih (events ++ (h.queues.publish r).2)
      { h with queues := (h.queues.publish r).1 } (distinct.publish r)
    rw [List.append_assoc] at later
    refine .head ?_ (puts.trans later)
    simp [move, step, goTo]

/-- A reading is made, and its records are published. -/
theorem leads_reading {name : String} {isIdle : Bool} {supervisor : Supervisor}
    (events : List Event) {h : Hub Record} (distinct : h.queues.IsDistinct) (reading : Reading)
    (readings : List Reading) :
    Leads move
      (⟨⟨name, reading :: readings, isIdle⟩, .polling, events⟩, ⟨true, supervisor⟩, h)
      (⟨⟨name, readings, isIdle⟩, .reading { reading with records := [] },
        events ++ (reading.events ++ (h.queues.publishAll reading.records).2)⟩,
        ⟨true, supervisor⟩, { h with queues := (h.queues.publishAll reading.records).1 }) := by
  have publishes : Leads move (⟨⟨name, readings, isIdle⟩, .reading reading,
      events ++ reading.events⟩, ⟨true, supervisor⟩, h) _ :=
    leads_records (events ++ reading.events) distinct reading reading.records
  rw [List.append_assoc] at publishes
  exact .head rfl publishes

/-- The queues are closed one after the other. -/
theorem leads_closes (events : List Event) (h : Hub Record) (tickets : List Nat)
    (hasCrashed : Bool) :
    Leads move (⟨source, .closing tickets hasCrashed, events⟩, c, h)
      (⟨source, .closing [] hasCrashed, events⟩, c,
        { h with closed := tickets.reverse ++ h.closed }) := by
  induction tickets generalizing h with
  | nil => exact .refl
  | cons ticket tickets ih =>
    have later := ih (h.close ticket)
    rw [List.reverse_cons, List.append_assoc]
    refine .head ?_ later
    simp [move, step, goTo]

end Reader

/-- A reader has come to its end and has done what a run of its source says. -/
structure Ends (run : SourceRun) (events : List Event) (supervisor : Supervisor)
    (last : ReaderStage × Control × Hub Record) : Prop where
  phase : last.1.phase = .done run.ending.isCrash
  told : last.1.events = events ++ run.events ++ Pipeline.crashEvents run.ending.isCrash "reader"
  signalled : last.2.1.supervisor =
    (Pipeline.signalOf run.ending).toList.foldl Supervisor.signal supervisor
  queues : last.2.2.queues = run.queues
  closed : ∀ ticket ∈ run.queues.queues.map Prod.fst, ticket ∈ last.2.2.closed

theorem Ends.after {run : SourceRun} {events told : List Event} {supervisor : Supervisor}
    {last : ReaderStage × Control × Hub Record} (ends : Ends run (events ++ told) supervisor last) :
    Ends (run.after told) events supervisor last := by
  obtain ⟨phase, rest, signalled, queues, closed⟩ := ends
  exact ⟨phase, by rw [rest, SourceRun.after, List.append_assoc events], signalled, queues, closed⟩

section Ends

variable {source : Source} {closed : List Nat} {events : List Event} {c : Control}

theorem mem_closed {queues : Distributor Record} (ticket : Nat)
    (mem : ticket ∈ queues.queues.map Prod.fst) :
    ticket ∈ (Hub.tickets ⟨queues, closed⟩).reverse ++ closed :=
  List.mem_append_left _ (List.mem_reverse.2 mem)

/-- A reader that was stopped, or has crashed, closes its queues and comes to its end. -/
theorem ends_of_closing (queues : Distributor Record) (left : Nat) (told : List Event)
    {ending : SourceEnd} (how : ending = .stopped ∨ ∃ text, ending = .crashed text) :
    ∃ last, Leads move (⟨source, .closing (Hub.tickets ⟨queues, closed⟩) ending.isCrash,
        events ++ told⟩, c, ⟨queues, closed⟩) last ∧
      Ends ⟨queues, ending, left, told⟩ events c.supervisor last := by
  have closes (hasCrashed : Bool) : Leads move (⟨source,
      .closing (Hub.tickets ⟨queues, closed⟩) hasCrashed, events ++ told⟩, c, ⟨queues, closed⟩) _ :=
    leads_closes (events ++ told) ⟨queues, closed⟩ (Hub.tickets ⟨queues, closed⟩) hasCrashed
  obtain rfl | ⟨text, rfl⟩ := how
  · exact ⟨_, (closes false).tail rfl, rfl, rfl, rfl, rfl, mem_closed⟩
  · refine ⟨_, ((closes true).tail rfl).tail rfl, rfl, ?_, rfl, rfl, mem_closed⟩
    simp [goTo, Pipeline.crashEvents, SourceEnd.isCrash]

/-- A reader that has an error to signal signals it, closes its queues and comes to its end. -/
theorem ends_of_signalling (queues : Distributor Record) (left : Nat) (told : List Event)
    (error : Error) :
    ∃ last, Leads move (⟨source, .signalling error, events ++ told⟩, c, ⟨queues, closed⟩) last ∧
      Ends ⟨queues, .failed error, left, told⟩ events c.supervisor last := by
  have closes : Leads move (⟨source, .closing (Hub.tickets ⟨queues, closed⟩) false,
      events ++ told ++ []⟩, c.signal error, ⟨queues, closed⟩) _ :=
    leads_closes (events ++ told ++ []) ⟨queues, closed⟩ (Hub.tickets ⟨queues, closed⟩) false
  refine ⟨_, .head rfl (closes.tail rfl), rfl, ?_, rfl, rfl, mem_closed⟩
  simp [goTo, Pipeline.crashEvents, SourceEnd.isCrash]

end Ends

/-- **A reader that is left alone runs its source to the end**, unless that only waits. -/
theorem leads_runReadings {name : String} {isIdle : Bool} (running : Bool)
    (supervisor : Supervisor) {h : Hub Record} (distinct : h.queues.IsDistinct)
    (readings : List Reading) (events : List Event)
    (ends : (Source.runReadings name isIdle running h.queues readings).ending ≠ .waiting) :
    ∃ last, Leads move (⟨⟨name, readings, isIdle⟩, .polling, events⟩, ⟨running, supervisor⟩, h)
        last ∧
      Ends (Source.runReadings name isIdle running h.queues readings) events supervisor last := by
  induction readings generalizing running h events with
  | nil =>
    cases running with
    | false =>
      obtain ⟨last, leads, ends⟩ := ends_of_closing h.queues 0 [] (.inl rfl)
      exact ⟨last, .head rfl leads, ends⟩
    | true =>
      rw [Source.runReadings] at ends ⊢
      cases isIdle with
      | true => exact absurd rfl ends
      | false =>
        obtain ⟨last, leads, ends⟩ := ends_of_signalling h.queues 0
          [.sourceEnded (.endOfInput name) name] (.endOfInput name)
        exact ⟨last, .head rfl leads, ends⟩
  | cons reading readings ih =>
    cases running with
    | false =>
      obtain ⟨last, leads, ends⟩ :=
        ends_of_closing h.queues (reading :: readings).length [] (.inl rfl)
      exact ⟨last, .head rfl leads, ends⟩
    | true =>
      have later := distinct.publishAll reading.records
      have reads := @leads_reading name isIdle supervisor events h distinct reading readings
      rw [Source.runReadings] at ends ⊢
      generalize h.queues.publishAll reading.records = published at *
      obtain ⟨queues, told⟩ := published
      obtain ⟨tells, records, stops, crash, error⟩ := reading
      dsimp only at ends later reads ⊢
      -- once the records are published, it depends on how the reading came to its end
      cases crash with
      | some text =>
        obtain ⟨last, leads, ends⟩ := @ends_of_closing ⟨name, readings, isIdle⟩ h.closed events
          (Control.stopIf ⟨true, supervisor⟩ stops) queues readings.length (tells ++ told) _
          (.inr ⟨text, rfl⟩)
        refine ⟨last, reads.trans (.head ?_ leads), ends⟩
        simp [move, step, finish, goTo, SourceEnd.isCrash]
      | none =>
        cases error with
        | none =>
          obtain ⟨last, leads, ends⟩ := ih (!stops) (h := ⟨queues, h.closed⟩) later
            (events ++ (tells ++ told)) ends
          refine ⟨last, reads.trans (.head ?_ leads), ends.after⟩
          simp [move, step, finish, goTo, Control.stopIf]
        | some error =>
          dsimp only at ends ⊢
          by_cases fatal : error.isFatal = true
          · rw [if_pos fatal] at ends ⊢
            obtain ⟨last, leads, ends⟩ := @ends_of_signalling ⟨name, readings, isIdle⟩ h.closed
              events (Control.stopIf ⟨true, supervisor⟩ stops) queues readings.length
              (tells ++ told ++ [.sourceEnded error name]) error
            refine ⟨last, reads.trans (.head ?_ leads), ends⟩
            simp [move, step, finish, goTo, fatal]
          · rw [if_neg fatal] at ends ⊢
            obtain ⟨last, leads, ends⟩ := ih (!stops) (h := ⟨queues, h.closed⟩) later
              (events ++ (tells ++ told ++ [.readFailed error name])) ends
            refine ⟨last, reads.trans (.head ?_ leads), ends.after⟩
            simp [move, step, finish, goTo, Control.stopIf, fatal]

end ReaderStage

/-! ## The decoder -/

namespace DecoderStage

/-- One step of a decoder that is left alone. -/
def move (clock : Nat → Time) : DecoderStage × Control × Hub Record × Hub Message →
    Option (DecoderStage × Control × Hub Record × Hub Message)
  | (s, c, records, messages) => s.step clock c records messages

/-- A decoder has come to its end and has done what a run of it says. -/
structure Ends (run : DecoderRun) (events : List Event) (c : Control) (h : Hub Record)
    (last : DecoderStage × Control × Hub Record × Hub Message) : Prop where
  phase : last.1.phase = .done run.hasCrashed
  told : last.1.events = events ++ run.events ++ Pipeline.crashEvents run.hasCrashed "decoder"
  decoder : ∀ d, run.result = .ok d → last.1.decoder = d
  control : last.2.1 = if run.hasCrashed then c.signal (.stageCrashed "decoder") else c
  queues : last.2.2.2.queues = run.messages
  closed : ∀ ticket ∈ run.messages.queues.map Prod.fst, ticket ∈ last.2.2.2.closed
  /-- The other consumers of records find what they would have found. -/
  others : ∀ ticket ≠ 0, ∀ k waiting, h.queues.Carries k ticket waiting →
    last.2.2.1.queues.Carries k ticket waiting
  stays : last.2.2.1.closed = h.closed

section Decoder

variable {clock : Nat → Time} {d : Decoder} {n : Nat} {c : Control} {h : Hub Record}

/-- A message is put into one queue after the other. -/
theorem leads_puts (events : List Event) (m : Hub Message) (message : Message)
    (tickets : List Nat) :
    Leads (move clock) (⟨d, n, .handing message tickets, events⟩, c, h, m)
      (⟨d, n, .receiving, events ++ (m.putEach message tickets).2⟩, c, h,
        (m.putEach message tickets).1) := by
  induction tickets generalizing m events with
  | nil => exact .single rfl
  | cons ticket tickets ih =>
    have later := ih (events ++ (m.put ticket message).2) (m.put ticket message).1
    rw [List.append_assoc] at later
    exact .head rfl later

/-- The queues are closed one after the other. -/
theorem leads_closes (events : List Event) (m : Hub Message) (tickets : List Nat)
    (hasCrashed : Bool) :
    Leads (move clock) (⟨d, n, .closing tickets hasCrashed, events⟩, c, h, m)
      (⟨d, n, .done hasCrashed, events⟩, c, h,
        { m with closed := tickets.reverse ++ m.closed }) := by
  induction tickets generalizing m with
  | nil =>
    refine .single ?_
    simp [move, step, goTo]
  | cons ticket tickets ih =>
    have later := ih (m.close ticket)
    rw [List.reverse_cons, List.append_assoc]
    refine .head ?_ later
    simp [move, step, goTo]

/-- A decoder that is to go away closes its queues and comes to its end, and signals if it has
crashed. -/
theorem ends_of_leaving (events told : List Event) (m : Hub Message) {result : Except Crash Decoder}
    (same : ∀ d', result = .ok d' → d = d') :
    ∃ last, Leads (move clock) (⟨d, n, .leaving (DecoderRun.hasCrashed ⟨result, m.queues, told⟩),
        events ++ told⟩, c, h, m) last ∧ Ends ⟨result, m.queues, told⟩ events c h last := by
  have closed (ticket : Nat) (mem : ticket ∈ m.queues.queues.map Prod.fst) :
      ticket ∈ m.tickets.reverse ++ m.closed :=
    List.mem_append_left _ (List.mem_reverse.2 mem)
  have others (ticket : Nat) (ne : ticket ≠ 0) (k : Keeping) (waiting : List Record)
      (carries : h.queues.Carries k ticket waiting) :
      (h.leave 0).queues.Carries k ticket waiting :=
    carries.leave_of_ne (Ne.symm ne)
  cases result with
  | ok d' =>
    refine ⟨_, .head rfl (leads_closes _ m m.tickets false), rfl, ?_, same, rfl, rfl, closed,
      others, rfl⟩
    simp [Pipeline.crashEvents, DecoderRun.hasCrashed]
  | error crash =>
    refine ⟨_, .head rfl (.head rfl (leads_closes _ m m.tickets true)), rfl, ?_, same, rfl, rfl,
      closed, others, rfl⟩
    simp [goTo, Pipeline.crashEvents, DecoderRun.hasCrashed]

theorem Ends.after {run : DecoderRun} {events told : List Event}
    {last : DecoderStage × Control × Hub Record × Hub Message}
    (ends : Ends run (events ++ told) c h last) :
    Ends { run with events := told ++ run.events } events c h last where
  phase := ends.phase
  told := by rw [ends.told, List.append_assoc events]; rfl
  decoder := ends.decoder
  control := ends.control
  queues := ends.queues
  closed := ends.closed
  others := ends.others
  stays := ends.stays

theorem Ends.summary_eq {run : DecoderRun} {events : List Event}
    {last : DecoderStage × Control × Hub Record × Hub Message} (ends : Ends run events c h last) :
    last.1.summary = match run.result with
      | .ok d => d.summary
      | .error _ => .zero := by
  rw [summary, ends.phase, DecoderRun.hasCrashed]
  cases result : run.result with
  | ok d => exact congrArg Decoder.summary (ends.decoder d result)
  | error crash => rfl

/-- What the decoder takes from its own queue is nothing to others. -/
theorem Ends.of_take {run : DecoderRun} {events : List Event}
    {last : DecoderStage × Control × Hub Record × Hub Message}
    (ends : Ends run events c { h with queues := (h.queues.take 0).1 } last) :
    Ends run events c h last :=
  { ends with
    others := fun ticket ne k waiting carries =>
      ends.others ticket ne k waiting (carries.take_of_ne (Ne.symm ne)) }

/-- **A decoder that is left alone decodes all records that wait.** -/
theorem leads_decodeAll {k : Keeping} {records : List Record}
    (carries : h.queues.Carries k 0 records) (mem : 0 ∈ h.closed) {m : Hub Message}
    (distinct : m.queues.IsDistinct) (events : List Event) :
    ∃ last, Leads (move clock) (⟨d, n, .receiving, events⟩, c, h, m) last ∧
      Ends (Pipeline.decodeAll clock n d m.queues records) events c h last := by
  induction records generalizing d n h m events with
  | nil =>
    have none := Hub.receive_nil carries
    rw [if_pos mem] at none
    obtain ⟨last, leads, ends⟩ := @ends_of_leaving clock d n c h events [] m (.ok d)
      fun d' same => Except.ok.inj same
    refine ⟨last, .head ?_ leads, ends⟩
    simp [move, step, none, goTo, DecoderRun.hasCrashed]
  | cons r records ih =>
    have some := Hub.receive_cons carries
    rw [Pipeline.decodeAll]
    dsimp only
    cases processed : (d.process r (clock n)).result with
    | error crash =>
      obtain ⟨last, leads, ends⟩ := @ends_of_leaving clock d (n + 1) c
        ⟨(h.queues.take 0).1, h.closed⟩ events (d.process r (clock n)).events m (.error crash)
        fun d' same => nomatch same
      refine ⟨last, .head ?_ leads, ends.of_take⟩
      simp [move, step, some, decode, processed, goTo, DecoderRun.hasCrashed]
    | ok result =>
      obtain ⟨d', answer⟩ := result
      cases answer with
      | none =>
        obtain ⟨last, leads, ends⟩ := ih (n := n + 1) (d := d')
          (h := ⟨(h.queues.take 0).1, h.closed⟩)
          carries.take_cons.2 mem distinct (events ++ (d.process r (clock n)).events)
        refine ⟨last, .head ?_ leads, ends.of_take.after⟩
        simp [move, step, some, decode, processed, goTo]
      | some message =>
        obtain ⟨last, leads, ends⟩ := ih (n := n + 1) (d := d')
          (h := ⟨(h.queues.take 0).1, h.closed⟩)
          carries.take_cons.2 mem (m := { m with queues := (m.queues.publish message).1 })
          (distinct.publish message)
          (events ++ ((d.process r (clock n)).events ++ (m.queues.publish message).2))
        have puts : Leads (move clock) (⟨d', n + 1, .handing message m.tickets,
          events ++ (d.process r (clock n)).events⟩, c, ⟨(h.queues.take 0).1, h.closed⟩, m) _ :=
          leads_puts _ m message m.tickets
        rw [Hub.putEach_tickets distinct, List.append_assoc] at puts
        refine ⟨last, .head ?_ (puts.trans leads), ends.of_take.after⟩
        simp [move, step, some, decode, processed, goTo]

end Decoder

end DecoderStage

/-! ## Sinks -/

namespace SinkStage

variable {α : Type}

/-- One step of a sink that is left alone. -/
def move (ticket : Nat) : SinkStage α × Hub α → Option (SinkStage α × Hub α)
  | (s, h) => s.step ticket h

/-- A sink that is to go away flushes and comes to its end. -/
theorem leads_leave {s : SinkStage α} (phase : s.phase = .leaving) (ticket : Nat) (h : Hub α) :
    Leads (move ticket) (s, h) (⟨s.sink, s.flush, .done⟩, h.leave ticket) := by
  refine .single ?_
  rw [move, step, phase]

/-- **A sink that is left alone is handed all items that wait.** Others find in their queues what
they would have found. -/
theorem leads_run {s : SinkStage α} {h : Hub α} {k : Keeping} {ticket : Nat} {waiting : List α}
    (receiving : s.IsReceiving) (carries : h.queues.Carries k ticket waiting)
    (mem : ticket ∈ h.closed) :
    ∃ h', Leads (move ticket) (s, h) (⟨s.sink, s.outlook waiting, .done⟩, h') ∧
      h'.closed = h.closed ∧ ∀ other ≠ ticket, ∀ k waiting,
        h.queues.Carries k other waiting → h'.queues.Carries k other waiting := by
  induction waiting generalizing s h with
  | nil =>
    have none := Hub.receive_nil carries
    rw [if_pos mem] at none
    have leaves : Leads (move ticket) ({ s with phase := .leaving }, h)
        (⟨s.sink, s.flush, .done⟩, h.leave ticket) := leads_leave rfl ticket h
    rw [flush_eq_outlook receiving] at leaves
    refine ⟨h.leave ticket, .head ?_ leaves, rfl, fun other ne k waiting carries =>
      carries.leave_of_ne (Ne.symm ne)⟩
    rw [move, step, receiving.phase]
    dsimp only
    rw [none]
  | cons a rest ih =>
    have next : move ticket (s, h) =
        some (s.accept a, { h with queues := (h.queues.take ticket).1 }) := by
      rw [move, step, receiving.phase]
      dsimp only
      rw [Hub.receive_cons carries]
    have others (other : Nat) (ne : other ≠ ticket) (k : Keeping) (waiting : List α)
        (carries : h.queues.Carries k other waiting) :
        (h.queues.take ticket).1.Carries k other waiting :=
      carries.take_of_ne (Ne.symm ne)
    obtain ⟨receiving', -, same⟩ | ⟨phase, same⟩ := accept_cases receiving a
    · obtain ⟨h', leads, closed, alike⟩ := @ih _ { h with queues := (h.queues.take ticket).1 }
        receiving' carries.take_cons.2 mem
      rw [same, sink_accept] at leads
      exact ⟨h', .head next leads, closed, fun other ne k waiting carries =>
        alike other ne k waiting (others other ne k waiting carries)⟩
    · have leaves := leads_leave phase ticket { h with queues := (h.queues.take ticket).1 }
      rw [same rest, sink_accept] at leaves
      exact ⟨_, .head next leaves, rfl, fun other ne k waiting carries =>
        (others other ne k waiting carries).leave_of_ne (Ne.symm ne)⟩

/-- One of the sinks of a hub makes a step, where the first has the ticket `first`. -/
def OneMoves (first : Nat) (before after : List (SinkStage α) × Hub α) : Prop :=
  ∃ n stage next, before.1[n]? = some stage ∧ move (n + first) (stage, before.2) = some next ∧
    after = (before.1.set n next.1, next.2)

theorem leads_one {first n : Nat} {stages : List (SinkStage α)} {stage : SinkStage α} {h : Hub α}
    {last : SinkStage α × Hub α} (here : stages[n]? = some stage)
    (leads : Leads (move (n + first)) (stage, h) last) :
    Relation.ReflTransGen (OneMoves first) (stages, h) (stages.set n last.1, last.2) := by
  obtain ⟨inside, same⟩ := List.getElem?_eq_some_iff.1 here
  induction leads with
  | refl =>
    rw [← same, List.set_getElem_self]
  | @tail mid next _ step ih =>
    refine ih.tail ⟨n, mid.1, next, List.getElem?_set_self inside, step, ?_⟩
    rw [List.set_set]

/-- **Sinks that take their turns one after the other** are handed what `Pipeline.runSinks` hands
to them. -/
theorem leads_runSinks {first : Nat} {d : Distributor α} {h : Hub α} (before : List (SinkStage α))
    (sinks : List (Sink α))
    (carries : ∀ ticket, before.length + first ≤ ticket →
      ticket < before.length + sinks.length + first → ticket ∈ h.closed ∧
        ∃ k waiting, d.Carries k ticket waiting ∧ h.queues.Carries k ticket waiting) :
    ∃ stages h', Relation.ReflTransGen (OneMoves first) (before ++ sinks.map .new, h)
        (before ++ stages, h') ∧
      stages.map (·.run) = Pipeline.runSinks d (before.length + first) sinks ∧
      stages.map (·.sink) = sinks ∧ ∀ stage ∈ stages, stage.phase = .done := by
  -- what the sinks of `before` took is gone from `h`, but not from the queues of later sinks, which
  -- is all that matters for what these are handed
  induction sinks generalizing before d h with
  | nil => exact ⟨[], h, .refl, rfl, rfl, fun stage mem => nomatch mem⟩
  | cons sink rest ih =>
    obtain ⟨mem, k, waiting, there, here⟩ := carries (before.length + first) (Nat.le_refl _)
      (by rw [List.length_cons]; omega)
    obtain ⟨h', leads, closed, others⟩ := leads_run (isReceiving_new sink) here mem
    rw [outlook_new] at leads
    let done : SinkStage α := ⟨sink, sink.run waiting, .done⟩
    have one : Relation.ReflTransGen (OneMoves first) (before ++ (sink :: rest).map .new, h)
        (before ++ [done] ++ rest.map .new, h') := by
      have here : (before ++ (sink :: rest).map new)[before.length]? = some (new sink) := by simp
      have placed : (before ++ (sink :: rest).map new).set before.length done =
          before ++ [done] ++ rest.map new := by simp
      rw [← placed]
      exact leads_one here leads
    have length : (before ++ [done]).length = before.length + 1 := by simp
    obtain ⟨stages, last, all, runs, sinks, phases⟩ := @ih (d.drain (before.length + first)).1 h'
      (before ++ [done]) fun ticket low high => by
        rw [length] at low high
        obtain ⟨mem, k, waiting, there, here⟩ := carries ticket (by omega)
          (by rw [List.length_cons]; omega)
        have ne : before.length + first ≠ ticket := by omega
        exact ⟨closed ▸ mem, k, waiting, there.drain_of_ne ne,
          others ticket (Ne.symm ne) k waiting here⟩
    rw [List.append_assoc before [done] stages] at all
    rw [length, Nat.succ_add] at runs
    refine ⟨done :: stages, last, one.trans all, ?_, ?_, ?_⟩
    · rw [Pipeline.runSinks, List.map_cons, runs]
      dsimp only
      rw [there.drain]
    · rw [List.map_cons, sinks]
    · exact List.forall_mem_cons.2 ⟨rfl, phases⟩

end SinkStage

end AisFeed
