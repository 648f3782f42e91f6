import AisFeed.Pipeline.Schedule
import AisFeed.Proofs.Pipeline.Alone

/-!
# Stages that run one after the other

`Pipeline.run` is what comes of one of the schedules (`System.exists_schedule`): first the reader
makes all of its steps, then the decoder, then each of the sinks. So whatever holds for every
schedule holds for it, and some schedule lets the pipeline return.
-/

set_option autoImplicit false

namespace AisFeed

/-! ## What waits for the stages -/

namespace Distributor

variable {α : Type} {d : Distributor α}

theorem IsDistinct.add (distinct : d.IsDistinct) (numbered : d.IsNumbered) (q : Queue α) :
    (d.add q).IsDistinct := by
  rw [IsDistinct, Distributor.add, List.map_append, List.nodup_append]
  refine ⟨distinct, List.nodup_singleton _, fun ticket mem other mem' same => ?_⟩
  obtain ⟨p, inside, rfl⟩ := List.mem_map.1 mem
  rw [List.map_singleton, List.mem_singleton] at mem'
  exact Nat.ne_of_lt (numbered p inside) (same.trans mem')

theorem IsDistinct.foldl_register {β : Type} (distinct : d.IsDistinct) (numbered : d.IsNumbered)
    (name : β → String) (policy : QueuePolicy) (consumers : List β) :
    (consumers.foldl (fun d b => d.register (name b) policy) d).IsDistinct := by
  induction consumers generalizing d with
  | nil => exact distinct
  | cons b rest ih => exact ih (distinct.add numbered _) (numbered.add _)

theorem isDistinct_empty : (empty : Distributor α).IsDistinct :=
  List.nodup_nil

/-- The queue of a ticket is attended to, whatever waits in it. -/
def Attended (d : Distributor α) (ticket : Nat) : Prop :=
  ∃ k waiting, d.Carries k ticket waiting

theorem Attended.publish {ticket : Nat} (attended : d.Attended ticket) (a : α) :
    (d.publish a).1.Attended ticket := by
  obtain ⟨k, waiting, carries⟩ := attended
  exact ⟨k, _, carries.publish a⟩

theorem Attended.publishAll {ticket : Nat} (attended : d.Attended ticket) (items : List α) :
    (d.publishAll items).1.Attended ticket := by
  obtain ⟨k, waiting, carries⟩ := attended
  exact ⟨k, _, carries.publishAll items⟩

theorem Attended.mem_tickets {ticket : Nat} (attended : d.Attended ticket) :
    ticket ∈ d.queues.map Prod.fst := by
  obtain ⟨k, waiting, carries⟩ := attended
  refine List.count_pos_iff.1 ?_
  rw [carries.count_tickets]
  exact Nat.one_pos

end Distributor

theorem Source.attended_runReadings {name : String} {isIdle : Bool} (running : Bool)
    {queues : Distributor Record} {ticket : Nat} (attended : queues.Attended ticket)
    (readings : List Reading) :
    (runReadings name isIdle running queues readings).queues.Attended ticket := by
  induction readings generalizing running queues with
  | nil =>
    cases running with
    | false => exact attended
    | true =>
      rw [runReadings]
      split <;> exact attended
  | cons reading rest ih =>
    cases running with
    | false => exact attended
    | true =>
      have next := attended.publishAll reading.records
      rw [runReadings]
      dsimp only
      split
      · exact next
      · exact ih _ next
      · split
        · exact next
        · exact ih _ next

namespace Pipeline

theorem attended_decodeAll {clock : Nat → Time} {n : Nat} {d : Decoder}
    {queues : Distributor Message} {ticket : Nat} (attended : queues.Attended ticket)
    (records : List Record) : (decodeAll clock n d queues records).messages.Attended ticket := by
  induction records generalizing n d queues with
  | nil => exact attended
  | cons r rest ih =>
    rw [decodeAll]
    dsimp only
    split
    · exact attended
    · exact ih attended
    · exact ih (attended.publish _)

theorem carries_recordQueues (p : Pipeline) {ticket : Nat} (given : ticket ≤ p.rawSinks.length) :
    p.recordQueues.Carries p.policy.keeping ticket [] := by
  rw [recordQueues]
  have first : ((Distributor.empty : Distributor Record).register "decoder" p.policy).Carries
      p.policy.keeping 0 [] :=
    Distributor.carries_register Distributor.isNumbered_empty "decoder" p.policy
  cases ticket with
  | zero => exact first.foldl_register Sink.name p.policy p.rawSinks
  | succ n =>
    exact Distributor.carries_foldl_register (Distributor.isNumbered_empty.add _) _ p.policy
      p.rawSinks given

theorem carries_messageQueues (p : Pipeline) {ticket : Nat}
    (given : ticket < p.messageSinks.length) :
    p.messageQueues.Carries p.policy.keeping ticket [] :=
  Distributor.carries_foldl_register Distributor.isNumbered_empty _ p.policy p.messageSinks given

theorem isDistinct_recordQueues (p : Pipeline) : p.recordQueues.IsDistinct :=
  (Distributor.isDistinct_empty.add Distributor.isNumbered_empty _).foldl_register
    (Distributor.isNumbered_empty.add _) Sink.name p.policy p.rawSinks

theorem isDistinct_messageQueues (p : Pipeline) : p.messageQueues.IsDistinct :=
  Distributor.isDistinct_empty.foldl_register Distributor.isNumbered_empty Sink.name p.policy
    p.messageSinks

/-- The parts of a run, with the crashes told by their own names. -/
theorem run_eq (p : Pipeline) (source : Source) (clock : Nat → Time) :
    p.run source clock =
      let reading := source.run true p.recordQueues
      let decoding := decodeAll clock 0 p.decoder p.messageQueues (reading.queues.drain 0).2
      let raw := runSinks (reading.queues.drain 0).1 1 p.rawSinks
      let messages := runSinks decoding.messages 0 p.messageSinks
      { cause := Supervisor.causeOf ((signalOf reading.ending).toList ++
          if decoding.hasCrashed then [.stageCrashed "decoder"] else [])
        summary := match decoding.result with
          | .ok d => d.summary
          | .error _ => .zero
        raw
        messages
        reader := reading.events ++ crashEvents reading.ending.isCrash "reader"
        decoder := decoding.events ++ crashEvents decoding.hasCrashed "decoder"
        main :=
          (if reading.ending.isCrash then [.foundCrashed "reader"] else []) ++
          (if decoding.hasCrashed then [.foundCrashed "decoder"] else []) ++
          sinkEvents p.rawSinks raw ++ sinkEvents p.messageSinks messages } := by
  unfold run DecoderRun.hasCrashed SourceEnd.isCrash
  dsimp only
  generalize source.run true p.recordQueues = reading
  generalize decodeAll clock 0 p.decoder p.messageQueues (reading.queues.drain 0).2 = decoding
  cases reading.ending <;> cases decoding.result <;> rfl

end Pipeline

namespace System

/-- One system gets to another by turns. -/
def Reaches (clock : Nat → Time) (s s' : System) : Prop :=
  ∃ schedule, s.run clock schedule = s'

variable {clock : Nat → Time} {s s' s'' : System}

theorem Reaches.refl (s : System) : Reaches clock s s :=
  ⟨[], rfl⟩

theorem Reaches.trans (first : Reaches clock s s') (second : Reaches clock s' s'') :
    Reaches clock s s'' := by
  obtain ⟨schedule, rfl⟩ := first
  obtain ⟨schedule', rfl⟩ := second
  exact ⟨schedule ++ schedule', List.foldl_append⟩

theorem reaches_step (agent : Agent) (step : s.step? clock agent = some s') : Reaches clock s s' :=
  ⟨[agent], by rw [run, List.foldl_cons, turn, step]; rfl⟩

/-- The reader is left alone. -/
theorem reaches_reader {last : ReaderStage × Control × Hub Record}
    (leads : Leads ReaderStage.move (s.reader, s.control, s.records) last) :
    Reaches clock s { s with reader := last.1, control := last.2.1, records := last.2.2 } := by
  induction leads with
  | refl => exact .refl s
  | @tail mid next _ step ih =>
    refine ih.trans (reaches_step .reader ?_)
    have moved : mid.1.step mid.2.1 mid.2.2 = some next := step
    simp [step?, moved]

/-- The decoder is left alone. -/
theorem reaches_decoder {last : DecoderStage × Control × Hub Record × Hub Message}
    (leads : Leads (DecoderStage.move clock) (s.decoder, s.control, s.records, s.messages) last) :
    Reaches clock s { s with
      decoder := last.1, control := last.2.1, records := last.2.2.1, messages := last.2.2.2 } := by
  induction leads with
  | refl => exact .refl s
  | @tail mid next _ step ih =>
    refine ih.trans (reaches_step .decoder ?_)
    have moved : mid.1.step clock mid.2.1 mid.2.2.1 mid.2.2.2 = some next := step
    simp [step?, moved]

/-- Only raw sinks take turns. -/
theorem reaches_rawSinks {last : List (SinkStage Record) × Hub Record}
    (leads : Relation.ReflTransGen (SinkStage.OneMoves 1) (s.rawSinks, s.records) last) :
    Reaches clock s { s with rawSinks := last.1, records := last.2 } := by
  induction leads with
  | refl => exact .refl s
  | @tail mid next _ step ih =>
    obtain ⟨n, stage, moved, here, step, rfl⟩ := step
    refine ih.trans (reaches_step (.rawSink n) ?_)
    have moved : stage.step (n + 1) mid.2 = some moved := step
    simp [step?, here, moved]

/-- Only message sinks take turns. -/
theorem reaches_messageSinks {last : List (SinkStage Message) × Hub Message}
    (leads : Relation.ReflTransGen (SinkStage.OneMoves 0) (s.messageSinks, s.messages) last) :
    Reaches clock s { s with messageSinks := last.1, messages := last.2 } := by
  induction leads with
  | refl => exact .refl s
  | @tail mid next _ step ih =>
    obtain ⟨n, stage, moved, here, step, rfl⟩ := step
    refine ih.trans (reaches_step (.messageSink n) ?_)
    have moved : stage.step n mid.2 = some moved := step
    simp [step?, here, moved]

theorem isOver_iff {s : System} : s.isOver = true ↔
    (∃ hasCrashed, s.reader.phase = .done hasCrashed) ∧
      (∃ hasCrashed, s.decoder.phase = .done hasCrashed) ∧
      (∀ stage ∈ s.rawSinks, stage.phase = .done) ∧
      ∀ stage ∈ s.messageSinks, stage.phase = .done := by
  unfold isOver
  cases s.reader.phase <;> cases s.decoder.phase <;> simp

/-- Once all stages are done, the one who started them returns with the first cause. -/
theorem reaches_returned (finished : s.isOver = true) (waiting : s.main = .waiting) :
    Reaches clock s { s with
      control := s.control.stopIf true, main := .returned s.control.supervisor.cause } := by
  have free : s.isDisconnected = true := by
    rw [isDisconnected]
    obtain ⟨⟨_, reader⟩, ⟨_, decoder⟩, -⟩ := isOver_iff.1 finished
    rw [reader, decoder]
    rfl
  have stops : Reaches clock s { s with main := .stopping s.control.supervisor.cause } :=
    reaches_step .main (by rw [step?, stepMain, waiting]; simp [free])
  have joins : Reaches clock { s with main := .stopping s.control.supervisor.cause }
      { s with control := s.control.stopIf true, main := .joining s.control.supervisor.cause } :=
    reaches_step .main rfl
  have finished' : System.isOver { s with
      control := s.control.stopIf true, main := .joining s.control.supervisor.cause } = true :=
    finished
  refine stops.trans (joins.trans (reaches_step .main ?_))
  simp [step?, stepMain, finished']

/-- The reader has signalled before the decoder. -/
theorem cause_of_ends {reading : SourceRun} {decoding : DecoderRun} {events events' : List Event}
    {r : ReaderStage × Control × Hub Record}
    {q : DecoderStage × Control × Hub Record × Hub Message}
    (read : ReaderStage.Ends reading events .new r)
    (decoded : DecoderStage.Ends decoding events' r.2.1 r.2.2 q) :
    q.2.1.supervisor.cause = Supervisor.causeOf ((Pipeline.signalOf reading.ending).toList ++
      if decoding.hasCrashed then [.stageCrashed "decoder"] else []) := by
  rw [Supervisor.causeOf, List.foldl_append, ← read.signalled, decoded.control]
  split <;> rfl

/-- **`Pipeline.run` is what comes of one of the schedules**, if the source does not only wait. -/
theorem exists_schedule (p : Pipeline) (source : Source) (clock : Nat → Time)
    (ends : (source.run true p.recordQueues).ending ≠ .waiting) :
    ∃ schedule, ((new p source).run clock schedule).shutdown? = some (p.run source clock) := by
  -- the reader
  have attended {ticket : Nat} (given : ticket ≤ p.rawSinks.length) :
      (source.run true p.recordQueues).queues.Attended ticket :=
    Source.attended_runReadings true ⟨_, _, p.carries_recordQueues given⟩ source.readings
  obtain ⟨r, leads, read⟩ : ∃ r, Leads ReaderStage.move
      (.new source, .new, .ofDistributor p.recordQueues) r ∧
        ReaderStage.Ends (source.run true p.recordQueues) [] .new r :=
    ReaderStage.leads_runReadings true .new p.isDistinct_recordQueues source.readings [] ends
  have reading : Reaches clock (new p source) _ := reaches_reader leads
  rw [Pipeline.run_eq]
  generalize source.run true p.recordQueues = records at *
  have closed {ticket : Nat} (given : ticket ≤ p.rawSinks.length) : ticket ∈ r.2.2.closed :=
    read.closed ticket (attended given).mem_tickets
  -- the decoder
  obtain ⟨k, waiting, carries⟩ := attended (Nat.zero_le _)
  obtain ⟨q, leads, decoded⟩ : ∃ q, Leads (DecoderStage.move clock)
      (.new p.decoder, r.2.1, r.2.2, .ofDistributor p.messageQueues) q ∧
        DecoderStage.Ends (Pipeline.decodeAll clock 0 p.decoder p.messageQueues waiting) []
          r.2.1 r.2.2 q :=
    DecoderStage.leads_decodeAll (read.queues ▸ carries) (closed (Nat.zero_le _))
      p.isDistinct_messageQueues []
  have decoding := reading.trans (reaches_decoder leads)
  have sent {ticket : Nat} (given : ticket < p.messageSinks.length) :
      (Pipeline.decodeAll clock 0 p.decoder p.messageQueues waiting).messages.Attended ticket :=
    Pipeline.attended_decodeAll ⟨_, _, p.carries_messageQueues given⟩ waiting
  dsimp only
  rw [carries.drain]
  generalize Pipeline.decodeAll clock 0 p.decoder p.messageQueues waiting = messages at *
  -- the sinks
  obtain ⟨raw, h, leads, rawRuns, rawSinks, rawDone⟩ :=
    @SinkStage.leads_runSinks Record 1 (records.queues.drain 0).1 q.2.2.1 [] p.rawSinks
      fun ticket low high => by
        simp only [List.length_nil, Nat.zero_add] at low high
        obtain ⟨k, waiting, carries⟩ := attended (Nat.le_of_lt_succ high)
        have ne : ticket ≠ 0 := Nat.ne_of_gt low
        exact ⟨decoded.stays ▸ closed (Nat.le_of_lt_succ high), k, waiting,
          carries.drain_of_ne ne.symm, decoded.others ticket ne k waiting (read.queues ▸ carries)⟩
  have handing := decoding.trans (reaches_rawSinks leads)
  obtain ⟨told, m, leads, toldRuns, toldSinks, toldDone⟩ :=
    @SinkStage.leads_runSinks Message 0 messages.messages q.2.2.2 [] p.messageSinks
      fun ticket low high => by
        simp only [List.length_nil, Nat.zero_add, Nat.add_zero] at low high
        obtain ⟨k, waiting, carries⟩ := sent high
        exact ⟨decoded.closed ticket (sent high).mem_tickets, k, waiting, carries,
          decoded.queues ▸ carries⟩
  -- and the one who started them
  have telling := handing.trans (reaches_messageSinks leads)
  let last : System := ⟨q.2.1, r.1, h, q.1, m, raw, told, .waiting⟩
  have comes : Reaches clock (new p source) last := telling
  have finished : last.isOver = true :=
    isOver_iff.2 ⟨⟨_, read.phase⟩, ⟨_, decoded.phase⟩, rawDone, toldDone⟩
  obtain ⟨schedule, run⟩ := comes.trans (reaches_returned finished rfl)
  refine ⟨schedule, ?_⟩
  rw [run, shutdown?]
  dsimp only [last]
  simp only [rawRuns, rawSinks, toldRuns, toldSinks, cause_of_ends read decoded,
    decoded.summary_eq, read.phase, read.told, decoded.phase, decoded.told, List.nil_append,
    List.length_nil, Nat.zero_add, ReaderPhase.done.injEq]
  cases messages.hasCrashed <;> rfl

end System

end AisFeed
