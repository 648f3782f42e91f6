import AisFeed.Proofs.Pipeline.Decoding
import AisFeed.Proofs.Pipeline.Reader
import AisFeed.Proofs.Pipeline.Sequence

/-!
# A pipeline delivers everything, in any order of its steps

Each stage keeps what it owes to the next ones (`ReaderStage.Brings`, `DecoderStage.Decodes`,
`SinkStage.AllAttend`), and no step of one stage disturbs another: `System.Delivers` holds from
step to step.
-/

set_option autoImplicit false

namespace AisFeed

/-- The cause of which the one who started a pipeline knows. -/
def MainPhase.cause? : MainPhase → Option Error
  | waiting => none
  | stopping cause | joining cause | returned cause => some cause

namespace System

/-- A pipeline that has returned knows the cause. -/
theorem cause_of_shutdown? {s : System} {out : Shutdown} (returned : s.shutdown? = some out) :
    s.main.cause? = some out.cause := by
  unfold shutdown? at returned
  split at returned
  · rename_i phase
    cases returned
    rw [phase]
    rfl
  · cases returned

/-- An error is known once it was signalled, and before that the reader is kept going. -/
structure Informed (error : Error) (signalled : Bool) (c : Control) (main : MainPhase) : Prop where
  running : signalled = false → c.running = true
  signal : c.supervisor.cause? = if signalled then some error else none
  cause : ∀ cause, main.cause? = some cause → signalled = true ∧ cause = error

section Informed

variable {error : Error} {signalled signalled' : Bool} {c c' : Control} {main : MainPhase}

theorem Informed.signals (informed : Informed error signalled c main)
    (signals : ReaderStage.Signals error signalled signalled' c c') :
    Informed error signalled' c' main := by
  obtain ⟨rfl, rfl⟩ | ⟨rfl, rfl, rfl⟩ := signals
  · exact informed
  · refine ⟨fun none => Bool.noConfusion none, ?_, fun cause knows => ?_⟩
    · have none : c.supervisor.cause? = none := informed.signal
      rw [Control.signal, Supervisor.signal, none]
      rfl
    · cases (informed.cause cause knows).1

theorem Informed.cause_eq (informed : Informed error true c main) :
    c.supervisor.cause = error := by
  rw [Supervisor.cause, informed.signal]
  rfl

end Informed

/-- Once all stages are done, only the one who started them can make a step. -/
theorem step?_of_isOver {clock : Nat → Time} {s : System} (finished : s.isOver = true)
    {agent : Agent} (ne : agent ≠ .main) : s.step? clock agent = none := by
  obtain ⟨⟨_, reader⟩, ⟨_, decoder⟩, raw, messages⟩ := isOver_iff.1 finished
  cases agent with
  | main => exact absurd rfl ne
  | reader => rw [step?, ReaderStage.step, reader]; rfl
  | decoder => rw [step?, DecoderStage.step, decoder]; rfl
  | rawSink n =>
    rw [step?]
    cases here : s.rawSinks[n]? with
    | none => rfl
    | some stage =>
      rw [Option.bind_some, SinkStage.step, raw stage (List.mem_of_getElem? here)]
      rfl
  | messageSink n =>
    rw [step?]
    cases here : s.messageSinks[n]? with
    | none => rfl
    | some stage =>
      rw [Option.bind_some, SinkStage.step, messages stage (List.mem_of_getElem? here)]
      rfl

/-- A pipeline is on its way to delivering records, up to an error, and the messages that come of
them, after which the decoder will be `last`: what is still to come to each queue, and whether the
error was signalled. -/
structure Delivers (p : Pipeline) (clock : Nat → Time) (records : List Record) (error : Error)
    (last : Decoder) (coming : Nat → List Record) (pending : Nat → List Message)
    (signalled : Bool) (s : System) : Prop where
  informed : Informed error signalled s.control s.main
  reader : s.reader.Brings error coming signalled
  decoder : s.decoder.Decodes clock last s.records (coming 0) records pending
  raw : SinkStage.AllAttend s.records 1 coming records p.rawSinks s.rawSinks
  messages : SinkStage.AllAttend s.messages 0 pending
    (p.decoder.processAll (arrivals clock 0 records)).messages p.messageSinks s.messageSinks
  finished : ∀ cause, s.main = .returned cause → s.isOver = true

section Delivers

variable {p : Pipeline} {clock : Nat → Time} {records : List Record} {error : Error}
  {last : Decoder} {coming : Nat → List Record} {pending : Nat → List Message} {signalled : Bool}
  {s s' : System}

theorem Delivers.stepReader
    (delivers : s.Delivers p clock records error last coming pending signalled)
    (step : s.step? clock .reader = some s') (running : ∀ cause, s.main ≠ .returned cause) :
    ∃ coming' signalled', s'.Delivers p clock records error last coming' pending signalled' := by
  obtain ⟨informed, reader, decoder, raw, messages, -⟩ := delivers
  obtain ⟨⟨reader', control', records'⟩, made, rfl⟩ := Option.map_eq_some_iff.1 step
  obtain ⟨coming', signalled', brings, signals, serves⟩ := reader.step informed.running made
  exact ⟨coming', signalled', informed.signals signals, brings,
    decoder.mono fun taken => serves 0 taken records,
    raw.mono fun ticket _ taken => serves ticket taken records, messages,
    fun cause returned => absurd returned (running cause)⟩

theorem Delivers.stepDecoder
    (delivers : s.Delivers p clock records error last coming pending signalled)
    (step : s.step? clock .decoder = some s') (running : ∀ cause, s.main ≠ .returned cause) :
    ∃ pending', s'.Delivers p clock records error last coming pending' signalled := by
  obtain ⟨informed, reader, decoder, raw, messages, -⟩ := delivers
  obtain ⟨⟨decoder', control', records', messages'⟩, made, rfl⟩ := Option.map_eq_some_iff.1 step
  obtain ⟨pending', decodes, rfl, frame, serves⟩ := decoder.step made
  exact ⟨pending', informed, reader, decodes,
    raw.mono fun ticket first taken => frame ticket (by omega) taken _ records,
    messages.mono fun ticket _ taken => serves ticket taken _,
    fun cause returned => absurd returned (running cause)⟩

theorem Delivers.stepRawSink
    (delivers : s.Delivers p clock records error last coming pending signalled) {n : Nat}
    (step : s.step? clock (.rawSink n) = some s')
    (running : ∀ cause, s.main ≠ .returned cause) :
    s'.Delivers p clock records error last coming pending signalled := by
  obtain ⟨informed, reader, decoder, raw, messages, -⟩ := delivers
  obtain ⟨⟨stage', records'⟩, made, rfl⟩ := Option.map_eq_some_iff.1 step
  obtain ⟨stage, here, made⟩ := Option.bind_eq_some_iff.1 made
  obtain ⟨raw, frame⟩ := raw.step here made
  exact ⟨informed, reader, decoder.mono fun taken => frame 0 (by omega) taken _ records, raw,
    messages, fun cause returned => absurd returned (running cause)⟩

theorem Delivers.stepMessageSink
    (delivers : s.Delivers p clock records error last coming pending signalled) {n : Nat}
    (step : s.step? clock (.messageSink n) = some s')
    (running : ∀ cause, s.main ≠ .returned cause) :
    s'.Delivers p clock records error last coming pending signalled := by
  obtain ⟨informed, reader, decoder, raw, messages, -⟩ := delivers
  obtain ⟨⟨stage', messages'⟩, made, rfl⟩ := Option.map_eq_some_iff.1 step
  obtain ⟨stage, here, made⟩ := Option.bind_eq_some_iff.1 made
  exact ⟨informed, reader, decoder, raw, (messages.step here made).1,
    fun cause returned => absurd returned (running cause)⟩

theorem Delivers.stepMain
    (delivers : s.Delivers p clock records error last coming pending signalled)
    (step : s.step? clock .main = some s') :
    s'.Delivers p clock records error last coming pending signalled := by
  obtain ⟨informed, reader, decoder, raw, messages, finished⟩ := delivers
  rw [step?, System.stepMain] at step
  cases phase : s.main with
  | waiting =>
    rw [phase] at step
    simp only [Option.ite_none_right_eq_some] at step
    obtain ⟨told, step⟩ := step
    cases step
    have known : signalled = true := by
      rw [informed.signal, Bool.or_eq_true] at told
      obtain told | none := told
      · cases signalled with
        | true => rfl
        | false => cases told
      · rw [isDisconnected, Bool.and_eq_true] at none
        split at none
        · rename_i done
          exact (reader.signalled_of_done done).1
        · cases none.1
    subst known
    refine ⟨⟨informed.running, informed.signal, ?_⟩, reader, decoder, raw, messages, ?_⟩
    · rintro cause ⟨⟩
      exact ⟨rfl, informed.cause_eq⟩
    · rintro cause ⟨⟩
  | stopping cause =>
    rw [phase] at step
    cases step
    obtain ⟨rfl, rfl⟩ := informed.cause cause (by rw [phase]; rfl)
    refine ⟨⟨Bool.noConfusion, informed.signal, ?_⟩, reader, decoder, raw, messages, ?_⟩
    · rintro cause ⟨⟩
      exact ⟨rfl, rfl⟩
    · rintro cause ⟨⟩
  | joining cause =>
    rw [phase] at step
    simp only [Option.ite_none_right_eq_some] at step
    obtain ⟨isOver, step⟩ := step
    cases step
    have knows := informed.cause cause (by rw [phase]; rfl)
    refine ⟨⟨informed.running, informed.signal, ?_⟩, reader, decoder, raw, messages, ?_⟩
    · rintro cause ⟨⟩
      exact knows
    · exact fun _ _ => isOver
  | returned cause =>
    rw [phase] at step
    cases step

/-- One turn: the pipeline stays on its way, whoever's turn it is. -/
theorem Delivers.turn (delivers : s.Delivers p clock records error last coming pending signalled)
    (agent : Agent) :
    ∃ coming' pending' signalled',
      (s.turn clock agent).Delivers p clock records error last coming' pending' signalled' := by
  rw [System.turn]
  cases step : s.step? clock agent with
  | none => exact ⟨_, _, _, delivers⟩
  | some s' =>
    rw [Option.getD_some]
    by_cases main : agent = .main
    · subst main
      exact ⟨_, _, _, delivers.stepMain step⟩
    · -- who has returned has waited for the stages, so none of them has a step to make
      have running (cause : Error) (returned : s.main = .returned cause) : False := by
        rw [step?_of_isOver (delivers.finished cause returned) main] at step
        cases step
      cases agent with
      | main => exact absurd rfl main
      | reader =>
        obtain ⟨_, _, delivers⟩ := delivers.stepReader step running
        exact ⟨_, _, _, delivers⟩
      | decoder =>
        obtain ⟨_, delivers⟩ := delivers.stepDecoder step running
        exact ⟨_, _, _, delivers⟩
      | rawSink n => exact ⟨_, _, _, delivers.stepRawSink step running⟩
      | messageSink n => exact ⟨_, _, _, delivers.stepMessageSink step running⟩

/-- Turns in the order of any schedule. -/
theorem Delivers.run (delivers : s.Delivers p clock records error last coming pending signalled)
    (schedule : List Agent) :
    ∃ coming' pending' signalled',
      (s.run clock schedule).Delivers p clock records error last coming' pending' signalled' := by
  induction schedule generalizing s coming pending signalled with
  | nil => exact ⟨_, _, _, delivers⟩
  | cons agent rest ih =>
    obtain ⟨_, _, _, delivers⟩ := delivers.turn agent
    exact ih delivers

theorem serves_records (policy : p.policy = .unbounded) {ticket : Nat}
    (given : ticket ≤ p.rawSinks.length) (records : List Record) :
    (Hub.ofDistributor p.recordQueues).Serves ticket [] records records := by
  have carries := p.carries_recordQueues given
  rw [policy] at carries
  exact Hub.serves_ofDistributor carries records

/-- At its start a pipeline owes everything to everyone. -/
theorem delivers_new (policy : p.policy = .unbounded) {source : Source}
    (yields : source.Yields records error)
    (decodes : (p.decoder.processAll (arrivals clock 0 records)).result = .ok last) :
    (new p source).Delivers p clock records error last (fun _ => records)
      (fun _ => (p.decoder.processAll (arrivals clock 0 records)).messages) false where
  informed := ⟨fun _ => rfl, rfl, fun _ knows => nomatch knows⟩
  reader := .polling rfl yields
  decoder := .receiving rfl (serves_records policy (Nat.zero_le _) records) rfl decodes
  raw := SinkStage.allAttend_new p.rawSinks fun _ inside => serves_records policy inside records
  messages := SinkStage.allAttend_new p.messageSinks fun n inside => by
    have carries := p.carries_messageQueues inside
    rw [policy] at carries
    exact Hub.serves_ofDistributor carries _
  finished := fun _ returned => nomatch returned

/-- What has become of a pipeline that has delivered everything. -/
theorem Delivers.shutdown
    (delivers : s.Delivers p clock records error last coming pending signalled)
    {out : Shutdown} (returned : s.shutdown? = some out) :
    s.isOver = true ∧ out.cause = error ∧ out.summary = last.summary ∧
      out.raw = p.rawSinks.map (fun sink => sink.run records) ∧
      out.messages = p.messageSinks.map (fun sink =>
        sink.run (p.decoder.processAll (arrivals clock 0 records)).messages) := by
  unfold shutdown? at returned
  split at returned
  · rename_i cause main
    cases returned
    have finished := delivers.finished cause main
    obtain ⟨-, ⟨_, done⟩, raw, messages⟩ := isOver_iff.1 finished
    exact ⟨finished, (delivers.informed.cause cause (by rw [main]; rfl)).2,
      delivers.decoder.summary_of_done done, delivers.raw.run_of_done raw,
      delivers.messages.run_of_done messages⟩
  · cases returned

end Delivers

/-- **A pipeline delivers everything, in any order of its steps.** Let the queues of a pipeline
have no capacity, and its codec never crash. Whenever it has returned, all of its stages have come
to their ends; the cause is the first fatal error of the source; the decoder has counted all
records up to that error; each raw sink was handed these records, and each message sink the
messages that come of them. It is what comes of stages that run one after the other. -/
theorem run_delivers {p : Pipeline} (policy : p.policy = .unbounded)
    {decode : String → Nat → Except CodecError Fields}
    (pure : ∀ text fillBits, p.decoder.codec text fillBits = .ok (decode text fillBits))
    {source : Source} {records : List Record} {error : Error}
    (yields : source.Yields records error) {clock : Nat → Time}
    (inRange : ∀ n < records.length, ((clock n).minus? p.decoder.reassembler.ttl).isSome)
    {start : System} (launched : p.launch source = .ok start) (schedule : List Agent)
    {out : Shutdown} (returned : (start.run clock schedule).shutdown? = some out) :
    let history := p.decoder.processAll (arrivals clock 0 records)
    (start.run clock schedule).isOver = true ∧ out.cause = error ∧
      (∃ last, history.result = .ok last ∧ out.summary = last.summary) ∧
      List.Forall₂ (fun sink run => sink.IsServed [] records run) p.rawSinks out.raw ∧
      List.Forall₂ (fun sink run => sink.IsServed [] history.messages run) p.messageSinks
        out.messages ∧
      ∃ run, p.start source clock = .ok run ∧ run.cause = out.cause ∧ run.summary = out.summary ∧
        run.raw = out.raw ∧ run.messages = out.messages := by
  intro history
  have timely : ∀ a ∈ arrivals clock 0 records,
      (a.now.minus? p.decoder.reassembler.ttl).isSome := by
    intro a mem
    obtain ⟨n, inside, now⟩ := exists_now_of_mem_arrivals mem
    rw [now, Nat.zero_add]
    exact inRange n inside
  obtain ⟨last, decodes⟩ := Decoder.exists_processAll_eq_ok pure timely
  have fault : p.fault? = none := by
    cases found : p.fault? with
    | none => rfl
    | some crash => simp [Pipeline.launch, found] at launched
  have started : start = new p source := by
    simpa [Pipeline.launch, fault] using launched.symm
  subst started
  have fresh := delivers_new policy yields decodes
  obtain ⟨_, _, _, delivers⟩ := fresh.run schedule
  obtain ⟨finished, cause, summary, raw, messages⟩ := delivers.shutdown returned
  -- what comes of the stages one after the other comes of a schedule, too
  obtain ⟨sequence, returned'⟩ := exists_schedule p source clock
    (by rw [Source.run, yields.ending]; exact SourceEnd.noConfusion)
  obtain ⟨_, _, _, delivers'⟩ := fresh.run sequence
  obtain ⟨-, cause', summary', raw', messages'⟩ := delivers'.shutdown returned'
  refine ⟨finished, cause, ⟨last, decodes, summary⟩, ?_, ?_, p.run source clock, ?_,
    cause'.trans cause.symm, summary'.trans summary.symm, raw'.trans raw.symm,
    messages'.trans messages.symm⟩
  · rw [raw, List.forall₂_map_right_iff]
    exact List.forall₂_same.2 fun sink _ => sink.isServed_run records
  · rw [messages, List.forall₂_map_right_iff]
    exact List.forall₂_same.2 fun sink _ => sink.isServed_run history.messages
  · rw [Pipeline.start, fault]

/-- A source fails once and then for good, while one sink crashes and another takes nothing. All
take turns. -/
theorem run_delivers_between_failures :
    let record (line : String) : Record := .ofBytes .epoch (Text.Utf8.bytesOf line)
    let message := record "!AIVDM,1,1,,A,15MwkRPP,2*23"
    let noise := record "noise"
    let crashing : Sink Record := ⟨"crashing", fun _ _ => .crashed "no", fun _ => none⟩
    let p : Pipeline := ⟨.new .minute .sequenceId Envelope.codec, .unbounded,
      [crashing, .keeping "raw"], [.toChannel "messages" false]⟩
    let source : Source := ⟨"script", [⟨[], [message], false, none, some (.serial "later")⟩,
      ⟨[], [noise], false, none, some .disconnected⟩, ⟨[], [message], false, none, none⟩], false⟩
    let round : List Agent :=
      [.reader, .messageSink 0, .decoder, .rawSink 1, .reader, .rawSink 0, .main]
    ∃ start out, p.launch source = .ok start ∧
      (start.run (fun _ => .epoch) (List.replicate 14 round).flatten).shutdown? = some out ∧
      out.cause = .disconnected ∧ out.raw.map (·.handed) = [[message], [message, noise]] ∧
      out.messages.map (·.handed.length) = [1] ∧ out.summary.records = 2 := by
  intro record message noise crashing p source round
  have evaluated : ((((new p source).run (fun _ => .epoch)
      (List.replicate 14 round).flatten).shutdown?).map fun out => (out.raw.map (·.handed),
        out.messages.map (·.handed.length), out.summary.records)) =
      some ([[message], [message, noise]], [1], 2) := by
    decide +kernel
  obtain ⟨out, returned, same⟩ := Option.map_eq_some_iff.1 evaluated
  have launched : p.launch source = .ok (new p source) := by
    have free : p.fault? = none := by decide
    rw [Pipeline.launch, free]
  have yields : source.Yields [message, noise] .disconnected :=
    .goesOn ⟨rfl, rfl⟩ (fun e fails => by cases fails; rfl) (.failed ⟨rfl, rfl⟩ rfl rfl _)
  obtain ⟨-, cause, -⟩ := run_delivers (p := p) rfl (fun _ _ => rfl) yields
    (fun _ _ => rfl) launched _ returned
  obtain ⟨handed, length, count⟩ := by simpa only [Prod.mk.injEq] using same
  exact ⟨_, out, launched, returned, cause, handed, length, count⟩

end System

end AisFeed
