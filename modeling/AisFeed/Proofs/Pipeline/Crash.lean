import AisFeed.Proofs.Pipeline.Advance
import AisFeed.Proofs.Pipeline.Delivery
import AisFeed.Proofs.Pipeline.Failing
import AisFeed.Proofs.Pipeline.Flushing
import AisFeed.Proofs.Pipeline.Signals

/-!
# A crash of the decoder ends a pipeline in order

When the decoder crashes on a record, its crash races with the reader, which may come to the end of
its source first. `System.Breaks` says how the stages stand to each other then, and holds from turn
to turn. So the sinks are handed all that comes before the crash, and no sink less than another.
-/

set_option autoImplicit false

namespace AisFeed

open ReaderStage (Standing)

namespace System

/-- Who signalled what: the reader has signalled the error of its source, or the decoder its crash,
and the first of them counts. Only after that the flag is cleared. -/
structure Told (error : Error) (standing : Standing) (reported : Bool) (c : Control)
    (main : MainPhase) : Prop where
  running : c.running = false → c.supervisor.cause? ≠ none
  silent : c.supervisor.cause? = none → standing = .reading ∧ reported = false
  first : ∀ cause, c.supervisor.cause? = some cause →
    (cause = .stageCrashed "decoder" ∧ reported = true) ∨ (cause = error ∧ standing = .ended)
  stopped : standing = .stopped → reported = true
  main : ∀ cause, main.cause? = some cause → c.supervisor.cause? = some cause

section Told

variable {error : Error} {standing standing' : Standing} {reported reported' : Bool}
  {c c' : Control} {main : MainPhase}

theorem Told.reader (told : Told error standing reported c main)
    (turns : ReaderStage.Turns error standing standing' c c') :
    Told error standing' reported c' main := by
  cases turns with
  | stays => exact told
  | stops cleared =>
    obtain ⟨cause, known⟩ := Option.ne_none_iff_exists'.1 (told.running cleared)
    obtain ⟨rfl, reported⟩ | ⟨-, other⟩ := told.first cause known
    · refine ⟨told.running, fun none => absurd none (told.running cleared), fun cause' known' => ?_,
        fun _ => reported, told.main⟩
      rw [known] at known'
      cases known'
      exact .inl ⟨rfl, reported⟩
    · cases other
  | signals =>
    refine ⟨fun _ => Control.cause?_signal_ne_none c error,
      fun none => absurd none (Control.cause?_signal_ne_none c error), fun cause known => ?_, nofun,
      fun cause knows => Control.cause?_signal_of_some (told.main cause knows) error⟩
    obtain known | rfl := Control.cause?_signal_eq_some known
    · obtain here | ⟨-, other⟩ := told.first cause known
      · exact .inl here
      · cases other
    · exact .inr ⟨rfl, rfl⟩

theorem Told.decoder (told : Told error standing reported c main)
    (reports : DecoderStage.Reports reported reported' c c') :
    Told error standing reported' c' main := by
  cases reports with
  | stays => exact told
  | signals =>
    refine ⟨fun _ => Control.cause?_signal_ne_none c _,
      fun none => absurd none (Control.cause?_signal_ne_none c _), fun cause known => ?_,
      fun _ => rfl,
      fun cause knows => Control.cause?_signal_of_some (told.main cause knows) _⟩
    obtain known | rfl := Control.cause?_signal_eq_some known
    · obtain ⟨-, other⟩ | here := told.first cause known
      · cases other
      · exact .inr here
    · exact .inl ⟨rfl, rfl⟩

/-- Who started the pipeline takes the first signal for its cause. -/
theorem Told.waits (told : Told error standing reported c main)
    (known : c.supervisor.cause? ≠ none) :
    Told error standing reported c (.stopping c.supervisor.cause) := by
  refine ⟨told.running, told.silent, told.first, told.stopped, ?_⟩
  rintro cause ⟨⟩
  obtain ⟨first, same⟩ := Option.ne_none_iff_exists'.1 known
  rw [Supervisor.cause, same]
  rfl

end Told

/-- A pipeline is on its way to its end by a crash of the decoder: the readings that its reader has
begun, and what later ones would bring up to the error; what is still to come to each queue; how it
stands with the reader; and whether the crash was signalled. -/
structure Breaks (p : Pipeline) (codecs : Nat → Codec) (clock : Nat → Time) (source : Source)
    (before beyond : List Record) (bad : Record) (error : Error) (all : List Message)
    (begun : List Reading) (later : List Record) (coming : Nat → List Record)
    (pending : Nat → List Message) (standing : Standing) (reported : Bool) (s : System) :
    Prop where
  readings : source.readings = begun ++ s.reader.source.readings
  whole : begun.flatMap Reading.records ++ later = before ++ bad :: beyond
  told : Told error standing reported s.control s.main
  reader : s.reader.Advances error coming later standing
  isOpen : standing = .reading → s.records.closed = []
  decoder : s.decoder.Fails codecs clock before bad (coming 0) (begun.flatMap Reading.records)
    s.records pending reported
  raw : SinkStage.AllAttend s.records 1 coming (begun.flatMap Reading.records) p.rawSinks
    s.rawSinks
  receive : SinkStage.AllReceive s.records 1 s.rawSinks
  messages : SinkStage.AllAttend s.messages 0 pending all p.messageSinks s.messageSinks
  finished : ∀ cause, s.main = .returned cause → s.isOver = true

section Breaks

variable {p : Pipeline} {codecs : Nat → Codec} {clock : Nat → Time} {source : Source}
  {before beyond : List Record} {bad : Record} {error : Error} {all : List Message}
  {begun : List Reading} {later : List Record} {coming : Nat → List Record}
  {pending : Nat → List Message} {standing : Standing} {reported : Bool} {s s' : System}

theorem Breaks.stepReader
    (breaks : s.Breaks p codecs clock source before beyond bad error all begun later coming pending
      standing reported)
    (step : s.step? clock .reader = some s') (running : ∀ cause, s.main ≠ .returned cause) :
    ∃ begun' later' coming' standing', s'.Breaks p codecs clock source before beyond bad error all
      begun' later' coming' pending standing' reported := by
  obtain ⟨readings, whole, told, reader, isOpen, decoder, raw, receive, messages, -⟩ := breaks
  obtain ⟨⟨reader', control', records'⟩, made, rfl⟩ := Option.map_eq_some_iff.1 step
  obtain ⟨more, coming', later', standing', advances, next, rest, turns, isOpen', none, closed,
    serves⟩ := reader.step isOpen made
  have grown : (begun ++ more).flatMap Reading.records =
      begun.flatMap Reading.records ++ more.flatMap Reading.records := List.flatMap_append
  have isEmpty (brings : more.flatMap Reading.records ≠ []) : s.records.closed = [] :=
    none fun none => brings (by rw [none]; rfl)
  refine ⟨begun ++ more, later', coming', standing', ?_, ?_, told.reader turns, advances, isOpen',
    ?_, ?_, receive.mono closed, messages, fun cause returned => absurd returned (running cause)⟩
  · rw [readings, next, List.append_assoc]
  · rw [grown, ← whole, rest, List.append_assoc]
  · rw [grown]
    exact decoder.extend fun taken => serves 0 taken _
  · rw [grown]
    exact raw.extend receive isEmpty fun ticket taken => serves ticket taken _

theorem Breaks.stepDecoder
    (breaks : s.Breaks p codecs clock source before beyond bad error all begun later coming pending
      standing reported)
    (codec : s.decoder.decoder = { s.decoder.decoder with codec := codecs s.decoder.count })
    (step : s.step? clock .decoder = some s') (running : ∀ cause, s.main ≠ .returned cause) :
    ∃ pending' reported', s'.Breaks p codecs clock source before beyond bad error all begun later
      coming pending' standing reported' := by
  obtain ⟨readings, whole, told, reader, isOpen, decoder, raw, receive, messages, -⟩ := breaks
  obtain ⟨⟨decoder', control', records', messages'⟩, made, rfl⟩ := Option.map_eq_some_iff.1 step
  -- the queues are closed by a reader that is over, and it was not stopped without a signal
  have ended (silent : reported = false) (closed : 0 ∈ s.records.closed) : later = [] := by
    have past := reader.isOver fun reading => by simp [isOpen reading] at closed
    cases past with
    | ended => rfl
    | stopped => exact Bool.noConfusion (silent.symm.trans (told.stopped rfl))
  obtain ⟨pending', reported', fails, reports, closed, frame, serves⟩ :=
    decoder.step codec whole ended made
  refine ⟨pending', reported', readings, whole, told.decoder reports, reader,
    fun reading => closed.trans (isOpen reading), fails,
    raw.mono fun ticket first taken => frame ticket (by omega) taken _ _,
    receive.mono (closed ▸ fun _ mem => mem),
    messages.mono fun ticket _ taken => serves ticket taken _,
    fun cause returned => absurd returned (running cause)⟩

theorem Breaks.stepRawSink
    (breaks : s.Breaks p codecs clock source before beyond bad error all begun later coming pending
      standing reported)
    (calm : ∀ sink ∈ p.rawSinks, sink.IsCalm) {n : Nat}
    (step : s.step? clock (.rawSink n) = some s')
    (running : ∀ cause, s.main ≠ .returned cause) :
    s'.Breaks p codecs clock source before beyond bad error all begun later coming pending standing
      reported := by
  obtain ⟨readings, whole, told, reader, isOpen, decoder, raw, receive, messages, -⟩ := breaks
  obtain ⟨⟨stage', records'⟩, made, rfl⟩ := Option.map_eq_some_iff.1 step
  obtain ⟨stage, here, made⟩ := Option.bind_eq_some_iff.1 made
  have member : stage.sink ∈ p.rawSinks := by
    rw [← raw.same]
    exact List.mem_map_of_mem (List.mem_of_getElem? here)
  have closed := SinkStage.closed_step made
  have received := receive.step here (calm _ member) made
  obtain ⟨raw, frame⟩ := raw.step here made
  exact ⟨readings, whole, told, reader, fun reading => closed.trans (isOpen reading),
    decoder.mono fun taken => frame 0 (by omega) taken _ _, raw, received, messages,
    fun cause returned => absurd returned (running cause)⟩

theorem Breaks.stepMessageSink
    (breaks : s.Breaks p codecs clock source before beyond bad error all begun later coming pending
      standing reported)
    {n : Nat} (step : s.step? clock (.messageSink n) = some s')
    (running : ∀ cause, s.main ≠ .returned cause) :
    s'.Breaks p codecs clock source before beyond bad error all begun later coming pending standing
      reported := by
  obtain ⟨readings, whole, told, reader, isOpen, decoder, raw, receive, messages, -⟩ := breaks
  obtain ⟨⟨stage', messages'⟩, made, rfl⟩ := Option.map_eq_some_iff.1 step
  obtain ⟨stage, here, made⟩ := Option.bind_eq_some_iff.1 made
  exact ⟨readings, whole, told, reader, isOpen, decoder, raw, receive, (messages.step here made).1,
    fun cause returned => absurd returned (running cause)⟩

theorem Breaks.stepMain
    (breaks : s.Breaks p codecs clock source before beyond bad error all begun later coming pending
      standing reported)
    (step : s.step? clock .main = some s') :
    s'.Breaks p codecs clock source before beyond bad error all begun later coming pending standing
      reported := by
  obtain ⟨readings, whole, told, reader, isOpen, decoder, raw, receive, messages,
    finished⟩ := breaks
  obtain ⟨-, signalled, rfl⟩ | ⟨cause, phase, rfl⟩ | ⟨cause, phase, isOver, rfl⟩ :=
    stepMain_cases step
  · have known : s.control.supervisor.cause? ≠ none := by
      intro none
      obtain signalled | alone := signalled
      · rw [none] at signalled
        cases signalled
      · rw [isDisconnected, Bool.and_eq_true] at alone
        obtain ⟨done, -⟩ := alone
        split at done
        · rename_i phase
          exact reader.ne_reading_of_done phase (told.silent none).1
        · cases done
    exact ⟨readings, whole, told.waits known, reader, isOpen, decoder, raw, receive, messages,
      by rintro _ ⟨⟩⟩
  · have knows := told.main cause (by rw [phase]; rfl)
    have told : Told error standing reported (s.control.stopIf true) (.joining cause) := by
      refine ⟨fun _ none => ?_, told.silent, told.first, told.stopped, ?_⟩
      · cases none.symm.trans knows
      · rintro _ ⟨⟩
        exact knows
    exact ⟨readings, whole, told, reader, isOpen, decoder, raw, receive, messages,
      by rintro _ ⟨⟩⟩
  · have knows := told.main cause (by rw [phase]; rfl)
    have told : Told error standing reported s.control (.returned cause) := by
      refine ⟨told.running, told.silent, told.first, told.stopped, ?_⟩
      rintro _ ⟨⟩
      exact knows
    exact ⟨readings, whole, told, reader, isOpen, decoder, raw, receive, messages,
      fun _ _ => isOver⟩

/-- One turn: the pipeline stays on its way, whoever's turn it is. -/
theorem Breaks.turnWith
    (breaks : s.Breaks p codecs clock source before beyond bad error all begun later coming pending
      standing reported)
    (calm : ∀ sink ∈ p.rawSinks, sink.IsCalm) (agent : Agent) :
    ∃ begun' later' coming' pending' standing' reported',
      (s.turnWith codecs clock agent).Breaks p codecs clock source before beyond bad error all
        begun' later' coming' pending' standing' reported' := by
  have breaks : Breaks p codecs clock source before beyond bad error all begun later coming pending
      standing reported { s with decoder := s.decoder.withCodec codecs } :=
    { breaks with decoder := breaks.decoder.withCodec }
  rw [System.turnWith, turn]
  cases step : step? clock { s with decoder := s.decoder.withCodec codecs } agent with
  | none => exact ⟨_, _, _, _, _, _, breaks⟩
  | some s' =>
    rw [Option.getD_some]
    by_cases main : agent = .main
    · subst main
      exact ⟨_, _, _, _, _, _, breaks.stepMain step⟩
    · -- who has returned has waited for the stages, so none of them has a step to make
      have running (cause : Error) (returned : s.main = .returned cause) : False := by
        rw [step?_of_isOver (breaks.finished cause returned) main] at step
        cases step
      cases agent with
      | main => exact absurd rfl main
      | reader =>
        obtain ⟨_, _, _, _, breaks⟩ := breaks.stepReader step running
        exact ⟨_, _, _, _, _, _, breaks⟩
      | decoder =>
        obtain ⟨_, _, breaks⟩ := breaks.stepDecoder rfl step running
        exact ⟨_, _, _, _, _, _, breaks⟩
      | rawSink n => exact ⟨_, _, _, _, _, _, breaks.stepRawSink calm step running⟩
      | messageSink n => exact ⟨_, _, _, _, _, _, breaks.stepMessageSink step running⟩

/-- Turns in the order of any schedule. -/
theorem Breaks.runWith
    (breaks : s.Breaks p codecs clock source before beyond bad error all begun later coming pending
      standing reported)
    (calm : ∀ sink ∈ p.rawSinks, sink.IsCalm) (schedule : List Agent) :
    ∃ begun' later' coming' pending' standing' reported',
      (s.runWith codecs clock schedule).Breaks p codecs clock source before beyond bad error all
        begun' later' coming' pending' standing' reported' := by
  induction schedule generalizing s begun later coming pending standing reported with
  | nil => exact ⟨_, _, _, _, _, _, breaks⟩
  | cons agent rest ih =>
    obtain ⟨_, _, _, _, _, _, breaks⟩ := breaks.turnWith calm agent
    exact ih breaks

/-- At its start a pipeline has read nothing. -/
theorem breaks_new (policy : p.policy = .unbounded)
    (yields : source.Yields (before ++ bad :: beyond) error)
    (crashes : p.decoder.CrashesAfter codecs clock bad 0 before all) :
    (new p source).Breaks p codecs clock source before beyond bad error all []
      (before ++ bad :: beyond) (fun _ => []) (fun _ => all) .reading false where
  readings := rfl
  whole := rfl
  told := ⟨nofun, fun _ => ⟨rfl, rfl⟩, nofun, nofun, nofun⟩
  reader := .polling rfl yields
  isOpen := fun _ => rfl
  decoder := .receiving rfl (serves_records policy (Nat.zero_le _) []) rfl crashes
  raw := SinkStage.allAttend_new p.rawSinks fun _ inside => serves_records policy inside []
  receive := SinkStage.allReceive_new p.rawSinks
  messages := SinkStage.allAttend_new p.messageSinks fun n inside => by
    have carries := p.carries_messageQueues inside
    rw [policy] at carries
    exact Hub.serves_ofDistributor carries _
  finished := nofun

/-- What has become of a pipeline that has come to its end. -/
theorem Breaks.shutdown
    (breaks : s.Breaks p codecs clock source before beyond bad error all begun later coming pending
      standing reported)
    {out : Shutdown} (returned : s.shutdown? = some out) :
    s.isOver = true ∧ s.control.supervisor.cause? = some out.cause ∧ out.summary = .zero ∧
      (out.cause = .stageCrashed "decoder" ∨ out.cause = error ∧ later = []) ∧
      before.length < (begun.flatMap Reading.records).length ∧
      out.raw = p.rawSinks.map (·.run (begun.flatMap Reading.records)) ∧
      out.messages = p.messageSinks.map (·.run all) := by
  have knows := breaks.told.main out.cause (cause_of_shutdown? returned)
  unfold shutdown? at returned
  split at returned
  · rename_i cause main
    cases returned
    have finished := breaks.finished cause main
    obtain ⟨⟨_, read⟩, ⟨_, done⟩, raw, messages⟩ := isOver_iff.1 finished
    obtain ⟨-, reached, lost⟩ := breaks.decoder.of_done done
    refine ⟨finished, knows, lost, ?_, reached, breaks.raw.run_of_done raw,
      breaks.messages.run_of_done messages⟩
    obtain ⟨crash, -⟩ | ⟨same, ended⟩ := breaks.told.first cause knows
    · exact .inl crash
    · have past := breaks.reader.isOver (breaks.reader.ne_reading_of_done read)
      subst ended
      cases past
      exact .inr ⟨same, rfl⟩
  · cases returned

end Breaks

/-- **A crash of the decoder ends a pipeline in order.** Let the queues of a pipeline have no
capacity and its sinks not crash, and let its decoder process the first `j` records of its source
and crash on the next one. Whenever the pipeline has returned, all of its stages have come to their
ends. The cause is the crash or the first fatal error of the source, whichever was signalled first,
and the counts of the decoder are lost. Each message sink was handed the messages that come of the
first `j` records. All raw sinks were handed the same records: those of the first `k` readings, the
one that handed out the record of the crash among them, and all records if the source ended first.
Every sink was flushed once, after its last item. -/
theorem run_ends_at_crash {p : Pipeline} (policy : p.policy = .unbounded)
    (calm : ∀ sink ∈ p.rawSinks, sink.IsCalm) (calm' : ∀ sink ∈ p.messageSinks, sink.IsCalm)
    {source : Source} {records : List Record} {error : Error}
    (yields : source.Yields records error) {codecs : Nat → Codec} {clock : Nat → Time} {j : Nat}
    (inside : j < records.length) {last : Decoder} {log : List Service}
    (serves : p.decoder.serveAll (Request.feed codecs clock 0 (records.take j)) = .ok (last, log))
    {crash : Crash}
    (crashes : last.serve (.process (codecs j) records[j] (clock j)) = .error crash)
    {start : System} (launched : p.launch source = .ok start) (schedule : List Agent)
    {out : Shutdown} (returned : (start.runWith codecs clock schedule).shutdown? = some out) :
    let messages := log.filterMap Service.message?
    (start.runWith codecs clock schedule).isOver = true ∧
      (out.cause = .stageCrashed "decoder" ∨ out.cause = error) ∧
      (∃ earlier agent rest, schedule = earlier ++ agent :: rest ∧
        (start.runWith codecs clock earlier).control.supervisor.cause? = none ∧
        (start.runWith codecs clock (earlier ++ [agent])).control.supervisor.cause? =
          some out.cause) ∧
      out.summary = .zero ∧
      List.Forall₂ (fun sink run => run = sink.run messages ∧ run.handed = messages ∧
        run.hasCrashed = false ∧ run.isFlushed = true) p.messageSinks out.messages ∧
      (∃ k ≤ source.readings.length,
        let handed := (source.readings.take k).flatMap Reading.records
        handed <+: records ∧ j < handed.length ∧
        (out.cause ≠ .stageCrashed "decoder" → handed = records) ∧
        List.Forall₂ (fun sink run => run = sink.run handed ∧ run.handed = handed ∧
          run.hasCrashed = false ∧ run.isFlushed = true) p.rawSinks out.raw) ∧
      (∀ n < p.rawSinks.length, flushCount codecs clock (.rawSink n) start schedule = 1) ∧
      ∀ n < p.messageSinks.length,
        flushCount codecs clock (.messageSink n) start schedule = 1 := by
  intro messages
  obtain rfl := Pipeline.eq_new_of_launch launched
  have split : records = records.take j ++ records[j] :: records.drop (j + 1) := by
    rw [← List.drop_eq_getElem_cons inside, List.take_append_drop]
  have place : (records.take j).length = j := List.length_take_of_le (Nat.le_of_lt inside)
  have crashesAfter : p.decoder.CrashesAfter codecs clock records[j] 0 (records.take j) messages :=
    Decoder.crashesAfter_of_serveAll serves (by rwa [Nat.zero_add, place])
  have fresh := breaks_new policy (split ▸ yields) crashesAfter
  obtain ⟨begun, later, _, _, _, _, breaks⟩ := fresh.runWith calm schedule
  obtain ⟨finished, known, summary, cause, reached, raw, told⟩ := breaks.shutdown returned
  have served {α : Type} {sinks : List (Sink α)} (calm : ∀ sink ∈ sinks, sink.IsCalm)
      (items : List α) :
      List.Forall₂ (fun sink run => run = sink.run items ∧ run.handed = items ∧
        run.hasCrashed = false ∧ run.isFlushed = true) sinks (sinks.map (·.run items)) := by
    rw [List.forall₂_map_right_iff]
    refine List.forall₂_same.2 fun sink mem => ?_
    obtain ⟨handed, flushed, none⟩ := (calm sink mem).run items
    exact ⟨rfl, handed, none, flushed⟩
  have first : source.readings.take begun.length = begun := by
    rw [breaks.readings, List.take_left]
  have whole : begun.flatMap Reading.records ++ later = records := breaks.whole.trans split.symm
  obtain ⟨flushes, flushes'⟩ := flushCount_eq_one calm calm' finished
  refine ⟨finished, cause.imp_right And.left, exists_first_signal rfl known, summary, ?_,
    ⟨begun.length, ?_, ?_⟩, flushes, flushes'⟩
  · rw [told]
    exact served calm' messages
  · rw [breaks.readings, List.length_append]
    exact Nat.le_add_right _ _
  · rw [first]
    refine ⟨⟨later, whole⟩, by rwa [place] at reached, fun other => ?_, ?_⟩
    · obtain same | ⟨-, rfl⟩ := cause
      · exact absurd same other
      · rwa [List.append_nil] at whole
    · rw [raw]
      exact served calm _

/-- The codec crashes on the second record. The reader goes on to the end of its second reading, and
does not come to the third. -/
theorem run_ends_at_crash_between_readings :
    let record (line : String) : Record := .ofBytes .epoch (Text.Utf8.bytesOf line)
    let message := record "!AIVDM,1,1,,A,15MwkRPP,2*23"
    let noise := record "noise"
    let codecs (n : Nat) : Codec :=
      if n = 1 then fun _ _ => .error (.raised "no") else Envelope.codec
    let p : Pipeline := ⟨.new .minute .sequenceId Envelope.codec, .unbounded,
      [.keeping "raw", .toChannel "unattended" false], [.keeping "messages"]⟩
    let source : Source := ⟨"script", [⟨[], [message], false, none, some (.serial "later")⟩,
      ⟨[], [message, noise], false, none, none⟩, ⟨[], [noise], false, none, some .disconnected⟩],
      false⟩
    let round : List Agent :=
      [.reader, .messageSink 0, .decoder, .rawSink 1, .reader, .rawSink 0, .main]
    ∃ start out, p.launch source = .ok start ∧
      (start.runWith codecs (fun _ => .epoch) (List.replicate 14 round).flatten).shutdown? =
        some out ∧
      out.cause = .stageCrashed "decoder" ∧ out.summary = .zero ∧
      out.raw.map (·.handed) = [[message, message, noise], [message, message, noise]] ∧
      out.messages.map (·.handed.length) = [1] := by
  intro record message noise codecs p source round
  have evaluated : ((((new p source).runWith codecs (fun _ => .epoch)
      (List.replicate 14 round).flatten).shutdown?).map fun out => (out.cause,
        out.raw.map (·.handed), out.messages.map (·.handed.length))) =
      some (.stageCrashed "decoder", [[message, message, noise], [message, message, noise]],
        [1]) := by
    decide +kernel
  obtain ⟨out, returned, same⟩ := Option.map_eq_some_iff.1 evaluated
  have launched : p.launch source = .ok (new p source) := by
    have free : p.fault? = none := by decide
    rw [Pipeline.launch, free]
  have yields : source.Yields [message, message, noise, noise] .disconnected :=
    .goesOn ⟨rfl, rfl⟩ (fun e fails => by cases fails; rfl)
      (.goesOn ⟨rfl, rfl⟩ (by rintro _ ⟨⟩) (.failed ⟨rfl, rfl⟩ rfl rfl _))
  have crashes :
      (p.decoder.serveAll (Request.feed codecs (fun _ => .epoch) 0 [message])).toOption.any
        (fun served => (served.1.serve (.process (codecs 1) message .epoch)).toOption.isNone) =
          true := by
    decide +kernel
  have calm : ∀ sink ∈ p.rawSinks, sink.IsCalm := by
    simp [p, Sink.keeping, Sink.isCalm_toChannel]
  have calm' : ∀ sink ∈ p.messageSinks, sink.IsCalm := by
    simp [p, Sink.keeping, Sink.isCalm_toChannel]
  cases serves : p.decoder.serveAll (Request.feed codecs (fun _ => .epoch) 0 [message]) with
  | error crash =>
    rw [serves] at crashes
    cases crashes
  | ok served =>
    rw [serves] at crashes
    cases fails : served.1.serve (.process (codecs 1) message .epoch) with
    | error crash =>
      obtain ⟨-, -, -, summary, -⟩ := run_ends_at_crash (p := p) rfl calm calm' yields (j := 1)
        (by decide) serves fails launched _ returned
      obtain ⟨cause, handed, length⟩ := by simpa only [Prod.mk.injEq] using same
      exact ⟨_, out, launched, returned, cause, summary, handed, length⟩
    | ok _ =>
      rw [Except.toOption, Option.any_some, fails] at crashes
      cases crashes

end System

end AisFeed
