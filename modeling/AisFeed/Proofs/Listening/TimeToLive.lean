import AisFeed.Listen
import AisFeed.Proofs.Decoder.Bookkeeping
import AisFeed.Proofs.Decoder.Records
import AisFeed.Proofs.Pipeline.Codecs
import AisFeed.Proofs.Pipeline.Delivery
import AisFeed.Proofs.Pipeline.Signals
import AisFeed.Proofs.Time.Timestamp

/-!
# Which times-to-live are safe

A listener takes every time-to-live that is a span. The start of the time-to-live of a sentence
must also be a time, though, and that is a much smaller range: `ListenSettings.pipeline_safe_iff`
says for which of the accepted values no line crashes the decoder, at any time of the years 2025 to
2100. The largest accepted value is far outside (`ListenSettings.longest_ttl_crashes`).
-/

set_option autoImplicit false

namespace AisFeed

/-! ## The start of a time-to-live -/

namespace Time

theorem isSome_of?_iff {s : Int} {n : Nat} (ordinary : n < 1000000000) :
    (of? s n).isSome ↔ -8334601228800 ≤ s ∧ s ≤ 8210266876799 := by
  unfold of?
  split
  · simp
    omega
  · simp
    omega

/-- Where whole seconds lead from a time. -/
theorem minus?_of_seconds (t : Time) {n : Int} {d : Span} (length : d.nanos = n * 1000000000) :
    t.minus? d =
      if t.isLeap ∧ 0 < n then of? (t.seconds + 1 - n) (t.nanos - 1000000000)
      else if t.isLeap ∧ n < 0 then of? (t.seconds - n) (t.nanos - 1000000000)
      else of? (t.seconds - n) t.nanos := by
  have less := t.nanos_lt
  unfold minus? instant
  dsimp only
  rw [length]
  cases leap : t.isLeap with
  | false =>
    have nanos : t.nanos < 1000000000 := by simpa [isLeap] using leap
    simp only [Bool.false_eq_true, false_and, if_false]
    exact congrArg₂ of? (by omega) (by omega)
  | true =>
    have nanos : 1000000000 ≤ t.nanos := by simpa [isLeap] using leap
    simp only [true_and]
    rcases lt_trichotomy n 0 with back | rfl | ahead
    · rw [if_neg (by omega), if_pos (by omega), if_neg (by omega), if_pos back]
      exact congrArg₂ of? (by omega) (by omega)
    · rw [if_pos (by omega), if_neg (by omega), if_neg (by omega)]
      exact congrArg₂ of? (by omega) (by omega)
    · rw [if_neg (by omega), if_neg (by omega), if_pos ahead]
      exact congrArg₂ of? (by omega) (by omega)

/-- A time less some seconds is a time if its seconds are in range. Further back from a leap second
there is one more. -/
theorem minus?_isSome_iff {t : Time} {n : Int} {d : Span} (span : Span.ofSeconds? n = some d) :
    (t.minus? d).isSome ↔
      -8334601228800 ≤ t.seconds - n + (if t.isLeap ∧ 0 < n then 1 else 0) ∧
        t.seconds - n ≤ 8210266876799 := by
  have length : d.nanos = n * 1000000000 := by
    unfold Span.ofSeconds? Span.ofNanos? at span
    split at span
    · cases span
      rfl
    · cases span
  have less := t.nanos_lt
  have lower := t.lower
  have upper := t.upper
  rw [minus?_of_seconds t length]
  split
  · rw [isSome_of?_iff (by omega)]
    omega
  · split
    · rw [isSome_of?_iff (by omega)]
      omega
    · cases leap : t.isLeap with
      | false =>
        have nanos : t.nanos < 1000000000 := by simpa [isLeap] using leap
        rw [isSome_of?_iff nanos]
        omega
      | true =>
        -- no whole second leads nowhere
        have none : n = 0 := by grind
        rw [none, Int.sub_zero, of?_eq_some_iff.2 ⟨rfl, rfl⟩]
        simp
        omega

/-- The years 2025 to 2100 in seconds. -/
theorem year_mem_iff {t : Time} :
    2025 ≤ t.date.year ∧ t.date.year ≤ 2100 ↔
      1735689600 ≤ t.seconds ∧ t.seconds ≤ 4133980799 := by
  have low := @date_year_le_iff t 2024
  have high := @date_year_le_iff t 2100
  have first : Date.toDays ⟨2024 + 1, 1, 1⟩ = 20089 := by decide
  have last : Date.toDays ⟨2100 + 1, 1, 1⟩ = 47847 := by decide
  rw [first] at low
  rw [last] at high
  omega

end Time

/-! ## A decoder in range -/

namespace Decoder

/-- One record: a codec that does not crash, at a time at which the time-to-live has a start. -/
theorem exists_serve_process {codec : Codec} (calm : codec.IsCalm) (d : Decoder) (r : Record)
    {now : Time} (inRange : (now.minus? d.reassembler.ttl).isSome) :
    ∃ next service, d.serve (.process codec r now) = .ok (next, service) ∧
      next.reassembler.ttl = d.reassembler.ttl := by
  obtain ⟨next, answer, step, ttl, -⟩ := @exists_process_eq_ok { d with codec } now calm r inRange
  exact ⟨next, _, by rw [serve, step], ttl⟩

theorem exists_serveAll_feed {codecs : Nat → Codec} (calm : ∀ n, (codecs n).IsCalm)
    {clock : Nat → Time} {d : Decoder}
    (inRange : ∀ n, ((clock n).minus? d.reassembler.ttl).isSome) (n : Nat)
    (records : List Record) :
    ∃ last log, d.serveAll (Request.feed codecs clock n records) = .ok (last, log) := by
  induction records generalizing d n with
  | nil => exact ⟨d, [], rfl⟩
  | cons r rest ih =>
    obtain ⟨next, service, step, ttl⟩ := exists_serve_process (calm n) d r (inRange n)
    obtain ⟨last, log, later⟩ := ih (ttl ▸ inRange) (n + 1)
    exact ⟨last, service :: log, serveAll_cons_eq_ok_iff.2 ⟨next, service, log, step, later, rfl⟩⟩

/-- A time at which a record with a sentence is decoded leaves room for the time-to-live. -/
theorem isSome_minus?_of_serveAll {r : Record} {s : Sentence}
    (read : Sentence.read r.bytes r.receivedAt = .ok (some s)) {codecs : Nat → Codec}
    {clock : Nat → Time} {n : Nat} {d last : Decoder} {rest : List Record} {log : List Service}
    (served : d.serveAll (Request.feed codecs clock n (r :: rest)) = .ok (last, log)) :
    ((clock n).minus? d.reassembler.ttl).isSome := by
  cases start : (clock n).minus? d.reassembler.ttl with
  | some cutoff => rfl
  | none =>
    obtain ⟨_, _, _, step, -⟩ := serveAll_cons_eq_ok_iff.1 served
    have crashes := @process_of_no_start { d with codec := codecs n } r _ s read start
    rw [serve, crashes] at step
    cases step

/-- Some record holds a sentence. -/
theorem exists_sentence :
    ∃ (r : Record) (s : Sentence), Sentence.read r.bytes r.receivedAt = .ok (some s) :=
  ⟨.ofBytes .epoch (Text.Utf8.bytesOf "!AIVDM,1,1,,A,15MwkRPP,2*23"),
    ⟨.otherVessel, 1, 1, none, some 'A', "15MwkRPP", 2, .epoch⟩, by decide +kernel⟩

end Decoder

/-! ## A pipeline in range -/

/-- Has the decoder crashed? -/
def DecoderPhase.hasCrashed : DecoderPhase → Bool
  | receiving | handing .. => false
  | leaving hasCrashed | closing _ hasCrashed | done hasCrashed => hasCrashed
  | reporting => true

/-- The decoder stage has not crashed, and has the time-to-live that it was set up with. -/
structure DecoderStage.IsWell (ttl : Span) (s : DecoderStage) : Prop where
  ttl : s.decoder.reassembler.ttl = ttl
  calm : s.phase.hasCrashed = false

namespace DecoderStage

variable {clock : Nat → Time} {ttl : Span} {s s' : DecoderStage} {c c' : Control}
  {records records' : Hub Record} {messages messages' : Hub Message}

theorem IsWell.decode (well : s.IsWell ttl) (calm : s.decoder.codec.IsCalm)
    (inRange : ∀ n, ((clock n).minus? ttl).isSome) (r : Record) (tickets : List Nat) :
    (s.decode clock r tickets).IsWell ttl := by
  obtain ⟨next, answer, step, same, -⟩ :=
    Decoder.exists_process_eq_ok calm r (well.ttl ▸ inRange s.count)
  unfold DecoderStage.decode
  dsimp only
  rw [step]
  cases answer <;> exact ⟨same.trans well.ttl, rfl⟩

/-- A decoder stage that is well stays well, and signals nothing. -/
theorem IsWell.step (well : s.IsWell ttl) (calm : s.decoder.codec.IsCalm)
    (inRange : ∀ n, ((clock n).minus? ttl).isSome)
    (step : s.step clock c records messages = some (s', c', records', messages')) :
    s'.IsWell ttl ∧ c' = c := by
  obtain ⟨same, crashed⟩ := well
  cases phase : s.phase with
  | receiving =>
    rw [DecoderStage.step, phase] at step
    dsimp only at step
    split at step
    · cases step
    · cases step
      exact ⟨⟨same, rfl⟩, rfl⟩
    · cases step
      exact ⟨IsWell.decode ⟨same, crashed⟩ calm inRange _ _, rfl⟩
  | handing message tickets =>
    rw [DecoderStage.step, phase] at step
    cases tickets <;> cases step <;> exact ⟨⟨same, rfl⟩, rfl⟩
  | leaving hasCrashed =>
    rw [phase] at crashed
    cases crashed
    rw [DecoderStage.step, phase] at step
    cases step
    exact ⟨⟨same, rfl⟩, rfl⟩
  | closing tickets hasCrashed =>
    rw [phase] at crashed
    cases crashed
    rw [DecoderStage.step, phase] at step
    cases tickets <;> cases step <;> exact ⟨⟨same, rfl⟩, rfl⟩
  | reporting =>
    rw [phase] at crashed
    cases crashed
  | done hasCrashed =>
    rw [DecoderStage.step, phase] at step
    cases step

end DecoderStage

/-- A reader whose source does not itself tell of a crash of the decoder. -/
structure ReaderStage.IsHonest (s : ReaderStage) : Prop where
  readings : ∀ reading ∈ s.source.readings, reading.error ≠ some (.stageCrashed "decoder")
  phase : match s.phase with
    | .reading left | .handing _ _ left => left.error ≠ some (.stageCrashed "decoder")
    | .signalling error => error ≠ .stageCrashed "decoder"
    | _ => True

namespace ReaderStage

variable {s s' : ReaderStage} {c c' : Control} {h h' : Hub Record}

theorem isHonest_read (readings : ∀ reading ∈ s.source.readings,
    reading.error ≠ some (.stageCrashed "decoder")) (phase : s.phase = .polling) :
    s.read.IsHonest := by
  unfold read
  split
  · rename_i reading rest next
    rw [next] at readings
    obtain ⟨here, later⟩ := List.forall_mem_cons.1 readings
    exact ⟨later, here⟩
  · split
    · exact ⟨readings, by rw [phase]; trivial⟩
    · exact ⟨readings, Error.noConfusion⟩

theorem isHonest_finish (readings : ∀ reading ∈ s.source.readings,
    reading.error ≠ some (.stageCrashed "decoder")) {left : Reading}
    (here : left.error ≠ some (.stageCrashed "decoder")) (tickets : List Nat) :
    (s.finish left tickets).IsHonest := by
  unfold finish
  split
  · exact ⟨readings, trivial⟩
  · exact ⟨readings, trivial⟩
  · rename_i error _ fails
    split
    · exact ⟨readings, fun same => here (fails.trans (congrArg some same))⟩
    · exact ⟨readings, trivial⟩

theorem signal_ne {error : Error} (ne : error ≠ .stageCrashed "decoder")
    (calm : c.supervisor.cause? ≠ some (.stageCrashed "decoder")) :
    (c.signal error).supervisor.cause? ≠ some (.stageCrashed "decoder") :=
  fun known => (Control.cause?_signal_eq_some known).elim calm fun same => ne same.symm

/-- An honest reader stays honest, and signals no crash of the decoder. -/
theorem IsHonest.step (honest : s.IsHonest) (step : s.step c h = some (s', c', h'))
    (calm : c.supervisor.cause? ≠ some (.stageCrashed "decoder")) :
    s'.IsHonest ∧ c'.supervisor.cause? ≠ some (.stageCrashed "decoder") := by
  obtain ⟨readings, here⟩ := honest
  cases phase : s.phase with
  | polling =>
    rw [ReaderStage.step, phase] at step
    dsimp only at step
    split at step <;> cases step
    · exact ⟨isHonest_read readings phase, calm⟩
    · exact ⟨⟨readings, trivial⟩, calm⟩
  | reading left =>
    rw [phase] at here
    rw [ReaderStage.step, phase] at step
    dsimp only at step
    split at step <;> cases step
    · exact ⟨⟨readings, here⟩, calm⟩
    · exact ⟨isHonest_finish readings here _, calm⟩
  | handing r tickets left =>
    rw [phase] at here
    rw [ReaderStage.step, phase] at step
    cases tickets <;> cases step <;> exact ⟨⟨readings, here⟩, calm⟩
  | signalling error =>
    rw [phase] at here
    rw [ReaderStage.step, phase] at step
    cases step
    exact ⟨⟨readings, trivial⟩, signal_ne here calm⟩
  | closing tickets hasCrashed =>
    rw [ReaderStage.step, phase] at step
    cases tickets <;> cases hasCrashed <;> cases step <;> exact ⟨⟨readings, trivial⟩, calm⟩
  | reporting =>
    rw [ReaderStage.step, phase] at step
    cases step
    exact ⟨⟨readings, trivial⟩, signal_ne (by decide) calm⟩
  | done hasCrashed =>
    rw [ReaderStage.step, phase] at step
    cases step

end ReaderStage

namespace System

/-- A pipeline whose decoder is well. If its source is honest, then nothing in it tells of a crash
of the decoder. -/
structure IsSound (ttl : Span) (honest : Prop) (s : System) : Prop where
  decoder : s.decoder.IsWell ttl
  reader : honest → s.reader.IsHonest
  signal : honest → s.control.supervisor.cause? ≠ some (.stageCrashed "decoder")
  cause : honest → s.main.cause? ≠ some (.stageCrashed "decoder")

variable {codecs : Nat → Codec} {clock : Nat → Time} {ttl : Span} {honest : Prop} {s : System}

theorem isSound_new (p : Pipeline) (source : Source) :
    (new p source).IsSound p.decoder.reassembler.ttl (∀ reading ∈ source.readings,
      reading.error ≠ some (.stageCrashed "decoder")) where
  decoder := ⟨rfl, rfl⟩
  reader := fun readings => ⟨readings, trivial⟩
  signal := fun _ known => nomatch known
  cause := fun _ known => nomatch known

theorem IsSound.step (sound : s.IsSound ttl honest) (calm : s.decoder.decoder.codec.IsCalm)
    (inRange : ∀ n, ((clock n).minus? ttl).isSome) {agent : Agent} {s' : System}
    (step : s.step? clock agent = some s') : s'.IsSound ttl honest := by
  obtain ⟨decoder, reader, signal, cause⟩ := sound
  cases agent with
  | reader =>
    obtain ⟨_, made, rfl⟩ := Option.map_eq_some_iff.1 step
    have next (is : honest) := (reader is).step made (signal is)
    exact ⟨decoder, fun is => (next is).1, fun is => (next is).2, cause⟩
  | decoder =>
    obtain ⟨⟨_, _, _, _⟩, made, rfl⟩ := Option.map_eq_some_iff.1 step
    obtain ⟨decoder, rfl⟩ := decoder.step calm inRange made
    exact ⟨decoder, reader, signal, cause⟩
  | rawSink | messageSink =>
    obtain ⟨_, _, rfl⟩ := Option.map_eq_some_iff.1 step
    exact ⟨decoder, reader, signal, cause⟩
  | main =>
    obtain ⟨-, -, rfl⟩ | ⟨first, phase, rfl⟩ | ⟨first, phase, -, rfl⟩ := stepMain_cases step
    · refine ⟨decoder, reader, signal, fun is => ?_⟩
      have calm := signal is
      rw [MainPhase.cause?, Supervisor.cause]
      cases known : s.control.supervisor.cause? with
      | none => simp
      | some first => simpa [known] using calm
    · rw [phase] at cause
      exact ⟨decoder, reader, signal, cause⟩
    · rw [phase] at cause
      exact ⟨decoder, reader, signal, cause⟩

theorem IsSound.turnWith (sound : s.IsSound ttl honest) (calm : ∀ n, (codecs n).IsCalm)
    (inRange : ∀ n, ((clock n).minus? ttl).isSome) (agent : Agent) :
    (s.turnWith codecs clock agent).IsSound ttl honest := by
  have same : System.IsSound ttl honest { s with decoder := s.decoder.withCodec codecs } :=
    ⟨⟨sound.decoder.ttl, sound.decoder.calm⟩, sound.reader, sound.signal, sound.cause⟩
  rw [System.turnWith, turn]
  cases step : step? clock { s with decoder := s.decoder.withCodec codecs } agent with
  | none => exact same
  | some s' => exact same.step (calm s.decoder.count) inRange step

/-- Turns in the order of any schedule. -/
theorem IsSound.runWith (sound : s.IsSound ttl honest) (calm : ∀ n, (codecs n).IsCalm)
    (inRange : ∀ n, ((clock n).minus? ttl).isSome) (schedule : List Agent) :
    (s.runWith codecs clock schedule).IsSound ttl honest := by
  induction schedule generalizing s with
  | nil => exact sound
  | cons agent rest ih => exact ih (sound.turnWith calm inRange agent)

end System

/-! ## Which times-to-live are safe -/

/-- A pipeline in which no line stops the decoder, at any times of the years 2025 to 2100 and with
any codecs that do not crash: no feed crashes the decoder, and no schedule ends with a crash of the
decoder, unless the source itself fails with that error. -/
def Pipeline.IsSafe (p : Pipeline) : Prop :=
  ∀ (codecs : Nat → Codec) (clock : Nat → Time), (∀ n, (codecs n).IsCalm) →
    (∀ n, 2025 ≤ (clock n).date.year ∧ (clock n).date.year ≤ 2100) →
    (∀ records, ∃ last log,
      p.decoder.serveAll (Request.feed codecs clock 0 records) = .ok (last, log)) ∧
    ∀ source start schedule, p.launch source = .ok start →
      (start.runWith codecs clock schedule).decoder.phase.hasCrashed = false ∧
      ∀ out, (start.runWith codecs clock schedule).shutdown? = some out →
        out.cause = .stageCrashed "decoder" →
        ∃ reading ∈ source.readings, reading.error = some (.stageCrashed "decoder")

namespace ListenSettings

theorem ofSeconds?_of_checked {l : ListenSettings} {ttl : Span} (checked : l.checked = .ok ttl) :
    Span.ofSeconds? l.ttl = some ttl := by
  unfold ListenSettings.checked at checked
  split at checked
  · cases checked
  · split at checked <;> cases checked
    assumption

theorem ttl_pipeline (l : ListenSettings) (ttl : Span) :
    (l.pipeline ttl).decoder.reassembler.ttl = ttl :=
  rfl

/-- **Which times-to-live are safe.** The pipeline of settings that are accepted is safe if and only
if the time-to-live is between -8206132896000 and 8336336918400 seconds. -/
theorem pipeline_safe_iff {l : ListenSettings} {ttl : Span} (checked : l.checked = .ok ttl) :
    (l.pipeline ttl).IsSafe ↔ -8206132896000 ≤ l.ttl ∧ l.ttl ≤ 8336336918400 := by
  have span := ofSeconds?_of_checked checked
  constructor
  · intro safe
    -- a sentence at the first and at the last second of these years
    obtain ⟨r, s, read⟩ := Decoder.exists_sentence
    have served (now : Time) (inYears : 2025 ≤ now.date.year ∧ now.date.year ≤ 2100) :
        (now.minus? ttl).isSome := by
      obtain ⟨_, _, served⟩ := (safe (fun _ => Envelope.codec) (fun _ => now)
        (fun _ => Envelope.isCalm_codec) (fun _ => inYears)).1 [r]
      have room := Decoder.isSome_minus?_of_serveAll read served
      rwa [ttl_pipeline] at room
    have first := served ⟨1735689600, 0, by decide, by decide, by decide, by decide⟩
      (Time.year_mem_iff.2 (by decide))
    have last := served ⟨4133980799, 0, by decide, by decide, by decide, by decide⟩
      (Time.year_mem_iff.2 (by decide))
    rw [Time.minus?_isSome_iff span, if_neg fun leap => nomatch leap.1] at first last
    dsimp only at first last
    omega
  · intro inRange codecs clock calm inYears
    have starts (n : Nat) : ((clock n).minus? ttl).isSome := by
      have seconds := Time.year_mem_iff.1 (inYears n)
      rw [Time.minus?_isSome_iff span]
      omega
    have serves := Decoder.exists_serveAll_feed (d := (l.pipeline ttl).decoder) calm starts 0
    refine ⟨serves, fun source start schedule launched => ?_⟩
    obtain rfl := Pipeline.eq_new_of_launch launched
    have sound := (System.isSound_new (l.pipeline ttl) source).runWith calm starts schedule
    refine ⟨sound.decoder.calm, fun out returned cause => ?_⟩
    by_contra honest
    refine sound.cause (fun reading mem fails => honest ⟨reading, mem, fails⟩) ?_
    rw [System.cause_of_shutdown? returned, cause]

/-- The limit is sharp: it is safe, and one second more, which is accepted too, is not. -/
theorem pipeline_safe_to_the_second :
    let settings (ttl : Int) : ListenSettings := ⟨none, none, true, ttl, .sequenceId, none⟩
    let limit : Span := ⟨8336336918400000000000, by decide, by decide⟩
    let beyond : Span := ⟨8336336918401000000000, by decide, by decide⟩
    (settings 8336336918400).checked = .ok limit ∧ (settings 8336336918401).checked = .ok beyond ∧
      ((settings 8336336918400).pipeline limit).IsSafe ∧
      ¬ ((settings 8336336918401).pipeline beyond).IsSafe := by
  intro settings limit beyond
  have accepts : (settings 8336336918400).checked = .ok limit := rfl
  have accepts' : (settings 8336336918401).checked = .ok beyond := rfl
  exact ⟨accepts, accepts', (pipeline_safe_iff accepts).2 (by decide),
    fun safe => absurd ((pipeline_safe_iff accepts').1 safe) (by decide)⟩

/-- The longest time-to-live that is accepted ends a pipeline at its first sentence, at a time in
the year 2025, with the codec that it was set up with and keeps. -/
theorem longest_ttl_crashes :
    let l : ListenSettings := ⟨none, none, true, 9223372036854775, .sequenceId, none⟩
    let ttl : Span := ⟨9223372036854775000000000, by decide, by decide⟩
    let now : Time := ⟨1760000000, 0, by decide, by decide, by decide, by decide⟩
    let r : Record :=
      .ofBytes now (Text.Utf8.bytesOf "!AIVDM,1,1,,A,15NPOOPP00o?b=bE`UNv4?w428D?,0*20")
    let source : Source := ⟨"script", [⟨[], [r], false, none, none⟩], true⟩
    let schedule : List Agent :=
      (List.replicate 12 [.reader, .decoder, .messageSink 0, .main]).flatten
    l.checked = .ok ttl ∧ ¬ (l.pipeline ttl).IsSafe ∧
      Envelope.codec.IsCalm ∧ now.date.year = 2025 ∧
      ((l.pipeline ttl).decoder.process r now).result = .error .timeRange ∧
      (l.pipeline ttl).launch source = .ok (.new (l.pipeline ttl) source) ∧
      ((System.new (l.pipeline ttl) source).run (fun _ => now) schedule).shutdown?.map
        (·.cause) = some (.stageCrashed "decoder") ∧
      ((System.new (l.pipeline ttl) source).runWith (fun _ => Envelope.codec) (fun _ => now)
        schedule).shutdown?.map (·.cause) = some (.stageCrashed "decoder") ∧
      Error.message (.stageCrashed "decoder") = "decoder thread exited unexpectedly" := by
  intro l ttl now r source schedule
  have year : now.date.year = 2025 := by decide +kernel
  have start : now.minus? ttl = none := by decide +kernel
  have read : Sentence.read r.bytes r.receivedAt = .ok (some ⟨.otherVessel, 1, 1, none, some 'A',
      "15NPOOPP00o?b=bE`UNv4?w428D?", 0, now⟩) := by
    decide +kernel
  have free : (l.pipeline ttl).fault? = none := by decide +kernel
  have ends : ((System.new (l.pipeline ttl) source).run (fun _ => now) schedule).shutdown?.map
      (·.cause) = some (.stageCrashed "decoder") := by
    decide +kernel
  have own : (System.new (l.pipeline ttl) source).decoder.decoder.codec = Envelope.codec := rfl
  have kept := System.runWith_const (fun _ => now) (System.new (l.pipeline ttl) source) schedule
  rw [own] at kept
  refine ⟨rfl, fun safe => ?_, Envelope.isCalm_codec, year, Decoder.process_of_no_start read start,
    by rw [Pipeline.launch, free], ends, by rw [kept, ends], rfl⟩
  have inYears : 2025 ≤ now.date.year ∧ now.date.year ≤ 2100 := by omega
  obtain ⟨_, _, served⟩ := (safe (fun _ => Envelope.codec) (fun _ => now)
    (fun _ => Envelope.isCalm_codec) fun _ => inYears).1 [r]
  have room := Decoder.isSome_minus?_of_serveAll read served
  exact absurd room (by rw [ttl_pipeline, start]; decide)

end ListenSettings

end AisFeed
