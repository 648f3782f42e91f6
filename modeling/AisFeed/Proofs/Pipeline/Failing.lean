import AisFeed.Pipeline.Codecs
import AisFeed.Proofs.Decoder.Bookkeeping
import AisFeed.Proofs.Pipeline.Decoding

/-!
# A decoder stage that crashes

A decoder that processes some records and crashes on the next one brings the messages of the
records before it (`Decoder.CrashesAfter`). Its stage then goes away from its queue, signals, and
only after that closes its own queues: `DecoderStage.Fails` holds from step to step, while the
reader makes more and more records come.
-/

set_option autoImplicit false

namespace AisFeed

namespace Decoder

/-- A decoder that `n` records came to before will process some others and then crash on a record:
the messages until then. -/
inductive CrashesAfter (codecs : Nat → Codec) (clock : Nat → Time) (bad : Record) :
    Decoder → Nat → List Record → List Message → Prop
  | here {d : Decoder} {n : Nat} {crash : Crash}
      (crashes : ({ d with codec := codecs n }.process bad (clock n)).result = .error crash) :
      CrashesAfter codecs clock bad d n [] []
  | later {d next : Decoder} {n : Nat} {r : Record} {rest : List Record} {answer : Option Message}
      {messages : List Message}
      (step : ({ d with codec := codecs n }.process r (clock n)).result = .ok (next, answer))
      (later : CrashesAfter codecs clock bad next (n + 1) rest messages) :
      CrashesAfter codecs clock bad d n (r :: rest) (answer.toList ++ messages)

variable {codecs : Nat → Codec} {clock : Nat → Time} {bad : Record} {d last : Decoder} {n : Nat}
  {rest : List Record} {messages : List Message}

/-- The codec of the decoder does not count: each record comes with its own. -/
theorem CrashesAfter.withCodec (crashes : CrashesAfter codecs clock bad d n rest messages)
    (codec : Codec) : CrashesAfter codecs clock bad { d with codec } n rest messages := by
  cases crashes with
  | here crashes => exact .here crashes
  | later step later => exact .later step later

/-- Requests that are answered, up to one that crashes. -/
theorem crashesAfter_of_serveAll {log : List Service} {crash : Crash}
    (run : d.serveAll (Request.feed codecs clock n rest) = .ok (last, log))
    (crashes : last.serve (.process (codecs (n + rest.length)) bad (clock (n + rest.length))) =
      .error crash) :
    CrashesAfter codecs clock bad d n rest (log.filterMap Service.message?) := by
  induction rest generalizing d n log with
  | nil =>
    cases run
    rw [serve, List.length_nil, Nat.add_zero] at crashes
    split at crashes
    · rename_i result
      exact .here result
    · cases crashes
  | cons r rest ih =>
    obtain ⟨next, service, tail, step, onward, rfl⟩ := serveAll_cons_eq_ok_iff.1 run
    rw [List.length_cons, Nat.add_comm rest.length, ← Nat.add_assoc] at crashes
    have later := ih onward crashes
    rw [serve] at step
    split at step
    · cases step
    · rename_i answer result
      cases step
      cases answer <;> exact .later result later

end Decoder

namespace DecoderStage

/-- The decoder stage is on its way to the crash on a record that comes after `before` in all that
the source yields. Of these, the records `got` are meant for its queue so far, and the last of them
are owed to it. The messages that are still to come to each of its own queues, and whether it has
signalled the crash. -/
inductive Fails (codecs : Nat → Codec) (clock : Nat → Time) (before : List Record) (bad : Record)
    (owed got : List Record) (records : Hub Record) (s : DecoderStage) :
    (Nat → List Message) → Bool → Prop
  | receiving {taken todo : List Record} {messages : List Message} (phase : s.phase = .receiving)
      (serves : records.Serves 0 taken owed got) (split : before = taken ++ todo)
      (crashes : s.decoder.CrashesAfter codecs clock bad s.count todo messages) :
      Fails codecs clock before bad owed got records s (fun _ => messages) false
  | handing {message : Message} {tickets : List Nat} {taken todo : List Record}
      {messages : List Message} (phase : s.phase = .handing message tickets)
      (serves : records.Serves 0 taken owed got) (split : before = taken ++ todo)
      (crashes : s.decoder.CrashesAfter codecs clock bad s.count todo messages) :
      Fails codecs clock before bad owed got records s
        (fun ticket => List.replicate (tickets.count ticket) message ++ messages) false
  | leaving (phase : s.phase = .leaving true) (reached : before.length < got.length) :
      Fails codecs clock before bad owed got records s (fun _ => []) false
  | reporting (phase : s.phase = .reporting) (reached : before.length < got.length) :
      Fails codecs clock before bad owed got records s (fun _ => []) false
  | closing {tickets : List Nat} (phase : s.phase = .closing tickets true)
      (reached : before.length < got.length) :
      Fails codecs clock before bad owed got records s (fun _ => []) true
  | done (phase : s.phase = .done true) (reached : before.length < got.length) :
      Fails codecs clock before bad owed got records s (fun _ => []) true

variable {codecs : Nat → Codec} {clock : Nat → Time} {before : List Record} {bad : Record}
  {owed owed' got : List Record} {records records' : Hub Record} {messages messages' : Hub Message}
  {s s' : DecoderStage} {c c' : Control} {pending : Nat → List Message} {reported : Bool}

theorem Fails.withCodec
    (fails : s.Fails codecs clock before bad owed got records pending reported) :
    (s.withCodec codecs).Fails codecs clock before bad owed got records pending reported := by
  cases fails with
  | receiving phase serves split crashes =>
    exact .receiving phase serves split (crashes.withCodec _)
  | handing phase serves split crashes => exact .handing phase serves split (crashes.withCodec _)
  | leaving phase reached => exact .leaving phase reached
  | reporting phase reached => exact .reporting phase reached
  | closing phase reached => exact .closing phase reached
  | done phase reached => exact .done phase reached

/-- What others do with the hub of records may make more records come, if it serves the decoder as
it did. -/
theorem Fails.extend {more : List Record}
    (fails : s.Fails codecs clock before bad owed got records pending reported)
    (serves : ∀ taken, records.Serves 0 taken owed got →
      records'.Serves 0 taken owed' (got ++ more)) :
    s.Fails codecs clock before bad owed' (got ++ more) records' pending reported := by
  have longer (reached : before.length < got.length) : before.length < (got ++ more).length := by
    rw [List.length_append]
    omega
  cases fails with
  | receiving phase here split crashes => exact .receiving phase (serves _ here) split crashes
  | handing phase here split crashes => exact .handing phase (serves _ here) split crashes
  | leaving phase reached => exact .leaving phase (longer reached)
  | reporting phase reached => exact .reporting phase (longer reached)
  | closing phase reached => exact .closing phase (longer reached)
  | done phase reached => exact .done phase (longer reached)

theorem Fails.mono (fails : s.Fails codecs clock before bad owed got records pending reported)
    (serves : ∀ taken, records.Serves 0 taken owed got → records'.Serves 0 taken owed' got) :
    s.Fails codecs clock before bad owed' got records' pending reported := by
  rw [← List.append_nil got]
  exact fails.extend fun taken here => by simpa using serves taken here

/-- The record that comes next is decoded, or is the one that crashes the decoder. -/
theorem fails_decode {taken todo beyond later : List Record} {r : Record}
    {waiting : List Message} (codec : s.decoder = { s.decoder with codec := codecs s.count })
    (serves : records.Serves 0 (taken ++ [r]) owed got) (split : before = taken ++ todo)
    (next : r :: later = todo ++ bad :: beyond)
    (crashes : s.decoder.CrashesAfter codecs clock bad s.count todo waiting) (h : Hub Message) :
    ∃ pending, (s.decode clock r h.tickets).Fails codecs clock before bad owed got records pending
        false ∧
      ∀ ticket taken all, h.Serves ticket taken waiting all →
        h.Serves ticket taken (pending ticket) all := by
  unfold decode
  dsimp only
  cases crashes with
  | here crashes =>
    rw [← codec] at crashes
    cases next
    rw [crashes]
    refine ⟨_, .leaving rfl ?_, fun _ _ _ serves => serves⟩
    obtain ⟨queued, -, total⟩ := serves.queue
    rw [split, ← total]
    simp
  | later step later =>
    rename_i following rest answer messages
    rw [← codec] at step
    cases next
    rw [step]
    have split : before = taken ++ [r] ++ rest := by rw [split, List.append_assoc]; rfl
    cases answer with
    | none => exact ⟨_, .receiving rfl serves split later, fun _ _ _ serves => serves⟩
    | some message =>
      exact ⟨_, .handing rfl serves split later, fun _ _ _ serves => serves.replicate_tickets⟩

/-- What a step of the decoder does to the signals. -/
inductive Reports : Bool → Bool → Control → Control → Prop
  | stays (reported : Bool) (c : Control) : Reports reported reported c c
  | signals (c : Control) : Reports false true c (c.signal (.stageCrashed "decoder"))

/-- A decoder stage that comes to a crash takes the record that comes next. It does not miss the
record of the crash, for its queue is closed only when all records have come or when the crash was
signalled. -/
theorem fails_receive {taken todo beyond later : List Record} {waiting : List Message}
    (phase : s.phase = .receiving) (serves : records.Serves 0 taken owed got)
    (split : before = taken ++ todo)
    (crashes : s.decoder.CrashesAfter codecs clock bad s.count todo waiting)
    (codec : s.decoder = { s.decoder with codec := codecs s.count })
    (whole : got ++ later = before ++ bad :: beyond) (ended : 0 ∈ records.closed → later = [])
    (step : s.step clock c records messages = some (s', c', records', messages')) :
    ∃ pending', s'.Fails codecs clock before bad owed got records' pending' false ∧ c' = c ∧
      records'.closed = records.closed ∧
      Passes records records' messages messages' (fun _ => waiting) pending' := by
  rw [DecoderStage.step, phase] at step
  dsimp only at step
  cases got : records.receive 0 with
  | none =>
    rw [got] at step
    cases step
  | some result =>
    obtain ⟨next, item⟩ := result
    rw [got] at step
    cases item with
    | none =>
      -- then all records have come, and the one that crashes the decoder is among them
      obtain ⟨-, took⟩ := serves.receive_none got
      rw [ended (Hub.mem_closed_of_receive_none got), List.append_nil, ← took, split] at whole
      have short := congrArg List.length whole
      simp at short
    | some r =>
      cases step
      have here := serves.receive got
      obtain ⟨queued, -, total⟩ := here.queue
      have next : r :: (queued ++ owed ++ later) = todo ++ bad :: beyond := by
        rw [← total, split] at whole
        simpa using whole
      obtain ⟨pending', fails, serve⟩ := fails_decode codec here split next crashes messages
      exact ⟨pending', fails, rfl, Hub.closed_receive got, .receive got serve⟩

/-- It puts a message into the next of its queues, or has put it into all. -/
theorem fails_hand {message : Message} {tickets : List Nat} {taken todo : List Record}
    {waiting : List Message} (phase : s.phase = .handing message tickets)
    (serves : records.Serves 0 taken owed got) (split : before = taken ++ todo)
    (crashes : s.decoder.CrashesAfter codecs clock bad s.count todo waiting)
    (step : s.step clock c records messages = some (s', c', records', messages')) :
    ∃ pending', s'.Fails codecs clock before bad owed got records' pending' false ∧ c' = c ∧
      records'.closed = records.closed ∧
      Passes records records' messages messages'
        (fun ticket => List.replicate (tickets.count ticket) message ++ waiting) pending' := by
  rw [DecoderStage.step, phase] at step
  cases tickets with
  | nil =>
    cases step
    exact ⟨_, .receiving rfl serves split crashes, rfl, rfl, .refl _ _ _⟩
  | cons ticket tickets =>
    cases step
    exact ⟨_, .handing rfl serves split crashes, rfl, rfl, .put _ _ _ _ _ _⟩

/-- It closes the next of its queues, or has closed all. -/
theorem fails_close {tickets : List Nat} (phase : s.phase = .closing tickets true)
    (reached : before.length < got.length)
    (step : s.step clock c records messages = some (s', c', records', messages')) :
    ∃ pending', s'.Fails codecs clock before bad owed got records' pending' true ∧ c' = c ∧
      records'.closed = records.closed ∧
      Passes records records' messages messages' (fun _ => []) pending' := by
  rw [DecoderStage.step, phase] at step
  cases tickets with
  | nil =>
    cases step
    exact ⟨_, .done rfl reached, rfl, rfl, .refl _ _ _⟩
  | cons ticket tickets =>
    cases step
    exact ⟨_, .closing rfl reached, rfl, rfl, .close _ _ _⟩

/-- One step of a decoder stage that comes to a crash. -/
theorem Fails.step {beyond later : List Record}
    (fails : s.Fails codecs clock before bad owed got records pending reported)
    (codec : s.decoder = { s.decoder with codec := codecs s.count })
    (whole : got ++ later = before ++ bad :: beyond)
    (ended : reported = false → 0 ∈ records.closed → later = [])
    (step : s.step clock c records messages = some (s', c', records', messages')) :
    ∃ pending' reported',
      s'.Fails codecs clock before bad owed got records' pending' reported' ∧
      Reports reported reported' c c' ∧ records'.closed = records.closed ∧
      Passes records records' messages messages' pending pending' := by
  cases fails with
  | receiving phase serves split crashes =>
    obtain ⟨_, fails, rfl, closed, passes⟩ :=
      fails_receive phase serves split crashes codec whole (ended rfl) step
    exact ⟨_, _, fails, .stays _ _, closed, passes⟩
  | handing phase serves split crashes =>
    obtain ⟨_, fails, rfl, closed, passes⟩ := fails_hand phase serves split crashes step
    exact ⟨_, _, fails, .stays _ _, closed, passes⟩
  | leaving phase reached =>
    rw [DecoderStage.step, phase] at step
    cases step
    exact ⟨_, _, .reporting rfl reached, .stays _ _, rfl, .leave _ _ _⟩
  | reporting phase reached =>
    rw [DecoderStage.step, phase] at step
    cases step
    exact ⟨_, _, .closing rfl reached, .signals c, rfl, .refl _ _ _⟩
  | closing phase reached =>
    obtain ⟨_, fails, rfl, closed, passes⟩ := fails_close phase reached step
    exact ⟨_, _, fails, .stays _ _, closed, passes⟩
  | done phase reached =>
    rw [DecoderStage.step, phase] at step
    cases step

/-- A decoder stage that is done has signalled the crash, and its counts are lost. -/
theorem Fails.of_done (fails : s.Fails codecs clock before bad owed got records pending reported)
    {hasCrashed : Bool} (done : s.phase = .done hasCrashed) :
    reported = true ∧ before.length < got.length ∧ s.summary = .zero := by
  cases fails with
  | done phase reached => exact ⟨rfl, reached, by rw [summary, phase]⟩
  | receiving phase | handing phase | leaving phase | reporting phase | closing phase =>
    exact absurd (phase.symm.trans done) (by simp)

end DecoderStage

end AisFeed
