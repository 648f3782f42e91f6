import AisFeed.Pipeline.Stages
import AisFeed.Proofs.Decoder.Records
import AisFeed.Proofs.Queue.Unbounded

/-!
# What the decoder stage brings

The decoder stage takes records from its queue and puts the message of each, if there is one,
into all of its queues before it takes another. So long as the decoder does not crash on the
records that are still to come, it brings the messages that come of processing them in a row:
`DecoderStage.Decodes` holds from step to step.
-/

set_option autoImplicit false

namespace AisFeed

/-- Records and the times at which they are processed, if `n` others were processed before. -/
def arrivals (clock : Nat → Time) (n : Nat) : List Record → List Arrival
  | [] => []
  | r :: rest => ⟨r, clock n⟩ :: arrivals clock (n + 1) rest

theorem exists_now_of_mem_arrivals {clock : Nat → Time} {n : Nat} {records : List Record}
    {a : Arrival} (mem : a ∈ arrivals clock n records) :
    ∃ i < records.length, a.now = clock (n + i) := by
  induction records generalizing n with
  | nil => cases mem
  | cons r rest ih =>
    obtain rfl | mem := List.mem_cons.1 mem
    · exact ⟨0, Nat.succ_pos _, rfl⟩
    · obtain ⟨i, inside, now⟩ := ih mem
      exact ⟨i + 1, Nat.succ_lt_succ inside, by rw [now, Nat.add_right_comm, Nat.add_assoc]⟩

namespace Decoder

/-- Nothing crashes if the codec does not, and if the time of each record is far enough from the
bounds of what is a time. -/
theorem exists_processAll_of_calm {d : Decoder} (calm : d.codec.IsCalm) {feed : List Arrival}
    (inRange : ∀ a ∈ feed, (a.now.minus? d.reassembler.ttl).isSome) :
    ∃ last, (d.processAll feed).result = .ok last := by
  induction feed generalizing d with
  | nil => exact ⟨d, rfl⟩
  | cons a rest ih =>
    obtain ⟨here, later⟩ := List.forall_mem_cons.1 inRange
    obtain ⟨next, answer, step, ttl, codec⟩ := exists_process_eq_ok calm a.record here
    rw [(processAll_cons step rest).1]
    exact ih (codec ▸ calm) (ttl ▸ later)

theorem exists_processAll_eq_ok {decode : String → Nat → Except CodecError Fields} {d : Decoder}
    (pure : ∀ text fillBits, d.codec text fillBits = .ok (decode text fillBits))
    {feed : List Arrival}
    (inRange : ∀ a ∈ feed, (a.now.minus? d.reassembler.ttl).isSome) :
    ∃ last, (d.processAll feed).result = .ok last := by
  refine exists_processAll_of_calm (fun text fillBits crash crashes => ?_) inRange
  rw [pure] at crashes
  cases crashes

/-- The first of some records is processed, and the messages of the others come after its own. -/
theorem processAll_cons_eq_ok {d last : Decoder} {a : Arrival} {rest : List Arrival}
    (run : (d.processAll (a :: rest)).result = .ok last) :
    ∃ next answer, (d.process a.record a.now).result = .ok (next, answer) ∧
      (next.processAll rest).result = .ok last ∧
      (d.processAll (a :: rest)).messages = answer.toList ++ (next.processAll rest).messages := by
  cases step : (d.process a.record a.now).result with
  | error crash =>
    rw [processAll, step] at run
    cases run
  | ok result =>
    obtain ⟨next, answer⟩ := result
    obtain ⟨ends, answers⟩ := processAll_cons step rest
    refine ⟨next, answer, rfl, ends.symm.trans run, ?_⟩
    rw [DecoderHistory.messages, answers, DecoderHistory.messages]
    cases answer <;> rfl

end Decoder

namespace DecoderStage

/-- The decoder stage is on its way to the end of some records, of which `owed` are still to come
to its queue: the messages that are still to come to each of its own queues. -/
inductive Decodes (clock : Nat → Time) (last : Decoder) (records : Hub Record)
    (owed all : List Record) (s : DecoderStage) : (Nat → List Message) → Prop
  | receiving {taken rest : List Record} (phase : s.phase = .receiving)
      (serves : records.Serves 0 taken owed all) (split : all = taken ++ rest)
      (run : (s.decoder.processAll (arrivals clock s.count rest)).result = .ok last) :
      Decodes clock last records owed all s
        (fun _ => (s.decoder.processAll (arrivals clock s.count rest)).messages)
  | handing {message : Message} {tickets : List Nat} {taken rest : List Record}
      (phase : s.phase = .handing message tickets)
      (serves : records.Serves 0 taken owed all) (split : all = taken ++ rest)
      (run : (s.decoder.processAll (arrivals clock s.count rest)).result = .ok last) :
      Decodes clock last records owed all s
        (fun ticket => List.replicate (tickets.count ticket) message ++
          (s.decoder.processAll (arrivals clock s.count rest)).messages)
  | leaving (phase : s.phase = .leaving false) (ended : s.decoder = last) :
      Decodes clock last records owed all s (fun _ => [])
  | closing {tickets : List Nat} (phase : s.phase = .closing tickets false)
      (ended : s.decoder = last) : Decodes clock last records owed all s (fun _ => [])
  | done (phase : s.phase = .done false) (ended : s.decoder = last) :
      Decodes clock last records owed all s (fun _ => [])

variable {clock : Nat → Time} {last : Decoder} {records records' : Hub Record}
  {messages messages' : Hub Message} {owed owed' all : List Record} {s s' : DecoderStage}
  {c c' : Control} {coming : Nat → List Message}

/-- What others do with the hub of records may change what is still to come, if it serves the
decoder as it did. -/
theorem Decodes.mono (decodes : s.Decodes clock last records owed all coming)
    (serves : ∀ taken, records.Serves 0 taken owed all → records'.Serves 0 taken owed' all) :
    s.Decodes clock last records' owed' all coming := by
  cases decodes with
  | receiving phase here split run => exact .receiving phase (serves _ here) split run
  | handing phase here split run => exact .handing phase (serves _ here) split run
  | leaving phase ended => exact .leaving phase ended
  | closing phase ended => exact .closing phase ended
  | done phase ended => exact .done phase ended

/-- The decoder stage decodes the record that comes next. -/
theorem decodes_decode {taken rest : List Record} {r : Record}
    (serves : records.Serves 0 (taken ++ [r]) owed all) (split : all = taken ++ [r] ++ rest)
    (run : (s.decoder.processAll (arrivals clock s.count (r :: rest))).result = .ok last)
    (h : Hub Message) :
    ∃ coming, (s.decode clock r h.tickets).Decodes clock last records owed all coming ∧
      ∀ ticket taken all,
        h.Serves ticket taken
          (s.decoder.processAll (arrivals clock s.count (r :: rest))).messages all →
        h.Serves ticket taken (coming ticket) all := by
  obtain ⟨next, answer, step, later, split'⟩ := Decoder.processAll_cons_eq_ok run
  rw [arrivals, split']
  unfold decode
  dsimp only at step ⊢
  rw [step]
  cases answer with
  | none => exact ⟨_, .receiving rfl serves split later, fun _ _ _ serves => serves⟩
  | some message =>
    exact ⟨_, .handing rfl serves split later, fun _ _ _ serves => serves.replicate_tickets⟩

/-! ## One step -/

/-- What a step of the decoder stage does to the queues: it serves the others of the hub of records
as they were served, and each of its own queues by what was to come to it. -/
structure Passes (records records' : Hub Record) (messages messages' : Hub Message)
    (coming coming' : Nat → List Message) : Prop where
  others : ∀ other ≠ 0, ∀ taken coming all, records.Serves other taken coming all →
    records'.Serves other taken coming all
  own : ∀ ticket taken all, messages.Serves ticket taken (coming ticket) all →
    messages'.Serves ticket taken (coming' ticket) all

namespace Passes

variable {coming' : Nat → List Message}

theorem refl (records : Hub Record) (messages : Hub Message) (coming : Nat → List Message) :
    Passes records records messages messages coming coming :=
  ⟨fun _ _ _ _ _ serves => serves, fun _ _ _ serves => serves⟩

/-- It takes what waits in its queue, or finds that nothing more comes. -/
theorem receive {item : Option Record} (got : records.receive 0 = some (records', item))
    (own : ∀ ticket taken all, messages.Serves ticket taken (coming ticket) all →
      messages.Serves ticket taken (coming' ticket) all) :
    Passes records records' messages messages coming coming' :=
  ⟨fun _ ne _ _ _ serves => serves.receive_of_ne (Ne.symm ne) got, own⟩

theorem leave (records : Hub Record) (messages : Hub Message) (coming : Nat → List Message) :
    Passes records (records.leave 0) messages messages coming coming :=
  ⟨fun _ ne _ _ _ serves => serves.leave_of_ne (Ne.symm ne), fun _ _ _ serves => serves⟩

theorem put (records : Hub Record) (messages : Hub Message) (message : Message) (first : Nat)
    (tickets : List Nat) (rest : List Message) :
    Passes records records messages (messages.put first message).1
      (fun ticket => List.replicate ((first :: tickets).count ticket) message ++ rest)
      (fun ticket => List.replicate (tickets.count ticket) message ++ rest) :=
  ⟨fun _ _ _ _ _ serves => serves, fun _ _ _ serves => serves.put_next⟩

theorem close (records : Hub Record) (messages : Hub Message) (ticket : Nat) :
    Passes records records messages (messages.close ticket) (fun _ => []) (fun _ => []) :=
  ⟨fun _ _ _ _ _ serves => serves, fun _ _ _ serves => serves.close ticket⟩

end Passes

/-- The decoder stage takes the record that comes next, or learns that all have come. -/
theorem decodes_receive {taken rest : List Record} (phase : s.phase = .receiving)
    (serves : records.Serves 0 taken owed all) (split : all = taken ++ rest)
    (run : (s.decoder.processAll (arrivals clock s.count rest)).result = .ok last)
    (step : s.step clock c records messages = some (s', c', records', messages')) :
    ∃ coming', s'.Decodes clock last records' owed all coming' ∧ c' = c ∧
      Passes records records' messages messages'
        (fun _ => (s.decoder.processAll (arrivals clock s.count rest)).messages) coming' := by
  rw [DecoderStage.step, phase] at step
  dsimp only at step
  cases got : records.receive 0 with
  | none =>
    rw [got] at step
    cases step
  | some result =>
    obtain ⟨next, item⟩ := result
    rw [got] at step
    cases item with
    | none =>
      cases step
      obtain ⟨rfl, took⟩ := serves.receive_none got
      have none : rest = [] := by
        rw [took] at split
        exact List.self_eq_append_right.1 split
      subst none
      cases run
      exact ⟨_, .leaving rfl rfl, rfl, .receive got fun _ _ _ serves => serves⟩
    | some r =>
      cases step
      have here := serves.receive got
      obtain ⟨waiting, -, total⟩ := here.queue
      have next : rest = r :: (waiting ++ owed) := by
        rw [split] at total
        simpa using total.symm
      subst next
      obtain ⟨coming', decodes, serve⟩ :=
        decodes_decode here (by simpa using split) run messages
      exact ⟨coming', decodes, rfl, .receive got serve⟩

/-- The decoder stage puts a message into the next of its queues, or has put it into all. -/
theorem decodes_hand {message : Message} {tickets : List Nat} {taken rest : List Record}
    (phase : s.phase = .handing message tickets) (serves : records.Serves 0 taken owed all)
    (split : all = taken ++ rest)
    (run : (s.decoder.processAll (arrivals clock s.count rest)).result = .ok last)
    (step : s.step clock c records messages = some (s', c', records', messages')) :
    ∃ coming', s'.Decodes clock last records' owed all coming' ∧ c' = c ∧
      Passes records records' messages messages'
        (fun ticket => List.replicate (tickets.count ticket) message ++
          (s.decoder.processAll (arrivals clock s.count rest)).messages) coming' := by
  rw [DecoderStage.step, phase] at step
  cases tickets with
  | nil =>
    cases step
    exact ⟨_, .receiving rfl serves split run, rfl, .refl _ _ _⟩
  | cons ticket tickets =>
    cases step
    exact ⟨_, .handing rfl serves split run, rfl, .put _ _ _ _ _ _⟩

/-- The decoder stage closes the next of its queues, or has closed all. -/
theorem decodes_close {tickets : List Nat} (phase : s.phase = .closing tickets false)
    (ended : s.decoder = last)
    (step : s.step clock c records messages = some (s', c', records', messages')) :
    ∃ coming', s'.Decodes clock last records' owed all coming' ∧ c' = c ∧
      Passes records records' messages messages' (fun _ => []) coming' := by
  rw [DecoderStage.step, phase] at step
  cases tickets with
  | nil =>
    cases step
    exact ⟨_, .done rfl ended, rfl, .refl _ _ _⟩
  | cons ticket tickets =>
    cases step
    exact ⟨_, .closing rfl ended, rfl, .close _ _ _⟩

/-- One step of the decoder stage: what it puts into a queue has come to the consumer. -/
theorem Decodes.step (decodes : s.Decodes clock last records owed all coming)
    (step : s.step clock c records messages = some (s', c', records', messages')) :
    ∃ coming', s'.Decodes clock last records' owed all coming' ∧ c' = c ∧
      Passes records records' messages messages' coming coming' := by
  cases decodes with
  | receiving phase serves split run => exact decodes_receive phase serves split run step
  | handing phase serves split run => exact decodes_hand phase serves split run step
  | leaving phase ended =>
    rw [DecoderStage.step, phase] at step
    cases step
    exact ⟨_, .closing rfl ended, rfl, .leave _ _ _⟩
  | closing phase ended => exact decodes_close phase ended step
  | done phase ended =>
    rw [DecoderStage.step, phase] at step
    cases step

/-- A decoder stage that is done has not crashed, and has counted all records. -/
theorem Decodes.summary_of_done (decodes : s.Decodes clock last records owed all coming)
    {hasCrashed : Bool} (done : s.phase = .done hasCrashed) : s.summary = last.summary := by
  cases decodes with
  | done phase ended => rw [summary, phase, ended]
  | receiving phase | handing phase | leaving phase | closing phase =>
    exact absurd (phase.symm.trans done) (by simp)

end DecoderStage

end AisFeed
