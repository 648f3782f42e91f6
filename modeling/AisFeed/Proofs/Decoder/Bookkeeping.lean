import AisFeed.Decoder.Run
import AisFeed.Proofs.Reassembly.Groups

/-!
# The books of a decoder

A summary counts every record in one class, every payload that was complete, and every warning.
The counts are made at several places: a record is classified before its sentence goes to the
reassembler, and groups are given up by pushes as well as by sweeps alone. What one step adds is
`Booked`; from the start the books balance after any run of requests (`serveAll_balanced`).
-/

set_option autoImplicit false

namespace AisFeed

/-- Is an event a warning? -/
def Event.isWarning (e : Event) : Bool := !e.isError

namespace Summary

/-- Records that were put into one of the five classes. -/
def classified (s : Summary) : Nat :=
  s.sentences + s.ignored + s.unrecognized + s.checksumMismatches + s.malformed

/-- A record that is not accepted adds to one class and to the warnings, and to nothing else. -/
theorem reject_counts (s : Summary) (error : Error) :
    (s.reject error).classified = s.classified + 1 ∧
      (s.reject error).warnings = s.warnings + 1 ∧
      (s.reject error).records = s.records ∧ (s.reject error).evicted = s.evicted ∧
      (s.reject error).decoded = s.decoded ∧
      (s.reject error).decodeFailures = s.decodeFailures ∧
      (s.reject error).completed = s.completed := by
  unfold reject classified warnings
  split <;> dsimp only [completed] <;> omega

/-- A summary with one more sentence, before which so many groups were given up. -/
def withSentence (s : Summary) (expired : Nat) : Summary :=
  { s with sentences := s.sentences + 1, evicted := s.evicted + expired }

/-- A complete payload adds to the complete payloads and to nothing else. -/
theorem complete_counts (s : Summary) (isMultipart : Bool) :
    (s.complete isMultipart).completed = s.completed + 1 ∧
      (s.complete isMultipart).records = s.records ∧
      (s.complete isMultipart).classified = s.classified ∧
      (s.complete isMultipart).evicted = s.evicted ∧
      (s.complete isMultipart).decoded = s.decoded ∧
      (s.complete isMultipart).decodeFailures = s.decodeFailures ∧
      (s.complete isMultipart).warnings = s.warnings := by
  unfold complete completed
  split <;> dsimp only [classified, warnings] <;> omega

end Summary

namespace Reassembler

variable {r r' : Reassembler} {now : Time} {events : List Event}

/-- Every group that a sweep gives up is counted, and told in one warning. -/
theorem expire_counts (step : r.expire now = .ok (r', events)) :
    r'.evicted = r.evicted + events.length ∧ events.countP Event.isWarning = events.length := by
  unfold expire at step
  split at step
  · cases step
  · rename_i cutoff _
    rw [Except.ok.injEq, Prod.ext_iff] at step
    obtain ⟨rfl, rfl⟩ := step
    refine ⟨sweep_evicted r cutoff, ?_⟩
    rw [List.countP_eq_length]
    intro e mem
    obtain ⟨g, -, rfl⟩ := List.mem_map.1 mem
    rfl

theorem push_counts {s : Sentence} {payload : Option Payload}
    (step : r.push s now = .ok (r', payload, events)) :
    r'.evicted = r.evicted + events.length ∧ events.countP Event.isWarning = events.length := by
  unfold push at step
  cases swept : r.expire now with
  | error crash =>
    rw [swept] at step
    cases step
  | ok result =>
    rw [swept] at step
    simp only [Except.ok.injEq, Prod.mk.injEq] at step
    obtain ⟨rfl, -, rfl⟩ := step
    rw [join_evicted]
    exact expire_counts swept

end Reassembler

namespace Decoder

/-- What is in the books from one state of a decoder to a later one: so many records came, so many
messages and payloads came out, and these events were told. A payload that is decoded does not
come out. -/
structure Booked (d d' : Decoder) (brought decoded completed : Nat) (events : List Event) :
    Prop where
  records : d'.summary.records = d.summary.records + brought
  classified : d'.summary.classified = d.summary.classified + brought
  /-- The decoder and its reassembler count the same groups that were given up. -/
  evicted : d'.summary.evicted + d.reassembler.evicted =
    d.summary.evicted + d'.reassembler.evicted
  messages : d'.summary.decoded = d.summary.decoded + decoded
  payloads : d'.summary.completed + (d.summary.decoded + d.summary.decodeFailures) =
    d.summary.completed + (d'.summary.decoded + d'.summary.decodeFailures) + completed
  warnings : d'.summary.warnings = d.summary.warnings + events.countP Event.isWarning

theorem Booked.refl (d : Decoder) : Booked d d 0 0 0 [] :=
  ⟨rfl, rfl, rfl, rfl, rfl, rfl⟩

theorem Booked.trans {d mid d' : Decoder} {r₁ m₁ p₁ r₂ m₂ p₂ : Nat} {e₁ e₂ : List Event}
    (first : Booked d mid r₁ m₁ p₁ e₁) (later : Booked mid d' r₂ m₂ p₂ e₂) :
    Booked d d' (r₁ + r₂) (m₁ + m₂) (p₁ + p₂) (e₁ ++ e₂) := by
  obtain ⟨records, classified, evicted, messages, payloads, warnings⟩ := first
  obtain ⟨records', classified', evicted', messages', payloads', warnings'⟩ := later
  refine ⟨?_, ?_, ?_, ?_, ?_, ?_⟩
  · omega
  · omega
  · omega
  · omega
  · omega
  · rw [List.countP_append]
    omega

/-- The codec has no part in the books. -/
theorem Booked.of_codec {d d' : Decoder} {codec : Codec} {records messages payloads : Nat}
    {events : List Event}
    (booked : Booked { d with codec } d' records messages payloads events) :
    Booked d d' records messages payloads events := by
  obtain ⟨records, classified, evicted, messages, payloads, warnings⟩ := booked
  exact ⟨records, classified, evicted, messages, payloads, warnings⟩

/-! ## Steps -/

section Steps

variable {d d' : Decoder} {now : Time} {events : List Event}

theorem booked_expire (step : d.expire now = .ok (d', events)) : Booked d d' 0 0 0 events := by
  unfold expire at step
  cases swept : d.reassembler.expire now with
  | error crash =>
    rw [swept] at step
    cases step
  | ok result =>
    obtain ⟨evicted, warned⟩ := Reassembler.expire_counts swept
    rw [swept] at step
    cases step
    refine ⟨rfl, rfl, ?_, rfl, rfl, ?_⟩
    · rw [evicted]
      dsimp only
      omega
    · rw [warned]
      dsimp only [Summary.warnings]
      omega

/-- A sentence is taken up after a sweep, and may complete a payload. -/
theorem join_eq_ok {s : Sentence} {payload : Option Payload}
    (step : d.join s now = .ok (d', payload, events)) :
    d'.reassembler.evicted = d.reassembler.evicted + events.length ∧
      events.countP Event.isWarning = events.length ∧
      d'.summary =
        if payload.isSome then (d.summary.withSentence events.length).complete (1 < s.total)
        else d.summary.withSentence events.length := by
  unfold join at step
  cases pushed : d.reassembler.push s now with
  | error crash =>
    rw [pushed] at step
    cases step
  | ok result =>
    obtain ⟨evicted, warned⟩ := Reassembler.push_counts pushed
    rw [pushed] at step
    cases step
    exact ⟨evicted, warned, rfl⟩

/-- A record is put into one class, by what is read in it. -/
theorem booked_complete {r : Record} {payload : Option Payload}
    (step : d.complete r now = .ok (d', payload, events)) :
    Booked d d' 1 0 payload.isSome.toNat events := by
  unfold complete at step
  dsimp only at step
  split at step
  · cases step
    refine ⟨rfl, ?_, rfl, rfl, rfl, rfl⟩
    dsimp only [Summary.classified]
    omega
  · rename_i error _
    cases step
    obtain ⟨classified, warnings, records, evicted, decoded, failures, completed⟩ :=
      Summary.reject_counts { d.summary with records := d.summary.records + 1 } error
    refine ⟨records, classified, ?_, decoded, ?_, warnings⟩
    · rw [evicted]
    · rw [completed, decoded, failures]
      rfl
  · rename_i s _
    obtain ⟨lost, warned, summary⟩ := join_eq_ok step
    dsimp only at lost summary
    cases payload with
    | none =>
      rw [Option.isSome_none, if_neg Bool.false_ne_true] at summary
      refine ⟨?_, ?_, ?_, ?_, ?_, ?_⟩ <;> rw [summary]
      · rfl
      · dsimp only [Summary.classified, Summary.withSentence]
        omega
      · rw [lost]
        dsimp only [Summary.withSentence]
        omega
      · rfl
      · rfl
      · rw [warned]
        dsimp only [Summary.warnings, Summary.withSentence]
        omega
    | some payload =>
      rw [Option.isSome_some, if_pos rfl] at summary
      obtain ⟨completed, records, classified, evicted, decoded, failures, warnings⟩ :=
        Summary.complete_counts (Summary.withSentence
          { d.summary with records := d.summary.records + 1 } events.length) (1 < s.total)
      refine ⟨?_, ?_, ?_, ?_, ?_, ?_⟩ <;> rw [summary]
      · rw [records]
        rfl
      · rw [classified]
        dsimp only [Summary.classified, Summary.withSentence]
        omega
      · rw [evicted, lost]
        dsimp only [Summary.withSentence]
        omega
      · rw [decoded]
        rfl
      · rw [completed, decoded, failures]
        dsimp only [Summary.completed, Summary.withSentence, Option.isSome_some, Bool.toNat_true]
        omega
      · rw [warnings, warned]
        dsimp only [Summary.warnings, Summary.withSentence]
        omega

/-- A payload that is complete is decoded or told to be undecoded, and so does not come out. -/
theorem booked_decode {p : Payload} {message : Option Message}
    (step : (d.decode p).result = .ok (d', message)) :
    d'.summary.records = d.summary.records ∧ d'.summary.classified = d.summary.classified ∧
      d'.summary.evicted = d.summary.evicted ∧ d'.reassembler = d.reassembler ∧
      d'.summary.completed = d.summary.completed ∧
      d'.summary.decoded = d.summary.decoded + message.isSome.toNat ∧
      d'.summary.decoded + d'.summary.decodeFailures =
        d.summary.decoded + d.summary.decodeFailures + 1 ∧
      d'.summary.warnings =
        d.summary.warnings + (d.decode p).events.countP Event.isWarning := by
  unfold decode at step ⊢
  cases answer : d.codec p.text p.fillBits with
  | error crash =>
    rw [answer] at step
    cases step
  | ok result =>
    rw [answer] at step
    cases result with
    | error error =>
      cases step
      exact ⟨rfl, rfl, rfl, rfl, rfl, rfl, rfl, rfl⟩
    | ok fields =>
      cases step
      refine ⟨rfl, rfl, rfl, rfl, rfl, rfl, ?_, rfl⟩
      dsimp only
      omega

theorem booked_process {r : Record} {message : Option Message}
    (step : (d.process r now).result = .ok (d', message)) :
    Booked d d' 1 message.isSome.toNat 0 (d.process r now).events := by
  unfold process at step ⊢
  cases completed : d.complete r now with
  | error crash =>
    rw [completed] at step
    cases step
  | ok result =>
    obtain ⟨mid, payload, events⟩ := result
    have first := booked_complete completed
    rw [completed] at step
    cases payload with
    | none =>
      cases step
      exact first
    | some p =>
      obtain ⟨records, classified, evicted, same, complete, decoded, answered, warnings⟩ :=
        booked_decode step
      obtain ⟨records', classified', evicted', messages', payloads', warnings'⟩ := first
      rw [Option.isSome_some, Bool.toNat_true] at payloads'
      refine ⟨?_, ?_, ?_, ?_, ?_, ?_⟩
      · rw [records, records']
      · rw [classified, classified']
      · rw [evicted, same, evicted']
      · rw [decoded, messages', Nat.add_zero]
      · rw [complete]
        omega
      · rw [warnings, warnings', List.countP_append]
        omega

/-- What one request adds to the books. -/
theorem booked_serve {request : Request} {service : Service}
    (step : d.serve request = .ok (d', service)) :
    service.request = request ∧
      Booked d d' request.bringsRecord.toNat service.answer.isMessage.toNat
        service.answer.isPayload.toNat service.events := by
  unfold serve at step
  cases request with
  | process codec r now =>
    dsimp only at step
    split at step
    · cases step
    · rename_i mid message result
      cases step
      exact ⟨rfl, (booked_process result).of_codec⟩
  | complete r now =>
    dsimp only at step
    split at step
    · cases step
    · rename_i mid payload events result
      cases step
      exact ⟨rfl, booked_complete result⟩
  | expire now =>
    dsimp only at step
    split at step
    · cases step
    · rename_i mid events result
      cases step
      exact ⟨rfl, booked_expire result⟩

end Steps

/-! ## Runs -/

theorem countP_cons_eq {α : Type} (p : α → Bool) (a : α) (l : List α) :
    (a :: l).countP p = (p a).toNat + l.countP p := by
  rw [List.countP_cons, Nat.add_comm]
  cases p a <;> rfl

theorem serveAll_cons_eq_ok_iff {d d' : Decoder} {request : Request} {rest : List Request}
    {log : List Service} :
    d.serveAll (request :: rest) = .ok (d', log) ↔
      ∃ mid service tail, d.serve request = .ok (mid, service) ∧
        mid.serveAll rest = .ok (d', tail) ∧ log = service :: tail := by
  rw [serveAll]
  cases h : d.serve request with
  | error crash => simp
  | ok result =>
    obtain ⟨mid, service⟩ := result
    cases h' : mid.serveAll rest with
    | error crash => simp [h']
    | ok result =>
      obtain ⟨last, tail⟩ := result
      simp [h', eq_comm]

/-- What requests add to the books. -/
theorem booked_serveAll {d d' : Decoder} {requests : List Request} {log : List Service}
    (run : d.serveAll requests = .ok (d', log)) :
    log.map Service.request = requests ∧
      Booked d d' (requests.countP Request.bringsRecord)
        (log.countP fun s => s.answer.isMessage) (log.countP fun s => s.answer.isPayload)
        (log.flatMap Service.events) := by
  induction requests generalizing d log with
  | nil =>
    cases run
    exact ⟨rfl, .refl _⟩
  | cons request rest ih =>
    obtain ⟨mid, service, tail, step, onward, rfl⟩ := serveAll_cons_eq_ok_iff.1 run
    obtain ⟨asked, first⟩ := booked_serve step
    obtain ⟨asked', later⟩ := ih onward
    refine ⟨by rw [List.map_cons, asked, asked'], ?_⟩
    rw [countP_cons_eq, countP_cons_eq, countP_cons_eq, List.flatMap_cons]
    exact first.trans later

/-- **The books balance.** After any requests that a decoder has answered from the start, every
record has been put into one class; the decoder has counted the groups that its reassembler gave
up, the messages that came out, and as complete those payloads that were decoded, those that could
not be, and those that came out; and it has counted as many warnings as were told. -/
theorem serveAll_balanced {ttl : Span} {keying : Keying} {codec : Codec}
    {requests : List Request} {d : Decoder} {log : List Service}
    (run : (new ttl keying codec).serveAll requests = .ok (d, log)) :
    log.map Service.request = requests ∧
      d.summary.records = requests.countP Request.bringsRecord ∧
      d.summary.records = d.summary.sentences + d.summary.ignored + d.summary.unrecognized +
        d.summary.checksumMismatches + d.summary.malformed ∧
      d.summary.evicted = d.reassembler.evicted ∧
      d.summary.decoded = (log.countP fun s => s.answer.isMessage) ∧
      d.summary.completed = d.summary.decoded + d.summary.decodeFailures +
        (log.countP fun s => s.answer.isPayload) ∧
      d.summary.warnings = (log.flatMap Service.events).countP Event.isWarning := by
  obtain ⟨asked, records, classified, evicted, messages, payloads, warnings⟩ := booked_serveAll run
  have start : (new ttl keying codec).summary = .zero := rfl
  have none : (new ttl keying codec).reassembler.evicted = 0 := rfl
  rw [start] at records classified evicted messages payloads warnings
  rw [none] at evicted
  dsimp only [Summary.zero, Summary.classified, Summary.completed, Summary.warnings] at *
  refine ⟨asked, ?_, ?_, ?_, ?_, ?_, ?_⟩ <;> omega

/-- A line of noise, a payload that a codec refuses, and a fragment that is given up later. -/
theorem serveAll_balanced_noise :
    let record (line : String) : Record := .ofBytes .epoch (Text.Utf8.bytesOf line)
    let failing : Codec := fun _ _ => .ok (.error (.fillBits 9))
    let requests : List Request := [.process Envelope.codec (record "noise") .epoch,
      .process failing (record "!AIVDM,1,1,,B,H,0*6D") .epoch,
      .complete (record "!AIVDM,2,1,1,A,1P00,0*75") .epoch,
      .expire ⟨100, 0, by decide, by decide, by decide, by decide⟩]
    ∃ d log, (new .minute .sequenceIdAndChannel Envelope.codec).serveAll requests = .ok (d, log) ∧
      d.summary = ⟨3, 2, 0, 1, 0, 0, 1, 0, 1, 0, 1⟩ ∧
      d.summary.warnings = (log.flatMap Service.events).countP Event.isWarning := by
  intro record failing requests
  obtain ⟨d, log, run, summary⟩ : ∃ d log,
      (new .minute .sequenceIdAndChannel Envelope.codec).serveAll requests = .ok (d, log) ∧
        d.summary = ⟨3, 2, 0, 1, 0, 0, 1, 0, 1, 0, 1⟩ := ⟨_, _, rfl, rfl⟩
  obtain ⟨-, -, -, -, -, -, warnings⟩ := serveAll_balanced run
  exact ⟨d, log, run, summary, warnings⟩

end Decoder

end AisFeed
