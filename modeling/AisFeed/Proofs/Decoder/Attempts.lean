import AisFeed.Decoder.InPlace
import AisFeed.Proofs.Decoder.Bookkeeping
import AisFeed.Proofs.Reassembly.Attempts

/-!
# What requests leave behind

`attempt` answers as `serve` does (`attempt_eq_serve`). A request that crashes leaves behind the
counts of its record, and if its codec crashes also what the reassembler has made of the sentence.
The reassembler after requests is what their calls make of it (`attemptAll_reassembler`), and what
one request does depends on the reassembler alone: it adds to the summary, whatever that is
(`attempt_alone`).
-/

set_option autoImplicit false

namespace AisFeed

/-- The sentence in a record, if there is one. -/
def Record.sentence? (r : Record) : Option Sentence :=
  match Sentence.read r.bytes r.receivedAt with
  | .ok sentence => sentence
  | .error _ => none

theorem Record.sentence?_eq_some_iff {r : Record} {s : Sentence} :
    r.sentence? = some s ↔ Sentence.read r.bytes r.receivedAt = .ok (some s) := by
  unfold Record.sentence?
  split
  · rename_i sentence read
    rw [read, Except.ok.injEq]
  · rename_i error read
    simp [read]

/-- The call that a request makes of the reassembler, if it makes one. -/
def Request.call? : Request → Option Call
  | process _ r now | complete r now => r.sentence?.map (Call.push · now)
  | expire now => some (.expire now)

namespace Summary

/-- What is counted in two summaries together. -/
instance : Add Summary :=
  ⟨fun s t =>
    { records := s.records + t.records
      sentences := s.sentences + t.sentences
      ignored := s.ignored + t.ignored
      unrecognized := s.unrecognized + t.unrecognized
      checksumMismatches := s.checksumMismatches + t.checksumMismatches
      malformed := s.malformed + t.malformed
      singleFragment := s.singleFragment + t.singleFragment
      multipartCompleted := s.multipartCompleted + t.multipartCompleted
      evicted := s.evicted + t.evicted
      decoded := s.decoded + t.decoded
      decodeFailures := s.decodeFailures + t.decodeFailures }⟩

theorem add_def (s t : Summary) :
    s + t = ⟨s.records + t.records, s.sentences + t.sentences, s.ignored + t.ignored,
      s.unrecognized + t.unrecognized, s.checksumMismatches + t.checksumMismatches,
      s.malformed + t.malformed, s.singleFragment + t.singleFragment,
      s.multipartCompleted + t.multipartCompleted, s.evicted + t.evicted, s.decoded + t.decoded,
      s.decodeFailures + t.decodeFailures⟩ := rfl

/-- Counting goes on from whatever has been counted. -/
theorem add_reject (s t : Summary) (error : Error) : (s + t).reject error = s + t.reject error := by
  unfold reject
  split <;> rfl

theorem add_complete (s t : Summary) (isMultipart : Bool) :
    (s + t).complete isMultipart = s + t.complete isMultipart := by
  unfold complete
  split <;> rfl

theorem add_withSentence (s t : Summary) (expired : Nat) :
    (s + t).withSentence expired = s + t.withSentence expired := by
  simp only [withSentence, add_def, Nat.add_assoc]

end Summary

namespace Decoder

section InPlace

variable (d : Decoder) (now : Time)

/-- A decoder that has counted a record with a sentence. -/
def begun : Decoder :=
  { d with
    summary :=
      { d.summary with
        records := d.summary.records + 1
        sentences := d.summary.sentences + 1 } }

theorem get_eq : (get : Work Decoder) d = .ok d d := rfl

theorem modify_eq (change : Decoder → Decoder) :
    (modify change : Work Unit) d = .ok () (change d) := rfl

theorem joinInPlace_eq (s : Sentence) :
    joinInPlace s now d = match d.join s now with
      | .error crash =>
        .error crash { d with summary := { d.summary with sentences := d.summary.sentences + 1 } }
      | .ok (d', payload, events) => .ok (payload, events) d' := by
  simp only [joinInPlace, bind, EStateM.bind, tally, modify_eq, withReassembler,
    Reassembler.pushInPlace_eq, join, Reassembler.push, Reassembler.expire]
  cases now.minus? d.reassembler.ttl with
  | none => rfl
  | some cutoff =>
    cases payload : ((d.reassembler.sweep cutoff).1.join s).2 with
    | none =>
      simp only [payload]
      rfl
    | some p =>
      simp only [payload]
      rfl

theorem completeInPlace_eq (r : Record) :
    completeInPlace r now d = match d.complete r now with
      | .error crash => .error crash d.begun
      | .ok (d', payload, events) => .ok (payload, events) d' := by
  simp only [completeInPlace, bind, EStateM.bind, tally, modify_eq, complete]
  cases Sentence.read r.bytes r.receivedAt with
  | error error => rfl
  | ok sentence =>
    cases sentence with
    | none => rfl
    | some s =>
      dsimp only
      rw [joinInPlace_eq]
      rfl

theorem decodeInPlace_eq (p : Payload) :
    decodeInPlace p d = match (d.decode p).result with
      | .error crash => .error crash d
      | .ok (d', message) => .ok (message, (d.decode p).events) d' := by
  simp only [decodeInPlace, bind, EStateM.bind, get_eq, decode]
  cases d.codec p.text p.fillBits with
  | error crash => rfl
  | ok result => cases result <;> rfl

theorem expireInPlace_eq :
    expireInPlace now d = match d.expire now with
      | .error crash => .error crash d
      | .ok (d', events) => .ok events d' := by
  simp only [expireInPlace, bind, EStateM.bind, withReassembler, Reassembler.expireInPlace_eq,
    expire, Reassembler.expire]
  cases now.minus? d.reassembler.ttl <;> rfl

theorem attempt_process (codec : Codec) (r : Record) :
    d.attempt (.process codec r now) = match { d with codec }.complete r now with
      | .error crash => ({ d with codec }.begun, .error crash)
      | .ok (mid, none, events) => (mid, .ok ⟨.process codec r now, .message none, events⟩)
      | .ok (mid, some p, events) =>
        match (mid.decode p).result with
        | .error crash => (mid, .error crash)
        | .ok (d', message) =>
          (d', .ok ⟨.process codec r now, .message message, events ++ (mid.decode p).events⟩) := by
  simp only [attempt, Request.work, processInPlace, EStateM.run, bind, EStateM.bind, modify_eq,
    completeInPlace_eq]
  cases { d with codec }.complete r now with
  | error crash => rfl
  | ok completed =>
    obtain ⟨mid, payload, events⟩ := completed
    cases payload with
    | none => rfl
    | some p =>
      simp only [EStateM.bind, decodeInPlace_eq]
      cases (mid.decode p).result <;> rfl

theorem attempt_complete (r : Record) :
    d.attempt (.complete r now) = match d.complete r now with
      | .error crash => (d.begun, .error crash)
      | .ok (d', payload, events) => (d', .ok ⟨.complete r now, .payload payload, events⟩) := by
  simp only [attempt, Request.work, EStateM.run, bind, EStateM.bind, completeInPlace_eq]
  cases d.complete r now <;> rfl

theorem attempt_expire :
    d.attempt (.expire now) = match d.expire now with
      | .error crash => (d, .error crash)
      | .ok (d', events) => (d', .ok ⟨.expire now, .expired events.length, events⟩) := by
  simp only [attempt, Request.work, EStateM.run, bind, EStateM.bind, expireInPlace_eq]
  cases d.expire now <;> rfl

/-- A request that does not crash is answered as it is by `serve`, and crashes as it does there. -/
theorem attempt_eq_serve (request : Request) :
    d.attempt request = match d.serve request with
      | .error crash => ((d.attempt request).1, .error crash)
      | .ok (d', service) => (d', .ok service) := by
  cases request with
  | process codec r now =>
    rw [attempt_process, serve, process]
    cases { d with codec }.complete r now with
    | error crash => rfl
    | ok completed =>
      obtain ⟨mid, payload, events⟩ := completed
      cases payload with
      | none => rfl
      | some p =>
        dsimp only
        cases (mid.decode p).result <;> rfl
  | complete r now =>
    rw [attempt_complete, serve]
    cases d.complete r now <;> rfl
  | expire now =>
    rw [attempt_expire, serve]
    cases d.expire now <;> rfl

end InPlace

/-! ## One request -/

section Alone

variable (d : Decoder) (codec : Codec) (now : Time)

theorem join_eq (s : Sentence) :
    d.join s now = match now.minus? d.reassembler.ttl with
      | none => .error .timeRange
      | some cutoff =>
        let (swept, events) := d.reassembler.sweep cutoff
        let counted := d.summary.withSentence events.length
        .ok (⟨(swept.join s).1, d.codec,
          if (swept.join s).2.isSome then counted.complete (1 < s.total) else counted⟩,
          (swept.join s).2, events) := by
  unfold join Reassembler.push Reassembler.expire
  cases now.minus? d.reassembler.ttl <;> rfl

/-- What a record does depends on the reassembler alone. -/
theorem complete_alone (r : Record) :
    d.complete r now = match complete ⟨d.reassembler, codec, .zero⟩ r now with
      | .error crash => .error crash
      | .ok (alone, payload, events) =>
        .ok (⟨alone.reassembler, d.codec, d.summary + alone.summary⟩, payload, events) := by
  unfold complete
  cases Sentence.read r.bytes r.receivedAt with
  | error error =>
    dsimp only
    rw [← Summary.add_reject]
    rfl
  | ok sentence =>
    cases sentence with
    | none => rfl
    | some s =>
      have counted : { d.summary with records := d.summary.records + 1 } =
          d.summary + { Summary.zero with records := Summary.zero.records + 1 } := rfl
      dsimp only
      rw [counted, join_eq, join_eq]
      cases now.minus? d.reassembler.ttl with
      | none => rfl
      | some cutoff =>
        dsimp only
        rw [Summary.add_withSentence, Summary.add_complete]
        cases ((d.reassembler.sweep cutoff).1.join s).2 <;> rfl

theorem complete_codec {d d' : Decoder} {r : Record} {now : Time} {payload : Option Payload}
    {events : List Event} (step : d.complete r now = .ok (d', payload, events)) :
    d'.codec = d.codec := by
  rw [complete_alone d d.codec] at step
  split at step
  · cases step
  · cases step
    rfl

theorem decode_codec {d d' : Decoder} {p : Payload} {message : Option Message}
    (step : (d.decode p).result = .ok (d', message)) : d'.codec = d.codec := by
  unfold decode at step
  split at step
  · cases step
  · cases step
    rfl
  · cases step
    rfl

theorem process_codec {d d' : Decoder} {r : Record} {now : Time}
    {message : Option Message} (step : (d.process r now).result = .ok (d', message)) :
    d'.codec = d.codec := by
  unfold process at step
  split at step
  · cases step
  · rename_i completed
    cases step
    exact complete_codec completed
  · rename_i completed
    exact (decode_codec step).trans (complete_codec completed)

/-- What a request does depends on the reassembler alone: a decoder that has counted nothing yet
answers it the same, and counts what is added to the summary. -/
theorem attempt_alone (request : Request) :
    (d.attempt request).2 = (attempt ⟨d.reassembler, codec, .zero⟩ request).2 ∧
      (d.attempt request).1.reassembler =
        (attempt ⟨d.reassembler, codec, .zero⟩ request).1.reassembler ∧
      (d.attempt request).1.summary =
        d.summary + (attempt ⟨d.reassembler, codec, .zero⟩ request).1.summary := by
  cases request with
  | process given r now =>
    have first := complete_alone { d with codec := given } given now r
    rw [attempt_process, attempt_process]
    dsimp only at first ⊢
    rw [first]
    cases completed : complete ⟨d.reassembler, given, .zero⟩ r now with
    | error crash => exact ⟨rfl, rfl, rfl⟩
    | ok result =>
      obtain ⟨⟨reassembler, kept, summary⟩, payload, events⟩ := result
      obtain rfl : kept = given := complete_codec completed
      cases payload with
      | none => exact ⟨rfl, rfl, rfl⟩
      | some p =>
        dsimp only [decode]
        cases kept p.text p.fillBits with
        | error crash => exact ⟨rfl, rfl, rfl⟩
        | ok decoded => cases decoded <;> exact ⟨rfl, rfl, rfl⟩
  | complete r now =>
    rw [attempt_complete, attempt_complete, complete_alone d codec]
    cases complete ⟨d.reassembler, codec, .zero⟩ r now with
    | error crash => exact ⟨rfl, rfl, rfl⟩
    | ok completed => exact ⟨rfl, rfl, rfl⟩
  | expire now =>
    rw [attempt_expire, attempt_expire]
    unfold expire Reassembler.expire
    dsimp only
    cases now.minus? d.reassembler.ttl with
    | none => exact ⟨rfl, rfl, rfl⟩
    | some cutoff =>
      refine ⟨rfl, rfl, ?_⟩
      simp only [Summary.add_def, Summary.zero, Nat.zero_add, Nat.add_zero]

end Alone

/-! ## The reassembler -/

section Reassembler

variable (d : Decoder) (now : Time)

theorem join_reassembler (s : Sentence) :
    (match d.join s now with | .error _ => d | .ok (d', _) => d').reassembler =
      (d.reassembler.attempt (.push s now)).1 := by
  rw [join_eq]
  cases start : now.minus? d.reassembler.ttl with
  | none => rw [Reassembler.attempt_of_crash (.push s now) start]
  | some cutoff =>
    rw [Reassembler.attempt_of_range (.push s now) start]
    rfl

theorem complete_reassembler (r : Record) :
    (match d.complete r now with | .error _ => d | .ok (d', _) => d').reassembler =
      (d.reassembler.attemptAll (r.sentence?.map (Call.push · now)).toList).1 := by
  unfold complete Record.sentence?
  cases Sentence.read r.bytes r.receivedAt with
  | error error => rfl
  | ok sentence =>
    cases sentence with
    | none => rfl
    | some s =>
      have joined := join_reassembler
        { d with summary := { d.summary with records := d.summary.records + 1 } } now s
      dsimp only at joined ⊢
      rw [Option.map_some, Option.toList_some, Reassembler.attemptAll_cons, ← joined]
      split <;> rfl

/-- The reassembler after a request is what its call makes of it. -/
theorem attempt_reassembler (request : Request) :
    (d.attempt request).1.reassembler = (d.reassembler.attemptAll request.call?.toList).1 := by
  cases request with
  | process codec r now =>
    have completed := complete_reassembler { d with codec } now r
    rw [attempt_process, Request.call?, ← completed]
    cases { d with codec }.complete r now with
    | error crash => rfl
    | ok result =>
      obtain ⟨mid, payload, events⟩ := result
      cases payload with
      | none => rfl
      | some p =>
        dsimp only [decode]
        cases mid.codec p.text p.fillBits with
        | error crash => rfl
        | ok decoded => cases decoded <;> rfl
  | complete r now =>
    rw [attempt_complete, Request.call?, ← complete_reassembler d now r]
    cases d.complete r now <;> rfl
  | expire now =>
    rw [attempt_expire, Request.call?, expire, Reassembler.expire, Option.toList_some,
      Reassembler.attemptAll_cons]
    cases start : now.minus? d.reassembler.ttl with
    | none =>
      rw [Reassembler.attempt_of_crash (.expire now) start]
      rfl
    | some cutoff =>
      rw [Reassembler.attempt_of_range (.expire now) start]
      rfl

end Reassembler

theorem attemptAll_cons (d : Decoder) (request : Request) (rest : List Request) :
    d.attemptAll (request :: rest) =
      (((d.attempt request).1.attemptAll rest).1,
        (d.attempt request).2 :: ((d.attempt request).1.attemptAll rest).2) := rfl

/-- The reassembler after requests is what their calls make of it. -/
theorem attemptAll_reassembler (d : Decoder) (requests : List Request) :
    (d.attemptAll requests).1.reassembler =
      (d.reassembler.attemptAll (requests.filterMap Request.call?)).1 := by
  induction requests generalizing d with
  | nil => rfl
  | cons request rest ih =>
    have step := d.attempt_reassembler request
    rw [attemptAll_cons, ih, step]
    cases call : request.call? with
    | none =>
      rw [List.filterMap_cons_none call]
      rfl
    | some c =>
      rw [List.filterMap_cons_some call]
      rfl

end Decoder

end AisFeed
