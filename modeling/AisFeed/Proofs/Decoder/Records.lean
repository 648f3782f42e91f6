import AisFeed.Decoder.Feed
import AisFeed.Proofs.Reassembly.Refinement

/-!
# What one record does to a decoder

A record in which no sentence is read only counts (`process_of_no_sentence`); a sentence goes to
the reassembler after a sweep, and what it completes is decoded (`process_of_sentence`). Both
are about codecs that do not crash. `processAll_append` puts runs together.
-/

set_option autoImplicit false

namespace AisFeed

/-- The message of a payload, if a codec that does not crash decodes it. -/
def Payload.message? (decode : String → Nat → Except CodecError Fields) (p : Payload) :
    Option Message :=
  (decode p.text p.fillBits).toOption.map fun fields => ⟨p.receivedAt, fields⟩

theorem Envelope.isCalm_codec : codec.IsCalm :=
  fun _ _ _ crashes => nomatch crashes

namespace Decoder

section Record

variable {decode : String → Nat → Except CodecError Fields}

theorem decode_eq {codec : Codec}
    (pure : ∀ text fillBits, codec text fillBits = .ok (decode text fillBits))
    (reassembler : Reassembler) (summary : Summary) (p : Payload) :
    ∃ summary', (Decoder.decode ⟨reassembler, codec, summary⟩ p).result =
      .ok (⟨reassembler, codec, summary'⟩, p.message? decode) := by
  unfold Decoder.decode Payload.message?
  dsimp only
  rw [pure]
  cases decode p.text p.fillBits with
  | error error => exact ⟨_, rfl⟩
  | ok fields => exact ⟨_, rfl⟩

variable {d : Decoder} {r : Record} {now : Time}

theorem process_of_no_sentence (d : Decoder) (now : Time)
    (absent : ∀ s, Sentence.read r.bytes r.receivedAt ≠ .ok (some s)) :
    ∃ summary, (d.process r now).result = .ok ({ d with summary }, none) := by
  unfold process complete
  cases read : Sentence.read r.bytes r.receivedAt with
  | error error => exact ⟨_, rfl⟩
  | ok sentence =>
    cases sentence with
    | none => exact ⟨_, rfl⟩
    | some s => exact absurd read (absent s)

theorem process_of_sentence
    (pure : ∀ text fillBits, d.codec text fillBits = .ok (decode text fillBits)) {s : Sentence}
    (read : Sentence.read r.bytes r.receivedAt = .ok (some s)) {cutoff : Time}
    (start : now.minus? d.reassembler.ttl = some cutoff) :
    ∃ summary, (d.process r now).result =
      .ok (⟨((d.reassembler.sweep cutoff).1.join s).1, d.codec, summary⟩,
        ((d.reassembler.sweep cutoff).1.join s).2.bind (Payload.message? decode)) := by
  rw [process, complete, read]
  dsimp only
  rw [join, Reassembler.push, Reassembler.expire, start]
  dsimp only
  cases ((d.reassembler.sweep cutoff).1.join s).2 with
  | none => exact ⟨_, rfl⟩
  | some payload =>
    dsimp only
    exact decode_eq pure _ _ payload

/-- A sentence is lost in a crash if the start of the time-to-live is no time. -/
theorem process_of_no_start {s : Sentence}
    (read : Sentence.read r.bytes r.receivedAt = .ok (some s))
    (start : now.minus? d.reassembler.ttl = none) :
    (d.process r now).result = .error .timeRange := by
  rw [process, complete, read]
  dsimp only
  rw [join, Reassembler.push, Reassembler.expire, start]

/-- No record crashes a decoder whose codec does not crash, if the start of the time-to-live is a
time. -/
theorem exists_process_eq_ok (calm : d.codec.IsCalm) (r : Record)
    (inRange : (now.minus? d.reassembler.ttl).isSome) :
    ∃ d' answer, (d.process r now).result = .ok (d', answer) ∧
      d'.reassembler.ttl = d.reassembler.ttl ∧ d'.codec = d.codec := by
  have answers (text : String) (fillBits : Nat) : ∃ out, d.codec text fillBits = .ok out := by
    cases answer : d.codec text fillBits with
    | error crash => exact absurd answer (calm text fillBits crash)
    | ok out => exact ⟨out, rfl⟩
  choose decode pure using answers
  by_cases carries : ∃ s, Sentence.read r.bytes r.receivedAt = .ok (some s)
  · obtain ⟨s, read⟩ := carries
    obtain ⟨cutoff, start⟩ := Option.isSome_iff_exists.1 inRange
    obtain ⟨summary, step⟩ := process_of_sentence pure read start
    exact ⟨_, _, step, by rw [Reassembler.join_ttl, Reassembler.sweep_ttl], rfl⟩
  · obtain ⟨summary, step⟩ := process_of_no_sentence d now (not_exists.1 carries)
    exact ⟨_, _, step, rfl, rfl⟩

end Record

theorem processAll_cons {d d' : Decoder} {a : Arrival} {answer : Option Message}
    (step : (d.process a.record a.now).result = .ok (d', answer)) (rest : List Arrival) :
    (d.processAll (a :: rest)).result = (d'.processAll rest).result ∧
      (d.processAll (a :: rest)).answers = answer :: (d'.processAll rest).answers := by
  rw [processAll, step]
  exact ⟨rfl, rfl⟩

/-- More records go on from the decoder that the others left. -/
theorem processAll_append {d d' : Decoder} {before : List Arrival}
    (run : (d.processAll before).result = .ok d') (after : List Arrival) :
    (d.processAll (before ++ after)).result = (d'.processAll after).result ∧
      (d.processAll (before ++ after)).answers =
        (d.processAll before).answers ++ (d'.processAll after).answers := by
  induction before generalizing d with
  | nil =>
    cases run
    exact ⟨rfl, rfl⟩
  | cons a before ih =>
    cases step : (d.process a.record a.now).result with
    | error crash =>
      rw [processAll, step] at run
      cases run
    | ok next =>
      obtain ⟨last, out⟩ := processAll_cons step before
      obtain ⟨last', out'⟩ := processAll_cons step (before ++ after)
      obtain ⟨result, answers⟩ := ih (last.symm.trans run)
      refine ⟨last'.trans result, ?_⟩
      rw [List.cons_append, out', out, answers, List.cons_append]

end Decoder

end AisFeed
