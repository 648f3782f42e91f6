import AisFeed.Proofs.Decoder.Attempts
import AisFeed.Proofs.Places

/-!
# Noise

A record that is passed over or not accepted is noise. It is counted and told of, and that is all
that comes of it: nothing is swept, so it cannot crash either (`attempt_of_noise`). So noise can be
left out of what a decoder is asked without a difference to the answers of other requests, to what
waits, and to what else is counted (`attemptAll_without_noise`).
-/

set_option autoImplicit false

namespace AisFeed

/-- Why a record is not taken up. -/
inductive Noise where
  /-- It is known and passed over. -/
  | ignored
  | unrecognized
  | checksumMismatch
  | malformed
  deriving DecidableEq, Repr

/-- The kind of noise that an error tells of. -/
def Error.noise : Error → Noise
  | .checksumMismatch .. => .checksumMismatch
  | .malformed _ => .malformed
  | _ => .unrecognized

/-- The kind of noise that a record is, unless there is a sentence in it. -/
def Record.noise? (r : Record) : Option Noise :=
  match Sentence.read r.bytes r.receivedAt with
  | .ok none => some .ignored
  | .ok (some _) => none
  | .error error => some error.noise

/-- The kind of noise that the record of a request is, if it is noise. -/
def Request.noise? : Request → Option Noise
  | process _ r _ | complete r _ => r.noise?
  | expire _ => none

/-- A summary with some noise more. -/
def Summary.withNoise (s : Summary) (noise : List Noise) : Summary :=
  { s with
    records := s.records + noise.length
    ignored := s.ignored + noise.count .ignored
    unrecognized := s.unrecognized + noise.count .unrecognized
    checksumMismatches := s.checksumMismatches + noise.count .checksumMismatch
    malformed := s.malformed + noise.count .malformed }

/-- What a request is answered of which nothing comes. -/
def Request.nothing : Request → Answer
  | process .. => .message none
  | complete .. => .payload none
  | expire _ => .expired 0

namespace Summary

theorem withNoise_nil (s : Summary) : s.withNoise [] = s := rfl

/-- Noise may be counted before or after anything else. -/
theorem withNoise_add (s t : Summary) (noise : List Noise) :
    s.withNoise noise + t = (s + t).withNoise noise := by
  simp only [withNoise, add_def, Nat.add_right_comm]

theorem withNoise_append (s : Summary) (noise more : List Noise) :
    s.withNoise (noise ++ more) = (s.withNoise noise).withNoise more := by
  simp only [withNoise, List.length_append, List.count_append, Nat.add_assoc]

theorem reject_eq_withNoise (s : Summary) (error : Error) :
    { s with records := s.records + 1 }.reject error = s.withNoise [error.noise] := by
  cases error <;> rfl

end Summary

namespace Decoder

/-! ## One request -/

/-- Noise is counted, and a record that is not accepted is told of. -/
theorem complete_of_noise {d : Decoder} {r : Record} {n : Noise} (noise : r.noise? = some n)
    (now : Time) :
    ∃ events, d.complete r now =
        .ok ({ d with summary := d.summary.withNoise [n] }, none, events) ∧
      ∀ key numbers, Event.expired key numbers ∉ events := by
  unfold Record.noise? at noise
  unfold complete
  cases read : Sentence.read r.bytes r.receivedAt with
  | error error =>
    rw [read] at noise
    cases noise
    refine ⟨_, congrArg (fun summary => Except.ok ({ d with summary }, none, _))
      (d.summary.reject_eq_withNoise error), fun key numbers mem => ?_⟩
    cases List.mem_singleton.1 mem
  | ok sentence =>
    rw [read] at noise
    cases sentence with
    | none =>
      cases noise
      exact ⟨[], rfl, fun key numbers => List.not_mem_nil⟩
    | some s => cases noise

/-- What comes of noise, whatever the decoder has been asked before, and at whatever time. -/
theorem attempt_of_noise {request : Request} {n : Noise} (noise : request.noise? = some n)
    (d : Decoder) :
    ∃ d' events, d.attempt request = (d', .ok ⟨request, request.nothing, events⟩) ∧
      (∀ key numbers, Event.expired key numbers ∉ events) ∧
      d'.reassembler = d.reassembler ∧ d'.summary = d.summary.withNoise [n] := by
  cases request with
  | process codec r now =>
    obtain ⟨events, completed, swept⟩ := complete_of_noise (d := { d with codec }) noise now
    refine ⟨{ d with codec, summary := d.summary.withNoise [n] }, events, ?_, swept, rfl, rfl⟩
    rw [attempt_process, completed]
    rfl
  | complete r now =>
    obtain ⟨events, completed, swept⟩ := complete_of_noise (d := d) noise now
    refine ⟨{ d with summary := d.summary.withNoise [n] }, events, ?_, swept, rfl, rfl⟩
    rw [attempt_complete, completed]
    rfl
  | expire now => cases noise

/-- Decoders with the same groups do the same, whatever they have counted. -/
theorem attempt_alike {d d' : Decoder} {noise : List Noise}
    (same : d.reassembler = d'.reassembler) (counted : d.summary = d'.summary.withNoise noise)
    (request : Request) :
    (d.attempt request).2 = (d'.attempt request).2 ∧
      (d.attempt request).1.reassembler = (d'.attempt request).1.reassembler ∧
      (d.attempt request).1.summary = (d'.attempt request).1.summary.withNoise noise := by
  obtain ⟨answer, groups, summary⟩ := d.attempt_alone d.codec request
  obtain ⟨answer', groups', summary'⟩ := d'.attempt_alone d.codec request
  rw [← same] at answer' groups' summary'
  refine ⟨answer.trans answer'.symm, groups.trans groups'.symm, ?_⟩
  rw [summary, summary', counted, Summary.withNoise_add]

/-! ## Runs -/

/-- A run, and one without some noise from the place `start` on that has counted less noise
before. -/
theorem attemptAll_withoutFrom {d d' : Decoder} {before : List Noise} {requests : List Request}
    {start : Nat} {places : List Nat} (same : d.reassembler = d'.reassembler)
    (counted : d.summary = d'.summary.withNoise before)
    (noise : ∀ request ∈ withinFrom start places requests, request.noise?.isSome) :
    (d'.attemptAll (withoutFrom start places requests)).2 =
        withoutFrom start places (d.attemptAll requests).2 ∧
      (d.attemptAll requests).1.reassembler =
        (d'.attemptAll (withoutFrom start places requests)).1.reassembler ∧
      (d.attemptAll requests).1.summary =
        (d'.attemptAll (withoutFrom start places requests)).1.summary.withNoise
          (before ++ (withinFrom start places requests).filterMap Request.noise?) := by
  induction requests generalizing d d' before start with
  | nil =>
    refine ⟨rfl, same, counted.trans ?_⟩
    exact congrArg d'.summary.withNoise (List.append_nil before).symm
  | cons request rest ih =>
    rw [attemptAll_cons]
    by_cases place : start ∈ places
    · rw [withinFrom_cons_of_mem place] at noise ⊢
      rw [withoutFrom_cons_of_mem place, withoutFrom_cons_of_mem place]
      obtain ⟨n, isNoise⟩ := Option.isSome_iff_exists.1 (noise request List.mem_cons_self)
      obtain ⟨next, events, step, -, groups, summary⟩ := attempt_of_noise isNoise d
      rw [counted, ← Summary.withNoise_append] at summary
      have later := ih (groups.trans same) summary
        fun request mem => noise request (List.mem_cons_of_mem _ mem)
      rw [List.append_assoc, List.singleton_append, ← List.filterMap_cons_some isNoise] at later
      rw [step]
      exact later
    · rw [withinFrom_cons_of_not_mem place] at noise ⊢
      rw [withoutFrom_cons_of_not_mem place, withoutFrom_cons_of_not_mem place]
      obtain ⟨answer, groups, summary⟩ := attempt_alike same counted request
      obtain ⟨answers, groups, summary⟩ := ih groups summary noise
      rw [attemptAll_cons, answer]
      exact ⟨congrArg _ answers, groups, summary⟩

/-- **Noise does not matter.** Leave out of what a decoder is asked the requests at some places, all
of noise. The others are answered the same, the same groups wait and have been given up, and of the
counts only those of records and of noise differ, by what was left out. And noise gives up no group
and does not crash, whatever waits, the time-to-live and the time. -/
theorem attemptAll_without_noise (d : Decoder) {requests : List Request} {places : List Nat}
    (noise : ∀ request ∈ within places requests, request.noise?.isSome) :
    let all := d.attemptAll requests
    let kept := d.attemptAll (without places requests)
    kept.2 = without places all.2 ∧ kept.1.reassembler = all.1.reassembler ∧
      all.1.summary =
        kept.1.summary.withNoise ((within places requests).filterMap Request.noise?) ∧
      ∀ request ∈ within places requests, ∀ d : Decoder,
        ∃ d' events, d.attempt request = (d', .ok ⟨request, request.nothing, events⟩) ∧
          (∀ key numbers, Event.expired key numbers ∉ events) ∧ d'.reassembler = d.reassembler := by
  obtain ⟨answers, groups, summary⟩ :=
    attemptAll_withoutFrom (d := d) rfl d.summary.withNoise_nil.symm noise
  refine ⟨answers, groups.symm, summary, fun request mem d => ?_⟩
  obtain ⟨n, isNoise⟩ := Option.isSome_iff_exists.1 (noise request mem)
  obtain ⟨d', events, step, swept, same, -⟩ := attempt_of_noise isNoise d
  exact ⟨d', events, step, swept, same⟩

/-- A line of noise, at a time at which a sweep would crash, and a line that is passed over come
between the two fragments of a message. -/
theorem attemptAll_without_noise_between :
    let request (line : String) (now : Time) : Request :=
      .process Envelope.codec (.ofBytes .epoch (Text.Utf8.bytesOf line)) now
    let first := request "!AIVDM,2,1,1,A,15Mw,0*2A" .epoch
    let last := request "!AIVDM,2,2,1,A,kRPP,2*2C" .epoch
    let requests := [first,
      request "noise" ⟨-8334601228800, 0, by decide, by decide, by decide, by decide⟩,
      request "$AITXT,noise" .epoch, last]
    let d := new .minute .sequenceId Envelope.codec
    without [1, 2] requests = [first, last] ∧
      (d.attemptAll [first, last]).2 = without [1, 2] (d.attemptAll requests).2 ∧
      (d.attemptAll requests).1.summary =
        (d.attemptAll [first, last]).1.summary.withNoise [.unrecognized, .ignored] := by
  intro request first last requests d
  have noise : ∀ request ∈ within [1, 2] requests, request.noise?.isSome := by
    intro request mem
    rcases List.mem_cons.1 mem with rfl | mem
    · rfl
    · rw [List.mem_singleton.1 mem]
      rfl
  have kept : without [1, 2] requests = [first, last] := rfl
  have left : (within [1, 2] requests).filterMap Request.noise? = [.unrecognized, .ignored] := rfl
  obtain ⟨answers, -, summary, -⟩ := attemptAll_without_noise d noise
  rw [kept] at answers summary
  rw [left] at summary
  exact ⟨kept, answers, summary⟩

end Decoder

end AisFeed
