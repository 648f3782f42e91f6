import AisFeed.Proofs.Decoder.Noise
import AisFeed.Proofs.Reassembly.Eviction

/-!
# The ledger of groups

A group is opened by a fragment that finds none of its key once the groups that are too old have
been swept out. Whatever has been opened was completed, was given up or waits, and never two of
these: a key has one group at a time, a sweep counts what it removes, and a fragment that opens a
group completes nothing. `Entered` is what one request does to this ledger, and `serveAll_ledger`
adds it up.
-/

set_option autoImplicit false

namespace AisFeed

namespace Reassembler

/-- Is a sentence one fragment of several, and is there no group of its key? -/
def isFirst (r : Reassembler) (s : Sentence) : Bool :=
  1 < s.total && (r.get? (r.keying.key s)).isNone

/-- Does a call bring a fragment for whose key no group is left after the sweep? -/
def opens (r : Reassembler) : Call → Bool
  | .push s now =>
    match r.expire now with
    | .error _ => false
    | .ok (swept, _) => swept.isFirst s
  | .expire _ => false

theorem opens_push {r : Reassembler} {s : Sentence} {now cutoff : Time}
    (start : now.minus? r.ttl = some cutoff) :
    r.opens (.push s now) = (r.sweep cutoff).1.isFirst s := by
  rw [opens, expire, start]

/-! ## How many groups there are -/

section Keys

variable {r : Reassembler}

/-- All groups but the one of a key, if it has one. -/
theorem IsKeyed.length_without (keyed : r.IsKeyed) (key : GroupKey) :
    (without key r.groups).length + (r.get? key).isSome.toNat = r.groups.length := by
  have parts := r.groups.length_eq_length_filter_add fun g => g.1 = key
  have ofKey : (r.groups.filter fun g => g.1 = key).length = (r.get? key).isSome.toNat := by
    rw [← List.length_map Prod.snd, ← groupsOf, keyed.groupsOf_eq]
    cases r.get? key <;> rfl
  have others : (r.groups.filter fun g => !decide (g.1 = key)).length =
      (without key r.groups).length := by
    simp only [without, ne_eq, decide_not]
  omega

/-- A sentence opens a group and completes nothing, or it goes to a group, which it may complete, or
it is complete alone. -/
theorem IsKeyed.join_counts (keyed : r.IsKeyed) (s : Sentence) :
    (r.join s).1.groups.length + ((r.join s).2.isSome && 1 < s.total).toNat =
        r.groups.length + (r.isFirst s).toNat ∧
      (r.isFirst s → (r.join s).2 = none) := by
  have others := keyed.length_without (r.keying.key s)
  unfold Reassembler.join isFirst
  by_cases many : 1 < s.total
  · rw [if_neg (Nat.not_le_of_lt many), decide_eq_true many, Bool.true_and]
    simp only [Bool.and_true]
    cases given : r.get? (r.keying.key s) with
    | none =>
      -- The group is empty before its first fragment, and one chunk is too few for two.
      rw [given, Option.isSome_none, Bool.toNat_false] at others
      rw [Option.getD_none, if_pos (length_chunks_openedAt many)]
      refine ⟨?_, fun _ => rfl⟩
      simp only [withGroup, List.length_cons, Option.isSome_none, Option.isNone_none,
        Bool.toNat_false, Bool.toNat_true]
      omega
    | some g =>
      rw [given, Option.isSome_some, Bool.toNat_true] at others
      refine ⟨?_, fun opens => absurd opens Bool.false_ne_true⟩
      rw [Option.isNone_some, Bool.toNat_false]
      split
      · simp only [withGroup, List.length_cons, Option.isSome_none, Bool.toNat_false]
        omega
      · simp only [Option.isSome_some, Bool.toNat_true]
        omega
  · rw [if_pos (Nat.le_of_not_lt many), decide_eq_false many, Bool.and_false, Bool.false_and]
    exact ⟨rfl, fun opens => absurd opens Bool.false_ne_true⟩

/-- A sweep tells of every group that it removes. -/
theorem length_sweep (r : Reassembler) (cutoff : Time) :
    (r.sweep cutoff).1.groups.length + (r.sweep cutoff).2.length = r.groups.length := by
  have total := sweep_total r cutoff
  rw [sweep_evicted] at total
  omega

/-- The groups after a push are those before it and the one that it opens, without those that it
gives up and the one that it completes. One that it opens it does not complete. -/
theorem IsKeyed.push_counts (keyed : r.IsKeyed) {now cutoff : Time}
    (start : now.minus? r.ttl = some cutoff) (s : Sentence) :
    ((r.sweep cutoff).1.join s).1.groups.length + (r.sweep cutoff).2.length +
        (((r.sweep cutoff).1.join s).2.isSome && 1 < s.total).toNat =
      r.groups.length + (r.opens (.push s now)).toNat ∧
    (r.opens (.push s now) → ((r.sweep cutoff).1.join s).2 = none) := by
  have swept := r.length_sweep cutoff
  obtain ⟨joined, first⟩ := (keyed.sweep cutoff).join_counts s
  rw [opens_push start]
  refine ⟨?_, first⟩
  omega

end Keys

end Reassembler

namespace Summary

theorem complete_ledger (s : Summary) (isMultipart : Bool) :
    (s.complete isMultipart).multipartCompleted = s.multipartCompleted + isMultipart.toNat ∧
      (s.complete isMultipart).sentences = s.sentences := by
  unfold complete
  cases isMultipart with
  | false => exact ⟨rfl, rfl⟩
  | true => exact ⟨rfl, rfl⟩

end Summary

namespace Decoder

/-- Does a request bring a fragment that opens a group? -/
def opens (d : Decoder) (request : Request) : Bool :=
  request.call?.any d.reassembler.opens

/-- How many groups requests open that are answered one after the other. -/
def openings (d : Decoder) : List Request → Nat
  | [] => 0
  | request :: rest =>
    (d.opens request).toNat +
      match d.serve request with
      | .error _ => 0
      | .ok (d, _) => d.openings rest

/-- What is in the ledger of groups after a request, by what was in it before. -/
structure Entered (d d' : Decoder) (opened : Bool) : Prop where
  groups : d'.summary.multipartCompleted + d'.summary.evicted + d'.pending =
    d.summary.multipartCompleted + d.summary.evicted + d.pending + opened.toNat
  sentences : d'.summary.completed + opened.toNat + d.summary.sentences ≤
    d.summary.completed + d'.summary.sentences
  alone : opened → d'.summary.multipartCompleted = d.summary.multipartCompleted

section Steps

variable {d d' : Decoder} {now : Time} {events : List Event}

theorem entered_expire (step : d.expire now = .ok (d', events)) : Entered d d' false := by
  unfold expire Reassembler.expire at step
  cases start : now.minus? d.reassembler.ttl with
  | none =>
    rw [start] at step
    cases step
  | some cutoff =>
    rw [start] at step
    simp only [Except.ok.injEq, Prod.mk.injEq] at step
    obtain ⟨rfl, rfl⟩ := step
    have swept := d.reassembler.length_sweep cutoff
    refine ⟨?_, Nat.le_refl _, fun opened => absurd opened Bool.false_ne_true⟩
    dsimp only [pending, Bool.toNat_false]
    omega

theorem entered_join (keyed : d.reassembler.IsKeyed) {s : Sentence} {payload : Option Payload}
    (step : d.join s now = .ok (d', payload, events)) :
    Entered d d' (d.reassembler.opens (.push s now)) := by
  rw [join_eq] at step
  cases start : now.minus? d.reassembler.ttl with
  | none =>
    rw [start] at step
    cases step
  | some cutoff =>
    rw [start] at step
    simp only [Except.ok.injEq, Prod.mk.injEq] at step
    obtain ⟨rfl, -, rfl⟩ := step
    obtain ⟨counts, alone⟩ := keyed.push_counts start s
    cases completed : ((d.reassembler.sweep cutoff).1.join s).2 with
    | none =>
      have most := Bool.toNat_le (d.reassembler.opens (.push s now))
      rw [completed, Option.isSome_none, Bool.false_and, Bool.toNat_false] at counts
      rw [Option.isSome_none, if_neg Bool.false_ne_true]
      refine ⟨?_, ?_, fun _ => rfl⟩
      · dsimp only [pending, Summary.withSentence]
        omega
      · dsimp only [Summary.withSentence, Summary.completed]
        omega
    | some p =>
      have opened : d.reassembler.opens (.push s now) = false := by
        rw [← Bool.not_eq_true]
        intro opens
        rw [alone opens] at completed
        cases completed
      rw [completed, Option.isSome_some, Bool.true_and, opened, Bool.toNat_false] at counts
      rw [Option.isSome_some, if_pos rfl, opened]
      -- A payload that is complete is counted on top of the sentence and of what was given up.
      obtain ⟨completed, -, -, evicted, -⟩ := Summary.complete_counts
        (d.summary.withSentence (d.reassembler.sweep cutoff).2.length) (1 < s.total)
      obtain ⟨multipart, sentences⟩ := Summary.complete_ledger
        (d.summary.withSentence (d.reassembler.sweep cutoff).2.length) (1 < s.total)
      refine ⟨?_, ?_, fun opens => absurd opens Bool.false_ne_true⟩
      · dsimp only [pending]
        rw [multipart, evicted]
        dsimp only [Summary.withSentence, Bool.toNat_false]
        omega
      · dsimp only
        rw [completed, sentences]
        dsimp only [Summary.withSentence, Summary.completed, Bool.toNat_false]
        omega

/-- Noise is not entered. -/
theorem entered_noise {r : Record} {n : Noise}
    (noise : r.noise? = some n) {payload : Option Payload}
    (step : d.complete r now = .ok (d', payload, events)) : Entered d d' false := by
  obtain ⟨told, done, -⟩ := complete_of_noise (d := d) noise now
  rw [done] at step
  cases step
  refine ⟨rfl, ?_, fun _ => rfl⟩
  rw [Bool.toNat_false, Nat.add_zero]
  exact Nat.le_refl _

theorem entered_complete (keyed : d.reassembler.IsKeyed) {r : Record} {payload : Option Payload}
    (step : d.complete r now = .ok (d', payload, events)) :
    Entered d d' (d.opens (.complete r now)) := by
  rw [opens, Request.call?]
  cases read : Sentence.read r.bytes r.receivedAt with
  | error error =>
    have noise : r.noise? = some error.noise := by rw [Record.noise?, read]
    have none : r.sentence? = none := by rw [Record.sentence?, read]
    rw [none]
    exact entered_noise noise step
  | ok sentence =>
    cases sentence with
    | none =>
      have noise : r.noise? = some .ignored := by rw [Record.noise?, read]
      have none : r.sentence? = none := by rw [Record.sentence?, read]
      rw [none]
      exact entered_noise noise step
    | some s =>
      rw [Record.sentence?_eq_some_iff.2 read]
      unfold complete at step
      rw [read] at step
      dsimp only at step
      let counted := { d with summary := { d.summary with records := d.summary.records + 1 } }
      obtain ⟨groups, sentences, alone⟩ := entered_join (d := counted) keyed step
      exact ⟨groups, sentences, alone⟩

/-- Decoding a payload has no part in the ledger. -/
theorem Entered.decode {mid : Decoder} {opened : Bool} (entered : Entered d mid opened)
    {p : Payload} {message : Option Message} (step : (mid.decode p).result = .ok (d', message)) :
    Entered d d' opened := by
  obtain ⟨groups, sentences, alone⟩ := entered
  unfold Decoder.decode at step
  cases answer : mid.codec p.text p.fillBits with
  | error crash =>
    rw [answer] at step
    cases step
  | ok result =>
    rw [answer] at step
    cases result with
    | error error =>
      cases step
      exact ⟨groups, sentences, alone⟩
    | ok fields =>
      cases step
      exact ⟨groups, sentences, alone⟩

theorem entered_process (keyed : d.reassembler.IsKeyed) {codec : Codec} {r : Record}
    {message : Option Message}
    (step : ({ d with codec }.process r now).result = .ok (d', message)) :
    Entered d d' (d.opens (.process codec r now)) := by
  unfold process at step
  cases completed : { d with codec }.complete r now with
  | error crash =>
    rw [completed] at step
    cases step
  | ok result =>
    obtain ⟨mid, payload, events⟩ := result
    obtain ⟨groups, sentences, alone⟩ :=
      entered_complete (d := { d with codec }) keyed completed
    have entered : Entered d mid (d.opens (.process codec r now)) := ⟨groups, sentences, alone⟩
    rw [completed] at step
    cases payload with
    | none =>
      cases step
      exact entered
    | some p => exact entered.decode step

/-- What one request enters. -/
theorem entered_serve (keyed : d.reassembler.IsKeyed) {request : Request} {service : Service}
    (step : d.serve request = .ok (d', service)) : Entered d d' (d.opens request) := by
  unfold serve at step
  cases request with
  | process codec r now =>
    dsimp only at step
    split at step
    · cases step
    · rename_i mid message result
      cases step
      exact entered_process keyed result
  | complete r now =>
    dsimp only at step
    split at step
    · cases step
    · rename_i mid payload events result
      cases step
      exact entered_complete keyed result
  | expire now =>
    dsimp only at step
    split at step
    · cases step
    · rename_i mid events result
      cases step
      exact entered_expire result

/-- What a request leaves behind is what its call makes of the groups, so their keys stay
distinct. -/
theorem isKeyed_serve (keyed : d.reassembler.IsKeyed) {request : Request} {service : Service}
    (step : d.serve request = .ok (d', service)) : d'.reassembler.IsKeyed := by
  have answered := d.attempt_eq_serve request
  rw [step] at answered
  have left : d'.reassembler = (d.attempt request).1.reassembler := by rw [answered]
  rw [left, attempt_reassembler]
  exact keyed.attemptAll _

end Steps

/-! ## Runs -/

/-- What requests enter. That keys are distinct is carried along, as each request relies on it. -/
theorem ledger_serveAll {d d' : Decoder} (keyed : d.reassembler.IsKeyed) {requests : List Request}
    {log : List Service} (run : d.serveAll requests = .ok (d', log)) :
    d'.summary.multipartCompleted + d'.summary.evicted + d'.pending =
        d.summary.multipartCompleted + d.summary.evicted + d.pending + d.openings requests ∧
      d'.summary.completed + d.openings requests + d.summary.sentences ≤
        d.summary.completed + d'.summary.sentences ∧
      ∀ before request after, requests = before ++ request :: after →
        ∃ mid mid' told service, d.serveAll before = .ok (mid, told) ∧
          mid.serve request = .ok (mid', service) ∧
          (mid.opens request →
            mid'.summary.multipartCompleted = mid.summary.multipartCompleted) := by
  induction requests generalizing d log with
  | nil =>
    cases run
    refine ⟨rfl, Nat.le_refl _, fun before request after empty => ?_⟩
    simp at empty
  | cons request rest ih =>
    obtain ⟨mid, service, tail, step, onward, rfl⟩ := serveAll_cons_eq_ok_iff.1 run
    obtain ⟨groups, sentences, alone⟩ := entered_serve keyed step
    obtain ⟨groups', sentences', each⟩ := ih (isKeyed_serve keyed step) onward
    have opened : d.openings (request :: rest) = (d.opens request).toNat + mid.openings rest := by
      rw [openings, step]
    rw [opened]
    refine ⟨by omega, by omega, fun before asked after split => ?_⟩
    -- A request is the first one, or it is one of the others after the first.
    cases before with
    | nil =>
      cases split
      exact ⟨d, mid, [], service, rfl, step, alone⟩
    | cons first before =>
      cases split
      obtain ⟨last, last', told, answer, earlier, step', alone'⟩ := each before asked after rfl
      exact ⟨last, last', service :: told, answer,
        serveAll_cons_eq_ok_iff.2 ⟨mid, service, told, step, earlier, rfl⟩, step', alone'⟩

/-- **The ledger of groups balances.** After any requests that a decoder has answered from the
start, as many groups were opened as were completed, were given up and wait. A message that is
completed from several fragments has taken two sentences, and any other group and any message of
one fragment has taken one, which together are no more than the sentences. And no request that opens
a group completes a message of several fragments. -/
theorem serveAll_ledger {ttl : Span} {keying : Keying} {codec : Codec} {requests : List Request}
    {d : Decoder} {log : List Service}
    (run : (new ttl keying codec).serveAll requests = .ok (d, log)) :
    (new ttl keying codec).openings requests =
        d.summary.multipartCompleted + d.summary.evicted + d.pending ∧
      d.summary.singleFragment + 2 * d.summary.multipartCompleted + d.summary.evicted + d.pending ≤
        d.summary.sentences ∧
      ∀ before request after, requests = before ++ request :: after →
        ∃ mid mid' told service, (new ttl keying codec).serveAll before = .ok (mid, told) ∧
          mid.serve request = .ok (mid', service) ∧
          (mid.opens request →
            mid'.summary.multipartCompleted = mid.summary.multipartCompleted) := by
  have keyed : (new ttl keying codec).reassembler.IsKeyed := Reassembler.isKeyed_new ttl keying
  have start : (new ttl keying codec).summary = .zero := rfl
  have empty : (new ttl keying codec).pending = 0 := rfl
  obtain ⟨groups, sentences, each⟩ := ledger_serveAll keyed run
  rw [start, empty] at groups
  rw [start] at sentences
  dsimp only [Summary.zero, Summary.completed] at groups sentences
  exact ⟨by omega, by omega, each⟩

/-- A group is given up and opened anew by the next fragment of its key, which a third completes. A
message of one fragment opens none, and another group waits. -/
theorem serveAll_ledger_anew :
    let late : Time := ⟨100, 0, by decide, by decide, by decide, by decide⟩
    let record (t : Time) (line : String) : Record := .ofBytes t (Text.Utf8.bytesOf line)
    let requests : List Request := [
      .process Envelope.codec (record .epoch "!AIVDM,2,1,1,A,AB,0*17") .epoch,
      .complete (record late "!AIVDM,2,2,1,A,CD,0*10") late,
      .process Envelope.codec (record late "!AIVDM,2,1,1,A,AB,0*17") late,
      .complete (record late "!AIVDM,1,1,,A,15Mw,0*18") late,
      .complete (record late "!AIVDM,2,1,2,A,AB,0*14") late,
      .expire late]
    ∃ d log, (new .minute .sequenceIdAndChannel Envelope.codec).serveAll requests = .ok (d, log) ∧
      (new .minute .sequenceIdAndChannel Envelope.codec).openings requests = 3 ∧
      d.pending = 1 ∧ d.summary = ⟨5, 5, 0, 0, 0, 0, 1, 1, 1, 0, 1⟩ ∧
      d.summary.singleFragment + 2 * d.summary.multipartCompleted + d.summary.evicted + d.pending ≤
        d.summary.sentences := by
  intro late record requests
  obtain ⟨d, log, run, pending, summary⟩ : ∃ d log,
      (new .minute .sequenceIdAndChannel Envelope.codec).serveAll requests = .ok (d, log) ∧
        d.pending = 1 ∧ d.summary = ⟨5, 5, 0, 0, 0, 0, 1, 1, 1, 0, 1⟩ := by
    dsimp only [requests, record, late]
    refine ⟨_, _, rfl, ?_, ?_⟩ <;> rfl
  obtain ⟨groups, sentences, -⟩ := serveAll_ledger run
  rw [pending, summary] at groups
  exact ⟨d, log, run, groups, pending, summary, sentences⟩

end Decoder

end AisFeed
