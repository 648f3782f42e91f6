import AisFeed.Proofs.Reassembly.Refinement
import AisFeed.Reassembly.InPlace

/-!
# What calls leave behind

A call crashes before it changes anything: `attempt` does what `exchange` does, and a crash leaves
the reassembler as it was (`attempt_eq`). So calls of which some crash come to the same as a run of
the others (`run_attemptAll`), and all that is known of runs holds of whatever calls leave behind.
-/

set_option autoImplicit false

namespace AisFeed

/-- Is the start of the time-to-live a time when the call is made? -/
def Call.isInRange (ttl : Span) (call : Call) : Bool :=
  (call.now.minus? ttl).isSome

namespace Reassembler

theorem exchange_of_range {r : Reassembler} {call : Call} {cutoff : Time}
    (start : call.now.minus? r.ttl = some cutoff) :
    r.exchange call = .ok (((r.sweep cutoff).1.settle call).1,
      ⟨call, ((r.sweep cutoff).1.settle call).2, (r.sweep cutoff).2⟩) :=
  exchange_eq_ok_iff.2 ⟨cutoff, start, rfl, rfl⟩

theorem exchange_of_crash {r : Reassembler} {call : Call}
    (start : call.now.minus? r.ttl = none) : r.exchange call = .error .timeRange := by
  cases call with
  | push s now =>
    simp only [Call.now] at start
    rw [exchange, push, expire, start]
  | expire now =>
    simp only [Call.now] at start
    rw [exchange, expire, start]

theorem get_eq (r : Reassembler) : (get : Work Reassembler) r = .ok r r := rfl

theorem expireInPlace_eq (r : Reassembler) (now : Time) :
    expireInPlace now r = match now.minus? r.ttl with
      | none => .error .timeRange r
      | some cutoff => .ok (r.sweep cutoff).2 (r.sweep cutoff).1 := by
  simp only [expireInPlace, bind, EStateM.bind, get_eq]
  cases now.minus? r.ttl <;> rfl

theorem pushInPlace_eq (r : Reassembler) (s : Sentence) (now : Time) :
    pushInPlace s now r = match now.minus? r.ttl with
      | none => .error .timeRange r
      | some cutoff => .ok (((r.sweep cutoff).1.join s).2, (r.sweep cutoff).2)
          ((r.sweep cutoff).1.join s).1 := by
  simp only [pushInPlace, bind, EStateM.bind, expireInPlace_eq]
  cases now.minus? r.ttl <;> rfl

/-- A call changes the reassembler as its exchange does, and one that crashes does not change it. -/
theorem attempt_eq (r : Reassembler) (call : Call) :
    r.attempt call = match r.exchange call with
      | .ok (r', e) => (r', .ok e)
      | .error crash => (r, .error crash) := by
  cases start : call.now.minus? r.ttl with
  | none =>
    rw [exchange_of_crash start]
    cases call with
    | push s now =>
      simp only [Call.now] at start
      simp only [attempt, Call.work, EStateM.run, bind, EStateM.bind, pushInPlace_eq, start]
    | expire now =>
      simp only [Call.now] at start
      simp only [attempt, Call.work, EStateM.run, bind, EStateM.bind, expireInPlace_eq, start]
  | some cutoff =>
    rw [exchange_of_range start]
    cases call with
    | push s now =>
      simp only [Call.now] at start
      simp only [attempt, Call.work, EStateM.run, bind, EStateM.bind, pushInPlace_eq, start]
      rfl
    | expire now =>
      simp only [Call.now] at start
      simp only [attempt, Call.work, EStateM.run, bind, EStateM.bind, expireInPlace_eq, start]
      rfl

theorem attempt_of_range {r : Reassembler} {cutoff : Time} (call : Call)
    (start : call.now.minus? r.ttl = some cutoff) :
    r.attempt call = (((r.sweep cutoff).1.settle call).1,
      .ok ⟨call, ((r.sweep cutoff).1.settle call).2, (r.sweep cutoff).2⟩) := by
  rw [attempt_eq, exchange_of_range start]

theorem attempt_of_crash {r : Reassembler} (call : Call)
    (start : call.now.minus? r.ttl = none) : r.attempt call = (r, .error .timeRange) := by
  rw [attempt_eq, exchange_of_crash start]

theorem attempt_settings (r : Reassembler) (call : Call) :
    (r.attempt call).1.keying = r.keying ∧ (r.attempt call).1.ttl = r.ttl := by
  cases start : call.now.minus? r.ttl with
  | none =>
    rw [attempt_of_crash call start]
    exact ⟨rfl, rfl⟩
  | some cutoff =>
    rw [attempt_of_range call start]
    exact exchange_settings (exchange_of_range start)

theorem attemptAll_cons (r : Reassembler) (call : Call) (rest : List Call) :
    (r.attemptAll (call :: rest)).1 = ((r.attempt call).1.attemptAll rest).1 := rfl

theorem attemptAll_cons_outcomes (r : Reassembler) (call : Call) (rest : List Call) :
    (r.attemptAll (call :: rest)).2 = (r.attempt call).2 :: ((r.attempt call).1.attemptAll rest).2 :=
  rfl

theorem attemptAll_concat_outcomes (r : Reassembler) (calls : List Call) (call : Call) :
    (r.attemptAll (calls ++ [call])).2 =
      (r.attemptAll calls).2 ++ [((r.attemptAll calls).1.attempt call).2] := by
  induction calls generalizing r with
  | nil => rfl
  | cons first rest ih =>
    rw [List.cons_append, attemptAll_cons_outcomes, ih, attemptAll_cons_outcomes, attemptAll_cons]
    rfl

/-- Calls that crash might as well not have been made. -/
theorem run_attemptAll (r : Reassembler) (calls : List Call) :
    r.run (calls.filter (Call.isInRange r.ttl)) =
      .ok ((r.attemptAll calls).1, (r.attemptAll calls).2.filterMap Except.toOption) := by
  induction calls generalizing r with
  | nil => rfl
  | cons call rest ih =>
    have later := ih (r.attempt call).1
    rw [(r.attempt_settings call).2] at later
    rw [attemptAll_cons, attemptAll_cons_outcomes]
    cases start : call.now.minus? r.ttl with
    | none =>
      have crashes : ¬call.isInRange r.ttl := by simp [Call.isInRange, start]
      rw [attempt_of_crash call start] at later ⊢
      rw [List.filter_cons_of_neg crashes, later]
      rfl
    | some cutoff =>
      have inRange : call.isInRange r.ttl := by simp [Call.isInRange, start]
      rw [attempt_of_range call start] at later ⊢
      rw [List.filter_cons_of_pos inRange]
      exact run_cons_eq_ok_iff.2 ⟨_, _, _, exchange_of_range start, later, rfl⟩

/-! ## Order among the groups -/

theorem IsKeyed.attempt {r : Reassembler} (keyed : r.IsKeyed) (call : Call) :
    (r.attempt call).1.IsKeyed := by
  cases start : call.now.minus? r.ttl with
  | none =>
    rw [attempt_of_crash call start]
    exact keyed
  | some cutoff =>
    rw [attempt_of_range call start]
    exact (keyed.sweep cutoff).settle call

theorem IsKeyed.attemptAll {r : Reassembler} (keyed : r.IsKeyed) (calls : List Call) :
    (r.attemptAll calls).1.IsKeyed := by
  induction calls generalizing r with
  | nil => exact keyed
  | cons call rest ih => exact ih (keyed.attempt call)

/-- There is at most one group of each key, and its chunks ascend. -/
structure IsOrderly (r : Reassembler) : Prop where
  keyed : r.IsKeyed
  ascending : ∀ key g, r.get? key = some g → Ascending g.chunks

end Reassembler

end AisFeed
