import AisFeed.Proofs.Reassembly.Refinement

/-!
# Groups do not interfere

All groups lie in one list that every push sweeps and changes. Still, what happens to one group
does not hang on the traffic of the others: take a run and replace every call that brings no
fragment of the group by a mere sweep at the same time, and the group is the same after every
call, and its fragments are answered the same (`run_isolated`). The two runs are compared step by
step; what they have in common is `Alike`.
-/

set_option autoImplicit false

namespace AisFeed

/-- The call without the traffic of other groups than that of the key: what brings no fragment of
this group only sweeps. -/
def Call.only (keying : Keying) (key : GroupKey) (call : Call) : Call :=
  match call.fragmentOf? keying key with
  | some _ => call
  | none => .expire call.now

@[simp] theorem Call.only_now (keying : Keying) (key : GroupKey) (call : Call) :
    (call.only keying key).now = call.now := by
  unfold only
  split <;> rfl

theorem Call.only_of_fragment {keying : Keying} {key : GroupKey} {call : Call} {s : Sentence}
    (fragment : call.fragmentOf? keying key = some s) : call.only keying key = call := by
  rw [only, fragment]

theorem Call.only_of_other {keying : Keying} {key : GroupKey} {call : Call}
    (other : call.fragmentOf? keying key = none) : call.only keying key = .expire call.now := by
  rw [only, other]

/-- An exchange of a run, and what stands in its place in the run without other traffic: the group
is given up in both or in neither, and a fragment of it has the same answer. -/
structure Exchange.AlikeFor (keying : Keying) (key : GroupKey) (e only : Exchange) : Prop where
  call : only.call = e.call.only keying key
  evicts : only.evicts key = e.evicts key
  payload : (e.call.fragmentOf? keying key).isSome → only.payload = e.payload

namespace Reassembler

/-- Two reassemblers with the same settings that hold the same for a key. -/
structure Alike (key : GroupKey) (r only : Reassembler) : Prop where
  keying : only.keying = r.keying
  ttl : only.ttl = r.ttl
  groups : only.groupsOf key = r.groupsOf key

namespace Alike

variable {key : GroupKey} {r only : Reassembler}

theorem get? (alike : Alike key r only) : only.get? key = r.get? key := by
  rw [get?_eq_head?, get?_eq_head?, alike.groups]

theorem sweep (alike : Alike key r only) (cutoff : Time) :
    Alike key (r.sweep cutoff).1 (only.sweep cutoff).1 := by
  refine ⟨alike.keying, alike.ttl, ?_⟩
  rw [groupsOf_sweep, groupsOf_sweep, alike.groups]

/-- A fragment of the key does the same to both. -/
theorem join (alike : Alike key r only) {s : Sentence}
    (fragment : s.fragmentOf? r.keying key = some s) :
    Alike key (r.join s).1 (only.join s).1 ∧ (only.join s).2 = (r.join s).2 := by
  obtain ⟨⟨many, rfl⟩, -⟩ := Sentence.fragmentOf?_eq_some_iff.1 fragment
  obtain ⟨keying, ttl, groups⟩ := alike
  have same : only.groupsOf (only.keying.key s) = r.groupsOf (r.keying.key s) := by
    rw [keying, groups]
  refine ⟨⟨?_, ?_, ?_⟩, ?_⟩
  · rw [join_keying, join_keying, keying]
  · rw [join_ttl, join_ttl, ttl]
  · conv_lhs => rw [← keying]
    rw [groupsOf_join many, groupsOf_join many, same]
  · rw [join_payload many, join_payload many, same]

/-- What is no fragment of the key can be left out after the sweep. -/
theorem settle_other (alike : Alike key r only) {call : Call}
    (other : call.fragmentOf? r.keying key = none) : Alike key (r.settle call).1 only := by
  refine ⟨?_, ?_, ?_⟩
  · rw [settle_keying, alike.keying]
  · rw [settle_ttl, alike.ttl]
  · cases call with
    | push s now => rw [settle, groupsOf_join_of_other other, alike.groups]
    | expire now => exact alike.groups

/-- One exchange keeps two reassemblers alike, if the second leaves out what is not of the key. -/
theorem exchange (alike : Alike key r only) {r' : Reassembler} {call : Call} {e : Exchange}
    (step : r.exchange call = .ok (r', e)) :
    ∃ only' e', only.exchange (call.only r.keying key) = .ok (only', e') ∧
      Alike key r' only' ∧ e.AlikeFor r.keying key e' := by
  obtain ⟨cutoff, start, rfl, made⟩ := exchange_eq_ok_iff.1 step
  obtain ⟨_, _, step'⟩ : ∃ only' e', only.exchange (call.only r.keying key) = .ok (only', e') := by
    rw [← alike.ttl, ← Call.only_now r.keying key] at start
    exact ⟨_, _, exchange_eq_ok_iff.2 ⟨cutoff, start, rfl, rfl⟩⟩
  obtain ⟨cutoff', start', rfl, made'⟩ := exchange_eq_ok_iff.1 step'
  rw [Call.only_now, alike.ttl, start] at start'
  cases start'
  have swept := alike.sweep cutoff
  have evicts (e e' : Exchange) (told : e.events = (r.sweep cutoff).2)
      (told' : e'.events = (only.sweep cutoff).2) : e'.evicts key = e.evicts key := by
    rw [Bool.eq_iff_iff, evicts_iff_of_events told, evicts_iff_of_events told', alike.groups]
  refine ⟨_, _, step', ?_⟩
  subst made made'
  cases brought : call.fragmentOf? r.keying key with
  | none =>
    rw [Call.only_of_other brought]
    refine ⟨swept.settle_other brought, ?_, evicts _ _ rfl rfl, ?_⟩
    · exact (Call.only_of_other brought).symm
    · intro fragment
      rw [brought] at fragment
      cases fragment
  | some s =>
    rw [Call.only_of_fragment brought]
    cases call with
    | expire now => cases brought
    | push s' now =>
      obtain ⟨-, rfl⟩ := Sentence.fragmentOf?_eq_some_iff.1 brought
      obtain ⟨joined, answer⟩ := swept.join brought
      exact ⟨joined, (Call.only_of_fragment brought).symm, evicts _ _ rfl rfl, fun _ => answer⟩

/-- A run keeps two reassemblers alike, if the second leaves out what is not of the key. -/
theorem run (alike : Alike key r only) {r' : Reassembler} {calls : List Call}
    {trace : List Exchange} (run : r.run calls = .ok (r', trace)) :
    ∃ only' trace', only.run (calls.map (Call.only r.keying key)) = .ok (only', trace') ∧
      Alike key r' only' ∧ List.Forall₂ (Exchange.AlikeFor r.keying key) trace trace' := by
  induction calls generalizing r only trace with
  | nil =>
    cases run
    exact ⟨only, [], rfl, alike, .nil⟩
  | cons call rest ih =>
    obtain ⟨mid, e, tail, step, onward, rfl⟩ := run_cons_eq_ok_iff.1 run
    obtain ⟨keying, -⟩ := exchange_settings step
    obtain ⟨mid', e', step', alike, same⟩ := alike.exchange step
    obtain ⟨last, tail', onward', alike, later⟩ := ih alike onward
    rw [keying] at onward' later
    refine ⟨last, e' :: tail', ?_, alike, .cons same later⟩
    rw [List.map_cons]
    exact run_cons_eq_ok_iff.2 ⟨mid', e', tail', step', onward', rfl⟩

end Alike

/-- **Groups do not interfere.** Let every call of a run that brings no fragment of the group of a
key only sweep. Then nothing crashes either, call by call the group is given up in both runs or in
neither, its fragments have the same answers, and after any number of calls the group is the
same. -/
theorem run_isolated {r last : Reassembler} {calls : List Call} {trace : List Exchange}
    (run : r.run calls = .ok (last, trace)) (key : GroupKey) :
    ∃ last' trace', r.run (calls.map (Call.only r.keying key)) = .ok (last', trace') ∧
      List.Forall₂ (Exchange.AlikeFor r.keying key) trace trace' ∧
      ∀ n, ∃ mid first mid' first', r.run (calls.take n) = .ok (mid, first) ∧
        r.run ((calls.take n).map (Call.only r.keying key)) = .ok (mid', first') ∧
        mid'.get? key = mid.get? key := by
  have same : Alike key r r := ⟨rfl, rfl, rfl⟩
  obtain ⟨last', trace', run', -, alike⟩ := same.run run
  refine ⟨last', trace', run', alike, fun n => ?_⟩
  rw [← List.take_append_drop n calls] at run
  obtain ⟨mid, first, begun⟩ := run_of_append run
  obtain ⟨mid', first', begun', alike, -⟩ := same.run begun
  exact ⟨mid, first, mid', first', begun, begun', alike.get?⟩

/-- A fragment on another channel, out of its range, and a message of one fragment come between the
two fragments of a message. -/
theorem run_isolated_channels :
    let fragment (channel : Char) (total number : Nat) (payload : String) : Sentence :=
      ⟨.otherVessel, total, number, some '1', some channel, payload, 0, .epoch⟩
    let key : GroupKey := ⟨some '1', some 'A'⟩
    let first := fragment 'A' 2 1 "AB"
    let calls : List Call := [.push first .epoch, .push (fragment 'B' 2 7 "ZZ") .epoch,
      .push (fragment 'A' 1 1 "XX") .epoch, .push (fragment 'A' 2 2 "CD") .epoch]
    let alone : List Call := [.push first .epoch, .expire .epoch, .expire .epoch,
      .push (fragment 'A' 2 2 "CD") .epoch]
    let r := Reassembler.new .minute .sequenceIdAndChannel
    ∃ last trace last' trace', r.run calls = .ok (last, trace) ∧
      r.run alone = .ok (last', trace') ∧
      trace.map Exchange.payload =
        [none, none, some ⟨"XX", 0, .epoch⟩, some ⟨"ABCD", 0, .epoch⟩] ∧
      List.Forall₂ (Exchange.AlikeFor .sequenceIdAndChannel key) trace trace' := by
  intro fragment key first calls alone r
  obtain ⟨last, trace, run, payloads⟩ : ∃ last trace, r.run calls = .ok (last, trace) ∧
      trace.map Exchange.payload =
        [none, none, some ⟨"XX", 0, .epoch⟩, some ⟨"ABCD", 0, .epoch⟩] :=
    ⟨_, _, rfl, rfl⟩
  obtain ⟨last', trace', run', alike, -⟩ := run_isolated run key
  exact ⟨last, trace, last', trace', run, run', payloads, alike⟩

end Reassembler

end AisFeed
