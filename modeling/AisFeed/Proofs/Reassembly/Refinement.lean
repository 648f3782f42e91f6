import AisFeed.Proofs.Reassembly.Life

/-!
# A reassembler as a log

The life of a group can be told from outside: it starts with a fragment, goes on with every
further fragment of the key, and ends where a message comes out or the group is told to be given
up (`Life.ofTrace`). `run_refines_life` says that in every run a reassembler holds for each key
what the life of its group says, and answers as the life says.
-/

set_option autoImplicit false

namespace AisFeed

/-- The fragment of a key that a call brings, if it brings one. -/
def Call.fragmentOf? (keying : Keying) (key : GroupKey) : Call → Option Sentence
  | push s _ => s.fragmentOf? keying key
  | expire _ => none

/-- Does an exchange tell that the group of the key was given up? -/
def Exchange.evicts (key : GroupKey) (e : Exchange) : Bool :=
  e.events.any fun
    | .expired k _ => k = key
    | _ => false

namespace Life

/-- The life of a group after the sweep of an exchange. -/
def swept (key : GroupKey) (l : Life) (e : Exchange) : Life :=
  if e.evicts key then [] else l

/-- The life of a group after an exchange. A fragment of it opens it or goes on with it, and ends
it if it completes the message. -/
def next (keying : Keying) (key : GroupKey) (l : Life) (e : Exchange) : Life :=
  match e.call.fragmentOf? keying key with
  | none => l.swept key e
  | some s => if e.payload.isSome then [] else l.swept key e ++ [s]

theorem next_of_other {keying : Keying} {key : GroupKey} {l : Life} {e : Exchange}
    (other : e.call.fragmentOf? keying key = none) : l.next keying key e = l.swept key e := by
  rw [next, other]

theorem next_of_fragment {keying : Keying} {key : GroupKey} {l : Life} {e : Exchange} {s : Sentence}
    (fragment : e.call.fragmentOf? keying key = some s) :
    l.next keying key e = if e.payload.isSome then [] else l.swept key e ++ [s] := by
  rw [next, fragment]

/-- The life of a group at the end of a run: its fragments after the exchange that ended the life
before. -/
def ofTrace (keying : Keying) (key : GroupKey) (trace : List Exchange) : Life :=
  trace.foldl (next keying key) []

end Life

/-- What an exchange says about a group is what its life before the exchange says. -/
structure Exchange.Follows (ttl : Span) (keying : Keying) (key : GroupKey) (l : Life)
    (e : Exchange) : Prop where
  /-- The group is given up exactly if its first fragment is older than the time-to-live. -/
  evicts_iff : e.evicts key = true ↔ ∃ first cutoff,
    l.head? = some first ∧ e.call.now.minus? ttl = some cutoff ∧ first.receivedAt < cutoff
  /-- A fragment is answered by the message that it makes with those before it, if any. -/
  payload : ∀ s, e.call.fragmentOf? keying key = some s →
    e.payload = Life.message? (l.swept key e ++ [s]) s.total

namespace Reassembler

theorem evicts_iff_of_events {r : Reassembler} {cutoff : Time} {key : GroupKey} {e : Exchange}
    (told : e.events = (r.sweep cutoff).2) :
    e.evicts key = true ↔ ∃ g ∈ r.groupsOf key, g.firstSeen < cutoff := by
  rw [Exchange.evicts, told, List.any_eq_true]
  constructor
  · rintro ⟨event, mem, same⟩
    split at same
    · simp only [decide_eq_true_eq] at same
      subst same
      obtain ⟨g, hg, old, -⟩ := expired_mem_sweep_iff.1 mem
      exact ⟨g, hg, old⟩
    · cases same
  · rintro ⟨g, hg, old⟩
    exact ⟨.expired key g.numbers, expired_mem_sweep_iff.2 ⟨g, hg, old, rfl⟩, by simp⟩

section Held

variable {r : Reassembler} {key : GroupKey} {l : Life}

/-- A sweep gives up the group of a key exactly if its first fragment is too old. -/
theorem exists_old_iff (held : r.groupsOf key = l.group?.toList) {cutoff : Time} :
    (∃ g ∈ r.groupsOf key, g.firstSeen < cutoff) ↔
      ∃ first, l.head? = some first ∧ first.receivedAt < cutoff := by
  rw [held]
  cases l with
  | nil => simp [Life.group?]
  | cons first rest => simp [Life.group?]

/-- A sweep spares a group whose first fragment is young enough. -/
theorem groupsOf_sweep_of_young (held : r.groupsOf key = l.group?.toList) {cutoff : Time}
    (young : ∀ first ∈ l.head?, cutoff ≤ first.receivedAt) :
    (r.sweep cutoff).1.groupsOf key = l.group?.toList := by
  rw [groupsOf_sweep, List.filter_eq_self.2, held]
  intro g mem
  have spared : ¬g.firstSeen < cutoff := by
    intro old
    obtain ⟨first, head, less⟩ := (exists_old_iff held).1 ⟨g, mem, old⟩
    exact young first head less
  rw [decide_eq_false spared, Bool.not_false]

theorem groupsOf_swept (held : r.groupsOf key = l.group?.toList) {cutoff : Time} {e : Exchange}
    (told : e.events = (r.sweep cutoff).2) :
    (r.sweep cutoff).1.groupsOf key = (l.swept key e).group?.toList := by
  rw [Life.swept]
  by_cases old : ∃ g ∈ r.groupsOf key, g.firstSeen < cutoff
  · rw [if_pos ((evicts_iff_of_events told).2 old), groupsOf_sweep]
    obtain ⟨first, head, less⟩ := (exists_old_iff held).1 old
    rw [held, Life.group?, head]
    simp [less, Life.group?]
  · rw [if_neg (mt (evicts_iff_of_events told).1 old)]
    exact groupsOf_sweep_of_young held fun first head less =>
      old ((exists_old_iff held).2 ⟨first, head, less⟩)

theorem grown_eq (held : r.groupsOf key = l.group?.toList) (s : Sentence) :
    Life.group? (l ++ [s]) = some (grown (r.groupsOf key) s) := by
  rw [Life.group?_snoc, grown, held]
  cases l.group? <;> rfl

/-- A fragment of the key makes of its group what its life says. -/
theorem groupsOf_join_life (held : r.groupsOf key = l.group?.toList) {s : Sentence}
    (fragment : s.fragmentOf? r.keying key = some s) :
    (r.join s).2 = Life.message? (l ++ [s]) s.total ∧
      (r.join s).1.groupsOf key =
        (if (r.join s).2.isSome then [] else l ++ [s] : Life).group?.toList := by
  obtain ⟨⟨many, rfl⟩, -⟩ := Sentence.fragmentOf?_eq_some_iff.1 fragment
  have group := grown_eq held s
  have chunks : (grown (r.groupsOf (r.keying.key s)) s).chunks = Life.chunks (l ++ [s]) := by
    obtain ⟨first, head, same⟩ := Option.map_eq_some_iff.1 group
    rw [← same]
  rw [join_payload many, groupsOf_join many, chunks, Life.length_chunks, Life.message?]
  split
  · simp [group]
  · obtain ⟨first, head, same⟩ := Option.map_eq_some_iff.1 group
    simp [← same, head, Group.payload, Life.group?]

/-- One exchange follows the life of a group, and leaves the group as the life goes on. -/
theorem exchange_follows (held : r.groupsOf key = l.group?.toList) {r' : Reassembler} {call : Call}
    {e : Exchange} (step : r.exchange call = .ok (r', e)) :
    e.Follows r.ttl r.keying key l ∧
      r'.groupsOf key = (l.next r.keying key e).group?.toList := by
  obtain ⟨cutoff, start, rfl, made⟩ := exchange_eq_ok_iff.1 step
  have asked : e.call = call := by rw [made]
  have told : e.events = (r.sweep cutoff).2 := by rw [made]
  have answered : e.payload = ((r.sweep cutoff).1.settle call).2 := by rw [made]
  have swept := groupsOf_swept held told
  have evicts : e.evicts key = true ↔ ∃ first cutoff, l.head? = some first ∧
      e.call.now.minus? r.ttl = some cutoff ∧ first.receivedAt < cutoff := by
    rw [evicts_iff_of_events told, exists_old_iff held, asked, start]
    constructor
    · rintro ⟨first, head, less⟩
      exact ⟨first, cutoff, head, rfl, less⟩
    · rintro ⟨first, _, head, same, less⟩
      cases same
      exact ⟨first, head, less⟩
  cases brought : e.call.fragmentOf? r.keying key with
  | none =>
    refine ⟨⟨evicts, fun s given => by rw [brought] at given; cases given⟩, ?_⟩
    rw [Life.next_of_other brought, ← swept]
    rw [asked] at brought
    cases call with
    | expire now => rfl
    | push s now => exact groupsOf_join_of_other (r := (r.sweep cutoff).1) brought
  | some s =>
    rw [Life.next_of_fragment brought, answered]
    rw [asked] at brought
    cases call with
    | expire now => cases brought
    | push s' now =>
      obtain ⟨-, rfl⟩ := Sentence.fragmentOf?_eq_some_iff.1 brought
      obtain ⟨payload, groups⟩ := groupsOf_join_life swept brought
      refine ⟨⟨evicts, fun f given => ?_⟩, groups⟩
      rw [asked] at given
      cases brought.symm.trans given
      rw [answered]
      exact payload

/-- A run follows the life of a group from exchange to exchange. -/
theorem run_follows (held : r.groupsOf key = l.group?.toList) {r' : Reassembler}
    {calls : List Call} {trace : List Exchange} (run : r.run calls = .ok (r', trace)) :
    r'.groupsOf key = (trace.foldl (Life.next r.keying key) l).group?.toList ∧
      ∀ before e after, trace = before ++ e :: after →
        e.Follows r.ttl r.keying key (before.foldl (Life.next r.keying key) l) := by
  induction calls generalizing r l trace with
  | nil =>
    cases run
    exact ⟨held, fun before e after empty => by simp at empty⟩
  | cons call rest ih =>
    obtain ⟨mid, e, tail, step, onward, rfl⟩ := run_cons_eq_ok_iff.1 run
    obtain ⟨follows, held⟩ := exchange_follows held step
    obtain ⟨keying, ttl⟩ := exchange_settings step
    rw [← keying] at held
    obtain ⟨last, later⟩ := ih held onward
    rw [keying] at last
    rw [keying, ttl] at later
    refine ⟨last, fun before e' after split => ?_⟩
    cases before with
    | nil =>
      cases split
      exact follows
    | cons first before =>
      cases split
      exact later before e' after rfl

end Held

theorem run_calls {r r' : Reassembler} {calls : List Call} {trace : List Exchange}
    (run : r.run calls = .ok (r', trace)) : trace.map Exchange.call = calls := by
  induction calls generalizing r trace with
  | nil =>
    cases run
    rfl
  | cons call rest ih =>
    obtain ⟨mid, e, tail, step, onward, rfl⟩ := run_cons_eq_ok_iff.1 run
    obtain ⟨cutoff, -, -, rfl⟩ := exchange_eq_ok_iff.1 step
    rw [List.map_cons, ih onward]

/-- **A reassembler refines the log of its fragments.** In every run from the start, and for
every key, the group is what its life since it was opened says, and every exchange follows the
life of the group before it. -/
theorem run_refines_life {ttl : Span} {keying : Keying} {calls : List Call} {r : Reassembler}
    {trace : List Exchange} (run : (new ttl keying).run calls = .ok (r, trace)) (key : GroupKey) :
    trace.map Exchange.call = calls ∧
      r.get? key = (Life.ofTrace keying key trace).group? ∧
      ∀ before e after, trace = before ++ e :: after →
        e.Follows ttl keying key (Life.ofTrace keying key before) := by
  have held : (new ttl keying).groupsOf key = (Life.group? []).toList := rfl
  obtain ⟨groups, follows⟩ := run_follows held run
  refine ⟨run_calls run, ?_, follows⟩
  rw [get?_eq_head?, groups, Option.head?_toList]
  rfl

/-- A chunk is replaced, and a fragment that declares fewer than its number completes. -/
theorem run_refines_life_stray :
    let fragment (total number : Nat) (payload : String) : Sentence :=
      ⟨.otherVessel, total, number, some '1', some 'A', payload, 2, .epoch⟩
    let old : Exchange := ⟨.push (fragment 3 1 "old") .epoch, none, []⟩
    let new : Exchange := ⟨.push (fragment 3 1 "AB") .epoch, none, []⟩
    let stray : Exchange := ⟨.push (fragment 2 7 "ZZ") .epoch, some ⟨"ABZZ", 0, .epoch⟩, []⟩
    let next : Exchange := ⟨.push (fragment 2 2 "CD") .epoch, none, []⟩
    let trace := [old, new, stray, next]
    let r : Reassembler :=
      ⟨.minute, .sequenceId, [(⟨some '1', none⟩, ⟨[(2, "CD")], 2, .epoch⟩)], 0⟩
    (Reassembler.new .minute .sequenceId).run (trace.map Exchange.call) = .ok (r, trace) ∧
      r.get? ⟨some '1', none⟩ = (Life.ofTrace .sequenceId ⟨some '1', none⟩ trace).group? ∧
      stray.Follows .minute .sequenceId ⟨some '1', none⟩
        (Life.ofTrace .sequenceId ⟨some '1', none⟩ [old, new]) := by
  intro fragment old new stray next trace r
  have run : (Reassembler.new .minute .sequenceId).run (trace.map Exchange.call) = .ok (r, trace) :=
    rfl
  obtain ⟨-, group, follows⟩ := run_refines_life run ⟨some '1', none⟩
  exact ⟨run, group, follows [old, new] stray [next] rfl⟩

end Reassembler

end AisFeed
