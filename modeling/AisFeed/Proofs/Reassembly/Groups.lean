import AisFeed.Reassembly.Run
import Mathlib.Data.List.Sort

/-!
# The groups of one key

A reassembler keeps the groups of all keys in one list. `groupsOf` is what this list holds for
one key, and each operation is described by what it does to it: a sweep filters it
(`groupsOf_sweep`), a fragment of the key puts one group in its place (`groupsOf_join`), and a
sentence that is no fragment of the key leaves it alone (`groupsOf_join_of_other`). None of these
needs the keys in the list to be distinct; that they are is `IsKeyed`, which every operation keeps.
`exchange_eq_ok_iff` says what one call can do.
-/

set_option autoImplicit false

namespace AisFeed

/-- The sentence as a fragment of the group of `key`, if it is one. -/
def Sentence.fragmentOf? (keying : Keying) (key : GroupKey) (s : Sentence) : Option Sentence :=
  if 1 < s.total ∧ keying.key s = key then some s else none

theorem Sentence.fragmentOf?_eq_some_iff {keying : Keying} {key : GroupKey} {s f : Sentence} :
    s.fragmentOf? keying key = some f ↔ (1 < s.total ∧ keying.key s = key) ∧ s = f := by
  simp [fragmentOf?]

theorem Sentence.fragmentOf?_eq_none_iff {keying : Keying} {key : GroupKey} {s : Sentence} :
    s.fragmentOf? keying key = none ↔ s.total ≤ 1 ∨ keying.key s ≠ key := by
  simp only [fragmentOf?, ite_eq_right_iff, reduceCtorEq, imp_false]
  rw [not_and_or, Nat.not_lt]

namespace Reassembler

/-- The groups of a key: one, or none. -/
def groupsOf (r : Reassembler) (key : GroupKey) : List Group :=
  (r.groups.filter fun g => g.1 = key).map Prod.snd

theorem get?_eq_head? (r : Reassembler) (key : GroupKey) :
    r.get? key = (r.groupsOf key).head? := by
  rw [get?, groupsOf, List.head?_map, List.head?_filter]

theorem groupsOf_eq_nil_of_get? {r : Reassembler} {key : GroupKey} (h : r.get? key = none) :
    r.groupsOf key = [] := by
  rw [get?_eq_head?] at h
  exact List.head?_eq_none_iff.1 h

theorem filter_without_self (key : GroupKey) (groups : List (GroupKey × Group)) :
    (without key groups).filter (fun g => g.1 = key) = [] := by
  rw [without, List.filter_filter, List.filter_eq_nil_iff]
  intro g _
  simp

theorem filter_without_of_ne {key other : GroupKey} (h : other ≠ key)
    (groups : List (GroupKey × Group)) :
    (without key groups).filter (fun g => g.1 = other) = groups.filter (fun g => g.1 = other) := by
  rw [without, List.filter_filter]
  apply List.filter_congr
  intro g _
  by_cases hg : g.1 = other
  · simp [hg, h]
  · simp [hg]

/-! ## Sweeps -/

@[simp] theorem sweep_keying (r : Reassembler) (cutoff : Time) :
    (r.sweep cutoff).1.keying = r.keying := rfl

@[simp] theorem sweep_ttl (r : Reassembler) (cutoff : Time) :
    (r.sweep cutoff).1.ttl = r.ttl := rfl

@[simp] theorem sweep_evicted (r : Reassembler) (cutoff : Time) :
    (r.sweep cutoff).1.evicted = r.evicted + (r.sweep cutoff).2.length := by
  simp [sweep]

theorem groupsOf_sweep (r : Reassembler) (cutoff : Time) (key : GroupKey) :
    (r.sweep cutoff).1.groupsOf key =
      (r.groupsOf key).filter fun g => !decide (g.firstSeen < cutoff) := by
  simp only [groupsOf, sweep, List.filter_map]
  rw [List.filter_filter, List.filter_filter]
  congr 1
  apply List.filter_congr
  intro g _
  simp [isExpired, Bool.and_comm]

/-- A sweep tells of a group of the key exactly if it gives one up. -/
theorem expired_mem_sweep_iff {r : Reassembler} {cutoff : Time} {key : GroupKey}
    {numbers : List Nat} :
    Event.expired key numbers ∈ (r.sweep cutoff).2 ↔
      ∃ g ∈ r.groupsOf key, g.firstSeen < cutoff ∧ g.numbers = numbers := by
  simp only [sweep, groupsOf, List.mem_map, List.mem_filter, isExpired, decide_eq_true_eq]
  constructor
  · rintro ⟨g, ⟨mem, old⟩, same⟩
    injection same with hkey hnumbers
    exact ⟨g.2, ⟨g, ⟨mem, hkey⟩, rfl⟩, old, hnumbers⟩
  · rintro ⟨_, ⟨g, ⟨mem, hkey⟩, rfl⟩, old, hnumbers⟩
    exact ⟨g, ⟨mem, old⟩, by rw [hkey, hnumbers]⟩

/-! ## Sentences -/

/-- The group that a fragment makes of the groups of its key. -/
def grown (groups : List Group) (s : Sentence) : Group :=
  (groups.head?.getD (.openedAt s.receivedAt)).add s

@[simp] theorem join_keying (r : Reassembler) (s : Sentence) :
    (r.join s).1.keying = r.keying := by
  simp only [join]
  split
  · rfl
  · split <;> rfl

@[simp] theorem join_ttl (r : Reassembler) (s : Sentence) : (r.join s).1.ttl = r.ttl := by
  simp only [join]
  split
  · rfl
  · split <;> rfl

@[simp] theorem join_evicted (r : Reassembler) (s : Sentence) :
    (r.join s).1.evicted = r.evicted := by
  simp only [join]
  split
  · rfl
  · split <;> rfl

/-- A fragment leaves one group of its key, or none if it completes the message. -/
theorem groupsOf_join {r : Reassembler} {s : Sentence} (many : 1 < s.total) :
    (r.join s).1.groupsOf (r.keying.key s) =
      if (grown (r.groupsOf (r.keying.key s)) s).chunks.length < s.total then
        [grown (r.groupsOf (r.keying.key s)) s]
      else [] := by
  rw [grown, ← get?_eq_head?]
  simp only [join, if_neg (Nat.not_le.2 many)]
  split
  · simp only [groupsOf, withGroup]
    rw [List.filter_cons_of_pos (by simp), filter_without_self]
    rfl
  · simp only [groupsOf, filter_without_self, List.map_nil]

/-- A fragment completes its message once there are as many chunks as it declares fragments. -/
theorem join_payload {r : Reassembler} {s : Sentence} (many : 1 < s.total) :
    (r.join s).2 =
      if (grown (r.groupsOf (r.keying.key s)) s).chunks.length < s.total then none
      else some (grown (r.groupsOf (r.keying.key s)) s).payload := by
  rw [grown, ← get?_eq_head?]
  simp only [join, if_neg (Nat.not_le.2 many)]
  split <;> rfl

theorem groupsOf_join_of_other {r : Reassembler} {s : Sentence} {key : GroupKey}
    (other : s.fragmentOf? r.keying key = none) : (r.join s).1.groupsOf key = r.groupsOf key := by
  rw [Sentence.fragmentOf?_eq_none_iff] at other
  simp only [join]
  split
  · rfl
  · rename_i many
    have ne : key ≠ r.keying.key s := by
      rcases other with single | ne
      · exact absurd single many
      · exact Ne.symm ne
    split
    · simp only [groupsOf, withGroup]
      rw [List.filter_cons_of_neg (by simpa using Ne.symm ne), filter_without_of_ne ne]
    · simp only [groupsOf, filter_without_of_ne ne]

/-! ## Keys -/

/-- Every group has a key of its own. -/
def IsKeyed (r : Reassembler) : Prop :=
  (r.groups.map Prod.fst).Nodup

section Keys

variable {r : Reassembler}

theorem isKeyed_new (ttl : Span) (keying : Keying) : (new ttl keying).IsKeyed :=
  List.nodup_nil

theorem IsKeyed.filter (keyed : r.IsKeyed) (p : GroupKey × Group → Bool) :
    ((r.groups.filter p).map Prod.fst).Nodup :=
  keyed.sublist (List.filter_sublist.map Prod.fst)

theorem IsKeyed.sweep (keyed : r.IsKeyed) (cutoff : Time) : (r.sweep cutoff).1.IsKeyed :=
  keyed.filter _

theorem IsKeyed.join (keyed : r.IsKeyed) (s : Sentence) : (r.join s).1.IsKeyed := by
  have others : ((without (r.keying.key s) r.groups).map Prod.fst).Nodup := keyed.filter _
  unfold Reassembler.join
  split
  · exact keyed
  · dsimp only
    split
    · apply List.nodup_cons.2 ⟨?_, others⟩
      simp [without]
    · exact others

/-- A key has the group that is found for it, and no other. -/
theorem IsKeyed.groupsOf_eq (keyed : r.IsKeyed) (key : GroupKey) :
    r.groupsOf key = (r.get? key).toList := by
  have once : (r.groupsOf key).length ≤ 1 := by
    have count := List.nodup_iff_count_le_one.1 keyed key
    rw [List.count, List.countP_map] at count
    rw [groupsOf, List.length_map, ← List.countP_eq_length_filter]
    exact count
  rw [get?_eq_head?]
  cases held : r.groupsOf key with
  | nil => rfl
  | cons g rest =>
    rw [held, List.length_cons] at once
    have alone : rest = [] := List.length_eq_zero_iff.1 (by omega)
    rw [alone]
    rfl

theorem IsKeyed.get?_of_mem (keyed : r.IsKeyed) {key : GroupKey} {g : Group}
    (mem : (key, g) ∈ r.groups) : r.get? key = some g := by
  have inside : g ∈ r.groupsOf key :=
    List.mem_map.2 ⟨(key, g), List.mem_filter.2 ⟨mem, decide_eq_true rfl⟩, rfl⟩
  rwa [keyed.groupsOf_eq, Option.mem_toList] at inside

end Keys

/-! ## Exchanges -/

/-- What a call does after its sweep. -/
def settle (r : Reassembler) : Call → Reassembler × Option Payload
  | .push s _ => r.join s
  | .expire _ => (r, none)

@[simp] theorem settle_keying (r : Reassembler) (call : Call) :
    (r.settle call).1.keying = r.keying := by
  cases call with
  | push s now => exact join_keying r s
  | expire now => rfl

@[simp] theorem settle_ttl (r : Reassembler) (call : Call) : (r.settle call).1.ttl = r.ttl := by
  cases call with
  | push s now => exact join_ttl r s
  | expire now => rfl

theorem IsKeyed.settle {r : Reassembler} (keyed : r.IsKeyed) (call : Call) :
    (r.settle call).1.IsKeyed := by
  cases call with
  | push s now => exact keyed.join s
  | expire now => exact keyed

/-- Every call sweeps and then settles, unless the start of the time-to-live is no time. -/
theorem exchange_eq_ok_iff {r r' : Reassembler} {call : Call} {e : Exchange} :
    r.exchange call = .ok (r', e) ↔
      ∃ cutoff, call.now.minus? r.ttl = some cutoff ∧
        r' = ((r.sweep cutoff).1.settle call).1 ∧
        e = ⟨call, ((r.sweep cutoff).1.settle call).2, (r.sweep cutoff).2⟩ := by
  cases call with
  | push s now =>
    simp only [exchange, push, expire, Call.now, settle]
    cases now.minus? r.ttl with
    | none => simp
    | some cutoff => simp [eq_comm]
  | expire now =>
    simp only [exchange, expire, Call.now, settle]
    cases now.minus? r.ttl with
    | none => simp
    | some cutoff => simp [eq_comm]

theorem exchange_settings {r r' : Reassembler} {call : Call} {e : Exchange}
    (step : r.exchange call = .ok (r', e)) : r'.keying = r.keying ∧ r'.ttl = r.ttl := by
  obtain ⟨cutoff, -, rfl, -⟩ := exchange_eq_ok_iff.1 step
  simp

theorem run_cons_eq_ok_iff {r r' : Reassembler} {call : Call} {rest : List Call}
    {trace : List Exchange} :
    r.run (call :: rest) = .ok (r', trace) ↔
      ∃ mid e tail, r.exchange call = .ok (mid, e) ∧ mid.run rest = .ok (r', tail) ∧
        trace = e :: tail := by
  rw [run]
  cases h : r.exchange call with
  | error crash => simp
  | ok result =>
    obtain ⟨mid, e⟩ := result
    cases h' : mid.run rest with
    | error crash => simp [h']
    | ok result =>
      obtain ⟨last, tail⟩ := result
      simp [h', eq_comm]

/-- What runs at first also runs alone. -/
theorem run_of_append {r r' : Reassembler} {before after : List Call} {trace : List Exchange}
    (run : r.run (before ++ after) = .ok (r', trace)) :
    ∃ mid first, r.run before = .ok (mid, first) := by
  induction before generalizing r trace with
  | nil => exact ⟨r, [], rfl⟩
  | cons call before ih =>
    obtain ⟨next, e, tail, step, onward, -⟩ := run_cons_eq_ok_iff.1 run
    obtain ⟨mid, first, onward⟩ := ih onward
    exact ⟨mid, e :: first, run_cons_eq_ok_iff.2 ⟨next, e, first, step, onward, rfl⟩⟩

end Reassembler

end AisFeed
