import AisFeed.Proofs.Reassembly.Attempts

/-!
# What waits

A group that waits holds the last fragments that were pushed to its key, and too few of them for
the total that the last of them declares (`exists_pushed`). Nothing is assumed of the fragments:
their totals may change within a group, and their numbers may be beyond them.
-/

set_option autoImplicit false

namespace AisFeed

/-- The fragment of a key that a call brings to its group, unless it crashes before. -/
def Call.pushed? (ttl : Span) (keying : Keying) (key : GroupKey) (call : Call) : Option Sentence :=
  if call.isInRange ttl then call.fragmentOf? keying key else none

namespace Life

/-- The numbers that have come are fewer than the last fragment declares. -/
def IsShort (l : Life) : Prop :=
  ∀ last, l.getLast? = some last → l.numbers.length < last.total

theorem isShort_nil : IsShort [] := by
  intro last given
  cases given

theorem IsShort.swept {l : Life} (short : l.IsShort) (key : GroupKey) (e : Exchange) :
    (l.swept key e).IsShort := by
  unfold Life.swept
  split
  · exact isShort_nil
  · exact short

/-- Fragments that make no message are too few for the last of them. -/
theorem isShort_of_message? {l : Life} {s : Sentence} (none : message? (l ++ [s]) s.total = none) :
    IsShort (l ++ [s]) := by
  intro last given
  rw [List.getLast?_concat, Option.some.injEq] at given
  subst given
  by_contra enough
  obtain ⟨first, head⟩ : ∃ first, (l ++ [s]).head? = some first := by
    cases l <;> exact ⟨_, rfl⟩
  rw [message?, if_neg enough, head] at none
  cases none

/-- An exchange leaves a group only as long as it is short. -/
theorem IsShort.next {ttl : Span} {keying : Keying} {key : GroupKey} {l : Life} {e : Exchange}
    (short : l.IsShort) (follows : e.Follows ttl keying key l) : (l.next keying key e).IsShort := by
  cases brought : e.call.fragmentOf? keying key with
  | none =>
    rw [next_of_other brought]
    exact short.swept key e
  | some s =>
    have answer := follows.payload s brought
    rw [next_of_fragment brought]
    split
    · exact isShort_nil
    · rename_i waits
      have none : e.payload = none := by simpa using waits
      exact isShort_of_message? (answer.symm.trans none)

theorem swept_suffix (key : GroupKey) (l : Life) (e : Exchange) : l.swept key e <:+ l := by
  unfold Life.swept
  split
  · exact List.nil_suffix
  · exact List.suffix_rfl

/-- The life of a group goes on with the fragment of an exchange, or is over. -/
theorem next_suffix (keying : Keying) (key : GroupKey) (l : Life) (e : Exchange) :
    l.next keying key e <:+ l ++ (e.call.fragmentOf? keying key).toList := by
  have swept := swept_suffix key l e
  cases brought : e.call.fragmentOf? keying key with
  | none =>
    rw [next_of_other brought, Option.toList_none, List.append_nil]
    exact swept
  | some s =>
    rw [next_of_fragment brought, Option.toList_some]
    split
    · exact List.nil_suffix
    · exact (List.suffix_append_inj_of_length_eq (by rfl)).2 ⟨swept, rfl⟩

end Life

namespace Reassembler

/-- The group of a key holds the last of some fragments, and too few. -/
structure Waits (key : GroupKey) (pushed : List Sentence) (r : Reassembler) (l : Life) :
    Prop where
  groups : r.groupsOf key = l.group?.toList
  short : l.IsShort
  recent : l <:+ pushed

section Waits

variable {r : Reassembler} {key : GroupKey} {pushed : List Sentence} {l : Life}

theorem Waits.attempt (waits : r.Waits key pushed l) (call : Call) :
    ∃ l', (r.attempt call).1.Waits key
      (pushed ++ (call.pushed? r.ttl r.keying key).toList) l' := by
  cases start : call.now.minus? r.ttl with
  | none =>
    have crashes : call.isInRange r.ttl = false := by rw [Call.isInRange, start]; rfl
    rw [attempt_of_crash call start, Call.pushed?, crashes]
    rw [if_neg Bool.false_ne_true, Option.toList_none, List.append_nil]
    exact ⟨l, waits⟩
  | some cutoff =>
    have inRange : call.isInRange r.ttl = true := by rw [Call.isInRange, start]; rfl
    obtain ⟨follows, groups⟩ := exchange_follows waits.groups (exchange_of_range start)
    rw [attempt_of_range call start, Call.pushed?, if_pos inRange]
    refine ⟨_, groups, waits.short.next follows, ?_⟩
    obtain ⟨before, rfl⟩ := waits.recent
    rw [List.append_assoc]
    exact (Life.next_suffix r.keying key l _).trans (List.suffix_append before _)

theorem Waits.attemptAll (waits : r.Waits key pushed l) (calls : List Call) :
    ∃ l', (r.attemptAll calls).1.Waits key
      (pushed ++ calls.filterMap (Call.pushed? r.ttl r.keying key)) l' := by
  induction calls generalizing r pushed l with
  | nil =>
    rw [List.filterMap_nil, List.append_nil]
    exact ⟨l, waits⟩
  | cons call rest ih =>
    obtain ⟨mid, first⟩ := waits.attempt call
    obtain ⟨keying, ttl⟩ := r.attempt_settings call
    obtain ⟨l', later⟩ := ih first
    rw [keying, ttl, List.append_assoc] at later
    refine ⟨l', ?_⟩
    have joined : (call :: rest).filterMap (Call.pushed? r.ttl r.keying key) =
        (call.pushed? r.ttl r.keying key).toList ++
          rest.filterMap (Call.pushed? r.ttl r.keying key) := by
      simp only [List.filterMap_eq_flatMap_toList, List.flatMap_cons]
    rw [attemptAll_cons, joined]
    exact later

end Waits

/-- Whatever calls have been made, a group holds the last fragments of its key, and too few for the
last of them. -/
theorem exists_pushed {ttl : Span} {keying : Keying} {calls : List Call} {key : GroupKey}
    {g : Group} (given : ((new ttl keying).attemptAll calls).1.get? key = some g) :
    ∃ l : Life, l.group? = some g ∧ l.IsShort ∧
      l <:+ calls.filterMap (Call.pushed? ttl keying key) := by
  have start : (new ttl keying).Waits key [] [] := ⟨rfl, Life.isShort_nil, List.nil_suffix⟩
  obtain ⟨l, groups, short, recent⟩ := start.attemptAll calls
  rw [get?_eq_head?, groups, Option.head?_toList] at given
  exact ⟨l, given, short, recent⟩

end Reassembler

end AisFeed
