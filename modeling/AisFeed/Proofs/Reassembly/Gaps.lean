import AisFeed.Proofs.Reassembly.Attempts
import AisFeed.Proofs.Reassembly.Completion
import AisFeed.Proofs.Reassembly.Waiting
import AisFeed.Proofs.Sentence.Acceptance
import Mathlib.Data.List.Induction

/-!
# Gaps and strangers

A message is complete once as many different numbers have come as its last fragment declares, and
what has come is not compared with the numbers from 1 to that total. When the fragments of a group
declare different totals, a number beyond the total can stand in for one that is missing. This is
the only way to a gap: `Life.Makes` says which fragments a completed message is made of, and that
they are those from 1 to the total exactly if no number beyond it has come.
-/

set_option autoImplicit false

namespace AisFeed

/-- The parser accepts some line as this sentence. -/
def Sentence.IsAccepted (s : Sentence) : Prop :=
  ∃ line t, Sentence.read line t = .ok (some s)

theorem Sentence.IsAccepted.bounds {s : Sentence} (accepted : s.IsAccepted) :
    1 ≤ s.number ∧ s.number ≤ s.total := by
  obtain ⟨line, t, read⟩ := accepted
  obtain ⟨-, p, denotes, -⟩ := Sentence.exists_denotes read
  exact ⟨denotes.number_pos, denotes.number_le⟩

namespace Life

/-- The fragment of each number that arrived last, in ascending order of the numbers. -/
def parts (l : Life) : List Sentence :=
  l.numbers.filterMap l.latest?

/-- The fragments of the group of `s` since it was opened, up to the exchange that brings `s`, where
`trace` is all that came before. -/
def upTo (keying : Keying) (trace : List Exchange) (e : Exchange) (s : Sentence) : Life :=
  (ofTrace keying (keying.key s) trace).swept (keying.key s) e ++ [s]

/-- What a message is made of that is completed by a fragment declaring `total`, when these are the
fragments of its group. -/
structure Makes (l : Life) (total : Nat) (p : Payload) : Prop where
  text : p.text = String.join (l.parts.map Sentence.payload)
  ascending : (l.parts.map Sentence.number).Pairwise (· < ·)
  latest_iff : ∀ f, f ∈ l.parts ↔ l.latest? f.number = some f
  enough : total ≤ l.parts.length
  /-- There is neither a gap nor a number beyond the total exactly if none beyond it has come. -/
  whole_iff : l.parts.map Sentence.number = List.range' 1 total ↔ ∀ f ∈ l, f.number ≤ total
  /-- So there is none if no fragment has declared more. -/
  whole : (∀ f ∈ l, f.total ≤ total) → l.parts.map Sentence.number = List.range' 1 total
  /-- And no fragment is of another total unless the fragments declare different ones. -/
  alike : (∀ f ∈ l, f.total = total) → ∀ f ∈ l.parts, f.total = total

theorem mem_parts_iff {l : Life} {f : Sentence} : f ∈ l.parts ↔ l.latest? f.number = some f := by
  rw [parts, List.mem_filterMap]
  constructor
  · rintro ⟨n, -, latest⟩
    rwa [(number_of_latest? latest).2]
  · intro latest
    exact ⟨f.number, mem_numbers_iff.2 ⟨f, (number_of_latest? latest).1, rfl⟩, latest⟩

theorem chunks_eq_map_parts (l : Life) :
    l.chunks = l.parts.map fun f => (f.number, f.payload) := by
  rw [parts, List.map_filterMap, chunks]
  apply List.filterMap_congr
  intro n _
  cases latest : l.latest? n with
  | none => rfl
  | some f => rw [Option.map_some, Option.map_some, (number_of_latest? latest).2]

theorem map_number_parts (l : Life) : l.parts.map Sentence.number = l.numbers := by
  rw [← map_fst_chunks, chunks_eq_map_parts, List.map_map]
  rfl

theorem map_payload_parts (l : Life) : l.parts.map Sentence.payload = l.chunks.map Prod.snd := by
  rw [chunks_eq_map_parts, List.map_map]
  rfl

theorem length_parts (l : Life) : l.parts.length = l.numbers.length := by
  rw [← map_number_parts, List.length_map]

/-- Fragments that make a message are as many as its total. They may be others than it needs. -/
theorem enough_of_message? {l : Life} {total : Nat} {p : Payload}
    (made : l.message? total = some p) :
    total ≤ l.numbers.length ∧ p.text = String.join (l.chunks.map Prod.snd) := by
  unfold message? at made
  split at made
  · cases made
  · rename_i enough
    obtain ⟨first, -, rfl⟩ := Option.map_eq_some_iff.1 made
    exact ⟨Nat.le_of_not_lt enough, rfl⟩

/-- As many numbers as the total, all of them up to it, are all that there are. -/
theorem numbers_eq_range'_iff {l : Life} {total : Nat} (enough : total ≤ l.numbers.length)
    (pos : ∀ f ∈ l, 1 ≤ f.number) :
    l.numbers = List.range' 1 total ↔ ∀ f ∈ l, f.number ≤ total := by
  constructor
  · intro whole f mem
    have inside : l.numbers ⊆ List.range' 1 total := by rw [whole]; exact List.Subset.refl _
    exact (numbers_subset_iff.1 inside f mem).2
  · intro bounded
    have inside : l.numbers ⊆ List.range' 1 total :=
      numbers_subset_iff.2 fun f mem => ⟨pos f mem, bounded f mem⟩
    apply numbers_eq_of_perm
    apply (List.subperm_of_subset l.nodup_numbers inside).perm_of_length_le
    rw [List.length_range']
    exact enough

theorem makes_of_message? {l : Life} {total : Nat} {p : Payload}
    (bounds : ∀ f ∈ l, 1 ≤ f.number ∧ f.number ≤ f.total) (made : l.message? total = some p) :
    l.Makes total p := by
  obtain ⟨enough, text⟩ := enough_of_message? made
  have whole_iff := numbers_eq_range'_iff enough fun f mem => (bounds f mem).1
  rw [← map_number_parts] at whole_iff
  refine
    { text := ?text
      ascending := ?ascending
      latest_iff := fun f => mem_parts_iff
      enough := ?enough
      whole_iff := whole_iff
      whole := ?whole
      alike := ?alike }
  case text => rw [text, map_payload_parts]
  case ascending =>
    rw [map_number_parts]
    exact l.ascending_numbers
  case enough => rwa [length_parts]
  case whole =>
    intro bounded
    apply whole_iff.2
    intro f mem
    exact (bounds f mem).2.trans (bounded f mem)
  case alike =>
    intro same f mem
    exact same f (number_of_latest? (mem_parts_iff.1 mem)).1

/-- A fragment of a group has been pushed. -/
theorem exists_push_of_mem {keying : Keying} {key : GroupKey} {trace : List Exchange}
    {f : Sentence} (mem : f ∈ ofTrace keying key trace) :
    ∃ now, Call.push f now ∈ trace.map Exchange.call := by
  induction trace using List.reverseRecOn with
  | nil => cases mem
  | append_singleton trace e ih =>
    rw [ofTrace, List.foldl_append] at mem
    rcases List.mem_append.1 ((next_suffix keying key _ e).subset mem) with earlier | brought
    · obtain ⟨now, pushed⟩ := ih earlier
      rw [List.map_append]
      exact ⟨now, List.mem_append_left _ pushed⟩
    · rw [Option.mem_toList] at brought
      cases call : e.call with
      | expire now =>
        rw [call] at brought
        cases brought
      | push s now =>
        rw [call] at brought
        obtain ⟨-, rfl⟩ := Sentence.fragmentOf?_eq_some_iff.1 brought
        have last : e ∈ trace ++ [e] := List.mem_append_right _ (List.mem_singleton_self e)
        exact ⟨now, List.mem_map.2 ⟨e, last, call⟩⟩

end Life

namespace Reassembler

section Outcomes

variable {ttl : Span} {keying : Keying} {calls : List Call}
  {before after : List (Except Crash Exchange)}

/-- An exchange among the outcomes of calls is one of the run of those that did not crash. -/
theorem run_of_outcomes {e : Exchange}
    (told : ((new ttl keying).attemptAll calls).2 = before ++ .ok e :: after) :
    (new ttl keying).run (calls.filter (Call.isInRange ttl)) =
      .ok (((new ttl keying).attemptAll calls).1,
        before.filterMap Except.toOption ++ e :: after.filterMap Except.toOption) := by
  have split : ((new ttl keying).attemptAll calls).2.filterMap Except.toOption =
      before.filterMap Except.toOption ++ e :: after.filterMap Except.toOption := by
    rw [told, List.filterMap_append]
    rfl
  rw [← split]
  exact run_attemptAll (new ttl keying) calls

variable {s : Sentence} {now : Time} {p : Payload} {events : List Event}

/-- Whichever of the calls crash, a fragment completes the message that it makes with those of its
group before it. -/
theorem message?_upTo (multipart : 1 < s.total)
    (completed : ((new ttl keying).attemptAll calls).2 =
      before ++ .ok ⟨.push s now, some p, events⟩ :: after) :
    (Life.upTo keying (before.filterMap Except.toOption) ⟨.push s now, some p, events⟩ s).message?
      s.total = some p := by
  have held : (new ttl keying).groupsOf (keying.key s) = (Life.group? []).toList := rfl
  have fragment : s.fragmentOf? keying (keying.key s) = some s :=
    Sentence.fragmentOf?_eq_some_iff.2 ⟨⟨multipart, rfl⟩, rfl⟩
  exact (((run_follows held (run_of_outcomes completed)).2 _ _ _ rfl).payload s fragment).symm

/-- Whatever accepted sentences are pushed to a reassembler, and whichever of the calls crash, what
a fragment completes is made of the fragments of its group. -/
theorem makes_of_attemptAll (accepted : ∀ s now, .push s now ∈ calls → s.IsAccepted)
    (multipart : 1 < s.total)
    (completed : ((new ttl keying).attemptAll calls).2 =
      before ++ .ok ⟨.push s now, some p, events⟩ :: after) :
    (Life.upTo keying (before.filterMap Except.toOption) ⟨.push s now, some p, events⟩ s).Makes
      s.total p := by
  apply Life.makes_of_message? _ (message?_upTo multipart completed)
  intro f mem
  apply Sentence.IsAccepted.bounds
  -- The fragments of the group were pushed by calls that did not crash, which are some of all.
  have asked : ∀ call ∈ (before.filterMap Except.toOption).map Exchange.call ++ [.push s now],
      call ∈ calls := by
    intro call mem
    apply List.mem_of_mem_filter
    rw [← run_calls (run_of_outcomes completed), List.map_append, List.map_cons, List.append_cons]
    exact List.mem_append_left _ mem
  rcases List.mem_append.1 mem with earlier | last
  · obtain ⟨t, brought⟩ := Life.exists_push_of_mem ((Life.swept_suffix _ _ _).subset earlier)
    exact accepted f t (asked _ (List.mem_append_left _ brought))
  · rw [List.mem_singleton.1 last]
    exact accepted s now (asked _ (List.mem_append_right _ (List.mem_singleton_self _)))

end Outcomes

end Reassembler

end AisFeed
