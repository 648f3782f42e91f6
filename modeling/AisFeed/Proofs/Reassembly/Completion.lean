import AisFeed.Proofs.Reassembly.Life

/-!
# When fragments are complete

Fragments of one message have numbers from 1 to its total. They make no message while one of
these numbers is missing (`message?_of_not_complete`), and once none is, they make the one that
their latest chunks spell in the order of the numbers (`message?_of_complete`).
-/

set_option autoImplicit false

namespace AisFeed.Life

/-- Fragments of one message: all declare its total, and their numbers are up to that. -/
def IsOfTotal (total : Nat) (l : Life) : Prop :=
  ∀ s ∈ l, s.total = total ∧ 1 ≤ s.number ∧ s.number ≤ total

/-- What the latest fragments of the numbers from 1 to `total` make. -/
def whole? (l : Life) (total : Nat) : Option Payload :=
  l.head?.map fun first =>
    ⟨String.join ((List.range' 1 total).filterMap fun n => (l.latest? n).map Sentence.payload),
      ((l.latest? total).map Sentence.fillBits).getD 0, first.receivedAt⟩

/-- All numbers of a message have come. -/
def IsComplete (total : Nat) (l : Life) : Prop :=
  ∀ n, 1 ≤ n → n ≤ total → ∃ s ∈ l, s.number = n

theorem IsOfTotal.of_append {total : Nat} {l more : Life} (h : IsOfTotal total (l ++ more)) :
    l.IsOfTotal total :=
  fun s mem => h s (List.mem_append_left more mem)

theorem IsComplete.append {total : Nat} {l : Life} (h : l.IsComplete total) (more : Life) :
    IsComplete total (l ++ more) := by
  intro n low high
  obtain ⟨s, mem, number⟩ := h n low high
  exact ⟨s, List.mem_append_left more mem, number⟩

section OfTotal

variable {l : Life} {total : Nat}

theorem numbers_subset_iff :
    l.numbers ⊆ List.range' 1 total ↔ ∀ s ∈ l, 1 ≤ s.number ∧ s.number ≤ total := by
  constructor
  · intro inside s mem
    have := List.mem_range'_1.1 (inside (mem_numbers_iff.2 ⟨s, mem, rfl⟩))
    omega
  · intro bounds n mem
    obtain ⟨s, inside, rfl⟩ := mem_numbers_iff.1 mem
    obtain ⟨low, high⟩ := bounds s inside
    rw [List.mem_range'_1]
    omega

theorem numbers_subset (h : l.IsOfTotal total) : l.numbers ⊆ List.range' 1 total :=
  numbers_subset_iff.2 fun s mem => (h s mem).2

/-- One number that is missing keeps the others below the total. -/
theorem length_numbers_lt (h : l.IsOfTotal total) {n : Nat} (low : 1 ≤ n) (high : n ≤ total)
    (missing : n ∉ l.numbers) : l.numbers.length < total := by
  have distinct : (n :: l.numbers).Nodup := List.nodup_cons.2 ⟨missing, l.nodup_numbers⟩
  have inside : n :: l.numbers ⊆ List.range' 1 total := by
    refine List.cons_subset.2 ⟨?_, numbers_subset h⟩
    rw [List.mem_range'_1]
    omega
  have fewer := (List.subperm_of_subset distinct inside).length_le
  rwa [List.length_cons, List.length_range'] at fewer

theorem numbers_eq_of_perm (same : l.numbers.Perm (List.range' 1 total)) :
    l.numbers = List.range' 1 total :=
  List.Perm.eq_of_pairwise (fun _ _ _ _ less more => absurd more (Nat.lt_asymm less))
    l.ascending_numbers List.pairwise_lt_range' same

theorem numbers_eq_range' (h : l.IsOfTotal total)
    (complete : l.IsComplete total) : l.numbers = List.range' 1 total := by
  have distinct : (List.range' 1 total).Nodup := List.nodup_range'
  apply numbers_eq_of_perm
  apply (List.perm_ext_iff_of_nodup l.nodup_numbers distinct).2
  intro n
  constructor
  · intro mem
    exact numbers_subset h mem
  · intro mem
    rw [List.mem_range'_1] at mem
    exact mem_numbers_iff.2 (complete n (by omega) (by omega))

theorem map_snd_chunks :
    l.chunks.map Prod.snd =
      l.numbers.filterMap fun n => (l.latest? n).map Sentence.payload := by
  rw [chunks, List.map_filterMap]
  apply List.filterMap_congr
  intro n _
  rw [Option.map_map]
  rfl

theorem fillBits_eq (h : l.IsOfTotal total) :
    l.fillBits = ((l.latest? total).map Sentence.fillBits).getD 0 := by
  have same : (l.filter fun s => s.number = s.total) = l.filter fun s => s.number = total := by
    apply List.filter_congr
    intro s mem
    rw [(h s mem).1]
  rw [fillBits, latest?, same]

theorem message?_of_not_complete (h : l.IsOfTotal total) (missing : ¬l.IsComplete total) :
    l.message? total = none := by
  simp only [IsComplete, not_forall] at missing
  obtain ⟨n, low, high, absent⟩ := missing
  rw [message?, if_pos (length_numbers_lt h low high (mt mem_numbers_iff.1 absent))]

theorem message?_of_complete (h : l.IsOfTotal total) (complete : l.IsComplete total) :
    l.message? total = l.whole? total := by
  have numbers := numbers_eq_range' h complete
  have enough : ¬l.numbers.length < total := by
    rw [numbers, List.length_range']
    exact Nat.lt_irrefl total
  rw [message?, if_neg enough, whole?, map_snd_chunks, fillBits_eq h, numbers]

end OfTotal

end AisFeed.Life
