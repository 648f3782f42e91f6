import AisFeed.Proofs.Reassembly.Groups
import Mathlib.Data.List.Dedup
import Mathlib.Data.List.Sort

/-!
# What a group holds, read off its fragments

A `Life` lists the fragments of a group since it was opened, in the order of their arrival. What
the group holds is a function of this list alone: for each number the chunk that arrived last,
the fill bits that arrived last with a fragment that ends its message, and the time of the first
fragment. `group?_snoc` says that adding a fragment to a group is adding it to the list.
-/

set_option autoImplicit false

namespace AisFeed

/-! ## Ascending chunks -/

/-- Chunks in ascending order of their numbers, one for each number. -/
def Ascending (chunks : List (Nat × String)) : Prop :=
  chunks.Pairwise fun a b => a.1 < b.1

theorem Ascending.nodup {chunks : List (Nat × String)} (h : Ascending chunks) : chunks.Nodup :=
  h.imp fun less same => absurd (congrArg Prod.fst same) (Nat.ne_of_lt less)

/-- Ascending chunks are determined by which chunks there are. -/
theorem Ascending.eq_of_mem_iff {as bs : List (Nat × String)} (ha : Ascending as)
    (hb : Ascending bs) (same : ∀ p, p ∈ as ↔ p ∈ bs) : as = bs :=
  List.Perm.eq_of_pairwise (fun _ _ _ _ less more => absurd more (Nat.lt_asymm less)) ha hb
    ((List.perm_ext_iff_of_nodup ha.nodup hb.nodup).2 same)

namespace Group

/-- Setting the chunk of a number puts it in the place of the one that was there. -/
theorem mem_setChunk_iff {chunks : List (Nat × String)} (h : Ascending chunks) {number : Nat}
    {chunk : String} {p : Nat × String} :
    p ∈ setChunk number chunk chunks ↔ p = (number, chunk) ∨ p.1 ≠ number ∧ p ∈ chunks := by
  induction chunks with
  | nil => simp [setChunk]
  | cons q rest ih =>
    obtain ⟨n, c⟩ := q
    obtain ⟨before, tail⟩ := List.pairwise_cons.1 h
    have above : ∀ p ∈ rest, n < p.1 := before
    rcases Nat.lt_trichotomy number n with less | same | more
    · have absent : ∀ p ∈ (n, c) :: rest, p.1 ≠ number := by
        intro p mem
        rcases List.mem_cons.1 mem with rfl | mem
        · exact Nat.ne_of_gt less
        · exact Nat.ne_of_gt (Nat.lt_trans less (above p mem))
      rw [setChunk, if_pos less, List.mem_cons]
      exact or_congr_right ⟨fun mem => ⟨absent p mem, mem⟩, And.right⟩
    · subst same
      rw [setChunk, if_neg (Nat.lt_irrefl _), if_pos rfl, List.mem_cons]
      refine or_congr_right
        ⟨fun mem => ⟨Nat.ne_of_gt (above p mem), List.mem_cons_of_mem _ mem⟩, ?_⟩
      rintro ⟨ne, mem⟩
      rcases List.mem_cons.1 mem with rfl | mem
      · exact absurd rfl ne
      · exact mem
    · rw [setChunk, if_neg (Nat.lt_asymm more), if_neg (Nat.ne_of_gt more), List.mem_cons, ih tail,
        List.mem_cons]
      constructor
      · rintro (rfl | new | ⟨ne, mem⟩)
        · exact Or.inr ⟨Nat.ne_of_lt more, Or.inl rfl⟩
        · exact Or.inl new
        · exact Or.inr ⟨ne, Or.inr mem⟩
      · rintro (new | ⟨ne, rfl | mem⟩)
        · exact Or.inr (Or.inl new)
        · exact Or.inl rfl
        · exact Or.inr (Or.inr ⟨ne, mem⟩)

theorem ascending_setChunk {chunks : List (Nat × String)} (h : Ascending chunks) (number : Nat)
    (chunk : String) : Ascending (setChunk number chunk chunks) := by
  induction chunks with
  | nil => exact List.pairwise_singleton _ _
  | cons q rest ih =>
    obtain ⟨n, c⟩ := q
    obtain ⟨before, tail⟩ := List.pairwise_cons.1 h
    rcases Nat.lt_trichotomy number n with less | same | more
    · rw [setChunk, if_pos less]
      refine List.pairwise_cons.2 ⟨fun p mem => ?_, h⟩
      rcases List.mem_cons.1 mem with rfl | mem
      · exact less
      · exact Nat.lt_trans less (before p mem)
    · subst same
      rw [setChunk, if_neg (Nat.lt_irrefl _), if_pos rfl]
      exact List.pairwise_cons.2 ⟨before, tail⟩
    · rw [setChunk, if_neg (Nat.lt_asymm more), if_neg (Nat.ne_of_gt more)]
      refine List.pairwise_cons.2 ⟨fun p mem => ?_, ih tail⟩
      rcases (mem_setChunk_iff tail).1 mem with rfl | ⟨-, mem⟩
      · exact more
      · exact before p mem

end Group

/-! ## Lives -/

/-- The fragments of a group since it was opened, in the order of their arrival. -/
abbrev Life := List Sentence

namespace Life

/-- The distinct numbers of the fragments, ascending. -/
def numbers (l : Life) : List Nat :=
  (l.map Sentence.number).dedup.insertionSort (· ≤ ·)

/-- The fragment of a number that arrived last. -/
def latest? (l : Life) (n : Nat) : Option Sentence :=
  (l.filter fun s => s.number = n).getLast?

/-- For each number the chunk that arrived last. -/
def chunks (l : Life) : List (Nat × String) :=
  l.numbers.filterMap fun n => (l.latest? n).map fun s => (n, s.payload)

/-- The fill bits of the last fragment that ended its message, or none. -/
def fillBits (l : Life) : Nat :=
  ((l.filter fun s => s.number = s.total).getLast?.map Sentence.fillBits).getD 0

/-- What a group with these fragments holds. Without a fragment there is no group. -/
def group? (l : Life) : Option Group :=
  l.head?.map fun first => ⟨l.chunks, l.fillBits, first.receivedAt⟩

/-- The message that these fragments make if it has `total` fragments and as many different
numbers have arrived. -/
def message? (l : Life) (total : Nat) : Option Payload :=
  if l.numbers.length < total then none
  else l.head?.map fun first =>
    ⟨String.join (l.chunks.map Prod.snd), l.fillBits, first.receivedAt⟩

theorem mem_numbers_iff {l : Life} {n : Nat} : n ∈ l.numbers ↔ ∃ s ∈ l, s.number = n := by
  rw [numbers, List.mem_insertionSort, List.mem_dedup, List.mem_map]

theorem nodup_numbers (l : Life) : l.numbers.Nodup :=
  (List.perm_insertionSort _ _).nodup_iff.2 (List.nodup_dedup _)

theorem ascending_numbers (l : Life) : l.numbers.Pairwise (· < ·) :=
  (List.Pairwise.and (List.pairwise_insertionSort (· ≤ ·) _) l.nodup_numbers).imp
    fun h => Nat.lt_of_le_of_ne h.1 h.2

theorem latest?_snoc (l : Life) (s : Sentence) (n : Nat) :
    latest? (l ++ [s]) n = if s.number = n then some s else l.latest? n := by
  rw [latest?, latest?, List.filter_append]
  by_cases h : s.number = n
  · simp [h]
  · simp [h]

theorem number_of_latest? {l : Life} {n : Nat} {s : Sentence} (h : l.latest? n = some s) :
    s ∈ l ∧ s.number = n := by
  simpa using List.mem_of_getLast? h

theorem exists_latest? {l : Life} {n : Nat} (h : n ∈ l.numbers) : ∃ s, l.latest? n = some s := by
  obtain ⟨s, mem, number⟩ := mem_numbers_iff.1 h
  have : s ∈ l.filter fun s => s.number = n := by simpa using ⟨mem, number⟩
  exact Option.isSome_iff_exists.1 (List.getLast?_isSome.2 (List.ne_nil_of_mem this))

theorem mem_chunks_iff {l : Life} {p : Nat × String} :
    p ∈ l.chunks ↔ ∃ s, l.latest? p.1 = some s ∧ s.payload = p.2 := by
  simp only [chunks, List.mem_filterMap, Option.map_eq_some_iff]
  constructor
  · rintro ⟨n, -, s, latest, rfl⟩
    exact ⟨s, latest, rfl⟩
  · rintro ⟨s, latest, payload⟩
    obtain ⟨mem, number⟩ := number_of_latest? latest
    exact ⟨p.1, mem_numbers_iff.2 ⟨s, mem, number⟩, s, latest, by rw [payload]⟩

theorem map_fst_chunks (l : Life) : l.chunks.map Prod.fst = l.numbers := by
  rw [chunks, List.map_filterMap]
  conv_rhs => rw [← List.filterMap_some (l := l.numbers)]
  apply List.filterMap_congr
  intro n mem
  obtain ⟨s, latest⟩ := exists_latest? mem
  rw [latest]
  rfl

theorem length_chunks (l : Life) : l.chunks.length = l.numbers.length := by
  rw [← map_fst_chunks, List.length_map]

theorem ascending_chunks (l : Life) : Ascending l.chunks := by
  have := l.ascending_numbers
  rw [← map_fst_chunks, List.pairwise_map] at this
  exact this

theorem chunks_snoc (l : Life) (s : Sentence) :
    chunks (l ++ [s]) = Group.setChunk s.number s.payload l.chunks := by
  refine (ascending_chunks _).eq_of_mem_iff (Group.ascending_setChunk l.ascending_chunks _ _) ?_
  rintro ⟨n, c⟩
  rw [mem_chunks_iff, Group.mem_setChunk_iff l.ascending_chunks, mem_chunks_iff, latest?_snoc]
  by_cases same : s.number = n
  · subst same
    simp [eq_comm]
  · simp [same, Ne.symm same]

theorem fillBits_snoc (l : Life) (s : Sentence) :
    fillBits (l ++ [s]) = if s.number = s.total then s.fillBits else l.fillBits := by
  rw [fillBits, fillBits, List.filter_append]
  by_cases h : s.number = s.total
  · simp [h]
  · simp [h]

/-- Adding a fragment to a group is adding it to the list of its fragments. -/
theorem group?_snoc (l : Life) (s : Sentence) :
    group? (l ++ [s]) = some ((l.group?.getD (.openedAt s.receivedAt)).add s) := by
  cases l with
  | nil =>
    simp only [group?, List.nil_append, List.head?_cons, Option.map_some, List.head?_nil,
      Option.map_none, Option.getD_none, Group.add, Group.openedAt]
    rw [← List.nil_append [s], chunks_snoc, fillBits_snoc]
    rfl
  | cons first rest =>
    simp only [group?, List.cons_append, List.head?_cons, Option.map_some, Option.getD_some,
      Group.add]
    rw [← List.cons_append, chunks_snoc, fillBits_snoc]

end Life

end AisFeed
