import Mathlib.Data.List.Infix

/-!
# Places in a list

Items of a list are named by their places, counted from 0. `without` is what is left of a list
without some of its places, and `within` is what stands at them.
-/

set_option autoImplicit false

namespace AisFeed

variable {α : Type}

/-- The items, of which the first has the place `start`, without those at the given places. -/
def withoutFrom (start : Nat) (places : List Nat) (items : List α) : List α :=
  ((items.zipIdx start).filter fun p => p.2 ∉ places).map Prod.fst

/-- The items without those at the given places. -/
def without (places : List Nat) (items : List α) : List α :=
  withoutFrom 0 places items

theorem withoutFrom_append (start : Nat) (places : List Nat) (as bs : List α) :
    withoutFrom start places (as ++ bs) =
      withoutFrom start places as ++ withoutFrom (start + as.length) places bs := by
  rw [withoutFrom, List.zipIdx_append, List.filter_append, List.map_append]
  rfl

/-- Places that come before do not matter. -/
theorem withoutFrom_of_lt {start : Nat} {places : List Nat} (below : ∀ i ∈ places, i < start)
    (items : List α) : withoutFrom start places items = items := by
  rw [withoutFrom, List.filter_eq_self.2, List.zipIdx_map_fst]
  rintro ⟨a, i⟩ mem
  have := (List.mem_zipIdx mem).1
  rw [decide_eq_true_eq]
  exact fun lost => Nat.not_lt.2 this (below i lost)

/-- A place that comes later does not matter. -/
theorem withoutFrom_snoc_of_le {start last : Nat} {places : List Nat} {items : List α}
    (above : start + items.length ≤ last) :
    withoutFrom start (places ++ [last]) items = withoutFrom start places items := by
  unfold withoutFrom
  congr 1
  apply List.filter_congr
  rintro ⟨a, i⟩ mem
  have := (List.mem_zipIdx mem).2.1
  have other : i ≠ last := by omega
  simp [other]

theorem without_nil (items : List α) : without [] items = items :=
  withoutFrom_of_lt (fun _ mem => absurd mem List.not_mem_nil) items

theorem without_append {places : List Nat} {as : List α} (below : ∀ i ∈ places, i < as.length)
    (bs : List α) : without places (as ++ bs) = without places as ++ bs := by
  rw [without, withoutFrom_append, Nat.zero_add, withoutFrom_of_lt below, without]

/-- One more place, after all others. -/
theorem without_lose {places : List Nat} {as : List α} (below : ∀ i ∈ places, i < as.length)
    (a : α) (bs : List α) :
    without (places ++ [as.length]) (as ++ a :: bs) = without places as ++ bs := by
  have single : withoutFrom as.length (places ++ [as.length]) [a] = [] := by
    simp [withoutFrom]
  have rest : withoutFrom (as.length + 1) (places ++ [as.length]) bs = bs := by
    apply withoutFrom_of_lt
    intro i mem
    rcases List.mem_append.1 mem with mem | mem
    · exact Nat.lt_succ_of_lt (below i mem)
    · rw [List.mem_singleton.1 mem]
      exact Nat.lt_succ_self _
  have early : withoutFrom 0 (places ++ [as.length]) as = without places as :=
    withoutFrom_snoc_of_le (Nat.le_of_eq (Nat.zero_add _))
  calc without (places ++ [as.length]) (as ++ a :: bs)
      = withoutFrom 0 (places ++ [as.length]) as ++
          withoutFrom as.length (places ++ [as.length]) ([a] ++ bs) := by
        rw [without, withoutFrom_append, Nat.zero_add, List.singleton_append]
    _ = without places as ++ bs := by
        rw [withoutFrom_append, early, single, List.nil_append, List.length_singleton, rest]

theorem withoutFrom_cons_of_mem {start : Nat} {places : List Nat} (mem : start ∈ places) (a : α)
    (items : List α) :
    withoutFrom start places (a :: items) = withoutFrom (start + 1) places items := by
  rw [withoutFrom, List.zipIdx_cons, List.filter_cons_of_neg (by simpa using mem)]
  rfl

theorem withoutFrom_cons_of_not_mem {start : Nat} {places : List Nat} (mem : start ∉ places)
    (a : α) (items : List α) :
    withoutFrom start places (a :: items) = a :: withoutFrom (start + 1) places items := by
  rw [withoutFrom, List.zipIdx_cons, List.filter_cons_of_pos (by simpa using mem)]
  rfl

/-! ## The items at some places -/

/-- The items, of which the first has the place `start`, at the given places. -/
def withinFrom (start : Nat) (places : List Nat) (items : List α) : List α :=
  ((items.zipIdx start).filter fun p => p.2 ∈ places).map Prod.fst

/-- The items at the given places. -/
def within (places : List Nat) (items : List α) : List α :=
  withinFrom 0 places items

theorem withinFrom_cons_of_mem {start : Nat} {places : List Nat} (mem : start ∈ places) (a : α)
    (items : List α) :
    withinFrom start places (a :: items) = a :: withinFrom (start + 1) places items := by
  rw [withinFrom, List.zipIdx_cons, List.filter_cons_of_pos (by simpa using mem)]
  rfl

theorem withinFrom_cons_of_not_mem {start : Nat} {places : List Nat} (mem : start ∉ places)
    (a : α) (items : List α) :
    withinFrom start places (a :: items) = withinFrom (start + 1) places items := by
  rw [withinFrom, List.zipIdx_cons, List.filter_cons_of_neg (by simpa using mem)]
  rfl

end AisFeed
