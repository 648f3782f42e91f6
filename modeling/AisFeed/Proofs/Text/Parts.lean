import AisFeed.Text.Split
import Mathlib.Data.List.Basic

/-!
# Parts and lines

A list is cut at its separators in one way: it is lines, each with a separator behind it, and a rest
in which there is none (`exists_lines`), and its parts are the lines and the rest
(`partsBetween_lines`). `cutAt?` cuts a list at the first separator only.
-/

set_option autoImplicit false

namespace AisFeed.Text

variable {α : Type} [DecidableEq α] {separator : α}

theorem splitAtAll_of_not_mem {as : List α} (h : separator ∉ as) :
    splitAtAll separator as = (as, []) := by
  induction as with
  | nil => rfl
  | cons a as ih =>
    rw [List.mem_cons, not_or] at h
    rw [splitAtAll_cons_of_ne (Ne.symm h.1), ih h.2]

theorem splitAtAll_line {line : List α} (h : separator ∉ line) (as : List α) :
    splitAtAll separator (line ++ separator :: as) = (line, partsBetween separator as) := by
  induction line with
  | nil => exact splitAtAll_cons_self _ _
  | cons a line ih =>
    rw [List.mem_cons, not_or] at h
    rw [List.cons_append, splitAtAll_cons_of_ne (Ne.symm h.1), ih h.2]

omit [DecidableEq α] in
/-- The first of some lines, its separator, and what follows. -/
theorem flatMap_lines_cons (separator : α) (line : List α) (lines : List (List α)) (rest : List α) :
    (line :: lines).flatMap (· ++ [separator]) ++ rest =
      line ++ separator :: (lines.flatMap (· ++ [separator]) ++ rest) := by
  simp

theorem partsBetween_lines {lines : List (List α)} (each : ∀ line ∈ lines, separator ∉ line)
    {rest : List α} (last : separator ∉ rest) :
    partsBetween separator (lines.flatMap (· ++ [separator]) ++ rest) = lines ++ [rest] := by
  induction lines with
  | nil =>
    rw [List.flatMap_nil, List.nil_append, partsBetween, splitAtAll_of_not_mem last]
    rfl
  | cons line lines ih =>
    have here := each line List.mem_cons_self
    have later := ih fun l mem => each l (List.mem_cons_of_mem _ mem)
    rw [flatMap_lines_cons, partsBetween, splitAtAll_line here, later]
    rfl

/-- Every list is lines and a rest. -/
theorem exists_lines (separator : α) (as : List α) :
    ∃ (lines : List (List α)) (rest : List α), as = lines.flatMap (· ++ [separator]) ++ rest ∧
      (∀ line ∈ lines, separator ∉ line) ∧ separator ∉ rest := by
  by_cases h : separator ∈ as
  · obtain ⟨line, after, split, notMem⟩ := List.eq_append_cons_of_mem h
    have shorter : after.length < as.length := by
      rw [split, List.length_append, List.length_cons]
      omega
    obtain ⟨lines, rest, whole, each, last⟩ := exists_lines separator after
    refine ⟨line :: lines, rest, ?_, ?_, last⟩
    · rw [flatMap_lines_cons, ← whole, split]
    · intro l mem
      obtain rfl | mem := List.mem_cons.1 mem
      · exact notMem
      · exact each l mem
  · exact ⟨[], as, rfl, fun l mem => absurd mem List.not_mem_nil, h⟩
termination_by as.length

/-- The parts of a list have no separator in them. -/
theorem not_mem_of_mem_partsBetween {as part : List α} (mem : part ∈ partsBetween separator as) :
    separator ∉ part := by
  obtain ⟨lines, rest, rfl, each, last⟩ := exists_lines separator as
  rw [partsBetween_lines each last] at mem
  obtain mem | mem := List.mem_append.1 mem
  · exact each part mem
  · rw [List.mem_singleton.1 mem]
    exact last

/-! ## The first separator -/

/-- What stands before the first separator and what stands behind it, if there is one. -/
def cutAt? (separator : α) (as : List α) : Option (List α × List α) :=
  match as.dropWhile (· ≠ separator) with
  | [] => none
  | _ :: after => some (as.takeWhile (· ≠ separator), after)

theorem cutAt?_append {before : List α} (h : separator ∉ before) (after : List α) :
    cutAt? separator (before ++ separator :: after) = some (before, after) := by
  have all : ∀ a ∈ before, decide (a ≠ separator) = true := by
    intro a mem
    exact decide_eq_true fun same => h (same ▸ mem)
  rw [cutAt?, List.dropWhile_append_of_pos all, List.takeWhile_append_of_pos all,
    List.dropWhile_cons_of_neg (by simp), List.takeWhile_cons_of_neg (by simp), List.append_nil]

end AisFeed.Text
