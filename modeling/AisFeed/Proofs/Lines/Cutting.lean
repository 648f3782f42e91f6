import AisFeed.Lines.Run
import AisFeed.Proofs.Text.Parts
import Mathlib.Data.List.TakeWhile

/-!
# Streams and their lines

`IsLines` says what the lines of a stream are: the stream is the lines, each with its line feed,
and a rest without one. Every stream has exactly one such form, and `cutLines` finds it
(`cutLines_eq_iff`), so the lines of a longer stream are those of the shorter one and those of
its rest together with what was added (`cutLines_append`). `LinesYield` says what comes of lines,
and `keptLines` finds it (`linesYield_iff`).
-/

set_option autoImplicit false

namespace AisFeed

open Text

/-- A stream is lines, each ended by a line feed, and a rest in which there is none. -/
structure IsLines (stream : List UInt8) (lines : List (List UInt8)) (rest : List UInt8) :
    Prop where
  whole : stream = lines.flatMap (· ++ [lineFeed]) ++ rest
  lines : ∀ line ∈ lines, lineFeed ∉ line
  rest : lineFeed ∉ rest

theorem cutLines_of_not_mem {bytes : List UInt8} (h : lineFeed ∉ bytes) :
    cutLines bytes = ([], bytes) := by
  rw [cutLines, splitAtAll_of_not_mem h]
  rfl

theorem cutLines_line {line : List UInt8} (h : lineFeed ∉ line) (bytes : List UInt8) :
    cutLines (line ++ lineFeed :: bytes) = (line :: (cutLines bytes).1, (cutLines bytes).2) := by
  rw [cutLines, splitAtAll_line h, cutLines, partsBetween]
  cases h : (splitAtAll lineFeed bytes).2.getLast? with
  | none => simp [List.getLast?_eq_none_iff.1 h]
  | some last =>
    have nonempty : (splitAtAll lineFeed bytes).2 ≠ [] := by
      rintro empty
      rw [empty] at h
      cases h
    simp [List.getLast?_cons, h, List.dropLast_cons_of_ne_nil nonempty]

/-- The lines of a stream are found. -/
theorem IsLines.cutLines_eq {stream rest : List UInt8} {lines : List (List UInt8)}
    (h : IsLines stream lines rest) : cutLines stream = (lines, rest) := by
  obtain ⟨rfl, each, last⟩ := h
  induction lines with
  | nil => exact cutLines_of_not_mem last
  | cons line lines ih =>
    have here := each line List.mem_cons_self
    have later := ih fun l mem => each l (List.mem_cons_of_mem _ mem)
    rw [flatMap_lines_cons, cutLines_line here, later]

/-- Every stream has lines. -/
theorem isLines_cutLines (stream : List UInt8) :
    IsLines stream (cutLines stream).1 (cutLines stream).2 := by
  obtain ⟨lines, rest, whole, each, last⟩ := exists_lines lineFeed stream
  have cut : IsLines stream lines rest := ⟨whole, each, last⟩
  rw [cut.cutLines_eq]
  exact cut

theorem cutLines_eq_iff {stream rest : List UInt8} {lines : List (List UInt8)} :
    cutLines stream = (lines, rest) ↔ IsLines stream lines rest := by
  constructor
  · intro h
    have found := isLines_cutLines stream
    rwa [h] at found
  · exact IsLines.cutLines_eq

/-- What is added to a stream goes on with its rest. -/
theorem cutLines_append (stream bytes : List UInt8) :
    cutLines (stream ++ bytes) =
      ((cutLines stream).1 ++ (cutLines ((cutLines stream).2 ++ bytes)).1,
        (cutLines ((cutLines stream).2 ++ bytes)).2) := by
  have before := isLines_cutLines stream
  have after := isLines_cutLines ((cutLines stream).2 ++ bytes)
  refine cutLines_eq_iff.2 ⟨?_, ?_, after.rest⟩
  · rw [List.flatMap_append, List.append_assoc, ← after.whole, ← List.append_assoc, ← before.whole]
  · intro line mem
    rcases List.mem_append.1 mem with mem | mem
    · exact before.lines line mem
    · exact after.lines line mem

/-! ## What comes of lines -/

/-- What comes of lines: each without one carriage return at its end, and nothing of a line in which
there is nothing else. -/
inductive LinesYield : List (List UInt8) → List (List UInt8) → Prop
  | nil : LinesYield [] []
  | empty {lines out : List (List UInt8)} (rest : LinesYield lines out) :
      LinesYield ([] :: lines) out
  | onlyReturn {lines out : List (List UInt8)} (rest : LinesYield lines out) :
    LinesYield ([0x0D] :: lines) out
  | returned {line : List UInt8} {lines out : List (List UInt8)} (solid : line ≠ [])
    (rest : LinesYield lines out) : LinesYield ((line ++ [0x0D]) :: lines) (line :: out)
  | plain {line : List UInt8} {lines out : List (List UInt8)} (solid : line ≠ [])
    (noReturn : line.getLast? ≠ some 0x0D) (rest : LinesYield lines out) :
    LinesYield (line :: lines) (line :: out)

theorem chomp_returned (line : List UInt8) : chomp (line ++ [0x0D]) = line := by
  have returned : (line ++ [0x0D]).getLast? = some carriageReturn := List.getLast?_concat
  rw [chomp, if_pos returned, List.dropLast_concat]

theorem chomp_of_plain {line : List UInt8} (noReturn : line.getLast? ≠ some 0x0D) :
    chomp line = line :=
  if_neg noReturn

theorem keptLines_append (as bs : List (List UInt8)) :
    keptLines (as ++ bs) = keptLines as ++ keptLines bs := by
  rw [keptLines, List.map_append, List.filter_append]
  rfl

theorem keptLines_singleton (line : List UInt8) :
    keptLines [line] = if chomp line = [] then [] else [chomp line] := by
  rw [keptLines, List.map_singleton]
  by_cases nothing : chomp line = []
  · rw [if_pos nothing, nothing]
    rfl
  · rw [if_neg nothing, List.filter_singleton, List.isEmpty_eq_false_iff.2 nothing]
    rfl

/-- The line in front either yields nothing or comes first. -/
theorem keptLines_cons (line : List UInt8) (lines : List (List UInt8)) :
    keptLines (line :: lines) =
      if chomp line = [] then keptLines lines else chomp line :: keptLines lines := by
  rw [← List.singleton_append, keptLines_append, keptLines_singleton]
  split <;> rfl

/-- The lines that count are what comes of lines. -/
theorem linesYield_keptLines (lines : List (List UInt8)) : LinesYield lines (keptLines lines) := by
  induction lines with
  | nil => exact .nil
  | cons line lines ih =>
    rw [keptLines_cons]
    by_cases returned : line.getLast? = some 0x0D
    · obtain ⟨front, rfl⟩ := List.getLast?_eq_some_iff.1 returned
      rw [chomp_returned]
      by_cases nothing : front = []
      · rw [if_pos nothing, nothing]
        exact .onlyReturn ih
      · rw [if_neg nothing]
        exact .returned nothing ih
    · rw [chomp_of_plain returned]
      by_cases nothing : line = []
      · rw [if_pos nothing, nothing]
        exact .empty ih
      · rw [if_neg nothing]
        exact .plain nothing returned ih

theorem linesYield_iff {lines out : List (List UInt8)} :
    LinesYield lines out ↔ out = keptLines lines := by
  constructor
  · intro yields
    induction yields with
    | nil => rfl
    | empty _ ih => exact ih
    | onlyReturn _ ih => exact ih
    | returned solid _ ih => rw [keptLines_cons, chomp_returned, if_neg solid, ih]
    | plain solid noReturn _ ih =>
      rw [keptLines_cons, chomp_of_plain noReturn, if_neg solid, ih]
  · rintro rfl
    exact linesYield_keptLines lines

end AisFeed
