import AisFeed.Proofs.Lines.Cutting
import Mathlib.Data.List.Infix
import Mathlib.Data.List.Induction

/-!
# Dropped lines

A line is dropped if one of the calls that brought the stream ended inside the line when more
than the limit of its bytes had come (`isDropped`). One more chunk drops no line that
has ended, and of the lines that it ends only the first can have been dropped before
(`keepers_snoc`, `dropped_snoc`).
-/

set_option autoImplicit false

namespace AisFeed

open Text

/-! ## Places of lines -/

/-- Lines with the places at which they start, if the first starts at `start`. -/
def placed (start : Nat) : List (List UInt8) → List (Nat × List UInt8)
  | [] => []
  | line :: rest => (start, line) :: placed (start + line.length + 1) rest

/-- How many bytes lines take with their line feeds. -/
def extent : List (List UInt8) → Nat
  | [] => 0
  | line :: rest => line.length + 1 + extent rest

/-- How many bytes of the stream had come at the end of each call. -/
def callEnds (chunks : List (List UInt8)) : List Nat :=
  chunks.inits.tail.map fun called => called.flatten.length

/-- Did a call end inside a line, its line feed still to come, with more than the limit of its
bytes there? -/
def isDropped (limit : Option Nat) (ends : List Nat) (line : Nat × List UInt8) : Bool :=
  limit.any fun n => ends.any fun e => decide (line.1 + n < e ∧ e ≤ line.1 + line.2.length)

theorem isDropped_eq_true_iff {limit : Option Nat} {ends : List Nat} {line : Nat × List UInt8} :
    isDropped limit ends line = true ↔
      ∃ n ∈ limit, ∃ e ∈ ends, line.1 + n < e ∧ e ≤ line.1 + line.2.length := by
  simp [isDropped, Option.any_eq_true]

@[simp] theorem extent_nil : extent [] = 0 := rfl

@[simp] theorem extent_cons (line : List UInt8) (lines : List (List UInt8)) :
    extent (line :: lines) = line.length + 1 + extent lines := rfl

/-- The lines that are not dropped. -/
def keepers (limit : Option Nat) (ends : List Nat) (lines : List (List UInt8)) :
    List (List UInt8) :=
  ((placed 0 lines).filter fun line => !isDropped limit ends line).map Prod.snd

/-- The lines that are dropped, with their places. -/
def dropped (limit : Option Nat) (ends : List Nat) (lines : List (List UInt8)) :
    List (Nat × List UInt8) :=
  (placed 0 lines).filter (isDropped limit ends)

theorem extent_append (as bs : List (List UInt8)) : extent (as ++ bs) = extent as + extent bs := by
  induction as with
  | nil => rw [List.nil_append, extent_nil, Nat.zero_add]
  | cons line as ih =>
    rw [List.cons_append, extent_cons, extent_cons, ih]
    omega

theorem placed_append (start : Nat) (as bs : List (List UInt8)) :
    placed start (as ++ bs) = placed start as ++ placed (start + extent as) bs := by
  induction as generalizing start with
  | nil => rfl
  | cons line as ih =>
    rw [List.cons_append, placed, ih, placed, extent_cons, List.cons_append,
      show start + line.length + 1 + extent as = start + (line.length + 1 + extent as) by omega]

theorem map_snd_placed (start : Nat) (lines : List (List UInt8)) :
    (placed start lines).map Prod.snd = lines := by
  induction lines generalizing start with
  | nil => rfl
  | cons line lines ih => rw [placed, List.map_cons, ih]

theorem bounds_of_mem_placed {start : Nat} {lines : List (List UInt8)} {l : Nat × List UInt8}
    (h : l ∈ placed start lines) : start ≤ l.1 ∧ l.1 + l.2.length < start + extent lines := by
  induction lines generalizing start with
  | nil => cases h
  | cons line lines ih =>
    rw [extent_cons]
    rcases List.mem_cons.1 h with rfl | later
    · dsimp only
      omega
    · have := ih later
      omega

theorem start_ne_of_mem_placed {start : Nat} {line : List UInt8} {lines : List (List UInt8)}
    {l : Nat × List UInt8} (h : l ∈ placed (start + line.length + 1) lines) : l.1 ≠ start := by
  have := (bounds_of_mem_placed h).1
  omega

/-- The first line is the one at the start. -/
theorem filter_start (start : Nat) (lines : List (List UInt8)) :
    (placed start lines).filter (fun l => l.1 = start) = (placed start lines).take 1 := by
  cases lines with
  | nil => rfl
  | cons line lines =>
    rw [placed, List.filter_cons_of_pos, List.filter_eq_nil_iff.2]
    · rfl
    · intro l mem
      rw [decide_eq_true_eq]
      exact start_ne_of_mem_placed mem
    · exact decide_eq_true rfl

theorem filter_not_start (start : Nat) (lines : List (List UInt8)) :
    (placed start lines).filter (fun l => !decide (l.1 = start)) = (placed start lines).tail := by
  cases lines with
  | nil => rfl
  | cons line lines =>
    rw [placed, List.filter_cons_of_neg, List.filter_eq_self.2]
    · rfl
    · intro l mem
      rw [decide_eq_false (start_ne_of_mem_placed mem), Bool.not_false]
    · rw [decide_eq_true rfl]
      exact Bool.false_ne_true

theorem length_flatMap_lineFeed (lines : List (List UInt8)) :
    (lines.flatMap (· ++ [lineFeed])).length = extent lines := by
  induction lines with
  | nil => rfl
  | cons line lines ih =>
    rw [List.flatMap_cons, List.length_append, List.length_append, ih, extent_cons]
    rfl

theorem IsLines.length_eq {stream rest : List UInt8} {lines : List (List UInt8)}
    (h : IsLines stream lines rest) : stream.length = extent lines + rest.length := by
  rw [h.whole, List.length_append, length_flatMap_lineFeed]

theorem callEnds_snoc (chunks : List (List UInt8)) (chunk : List UInt8) :
    callEnds (chunks ++ [chunk]) =
      callEnds chunks ++ [chunks.flatten.length + chunk.length] := by
  rw [callEnds, callEnds, List.inits_append]
  cases chunks with
  | nil => simp
  | cons c chunks => simp [Nat.add_assoc]

theorem callEnds_le {chunks : List (List UInt8)} {e : Nat} (h : e ∈ callEnds chunks) :
    e ≤ chunks.flatten.length := by
  obtain ⟨called, mem, rfl⟩ := List.mem_map.1 h
  obtain ⟨later, rfl⟩ := (List.mem_inits _ _).1 (List.mem_of_mem_tail mem)
  rw [List.flatten_append, List.length_append]
  omega

/-! ## Dropped lines -/

section Dropped

variable {limit : Option Nat} {ends : List Nat} {start e : Nat} {line : List UInt8}

theorem isDropped_of_not_started (h : ∀ e ∈ ends, e ≤ start) :
    isDropped limit ends (start, line) = false := by
  rw [← Bool.not_eq_true, isDropped_eq_true_iff]
  rintro ⟨n, -, e, mem, less, -⟩
  have := h e mem
  omega

/-- A call that ends behind a line drops no line. -/
theorem isDropped_snoc_of_ended (h : start + line.length < e) :
    isDropped limit (ends ++ [e]) (start, line) = isDropped limit ends (start, line) := by
  rw [Bool.eq_iff_iff, isDropped_eq_true_iff, isDropped_eq_true_iff]
  constructor
  · rintro ⟨n, hn, e', mem, less, more⟩
    rcases List.mem_append.1 mem with mem | mem
    · exact ⟨n, hn, e', mem, less, more⟩
    · rw [List.mem_singleton.1 mem] at more
      exact absurd more (Nat.not_le.2 h)
  · rintro ⟨n, hn, e', mem, less, more⟩
    exact ⟨n, hn, e', List.mem_append_left _ mem, less, more⟩

/-- What comes of a line later does not matter for the calls so far. -/
theorem isDropped_of_open {line' : List UInt8} (h : ∀ e ∈ ends, e ≤ start + line.length)
    (longer : line.length ≤ line'.length) :
    isDropped limit ends (start, line') = isDropped limit ends (start, line) := by
  rw [Bool.eq_iff_iff, isDropped_eq_true_iff, isDropped_eq_true_iff]
  constructor
  · rintro ⟨n, hn, e, mem, less, -⟩
    exact ⟨n, hn, e, mem, less, h e mem⟩
  · rintro ⟨n, hn, e, mem, less, more⟩
    exact ⟨n, hn, e, mem, less, Nat.le_trans more (Nat.add_le_add_left longer start)⟩

/-- A call that ends with a line open drops it if too much of it has come. -/
theorem isDropped_snoc_of_open :
    isDropped limit (ends ++ [start + line.length]) (start, line) =
      (isDropped limit ends (start, line) || limit.any fun n => n < line.length) := by
  rw [Bool.eq_iff_iff, Bool.or_eq_true, isDropped_eq_true_iff, isDropped_eq_true_iff]
  simp only [Option.any_eq_true, decide_eq_true_eq]
  constructor
  · rintro ⟨n, hn, e, mem, less, more⟩
    rcases List.mem_append.1 mem with mem | mem
    · exact Or.inl ⟨n, hn, e, mem, less, more⟩
    · rw [List.mem_singleton.1 mem] at less
      exact Or.inr ⟨n, hn, by omega⟩
  · rintro (⟨n, hn, e, mem, less, more⟩ | ⟨n, hn, less⟩)
    · exact ⟨n, hn, e, List.mem_append_left _ mem, less, more⟩
    · exact ⟨n, hn, _, List.mem_append_right _ (List.mem_singleton.2 rfl), by omega,
        Nat.le_refl _⟩

theorem isDropped_of_short (h : ∀ n ∈ limit, line.length ≤ n) :
    isDropped limit ends (start, line) = false := by
  rw [← Bool.not_eq_true, isDropped_eq_true_iff]
  rintro ⟨n, hn, e, -, less, more⟩
  have := h n hn
  dsimp only at less more
  omega

end Dropped

/-! ## One more chunk -/

/-- The line that has not ended yet, and where it starts. -/
def openLine (stream : List UInt8) : Nat × List UInt8 :=
  (extent (cutLines stream).1, (cutLines stream).2)

/-- The lines that a chunk ends. -/
def newLines (stream chunk : List UInt8) : List (List UInt8) :=
  (cutLines ((cutLines stream).2 ++ chunk)).1

theorem openLine_append (stream chunk : List UInt8) :
    openLine (stream ++ chunk) =
      ((openLine stream).1 + extent (newLines stream chunk),
        (cutLines ((cutLines stream).2 ++ chunk)).2) := by
  rw [openLine, cutLines_append, extent_append]
  rfl

/-- A chunk that ends no line adds to the open one. -/
theorem openLine_append_of_newLines_nil {stream chunk : List UInt8}
    (h : newLines stream chunk = []) :
    openLine (stream ++ chunk) = ((openLine stream).1, (openLine stream).2 ++ chunk) := by
  have same := (isLines_cutLines ((cutLines stream).2 ++ chunk)).whole
  rw [← newLines, h, List.flatMap_nil, List.nil_append] at same
  rw [openLine_append, h, ← same]
  rfl

theorem cutLines_chunk (stream chunk : List UInt8) :
    cutLines (stream ++ chunk) =
      ((cutLines stream).1 ++ newLines stream chunk, (openLine (stream ++ chunk)).2) := by
  rw [openLine, cutLines_append]
  rfl

/-- The first line that a chunk ends goes on with what was there of it. -/
theorem length_le_of_newLines {stream chunk first : List UInt8} {more : List (List UInt8)}
    (h : newLines stream chunk = first :: more) : (openLine stream).2.length ≤ first.length := by
  have before := isLines_cutLines stream
  have after := isLines_cutLines ((cutLines stream).2 ++ chunk)
  rw [← newLines, h] at after
  have whole := after.whole
  rw [List.flatMap_cons, List.append_assoc, List.append_assoc] at whole
  rcases List.append_eq_append_iff.1 whole with ⟨grown, same, -⟩ | ⟨extra, same, rest⟩
  · show (cutLines stream).2.length ≤ first.length
    rw [same, List.length_append]
    exact Nat.le_add_right _ _
  · cases extra with
    | nil =>
      show (cutLines stream).2.length ≤ first.length
      rw [same, List.append_nil]
    | cons b extra =>
      have feed : b = lineFeed := (List.cons.inj rest).1.symm
      refine absurd ?_ before.rest
      rw [same, feed]
      simp

section Chunk

variable (limit : Option Nat) (chunks : List (List UInt8)) (chunk : List UInt8)

/-- Of the lines that a chunk ends only the first can be dropped: the one that was dropped
already. -/
theorem isDropped_newLines {l : Nat × List UInt8}
    (h : l ∈ placed (openLine chunks.flatten).1 (newLines chunks.flatten chunk)) :
    isDropped limit (callEnds (chunks ++ [chunk])) l =
      (isDropped limit (callEnds chunks) (openLine chunks.flatten) &&
        decide (l.1 = (openLine chunks.flatten).1)) := by
  have total := (isLines_cutLines chunks.flatten).length_eq
  have total' := (isLines_cutLines ((cutLines chunks.flatten).2 ++ chunk)).length_eq
  rw [List.length_append, ← newLines] at total'
  have ended := (bounds_of_mem_placed h).2
  rw [openLine] at ended
  dsimp only at ended
  rw [callEnds_snoc, isDropped_snoc_of_ended (by omega)]
  cases lines : newLines chunks.flatten chunk with
  | nil =>
    rw [lines] at h
    cases h
  | cons first more =>
    rw [lines] at h
    rcases List.mem_cons.1 h with rfl | later
    · rw [decide_eq_true rfl, Bool.and_true]
      refine isDropped_of_open (fun e mem => ?_) (length_le_of_newLines lines)
      have := callEnds_le mem
      dsimp only [openLine]
      omega
    · have start := (bounds_of_mem_placed later).1
      have longer := length_le_of_newLines lines
      have far : (openLine chunks.flatten).1 < l.1 := by omega
      rw [decide_eq_false (Nat.ne_of_gt far), Bool.and_false]
      apply isDropped_of_not_started
      intro e mem
      have := callEnds_le mem
      dsimp only [openLine] at start longer
      omega

/-- The line that is open after a chunk is dropped if it was before, or if too much of it has
come. -/
theorem isDropped_openLine :
    isDropped limit (callEnds (chunks ++ [chunk])) (openLine (chunks ++ [chunk]).flatten) =
      (isDropped limit (callEnds chunks) (openLine chunks.flatten) &&
          decide (newLines chunks.flatten chunk = []) ||
        limit.any fun n => n < (openLine (chunks ++ [chunk]).flatten).2.length) := by
  have total := (isLines_cutLines chunks.flatten).length_eq
  have total' := (isLines_cutLines ((cutLines chunks.flatten).2 ++ chunk)).length_eq
  rw [List.length_append, ← newLines] at total'
  have opened := openLine_append chunks.flatten chunk
  have place : chunks.flatten.length + chunk.length =
      (openLine chunks.flatten).1 + extent (newLines chunks.flatten chunk) +
        (cutLines ((cutLines chunks.flatten).2 ++ chunk)).2.length := by
    dsimp only [openLine]
    omega
  rw [List.flatten_append, List.flatten_singleton, opened, callEnds_snoc, place,
    isDropped_snoc_of_open]
  congr 1
  cases lines : newLines chunks.flatten chunk with
  | nil =>
    have same := opened.symm.trans (openLine_append_of_newLines_nil lines)
    rw [lines] at same
    rw [decide_eq_true rfl, Bool.and_true, same]
    refine isDropped_of_open (fun e mem => ?_) ?_
    · have := callEnds_le mem
      dsimp only [openLine]
      omega
    · rw [List.length_append]
      exact Nat.le_add_right _ _
  | cons first more =>
    have longer := length_le_of_newLines lines
    rw [decide_eq_false (List.cons_ne_nil _ _), Bool.and_false, extent_cons]
    apply isDropped_of_not_started
    intro e mem
    have := callEnds_le mem
    dsimp only [openLine] at longer ⊢
    omega

/-- A line that has ended is not dropped later. -/
theorem isDropped_ended {l : Nat × List UInt8}
    (h : l ∈ placed 0 (cutLines chunks.flatten).1) :
    isDropped limit (callEnds (chunks ++ [chunk])) l = isDropped limit (callEnds chunks) l := by
  have total := (isLines_cutLines chunks.flatten).length_eq
  have ended := (bounds_of_mem_placed h).2
  rw [callEnds_snoc]
  exact isDropped_snoc_of_ended (by omega)

theorem placed_snoc :
    placed 0 (cutLines (chunks ++ [chunk]).flatten).1 =
      placed 0 (cutLines chunks.flatten).1 ++
        placed (openLine chunks.flatten).1 (newLines chunks.flatten chunk) := by
  rw [List.flatten_append, List.flatten_singleton, cutLines_chunk, placed_append, Nat.zero_add]
  rfl

theorem keepers_snoc :
    keepers limit (callEnds (chunks ++ [chunk])) (cutLines (chunks ++ [chunk]).flatten).1 =
      keepers limit (callEnds chunks) (cutLines chunks.flatten).1 ++
        if isDropped limit (callEnds chunks) (openLine chunks.flatten) then
          (newLines chunks.flatten chunk).tail
        else newLines chunks.flatten chunk := by
  have before : ∀ l ∈ placed 0 (cutLines chunks.flatten).1,
      (!isDropped limit (callEnds (chunks ++ [chunk])) l) = !isDropped limit (callEnds chunks) l :=
    fun l mem => congrArg Bool.not (isDropped_ended limit chunks chunk mem)
  have ended : ∀ l ∈ placed (openLine chunks.flatten).1 (newLines chunks.flatten chunk),
      (!isDropped limit (callEnds (chunks ++ [chunk])) l) =
        !(isDropped limit (callEnds chunks) (openLine chunks.flatten) &&
          decide (l.1 = (openLine chunks.flatten).1)) :=
    fun l mem => congrArg Bool.not (isDropped_newLines limit chunks chunk mem)
  rw [keepers, keepers, placed_snoc, List.filter_append, List.map_append,
    List.filter_congr before, List.filter_congr ended]
  congr 1
  cases isDropped limit (callEnds chunks) (openLine chunks.flatten) with
  | false =>
    simp only [Bool.false_and, Bool.not_false, List.filter_true, map_snd_placed]
    rfl
  | true =>
    simp only [Bool.true_and, filter_not_start, List.map_tail, map_snd_placed]
    rfl

theorem dropped_snoc :
    dropped limit (callEnds (chunks ++ [chunk])) (cutLines (chunks ++ [chunk]).flatten).1 =
      dropped limit (callEnds chunks) (cutLines chunks.flatten).1 ++
        if isDropped limit (callEnds chunks) (openLine chunks.flatten) then
          (placed (openLine chunks.flatten).1 (newLines chunks.flatten chunk)).take 1
        else [] := by
  have ended : ∀ l ∈ placed (openLine chunks.flatten).1 (newLines chunks.flatten chunk),
      isDropped limit (callEnds (chunks ++ [chunk])) l =
        (isDropped limit (callEnds chunks) (openLine chunks.flatten) &&
          decide (l.1 = (openLine chunks.flatten).1)) :=
    fun l mem => isDropped_newLines limit chunks chunk mem
  rw [dropped, dropped, placed_snoc, List.filter_append,
    List.filter_congr fun l mem => isDropped_ended limit chunks chunk mem, List.filter_congr ended]
  congr 1
  cases isDropped limit (callEnds chunks) (openLine chunks.flatten) with
  | false =>
    simp only [Bool.false_and, List.filter_false]
    rfl
  | true =>
    simp only [Bool.true_and, filter_start]
    rfl

/-- With the line that is still open, if it is dropped. -/
theorem dropped_open (stream : List UInt8) (ends : List Nat) :
    dropped limit ends ((cutLines stream).1 ++ [(cutLines stream).2]) =
      dropped limit ends (cutLines stream).1 ++
        if isDropped limit ends (openLine stream) then [openLine stream] else [] := by
  rw [dropped, placed_append, List.filter_append, Nat.zero_add]
  congr 1
  exact List.filter_cons

end Chunk

end AisFeed
