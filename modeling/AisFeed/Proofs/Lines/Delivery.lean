import AisFeed.Proofs.Lines.Dropping
import Mathlib.Data.List.Forall2

/-!
# Which lines a buffer yields

`extendAll_delivers` says that a buffer yields the lines of its stream that are not dropped,
whole and in order, whatever the chunks and the limit, and tells of each dropped line once. What
carries the induction over the chunks is `Held`: the buffer skips the open line exactly if it is
dropped already, and else holds all that has come of it.
-/

set_option autoImplicit false

namespace AisFeed

open Text

/-- A buffer tells of a dropped line: a call ended inside it, with more than the limit of its
bytes there. -/
def Told (limit : Option Nat) (ends : List Nat) (line : Nat × List UInt8) (event : Event) :
    Prop :=
  ∃ n ∈ limit, ∃ e ∈ ends, line.1 + n < e ∧ e ≤ line.1 + line.2.length ∧
    event = .overlong (e - line.1) n

section Told

variable {limit : Option Nat} {ends : List Nat} {start : Nat} {line line' : List UInt8}

/-- It stays so when more comes. -/
theorem Told.grown {event : Event} (told : Told limit ends (start, line) event) (more : List Nat)
    (longer : line.length ≤ line'.length) : Told limit (ends ++ more) (start, line') event := by
  obtain ⟨n, hn, e, mem, less, bound, same⟩ := told
  exact ⟨n, hn, e, List.mem_append_left _ mem, less,
    Nat.le_trans bound (Nat.add_le_add_left longer start), same⟩

theorem told_of_ended {lines : List (Nat × List UInt8)} {events : List Event}
    (told : List.Forall₂ (Told limit ends) lines events) (more : List Nat) :
    List.Forall₂ (Told limit (ends ++ more)) lines events :=
  told.imp fun _ _ told => told.grown more (Nat.le_refl _)

/-- The last line may grow. -/
theorem told_of_grown {lines : List (Nat × List UInt8)} {events : List Event}
    (told : List.Forall₂ (Told limit ends) (lines ++ [(start, line)]) events) (more : List Nat)
    (longer : line.length ≤ line'.length) :
    List.Forall₂ (Told limit (ends ++ more)) (lines ++ [(start, line')]) events := by
  induction lines generalizing events with
  | nil =>
    obtain _ | ⟨last, _ | _⟩ := told
    exact .cons (last.grown more longer) .nil
  | cons first lines ih =>
    obtain _ | ⟨here, later⟩ := told
    exact .cons (here.grown more (Nat.le_refl _)) (ih later)

end Told

/-! ## One chunk -/

namespace LineBuffer

theorem extendAll_append (b : LineBuffer) (as bs : List (List UInt8)) :
    b.extendAll (as ++ bs) =
      (((b.extendAll as).1.extendAll bs).1,
        (b.extendAll as).2.1 ++ ((b.extendAll as).1.extendAll bs).2.1,
        (b.extendAll as).2.2 ++ ((b.extendAll as).1.extendAll bs).2.2) := by
  induction as generalizing b with
  | nil => rfl
  | cons a as ih => simp [extendAll, ih]

/-- The event of a call that leaves a line open. -/
def overflow (limit : Option Nat) (rest : List UInt8) : Option Event :=
  limit.bind fun n => if n < rest.length then some (.overlong rest.length n) else none

theorem overflow_eq_some_iff {limit : Option Nat} {rest : List UInt8} {event : Event} :
    overflow limit rest = some event ↔
      ∃ n ∈ limit, n < rest.length ∧ event = .overlong rest.length n := by
  cases limit <;> simp [overflow, eq_comm]

theorem isSome_overflow (limit : Option Nat) (rest : List UInt8) :
    (overflow limit rest).isSome = limit.any fun n => n < rest.length := by
  cases limit with
  | none => rfl
  | some n =>
    rw [overflow, Option.bind_some, Option.any_some]
    by_cases less : n < rest.length
    · rw [if_pos less, decide_eq_true less]
      rfl
    · rw [if_neg less, decide_eq_false less]
      rfl

/-- A buffer that skips no line keeps the open one unless it is too long. -/
theorem append_eq {b : LineBuffer} {bytes rest : List UInt8} {lines : List (List UInt8)}
    (collecting : b.discarding = false) (cut : cutLines (b.pending ++ bytes) = (lines, rest)) :
    b.append bytes =
      (⟨if (overflow b.limit rest).isSome then [] else rest, b.limit,
          (overflow b.limit rest).isSome⟩,
        keptLines lines, overflow b.limit rest) := by
  obtain ⟨pending, limit, discarding⟩ := b
  dsimp only at collecting cut ⊢
  rw [append, cut, collecting]
  dsimp only
  cases limit with
  | none => rfl
  | some n =>
    rw [overflow, Option.bind_some, enforce]
    dsimp only
    split <;> rfl

theorem extend_of_open {b : LineBuffer} {stream chunk : List UInt8}
    (discarding : b.discarding = true) (h : newLines stream chunk = []) :
    b.extend chunk = (b, [], none) := by
  have same := (isLines_cutLines ((cutLines stream).2 ++ chunk)).whole
  have rest := (isLines_cutLines ((cutLines stream).2 ++ chunk)).rest
  rw [← newLines, h, List.flatMap_nil, List.nil_append] at same
  rw [← same, List.mem_append, not_or] at rest
  have skipped : chunk.dropWhile (· != lineFeed) = [] := by
    refine List.dropWhile_eq_nil_iff.2 fun byte mem => bne_iff_ne.2 ?_
    rintro rfl
    exact rest.2 mem
  rw [extend, if_pos discarding, skipped]

/-- What comes of a chunk, unless the buffer skips all of it. -/
theorem extend_of_cut {b : LineBuffer} {stream : List UInt8} (chunk : List UInt8)
    (pending : b.pending = if b.discarding then [] else (openLine stream).2)
    (h : b.discarding = true → newLines stream chunk ≠ []) :
    b.extend chunk =
      (⟨if (overflow b.limit (openLine (stream ++ chunk)).2).isSome then []
          else (openLine (stream ++ chunk)).2,
          b.limit, (overflow b.limit (openLine (stream ++ chunk)).2).isSome⟩,
        keptLines (if b.discarding then (newLines stream chunk).tail
          else newLines stream chunk),
        overflow b.limit (openLine (stream ++ chunk)).2) := by
  rw [openLine_append]
  cases state : b.discarding with
  | false =>
    rw [state] at pending
    have cut : cutLines (b.pending ++ chunk) =
        (newLines stream chunk, (cutLines ((cutLines stream).2 ++ chunk)).2) := by
      rw [pending]
      rfl
    rw [extend, state, append_eq state cut]
    rfl
  | true =>
    have held := (isLines_cutLines stream).rest
    have ended : lineFeed ∈ chunk := by
      by_contra absent
      refine h state ?_
      rw [newLines, cutLines_of_not_mem]
      rw [List.mem_append, not_or]
      exact ⟨held, absent⟩
    obtain ⟨before, bytes, rfl, skipped⟩ := List.eq_append_cons_of_mem ended
    have dropped : (before ++ lineFeed :: bytes).dropWhile (· != lineFeed) =
        lineFeed :: bytes := by
      rw [List.dropWhile_append_of_pos, List.dropWhile_cons_of_neg]
      · rw [bne_self_eq_false]
        exact Bool.false_ne_true
      · intro byte mem
        refine bne_iff_ne.2 ?_
        rintro rfl
        exact skipped mem
    have opened : cutLines ((cutLines stream).2 ++ (before ++ lineFeed :: bytes)) =
        (((cutLines stream).2 ++ before) :: (cutLines bytes).1, (cutLines bytes).2) := by
      rw [← List.append_assoc, cutLines_line]
      rw [List.mem_append, not_or]
      exact ⟨held, skipped⟩
    have cut : cutLines (b.pending ++ bytes) = ((cutLines bytes).1, (cutLines bytes).2) := by
      rw [pending, state]
      rfl
    rw [extend, if_pos state, dropped, newLines, opened]
    exact append_eq (b := { b with discarding := false }) rfl cut

end LineBuffer

/-! ## All chunks -/

/-- What a buffer holds after the chunks of a stream, and what came of it. -/
structure Held (limit : Option Nat) (chunks : List (List UInt8))
    (result : LineBuffer × List (List UInt8) × List Event) : Prop where
  limited : result.1.limit = limit
  discarding : result.1.discarding = isDropped limit (callEnds chunks) (openLine chunks.flatten)
  pending : result.1.pending =
    if result.1.discarding then [] else (openLine chunks.flatten).2
  lines : result.2.1 =
    keptLines (keepers limit (callEnds chunks) (cutLines chunks.flatten).1)
  told : List.Forall₂ (Told limit (callEnds chunks))
    (dropped limit (callEnds chunks)
      ((cutLines chunks.flatten).1 ++ [(cutLines chunks.flatten).2])) result.2.2

theorem held_new (limit : Option Nat) : Held limit [] (LineBuffer.new limit, [], []) where
  limited := rfl
  discarding := by cases limit <;> rfl
  pending := rfl
  lines := rfl
  told := by cases limit <;> exact .nil

/-- A call tells of the line that it leaves open if it is too long. -/
theorem told_overflow (limit : Option Nat) (chunks : List (List UInt8)) (chunk : List UInt8) :
    List.Forall₂ (Told limit (callEnds (chunks ++ [chunk])))
      (if (LineBuffer.overflow limit (openLine (chunks.flatten ++ chunk)).2).isSome then
        [openLine (chunks.flatten ++ chunk)] else [])
      (LineBuffer.overflow limit (openLine (chunks.flatten ++ chunk)).2).toList := by
  have total := (isLines_cutLines (chunks.flatten ++ chunk)).length_eq
  rw [List.length_append] at total
  cases event : LineBuffer.overflow limit (openLine (chunks.flatten ++ chunk)).2 with
  | none => exact .nil
  | some event =>
    obtain ⟨n, hn, less, rfl⟩ := LineBuffer.overflow_eq_some_iff.1 event
    refine .cons ⟨n, hn, chunks.flatten.length + chunk.length, ?_, ?_, ?_, ?_⟩ .nil
    · rw [callEnds_snoc]
      exact List.mem_append_right _ (List.mem_singleton.2 rfl)
    · dsimp only [openLine] at less ⊢
      omega
    · dsimp only [openLine]
      omega
    · dsimp only [openLine]
      rw [total, Nat.add_sub_cancel_left]

theorem Held.extend {limit : Option Nat} {chunks : List (List UInt8)} {b : LineBuffer}
    {lines : List (List UInt8)} {events : List Event} (held : Held limit chunks (b, lines, events))
    (chunk : List UInt8) :
    Held limit (chunks ++ [chunk])
      ((b.extend chunk).1, lines ++ (b.extend chunk).2.1,
        events ++ (b.extend chunk).2.2.toList) := by
  obtain ⟨same, discarding, pending, yielded, told⟩ := held
  dsimp only at same discarding pending yielded told
  have opened : (chunks ++ [chunk]).flatten = chunks.flatten ++ chunk := by
    rw [List.flatten_append, List.flatten_singleton]
  have after := isDropped_openLine limit chunks chunk
  rw [dropped_open] at told
  -- either all of the chunk belongs to a dropped line, or a line starts in it or goes on
  by_cases skipped : b.discarding = true ∧ newLines chunks.flatten chunk = []
  · obtain ⟨skips, none⟩ := skipped
    rw [skips] at discarding pending
    rw [← discarding, none, decide_eq_true rfl, Bool.and_true, Bool.true_or] at after
    rw [LineBuffer.extend_of_open skips none]
    dsimp only
    rw [Option.toList_none, List.append_nil, List.append_nil]
    refine ⟨same, ?_, ?_, ?_, ?_⟩
    · dsimp only
      rw [skips, after]
    · dsimp only
      rw [skips, pending]
      rfl
    · rw [keepers_snoc, ← discarding, if_pos rfl, none, List.tail_nil, List.append_nil]
      exact yielded
    · rw [← discarding, if_pos rfl] at told
      rw [dropped_open, after, if_pos rfl, dropped_snoc, ← discarding, if_pos rfl, none, placed,
        List.take_nil, List.append_nil, opened, openLine_append_of_newLines_nil none,
        callEnds_snoc]
      refine told_of_grown told _ ?_
      rw [List.length_append]
      exact Nat.le_add_right _ _
  · have none : (b.discarding && decide (newLines chunks.flatten chunk = [])) = false := by
      rw [Bool.and_eq_false_iff, ← Bool.not_eq_true, decide_eq_false_iff_not]
      exact not_and_or.1 skipped
    rw [← discarding, none, Bool.false_or, ← LineBuffer.isSome_overflow, opened] at after
    rw [LineBuffer.extend_of_cut chunk pending fun skips none => skipped ⟨skips, none⟩, same]
    refine ⟨rfl, ?_, ?_, ?_, ?_⟩
    · rw [opened, after]
    · rw [opened]
    · rw [keepers_snoc, ← discarding, keptLines_append]
      exact congrArg (· ++ _) yielded
    · rw [dropped_open, opened, after, ← opened, dropped_snoc, opened]
      refine List.rel_append ?_ (told_overflow limit chunks chunk)
      rw [callEnds_snoc, ← discarding]
      cases state : b.discarding with
      | false =>
        rw [← discarding, state] at told
        rw [if_neg Bool.false_ne_true, List.append_nil] at told ⊢
        exact told_of_ended told _
      | true =>
        rw [← discarding, state, if_pos rfl] at told
        rw [state, Bool.true_and, decide_eq_false_iff_not] at none
        obtain ⟨first, more, lines⟩ := List.exists_cons_of_ne_nil none
        rw [if_pos rfl, lines]
        exact told_of_grown told _ (length_le_of_newLines lines)

theorem held_extendAll (limit : Option Nat) (chunks : List (List UInt8)) :
    Held limit chunks ((LineBuffer.new limit).extendAll chunks) := by
  induction chunks using List.reverseRecOn with
  | nil => exact held_new limit
  | append_singleton chunks chunk ih =>
    have one := ih.extend chunk
    rw [LineBuffer.extendAll_append]
    simp only [LineBuffer.extendAll, List.append_nil]
    exact one

/-- What a buffer yields of a stream, and what it holds at its end. -/
structure Delivers (limit : Option Nat) (chunks lines : List (List UInt8)) (rest : List UInt8)
    (b : LineBuffer) (out : List (List UInt8)) (events : List Event) : Prop where
  /-- It yields what comes of the lines that are not dropped. -/
  kept : LinesYield (keepers limit (callEnds chunks) lines) out
  /-- It yields nothing but whole lines. -/
  whole : ∃ all, LinesYield lines all ∧ out.Sublist all
  /-- If no line is too long, it yields what comes of all lines, whatever the chunks. -/
  all : (∀ n ∈ limit, ∀ line ∈ lines, line.length ≤ n) → LinesYield lines out
  /-- It holds what follows the last line, unless that is dropped. -/
  pending : b.pending = if isDropped limit (callEnds chunks) (extent lines, rest) then [] else rest
  /-- It holds no more than the limit. -/
  bounded : ∀ n ∈ limit, b.pending.length ≤ n
  /-- It tells of each dropped line once. -/
  told : List.Forall₂ (Told limit (callEnds chunks))
    (dropped limit (callEnds chunks) (lines ++ [rest])) events

theorem keptLines_sublist {as bs : List (List UInt8)} (h : as.Sublist bs) :
    (keptLines as).Sublist (keptLines bs) :=
  (h.map chomp).filter _

theorem keepers_sublist (limit : Option Nat) (ends : List Nat) (lines : List (List UInt8)) :
    (keepers limit ends lines).Sublist lines := by
  have all := (List.filter_sublist (l := placed 0 lines)
    (p := fun line => !isDropped limit ends line)).map Prod.snd
  rwa [map_snd_placed] at all

section Short

variable {limit : Option Nat} {lines : List (List UInt8)}
  (short : ∀ n ∈ limit, ∀ line ∈ lines, line.length ≤ n)
include short

theorem isDropped_of_mem_placed (ends : List Nat) {line : Nat × List UInt8}
    (mem : line ∈ placed 0 lines) : isDropped limit ends line = false := by
  have inside : line.2 ∈ lines := by
    rw [← map_snd_placed 0 lines]
    exact List.mem_map_of_mem mem
  exact isDropped_of_short fun n hn => short n hn line.2 inside

theorem keepers_of_short (ends : List Nat) : keepers limit ends lines = lines := by
  rw [keepers, List.filter_eq_self.2, map_snd_placed]
  intro line mem
  rw [isDropped_of_mem_placed short ends mem, Bool.not_false]

theorem dropped_of_short (ends : List Nat) : dropped limit ends lines = [] := by
  rw [dropped, List.filter_eq_nil_iff]
  intro line mem
  rw [isDropped_of_mem_placed short ends mem]
  exact Bool.false_ne_true

end Short

theorem Held.bounded {limit : Option Nat} {chunks : List (List UInt8)}
    {result : LineBuffer × List (List UInt8) × List Event} (held : Held limit chunks result)
    {n : Nat} (hn : n ∈ limit) : result.1.pending.length ≤ n := by
  rw [held.pending]
  cases state : result.1.discarding with
  | true => exact Nat.zero_le n
  | false =>
    rw [held.discarding] at state
    induction chunks using List.reverseRecOn with
    | nil => exact Nat.zero_le n
    | append_singleton chunks chunk =>
      rw [isDropped_openLine, Bool.or_eq_false_iff, Option.mem_def.1 hn, Option.any_some,
        decide_eq_false_iff_not] at state
      exact Nat.le_of_not_lt state.2

/-- **A buffer yields the lines of a stream that are not dropped**, for every limit and however
the stream is cut into calls, and after every call it holds what is there of the open line. -/
theorem LineBuffer.extendAll_delivers (limit : Option Nat) (chunks : List (List UInt8)) :
    ∃ lines rest, IsLines chunks.flatten lines rest ∧
      Delivers limit chunks lines rest ((LineBuffer.new limit).extendAll chunks).1
        ((LineBuffer.new limit).extendAll chunks).2.1
        ((LineBuffer.new limit).extendAll chunks).2.2 := by
  have held := held_extendAll limit chunks
  refine ⟨_, _, isLines_cutLines chunks.flatten, linesYield_iff.2 held.lines, ?_, ?_, ?_, ?_,
    held.told⟩
  · refine ⟨_, linesYield_keptLines _, ?_⟩
    rw [held.lines]
    exact keptLines_sublist (keepers_sublist _ _ _)
  · intro short
    rw [linesYield_iff, held.lines, keepers_of_short short]
  · rw [held.pending, held.discarding]
    rfl
  · exact fun n hn => held.bounded hn

/-- The first call ends before the line feed of a line that is as long as the limit. The second ends
inside a line of which four bytes have come, and so the rest of that line is thrown away as well. -/
theorem LineBuffer.extendAll_delivers_overlong :
    let chunks : List (List UInt8) :=
      [[0x61, 0x62, 0x0D], [0x0A, 0x0D, 0x0A, 0x63, 0x64, 0x65, 0x66], [0x67, 0x0A, 0x68],
        [0x69, 0x0D, 0x0D, 0x0A, 0x0A, 0x6A, 0x0D]]
    let out : List (List UInt8) := [[0x61, 0x62], [0x68, 0x69, 0x0D]]
    (LineBuffer.new (some 3)).extendAll chunks =
        (⟨[0x6A, 0x0D], some 3, false⟩, out, [.overlong 4 3]) ∧
      LinesYield [[0x61, 0x62, 0x0D], [0x0D], [0x68, 0x69, 0x0D, 0x0D], []] out ∧
      List.Forall₂ (Told (some 3) [3, 10, 13, 20]) [(6, [0x63, 0x64, 0x65, 0x66, 0x67])]
        [.overlong 4 3] := by
  intro chunks out
  obtain ⟨lines, rest, cut, delivers⟩ := extendAll_delivers (some 3) chunks
  have made : (LineBuffer.new (some 3)).extendAll chunks =
      (⟨[0x6A, 0x0D], some 3, false⟩, out, [.overlong 4 3]) := by decide
  have cut' : IsLines chunks.flatten
      [[0x61, 0x62, 0x0D], [0x0D], [0x63, 0x64, 0x65, 0x66, 0x67], [0x68, 0x69, 0x0D, 0x0D], []]
      [0x6A, 0x0D] :=
    ⟨by decide, by decide, by decide⟩
  obtain ⟨rfl, rfl⟩ := Prod.mk.inj (cut.cutLines_eq.symm.trans cut'.cutLines_eq)
  rw [made] at delivers
  exact ⟨made, delivers.kept, delivers.told⟩

end AisFeed
