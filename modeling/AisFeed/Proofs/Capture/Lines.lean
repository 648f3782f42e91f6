import AisFeed.Capture.Survey
import AisFeed.Proofs.Lines.Delivery

/-!
# Lines of a file and lines of a stream

A file is read part by part, each up to a line feed. What it yields is what the lines of the same
bytes as a stream are, with one difference: a file is over at its end, so that what follows the
last line feed is a line as well, if there is anything of it (`IsLines.fileLines_eq`).
-/

set_option autoImplicit false

namespace AisFeed

open Text

/-- Bytes without a line feed go to the part that is begun. -/
theorem fileParts_append {bytes : List UInt8} (h : lineFeed ∉ bytes) (begun rest : List UInt8) :
    fileParts begun (bytes ++ rest) = fileParts (bytes.reverse ++ begun) rest := by
  induction bytes generalizing begun with
  | nil => rfl
  | cons b bytes ih =>
    rw [List.mem_cons, not_or] at h
    rw [List.cons_append, fileParts, if_neg (Ne.symm h.1), ih h.2, List.reverse_cons,
      List.append_assoc, List.singleton_append]

theorem fileParts_line {line : List UInt8} (h : lineFeed ∉ line) (rest : List UInt8) :
    fileParts [] (line ++ lineFeed :: rest) = line :: fileParts [] rest := by
  rw [fileParts_append h, List.append_nil, fileParts, if_pos rfl, List.reverse_reverse]

theorem fileParts_of_not_mem {rest : List UInt8} (h : lineFeed ∉ rest) :
    fileParts [] rest = if rest = [] then [] else [rest] := by
  have parts := fileParts_append h [] []
  rw [List.append_nil, List.append_nil] at parts
  rw [parts, fileParts]
  simp

/-- The parts of a file are the lines of its bytes, and then what follows them. -/
theorem IsLines.fileParts_eq {bytes rest : List UInt8} {lines : List (List UInt8)}
    (cut : IsLines bytes lines rest) :
    fileParts [] bytes = lines ++ if rest = [] then [] else [rest] := by
  obtain ⟨rfl, each, last⟩ := cut
  induction lines with
  | nil => exact fileParts_of_not_mem last
  | cons line lines ih =>
    have here := each line List.mem_cons_self
    have later := ih fun l mem => each l (List.mem_cons_of_mem _ mem)
    rw [flatMap_lines_cons, fileParts_line here, later, List.cons_append]

/-- What follows the last line feed is a line, if there is anything of it. -/
theorem keptLines_rest (rest : List UInt8) :
    keptLines (if rest = [] then [] else [rest]) = keptLines [rest] := by
  split
  · rename_i empty
    rw [empty]
    rfl
  · rfl

theorem IsLines.fileLines_eq {bytes rest : List UInt8} {lines : List (List UInt8)}
    (cut : IsLines bytes lines rest) :
    fileLines bytes = keptLines lines ++ keptLines [rest] := by
  rw [fileLines, cut.fileParts_eq, keptLines_append, keptLines_rest]

/-- What a buffer yields of a stream in which no line is longer than its limit, however the stream
is cut. -/
theorem IsLines.extendAll_eq {chunks lines : List (List UInt8)} {rest : List UInt8}
    (cut : IsLines chunks.flatten lines rest) {limit : Option Nat}
    (short : ∀ n ∈ limit, ∀ line ∈ lines, line.length ≤ n) :
    ((LineBuffer.new limit).extendAll chunks).2.1 = keptLines lines := by
  rw [(held_extendAll limit chunks).lines, cut.cutLines_eq, keepers_of_short short]

/-- A stream that ends with a line, none of which is longer than the limit of a buffer, leaves the
buffer as it was. -/
theorem IsLines.extendAll_of_ended {chunks lines : List (List UInt8)}
    (cut : IsLines chunks.flatten lines []) {limit : Option Nat}
    (short : ∀ n ∈ limit, ∀ line ∈ lines, line.length ≤ n) :
    (LineBuffer.new limit).extendAll chunks = (LineBuffer.new limit, keptLines lines, []) := by
  have yields := cut.extendAll_eq short
  have held := held_extendAll limit chunks
  generalize (LineBuffer.new limit).extendAll chunks = result at yields held ⊢
  obtain ⟨⟨waiting, limit', skips⟩, out, events⟩ := result
  obtain ⟨limited, discarding, pending, -, told⟩ := held
  dsimp only at yields limited discarding pending told
  have short' : ∀ n ∈ limit, ∀ line ∈ lines ++ [[]], line.length ≤ n := by
    intro n hn line mem
    obtain mem | mem := List.mem_append.1 mem
    · exact short n hn line mem
    · rw [List.mem_singleton.1 mem]
      exact Nat.zero_le n
  have collects : skips = false := by
    rw [discarding, openLine, cut.cutLines_eq]
    exact isDropped_of_short fun n _ => Nat.zero_le n
  have nothing : waiting = [] := by
    rw [pending, collects, if_neg Bool.false_ne_true, openLine, cut.cutLines_eq]
  rw [cut.cutLines_eq, dropped_of_short short'] at told
  cases told
  rw [limited, nothing, collects, yields]
  rfl

end AisFeed
