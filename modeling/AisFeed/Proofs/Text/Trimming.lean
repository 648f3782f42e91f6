import AisFeed.Proofs.Text.Utf8
import AisFeed.Text.Blank
import Mathlib.Data.List.TakeWhile

/-!
# Texts with blanks at their ends

A byte below 0x80 ends whatever character is under way, so bytes of this kind before and after
others are characters of their own, and what is broken between them stays as it is
(`lossy_around`). Blank characters around a text do not change what is left when it is trimmed
(`trim_around`).
-/

set_option autoImplicit false

namespace AisFeed.Text

/-! ## Runs at both ends -/

section Runs

variable {α : Type} {p : α → Bool} {before middle after : List α}

/-- What is dropped from the start of a list between two runs is dropped from the list itself. The
run after it goes as well if nothing of the list is left. -/
theorem dropWhile_around (isBefore : ∀ a ∈ before, p a = true) (isAfter : ∀ a ∈ after, p a = true) :
    (before ++ middle ++ after).dropWhile p =
      if middle.dropWhile p = [] then [] else middle.dropWhile p ++ after := by
  rw [List.append_assoc, List.dropWhile_append_of_pos isBefore, List.dropWhile_append]
  have gone : after.dropWhile p = [] := by
    rw [← List.append_nil after, List.dropWhile_append_of_pos isAfter]
    rfl
  cases middle.dropWhile p with
  | nil => simpa using gone
  | cons a rest => rfl

end Runs

/-- Blank characters around a text make no difference when it is trimmed. -/
theorem trim_around {before middle after : List Char} (isBefore : ∀ c ∈ before, isBlank c = true)
    (isAfter : ∀ c ∈ after, isBlank c = true) : trim (before ++ middle ++ after) = trim middle := by
  have isAfter' : ∀ c ∈ after.reverse, isBlank c = true := by
    intro c mem
    exact isAfter c (List.mem_reverse.1 mem)
  unfold trim trimStart
  rw [dropWhile_around isBefore isAfter]
  split
  · rename_i blank
    rw [blank]
  · rw [List.reverse_append, List.dropWhile_append_of_pos isAfter']

/-- A text is what is left of it when it is trimmed, between blank characters. -/
theorem exists_around_trim (text : List Char) :
    ∃ before after, text = before ++ trim text ++ after ∧
      (∀ c ∈ before, isBlank c = true) ∧ ∀ c ∈ after, isBlank c = true := by
  let kept := trimStart text
  refine ⟨text.takeWhile isBlank, (kept.reverse.takeWhile isBlank).reverse, ?_,
    fun c mem => List.mem_takeWhile_imp mem,
    fun c mem => List.mem_takeWhile_imp (List.mem_reverse.1 mem)⟩
  have backwards : kept = trim text ++ (kept.reverse.takeWhile isBlank).reverse := by
    rw [trim, trimStart, ← List.reverse_append, List.takeWhile_append_dropWhile,
      List.reverse_reverse]
  rw [List.append_assoc, ← backwards]
  exact List.takeWhile_append_dropWhile.symm

theorem trim_trim (text : List Char) : trim (trim text) = trim text := by
  obtain ⟨before, after, split, isBefore, isAfter⟩ := exists_around_trim text
  calc trim (trim text) = trim (before ++ trim text ++ after) :=
        (trim_around isBefore isAfter).symm
    _ = trim text := congrArg trim split.symm

theorem mem_of_mem_trim {text : List Char} {c : Char} (mem : c ∈ trim text) : c ∈ text := by
  obtain ⟨before, after, split, -, -⟩ := exists_around_trim text
  rw [split]
  exact List.mem_append_left _ (List.mem_append_right _ mem)

theorem trim_append_blank (text : List Char) {c : Char} (blank : isBlank c = true) :
    trim (text ++ [c]) = trim text := by
  have isBefore : ∀ b ∈ ([] : List Char), isBlank b = true := by simp
  have isAfter : ∀ b ∈ [c], isBlank b = true := by
    intro b mem
    rw [List.mem_singleton.1 mem, blank]
  exact trim_around isBefore isAfter

/-- Nothing is trimmed where no blank character is. -/
theorem trim_of_ends {first last : Char} (inner : List Char) (solid : isBlank first = false)
    (solid' : isBlank last = false) :
    trim (first :: (inner ++ [last])) = first :: (inner ++ [last]) := by
  have start : trimStart (first :: (inner ++ [last])) = first :: (inner ++ [last]) := by
    rw [trimStart, List.dropWhile_cons_of_neg (by rw [solid]; exact Bool.false_ne_true)]
  have backwards : (first :: (inner ++ [last])).reverse = last :: (inner.reverse ++ [first]) := by
    simp
  rw [trim, start, backwards, trimStart,
    List.dropWhile_cons_of_neg (by rw [solid']; exact Bool.false_ne_true), ← backwards,
    List.reverse_reverse]

namespace Utf8

/-! ## Bytes that are characters of their own -/

/-- What comes next, if a character is under way, is no character of one byte. -/
def State.IsHigh : State → Prop
  | start => True
  | inside _ _ low _ => 0x80 ≤ low

theorem State.isHigh_begin (b : Nat) : (State.begin b).2.IsHigh := by
  unfold State.begin
  split
  · trivial
  split
  · trivial
  split
  · exact Nat.le_refl 0x80
  split
  · show 0x80 ≤ if b = 0xE0 then 0xA0 else 0x80
    split <;> omega
  split
  · show 0x80 ≤ if b = 0xF0 then 0x90 else 0x80
    split <;> omega
  · trivial

theorem State.IsHigh.next {state : State} (high : state.IsHigh) (b : Nat) :
    (state.next b).2.IsHigh := by
  cases state with
  | start => exact isHigh_begin b
  | inside value more low last =>
    rw [State.next]
    split
    · split
      · trivial
      · exact Nat.le_refl 0x80
    · exact isHigh_begin b

/-- A byte below 0x80 ends what came before it. -/
theorem scanFrom_append_ascii {state : State} (high : state.IsHigh) {b : UInt8}
    (ascii : b.toNat < 0x80) (bytes rest : List UInt8) :
    scanFrom state (bytes ++ b :: rest) = scanFrom state bytes ++ scanFrom .start (b :: rest) := by
  induction bytes generalizing state with
  | nil =>
    cases state with
    | start => rfl
    | inside value more low last =>
      have out : ¬(low ≤ b.toNat ∧ b.toNat ≤ last) := by
        intro inside
        exact Nat.lt_irrefl _ (Nat.lt_of_lt_of_le ascii (Nat.le_trans high inside.1))
      show scanFrom _ (b :: rest) = [none] ++ scanFrom .start (b :: rest)
      rw [scanFrom, State.next, if_neg out, scanFrom]
      rfl
  | cons a bytes ih =>
    rw [List.cons_append, scanFrom, scanFrom, ih (high.next a.toNat), List.append_assoc]

/-- Bytes below 0x80 are characters of their own. -/
theorem scanFrom_ascii_append {bytes : List UInt8} (ascii : ∀ b ∈ bytes, b.toNat < 0x80)
    (rest : List UInt8) :
    scanFrom .start (bytes ++ rest) =
      bytes.map (fun b => some (Char.ofNat b.toNat)) ++ scanFrom .start rest := by
  induction bytes with
  | nil => rfl
  | cons b bytes ih =>
    rw [List.cons_append, scanFrom_one (ascii b List.mem_cons_self),
      ih fun a mem => ascii a (List.mem_cons_of_mem b mem)]
    rfl

/-- The characters of bytes below 0x80. -/
def ofAscii (bytes : List UInt8) : List Char :=
  bytes.map fun b => Char.ofNat b.toNat

theorem lossy_ascii_append {bytes : List UInt8} (ascii : ∀ b ∈ bytes, b.toNat < 0x80)
    (rest : List UInt8) : lossy (bytes ++ rest) = ofAscii bytes ++ lossy rest := by
  unfold lossy ofAscii
  rw [scan_eq_scanFrom, scan_eq_scanFrom, scanFrom_ascii_append ascii]
  simp

theorem lossy_append_ascii (bytes : List UInt8) {rest : List UInt8}
    (ascii : ∀ b ∈ rest, b.toNat < 0x80) : lossy (bytes ++ rest) = lossy bytes ++ ofAscii rest := by
  cases rest with
  | nil => simp [ofAscii]
  | cons b rest =>
    have first : b.toNat < 0x80 := ascii b List.mem_cons_self
    have start : State.start.IsHigh := trivial
    have alone := lossy_ascii_append ascii []
    rw [List.append_nil, lossy_nil, List.append_nil] at alone
    rw [← alone]
    unfold lossy
    rw [scan_eq_scanFrom, scan_eq_scanFrom, scan_eq_scanFrom,
      scanFrom_append_ascii start first, List.map_append]

/-- Bytes below 0x80 around others do not touch these. -/
theorem lossy_around {before after : List UInt8} (bytes : List UInt8)
    (isBefore : ∀ b ∈ before, b.toNat < 0x80) (isAfter : ∀ b ∈ after, b.toNat < 0x80) :
    lossy (before ++ bytes ++ after) = ofAscii before ++ lossy bytes ++ ofAscii after := by
  rw [lossy_append_ascii _ isAfter, lossy_ascii_append isBefore]

theorem encodeChar_ne_nil (c : Char) : String.utf8EncodeChar c ≠ [] := by
  rw [← List.length_pos_iff, String.length_utf8EncodeChar]
  exact c.utf8Size_pos

theorem encode_ne_nil {text : List Char} (nonempty : text ≠ []) : encode text ≠ [] := by
  obtain ⟨c, rest, rfl⟩ := List.exists_cons_of_ne_nil nonempty
  rw [encode, List.flatMap_cons]
  exact List.append_ne_nil_of_left_ne_nil (encodeChar_ne_nil c) _

theorem lossy_encode (text : List Char) : lossy (encode text) = text := by
  rw [lossy, scan_eq_scanFrom, scanFrom_encode, List.map_map]
  exact List.map_id text

theorem encode_ofAscii {bytes : List UInt8} (ascii : ∀ b ∈ bytes, b.toNat < 0x80) :
    encode (ofAscii bytes) = bytes := by
  induction bytes with
  | nil => rfl
  | cons b rest ih =>
    obtain ⟨here, later⟩ := List.forall_mem_cons.1 ascii
    have valid : b.toNat.isValidChar := Or.inl (by omega)
    have code : (Char.ofNat b.toNat).val.toNat = b.toNat := val_ofNat valid
    have one : String.utf8EncodeChar (Char.ofNat b.toNat) = [b] := by
      unfold String.utf8EncodeChar
      rw [code]
      dsimp only
      rw [if_pos (by omega), UInt8.ofNat_toNat]
    rw [ofAscii, List.map_cons, encode, List.flatMap_cons, one, ← encode, ← ofAscii, ih later]
    rfl

/-- Bytes around others that are no part of a longer character are characters of the text. -/
theorem split_of_encode_eq {text : List Char} {before bytes after : List UInt8}
    (isBefore : ∀ b ∈ before, b.toNat < 0x80) (isAfter : ∀ b ∈ after, b.toNat < 0x80)
    (encoded : encode text = before ++ bytes ++ after) :
    text = ofAscii before ++ lossy bytes ++ ofAscii after ∧ encode (lossy bytes) = bytes := by
  have whole : text = ofAscii before ++ lossy bytes ++ ofAscii after := by
    rw [← lossy_around bytes isBefore isAfter, ← encoded, lossy_encode]
  refine ⟨whole, ?_⟩
  rw [whole, encode_append, encode_append, encode_ofAscii isBefore,
    encode_ofAscii isAfter] at encoded
  exact List.append_cancel_left (List.append_cancel_right encoded)

end Utf8

end AisFeed.Text
