import AisFeed.Text.Utf8
import Mathlib.Data.List.Basic

/-!
# Strict reading inverts encoding

`decode?_eq_some_iff` says that bytes have a text exactly if they are the encoding of that text.
The scan is first brought to the form of a recursion on the bytes (`scanFrom`). An encoded
character is then one yielded character (`scanFrom_encodeChar`), and bytes of which nothing is
broken start with an encoded character (`exists_encodeChar`).
-/

set_option autoImplicit false

namespace AisFeed.Text.Utf8

/-- What bytes yield from a state on. -/
def scanFrom : State → List UInt8 → List (Option Char)
  | state, [] => state.finish
  | state, b :: bytes => (state.next b.toNat).1 ++ scanFrom (state.next b.toNat).2 bytes

theorem foldl_push (bytes : List UInt8) (yielded : List (Option Char)) (state : State) :
    let s := bytes.foldl Scan.push ⟨yielded, state⟩
    s.yielded.reverse ++ s.state.finish = yielded.reverse ++ scanFrom state bytes := by
  induction bytes generalizing yielded state with
  | nil => rfl
  | cons b bytes ih =>
    rw [List.foldl_cons, Scan.push, scanFrom]
    simp only [ih, List.reverse_append, List.reverse_reverse, List.append_assoc]

theorem scan_eq_scanFrom (bytes : List UInt8) : scan bytes = scanFrom .start bytes :=
  foldl_push bytes [] .start

/-! ## Single steps -/

section Steps

variable {b value more low high : Nat}

theorem begin_one (h : b < 0x80) : State.begin b = ([some (Char.ofNat b)], .start) := by
  rw [State.begin, if_pos h]

/-- Bytes that start no character. -/
theorem begin_broken (h : 0x80 ≤ b ∧ b < 0xC2 ∨ 0xF5 ≤ b) : State.begin b = ([none], .start) := by
  rw [State.begin, if_neg (by omega)]
  rcases h with h | h
  · rw [if_pos h.2]
  · rw [if_neg (by omega), if_neg (by omega), if_neg (by omega), if_neg (by omega)]

theorem begin_two (h : 0xC2 ≤ b) (h' : b < 0xE0) :
    State.begin b = ([], .inside (b - 0xC0) 1 0x80 0xBF) := by
  rw [State.begin, if_neg (by omega), if_neg (by omega), if_pos h']

theorem begin_three (h : 0xE0 ≤ b) (h' : b < 0xF0) :
    State.begin b = ([], .inside (b - 0xE0) 2 (if b = 0xE0 then 0xA0 else 0x80)
      (if b = 0xED then 0x9F else 0xBF)) := by
  rw [State.begin, if_neg (by omega), if_neg (by omega), if_neg (by omega), if_pos h']

theorem begin_four (h : 0xF0 ≤ b) (h' : b < 0xF5) :
    State.begin b = ([], .inside (b - 0xF0) 3 (if b = 0xF0 then 0x90 else 0x80)
      (if b = 0xF4 then 0x8F else 0xBF)) := by
  rw [State.begin, if_neg (by omega), if_neg (by omega), if_neg (by omega), if_neg (by omega),
    if_pos h']

theorem next_last (h : low ≤ b) (h' : b ≤ high) :
    (State.inside value 1 low high).next b =
      ([some (Char.ofNat (value * 64 + (b - 0x80)))], .start) := by
  rw [State.next, if_pos ⟨h, h'⟩, if_pos (Nat.le_refl 1)]

theorem next_more (h : low ≤ b) (h' : b ≤ high) :
    (State.inside value (more + 2) low high).next b =
      ([], .inside (value * 64 + (b - 0x80)) (more + 1) 0x80 0xBF) := by
  rw [State.next, if_pos ⟨h, h'⟩, if_neg (by omega)]
  rfl

end Steps

/-! ## Whole characters -/

section Characters

variable {a b c d : UInt8} {rest : List UInt8}

theorem scanFrom_one (ha : a.toNat < 0x80) :
    scanFrom .start (a :: rest) = some (Char.ofNat a.toNat) :: scanFrom .start rest := by
  rw [scanFrom, State.next, begin_one ha]
  rfl

theorem scanFrom_two (ha : 0xC2 ≤ a.toNat) (ha' : a.toNat < 0xE0) (hb : 0x80 ≤ b.toNat)
    (hb' : b.toNat ≤ 0xBF) :
    scanFrom .start (a :: b :: rest) =
      some (Char.ofNat ((a.toNat - 0xC0) * 64 + (b.toNat - 0x80))) :: scanFrom .start rest := by
  rw [scanFrom, State.next, begin_two ha ha', scanFrom, next_last hb hb']
  rfl

theorem scanFrom_three (ha : 0xE0 ≤ a.toNat) (ha' : a.toNat < 0xF0)
    (hb : (if a.toNat = 0xE0 then 0xA0 else 0x80) ≤ b.toNat)
    (hb' : b.toNat ≤ if a.toNat = 0xED then 0x9F else 0xBF) (hc : 0x80 ≤ c.toNat)
    (hc' : c.toNat ≤ 0xBF) :
    scanFrom .start (a :: b :: c :: rest) =
      some (Char.ofNat (((a.toNat - 0xE0) * 64 + (b.toNat - 0x80)) * 64 + (c.toNat - 0x80))) ::
        scanFrom .start rest := by
  rw [scanFrom, State.next, begin_three ha ha', scanFrom, next_more hb hb', scanFrom,
    next_last hc hc']
  rfl

theorem scanFrom_four (ha : 0xF0 ≤ a.toNat) (ha' : a.toNat < 0xF5)
    (hb : (if a.toNat = 0xF0 then 0x90 else 0x80) ≤ b.toNat)
    (hb' : b.toNat ≤ if a.toNat = 0xF4 then 0x8F else 0xBF) (hc : 0x80 ≤ c.toNat)
    (hc' : c.toNat ≤ 0xBF) (hd : 0x80 ≤ d.toNat) (hd' : d.toNat ≤ 0xBF) :
    scanFrom .start (a :: b :: c :: d :: rest) =
      some (Char.ofNat ((((a.toNat - 0xF0) * 64 + (b.toNat - 0x80)) * 64 + (c.toNat - 0x80)) * 64 +
        (d.toNat - 0x80))) :: scanFrom .start rest := by
  rw [scanFrom, State.next, begin_four ha ha', scanFrom, next_more hb hb', scanFrom,
    next_more hc hc', scanFrom, next_last hd hd']
  rfl

end Characters

/-- An encoded character is one character of the scan. -/
theorem scanFrom_encodeChar (c : Char) (rest : List UInt8) :
    scanFrom .start (String.utf8EncodeChar c ++ rest) = some c :: scanFrom .start rest := by
  have valid : c.val.toNat.isValidChar := c.valid
  have same : Char.ofNat c.val.toNat = c := Char.ofNat_toNat c
  unfold String.utf8EncodeChar
  generalize c.val.toNat = v at valid same
  simp only [Nat.isValidChar] at valid
  have byte : ∀ n < 256, (UInt8.ofNat n).toNat = n := fun n less => by
    rw [UInt8.toNat_ofNat', Nat.mod_eq_of_lt less]
  dsimp only
  split
  · rw [List.cons_append, List.nil_append, scanFrom_one, byte v (by omega), same]
    rw [byte v (by omega)]
    omega
  split
  · have ha := byte (v / 64 % 0x20 + 0xC0) (by omega)
    have hb := byte (v % 0x40 + 0x80) (by omega)
    rw [List.cons_append, List.cons_append, List.nil_append,
      scanFrom_two (by omega) (by omega) (by omega) (by omega), ha, hb,
      show (v / 64 % 0x20 + 0xC0 - 0xC0) * 64 + (v % 0x40 + 0x80 - 0x80) = v by omega, same]
  split
  · have ha := byte (v / 4096 % 0x10 + 0xE0) (by omega)
    have hb := byte (v / 64 % 0x40 + 0x80) (by omega)
    have hc := byte (v % 0x40 + 0x80) (by omega)
    rw [List.cons_append, List.cons_append, List.cons_append, List.nil_append,
      scanFrom_three (by omega) (by omega) (by split <;> omega) (by split <;> omega) (by omega)
        (by omega), ha, hb, hc,
      show ((v / 4096 % 0x10 + 0xE0 - 0xE0) * 64 + (v / 64 % 0x40 + 0x80 - 0x80)) * 64 +
        (v % 0x40 + 0x80 - 0x80) = v by omega, same]
  · have ha := byte (v / 262144 % 0x08 + 0xF0) (by omega)
    have hb := byte (v / 4096 % 0x40 + 0x80) (by omega)
    have hc := byte (v / 64 % 0x40 + 0x80) (by omega)
    have hd := byte (v % 0x40 + 0x80) (by omega)
    rw [List.cons_append, List.cons_append, List.cons_append, List.cons_append, List.nil_append,
      scanFrom_four (by omega) (by omega) (by split <;> omega) (by split <;> omega) (by omega)
        (by omega) (by omega) (by omega), ha, hb, hc, hd,
      show (((v / 262144 % 0x08 + 0xF0 - 0xF0) * 64 + (v / 4096 % 0x40 + 0x80 - 0x80)) * 64 +
        (v / 64 % 0x40 + 0x80 - 0x80)) * 64 + (v % 0x40 + 0x80 - 0x80) = v by omega, same]

theorem scanFrom_encode (cs : List Char) : scanFrom .start (encode cs) = cs.map some := by
  induction cs with
  | nil => rfl
  | cons c cs ih => rw [encode, List.flatMap_cons, scanFrom_encodeChar, ← encode, ih, List.map_cons]

/-! ## Bytes without a broken sequence -/

/-- Nothing that is yielded is a broken sequence. -/
def Whole (yielded : List (Option Char)) : Prop :=
  ∀ c ∈ yielded, c.isSome = true

/-- A character under way goes on with a byte in range. -/
theorem exists_next {value more low high : Nat} {bytes : List UInt8}
    (h : Whole (scanFrom (.inside value more low high) bytes)) :
    ∃ b rest, bytes = b :: rest ∧ low ≤ b.toNat ∧ b.toNat ≤ high := by
  cases bytes with
  | nil => cases h none List.mem_cons_self
  | cons b rest =>
    refine ⟨b, rest, rfl, ?_⟩
    by_contra out
    rw [scanFrom, State.next, if_neg out] at h
    cases h none List.mem_cons_self

theorem val_ofNat {n : Nat} (h : n.isValidChar) : (Char.ofNat n).val.toNat = n := by
  rw [Char.ofNat, dif_pos h]
  rfl

/-- Bytes of which nothing is broken start with an encoded character. -/
theorem exists_encodeChar {a : UInt8} {bytes : List UInt8}
    (h : Whole (scanFrom .start (a :: bytes))) :
    ∃ c rest, a :: bytes = String.utf8EncodeChar c ++ rest := by
  rw [scanFrom, State.next] at h
  have byte : ∀ (b : UInt8) (n : Nat), n = b.toNat → UInt8.ofNat n = b := fun b n same => by
    rw [same, UInt8.ofNat_toNat]
  by_cases one : a.toNat < 0x80
  · refine ⟨Char.ofNat a.toNat, bytes, ?_⟩
    rw [String.utf8EncodeChar, val_ofNat (Or.inl (by omega)), if_pos (by omega), UInt8.ofNat_toNat]
    rfl
  by_cases two : 0xC2 ≤ a.toNat ∧ a.toNat < 0xE0
  · rw [begin_two two.1 two.2] at h
    obtain ⟨b, rest, rfl, hb, hb'⟩ := exists_next h
    refine ⟨Char.ofNat ((a.toNat - 0xC0) * 64 + (b.toNat - 0x80)), rest, ?_⟩
    rw [String.utf8EncodeChar, val_ofNat (Or.inl (by omega)), if_neg (by omega), if_pos (by omega),
      byte a _ (by omega), byte b _ (by omega)]
    rfl
  by_cases three : 0xE0 ≤ a.toNat ∧ a.toNat < 0xF0
  · rw [begin_three three.1 three.2] at h
    obtain ⟨b, rest, rfl, hb, hb'⟩ := exists_next h
    rw [scanFrom, next_more hb hb'] at h
    obtain ⟨c, rest, rfl, hc, hc'⟩ := exists_next h
    have above : 0x80 ≤ b.toNat ∧ (a.toNat = 0xE0 → 0xA0 ≤ b.toNat) := by split at hb <;> omega
    have below : b.toNat ≤ 0xBF ∧ (a.toNat = 0xED → b.toNat ≤ 0x9F) := by split at hb' <;> omega
    refine ⟨Char.ofNat (((a.toNat - 0xE0) * 64 + (b.toNat - 0x80)) * 64 + (c.toNat - 0x80)),
      rest, ?_⟩
    rw [String.utf8EncodeChar, val_ofNat (by simp only [Nat.isValidChar]; omega),
      if_neg (by omega), if_neg (by omega), if_pos (by omega), byte a _ (by omega),
      byte b _ (by omega), byte c _ (by omega)]
    rfl
  by_cases four : 0xF0 ≤ a.toNat ∧ a.toNat < 0xF5
  · rw [begin_four four.1 four.2] at h
    obtain ⟨b, rest, rfl, hb, hb'⟩ := exists_next h
    rw [scanFrom, next_more hb hb'] at h
    obtain ⟨c, rest, rfl, hc, hc'⟩ := exists_next h
    rw [scanFrom, next_more hc hc'] at h
    obtain ⟨d, rest, rfl, hd, hd'⟩ := exists_next h
    have above : 0x80 ≤ b.toNat ∧ (a.toNat = 0xF0 → 0x90 ≤ b.toNat) := by split at hb <;> omega
    have below : b.toNat ≤ 0xBF ∧ (a.toNat = 0xF4 → b.toNat ≤ 0x8F) := by split at hb' <;> omega
    refine ⟨Char.ofNat ((((a.toNat - 0xF0) * 64 + (b.toNat - 0x80)) * 64 + (c.toNat - 0x80)) * 64 +
      (d.toNat - 0x80)), rest, ?_⟩
    rw [String.utf8EncodeChar, val_ofNat (by simp only [Nat.isValidChar]; omega),
      if_neg (by omega), if_neg (by omega), if_neg (by omega), byte a _ (by omega),
      byte b _ (by omega), byte c _ (by omega), byte d _ (by omega)]
    rfl
  · rw [begin_broken (by omega)] at h
    cases h none List.mem_cons_self

theorem encode_of_whole {bytes : List UInt8} (h : Whole (scanFrom .start bytes)) :
    ∃ cs, bytes = encode cs := by
  match bytes with
  | [] => exact ⟨[], rfl⟩
  | a :: bytes =>
    obtain ⟨c, rest, split⟩ := exists_encodeChar h
    have shorter : rest.length < (a :: bytes).length := by
      have positive := List.length_pos_of_ne_nil (String.utf8EncodeChar_ne_nil (c := c))
      have total := congrArg List.length split
      rw [List.length_append] at total
      omega
    rw [split, scanFrom_encodeChar] at h
    have later : Whole (scanFrom .start rest) := fun c mem => h c (List.mem_cons_of_mem _ mem)
    obtain ⟨cs, rfl⟩ := encode_of_whole later
    exact ⟨c :: cs, by rw [split, encode, encode, List.flatMap_cons]⟩
termination_by bytes.length
decreasing_by exact shorter

/-- **Bytes have a text exactly if they are its encoding.** -/
theorem decode?_eq_some_iff {bytes : List UInt8} {cs : List Char} :
    decode? bytes = some cs ↔ bytes = encode cs := by
  rw [decode?, scan_eq_scanFrom]
  constructor
  · intro h
    split at h
    · rename_i whole
      obtain ⟨text, rfl⟩ := encode_of_whole (List.all_eq_true.1 whole)
      rw [scanFrom_encode] at h
      rw [show text = cs by simpa using h]
    · cases h
  · rintro rfl
    simp [scanFrom_encode]

theorem string?_eq_some_iff {bytes : List UInt8} {s : String} :
    string? bytes = some s ↔ bytes = bytesOf s := by
  rw [string?, Option.map_eq_some_iff, bytesOf]
  constructor
  · rintro ⟨cs, decoded, rfl⟩
    rw [decode?_eq_some_iff.1 decoded, String.toList_ofList]
  · rintro rfl
    exact ⟨s.toList, decode?_eq_some_iff.2 rfl, String.ofList_toList⟩

/-! ## Bytes of one character -/

/-- A byte below 0x80 in an encoded character is all of it. -/
theorem toNat_of_mem_encodeChar {c : Char} {b : UInt8} (mem : b ∈ String.utf8EncodeChar c)
    (ascii : b.toNat < 0x80) : c.toNat = b.toNat := by
  have byte : ∀ n < 256, b = UInt8.ofNat n → b.toNat = n := by
    rintro n less rfl
    rw [UInt8.toNat_ofNat', Nat.mod_eq_of_lt less]
  have other : ∀ n, 0x80 ≤ n → n < 256 → b ≠ UInt8.ofNat n := fun n large less same => by
    have value := byte n less same
    omega
  show c.val.toNat = b.toNat
  unfold String.utf8EncodeChar at mem
  generalize c.val.toNat = v at mem
  dsimp only at mem
  split at mem
  · exact (byte v (by omega) (List.mem_singleton.1 mem)).symm
  split at mem
  · simp only [List.mem_cons, List.not_mem_nil, or_false] at mem
    rcases mem with mem | mem
    all_goals exact absurd mem (other _ (by omega) (by omega))
  split at mem
  · simp only [List.mem_cons, List.not_mem_nil, or_false] at mem
    rcases mem with mem | mem | mem
    all_goals exact absurd mem (other _ (by omega) (by omega))
  · simp only [List.mem_cons, List.not_mem_nil, or_false] at mem
    rcases mem with mem | mem | mem | mem
    all_goals exact absurd mem (other _ (by omega) (by omega))

theorem newline_not_mem_encode {text : List Char} (line : '\n' ∉ text) : 0x0A ∉ encode text := by
  intro mem
  obtain ⟨c, inside, byte⟩ := List.mem_flatMap.1 mem
  have code : c.toNat = 0x0A := toNat_of_mem_encodeChar byte (by decide)
  have same : c = '\n' := Char.toNat_inj.1 code
  exact line (same ▸ inside)

end AisFeed.Text.Utf8
