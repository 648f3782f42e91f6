import AisFeed.Proofs.Json.Reading

/-!
# Compact texts are lines

No line breaks in the compact text of a value (`newline_not_mem_compact`): those inside strings are
escaped, and none stands between the parts.
-/

set_option autoImplicit false

namespace AisFeed.Json

open Text

theorem newline_not_mem_decimal (n : Nat) : '\n' ∉ decimal n := by
  intro mem
  cases isDigit_of_mem_decimal mem

theorem newline_not_mem_decimalInt (i : Int) : '\n' ∉ decimalInt i := by
  unfold decimalInt
  split
  · simp [newline_not_mem_decimal]
  · exact newline_not_mem_decimal _

theorem newline_not_mem_decimalText {digits : List Char} (k : Int) (none : '\n' ∉ digits) :
    '\n' ∉ Binary64.decimalText digits k := by
  have front : ∀ n, '\n' ∉ digits.take n := fun n mem => none (List.mem_of_mem_take mem)
  have back : ∀ n, '\n' ∉ digits.drop n := fun n mem => none (List.mem_of_mem_drop mem)
  unfold Binary64.decimalText
  dsimp only
  split
  · simp [none]
  split
  · simp [front, back]
  split
  · simp [none]
  · simp only [List.mem_append, not_or]
    refine ⟨⟨?_, ?_⟩, newline_not_mem_decimalInt _⟩
    · split
      · simpa using none
      · exact none
    · split <;> simp

theorem newline_not_mem_number (n : Number) : '\n' ∉ n.text := by
  cases n with
  | integer i => exact newline_not_mem_decimalInt i
  | real x =>
    have size := newline_not_mem_decimalText x.shortest.2 (newline_not_mem_decimal x.shortest.1)
    simp only [Number.text, Binary64.text, List.mem_append, not_or]
    refine ⟨?_, size⟩
    split <;> simp

theorem newline_not_mem_escaped (c : Char) : '\n' ∉ escaped c := by
  unfold escaped escape?
  split
  case h_8 =>
    split
    · rename_i control
      have digits := padLeft_hexadecimal c.toNat control
      have hex : ∀ n < 16, '\n' ≠ n.digitChar := by decide
      have high := hex (c.toNat / 16) (by omega)
      have low := hex (c.toNat % 16) (by omega)
      simp [digits, high, low]
    · rename_i plain
      intro mem
      rw [Option.getD_none, List.mem_singleton] at mem
      exact plain (mem ▸ by decide)
  -- the escapes of one letter
  all_goals decide

theorem newline_not_mem_stringPieces (s : String) : '\n' ∉ (stringPieces s).flatten := by
  simp [flatten_stringPieces, newline_not_mem_escaped]

mutual

/-- A compact text is one line. -/
theorem newline_not_mem_pieces (j : Json) : '\n' ∉ (pieces j).flatten := by
  match j with
  | .null => decide
  | .bool true => decide
  | .bool false => decide
  | .number n => simpa [pieces] using newline_not_mem_number n
  | .string s => exact newline_not_mem_stringPieces s
  | .array items => simpa [pieces] using newline_not_mem_itemPieces true items
  | .object members => simpa [pieces] using newline_not_mem_memberPieces true members

theorem newline_not_mem_itemPieces (first : Bool) (items : List Json) :
    '\n' ∉ (itemPieces first items).flatten := by
  match items with
  | [] => simp [itemPieces]
  | item :: rest =>
    have here := newline_not_mem_pieces item
    have later := newline_not_mem_itemPieces false rest
    cases first <;> simp_all [itemPieces]

theorem newline_not_mem_memberPieces (first : Bool) (members : List (String × Json)) :
    '\n' ∉ (memberPieces first members).flatten := by
  match members with
  | [] => simp [memberPieces]
  | (key, value) :: rest =>
    have name := newline_not_mem_stringPieces key
    have here := newline_not_mem_pieces value
    have later := newline_not_mem_memberPieces false rest
    cases first <;> simp_all [memberPieces]

end

theorem newline_not_mem_compact (j : Json) : '\n' ∉ j.compact.toList := by
  rw [compact, String.toList_ofList]
  exact newline_not_mem_pieces j

end AisFeed.Json
