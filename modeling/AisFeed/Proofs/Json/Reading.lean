import AisFeed.Json.Printer
import AisFeed.Json.Reader
import AisFeed.Proofs.Text.Numeral

/-!
# Compact texts are read by structure

`Tree.ofText?_compact`: the compact text of a value is read into the tree that `spelling?` says.
Numbers (`literal?_decimalInt`) and strings (`stringAfterQuote?_escaped`) are read in front of
anything that may follow them. Values, items and members then go together: the reader nests no
deeper than a text has characters, so all three are proved by one induction on the fuel.
-/

set_option autoImplicit false

namespace AisFeed.Json

open Text

/-! ## The trees of values -/

/-- An integer as it is spelled. -/
def Literal.ofInt (i : Int) : Literal :=
  ⟨decide (i < 0), decimal i.natAbs, [], false, none⟩

mutual

/-- The tree of the text of a value, none if a floating point number is in it. -/
def spelling? : Json → Option Tree
  | .null => some .null
  | .bool b => some (.bool b)
  | .number (.integer i) => some (.number (.ofInt i))
  | .number (.real _) => none
  | .string s => some (.string s)
  | .array items => (itemSpellings? items).map .array
  | .object members => (memberSpellings? members).map .object

/-- The trees of items. -/
def itemSpellings? : List Json → Option (List Tree)
  | [] => some []
  | item :: rest => do
    let t ← spelling? item
    let ts ← itemSpellings? rest
    some (t :: ts)

/-- The trees of members. -/
def memberSpellings? : List (String × Json) → Option (List (Option String × Tree))
  | [] => some []
  | (key, value) :: rest => do
    let t ← spelling? value
    let ts ← memberSpellings? rest
    some ((some key, t) :: ts)

end

/-- The characters of the compact text of a value. -/
def chars (j : Json) : List Char :=
  (pieces j).flatten

/-- What follows a value inside another one, or nothing. -/
def EndsValue (rest : List Char) : Prop :=
  ∀ c ∈ rest.head?, c = ',' ∨ c = ']' ∨ c = '\x7d'

theorem endsValue_nil : EndsValue [] :=
  fun _ none => nomatch none

theorem endsValue_cons {c : Char} (ends : c = ',' ∨ c = ']' ∨ c = '\x7d') (rest : List Char) :
    EndsValue (c :: rest) := by
  intro d first
  cases first
  exact ends

/-! ## Numbers -/

section Numbers

variable {rest : List Char}

theorem EndsValue.endsDigits (ends : EndsValue rest) : EndsDigits rest := by
  intro c first
  rcases ends c first with rfl | rfl | rfl <;> rfl

theorem exponent?_of_endsValue (ends : EndsValue rest) : exponent? rest = some (none, rest) := by
  cases rest with
  | nil => rfl
  | cons c rest =>
    have first := ends c rfl
    have small : ¬ (c = 'e' ∨ c = 'E') := by
      rcases first with rfl | rfl | rfl <;> decide
    exact if_neg small

/-- The digits of a number that stand before anything else. -/
theorem whole_decimal (n : Nat) (ends : EndsDigits rest) :
    (match decimal n ++ rest with
      | '0' :: _ => ['0']
      | text => text.takeWhile Char.isDigit) = decimal n := by
  have run := (takeWhile_isDigit (fun _ => isDigit_of_mem_decimal (n := n)) ends).1
  split
  · rename_i starts
    cases digits : decimal n with
    | nil => exact absurd digits (decimal_ne_nil n)
    | cons c cs =>
      rw [digits, List.cons_append] at starts
      injection starts with zero
      have none := eq_zero_of_decimal (zero ▸ digits)
      rw [none] at digits
      exact digits
  · exact run

theorem magnitude?_decimal (negative : Bool) (n : Nat) (ends : EndsValue rest) :
    magnitude? negative (decimal n ++ rest) =
      some (⟨negative, decimal n, [], false, none⟩, rest) := by
  have noDigit : (rest.head?.map Char.isDigit).getD false = false := by
    cases rest with
    | nil => rfl
    | cons c rest => exact ends.endsDigits c rfl
  have noPoint : ∀ after, rest ≠ '.' :: after := by
    rintro after rfl
    rcases ends '.' rfl with same | same | same <;> cases same
  unfold magnitude?
  extract_lets whole after
  have digits : whole = decimal n := whole_decimal n ends.endsDigits
  have left : after = rest := by
    simp only [after, digits, List.drop_left]
  rw [left, digits, noDigit, if_neg (by simp [decimal_ne_nil])]
  split
  · exact absurd rfl (noPoint _)
  · rw [exponent?_of_endsValue ends]
    rfl

theorem literal?_decimalInt (i : Int) (ends : EndsValue rest) :
    literal? (decimalInt i ++ rest) = some (.ofInt i, rest) := by
  unfold decimalInt Literal.ofInt
  by_cases negative : i < 0
  · rw [if_pos negative, decide_eq_true negative]
    exact magnitude?_decimal true i.natAbs ends
  · rw [if_neg negative, decide_eq_false negative]
    have read := magnitude?_decimal false i.natAbs ends
    obtain ⟨c, cs, digits, digit⟩ := exists_digit i.natAbs
    rw [digits] at read ⊢
    rw [← read]
    unfold literal?
    split
    · rename_i sign
      injection sign with same
      subst same
      cases digit
    · rfl

end Numbers

/-! ## Strings -/

theorem padLeft_hexadecimal : ∀ n < 0x20,
    padLeft 2 '0' (hexadecimal n) = [(n / 16).digitChar, (n % 16).digitChar] := by
  decide

theorem hexDigit?_digitChar : ∀ n < 16, hexDigit? n.digitChar = some n := by
  decide

/-- An escaped character is one code unit for each of its own. -/
theorem units?_escaped (units : List Nat) (c : Char) (rest : List Char) :
    units? units (escaped c ++ rest) = units? (c.toNat :: units) rest := by
  unfold escaped escape?
  split
  case h_8 =>
    split
    · rename_i control
      have digits := padLeft_hexadecimal c.toNat control
      have high := hexDigit?_digitChar (c.toNat / 16) (by omega)
      have low := hexDigit?_digitChar (c.toNat % 16) (by omega)
      have zero : hexDigit? '0' = some 0 := rfl
      have code : hex4? '0' '0' (c.toNat / 16).digitChar (c.toNat % 16).digitChar =
          some c.toNat := by
        rw [hex4?, zero, high, low]
        simp only [Option.bind_eq_bind, Option.bind_some, Option.some.injEq]
        omega
      simp only [Option.getD_some, digits, List.cons_append, List.nil_append, units?, code]
    · rename_i plain
      simp only [Option.getD_none, List.cons_append, List.nil_append]
      rw [units?]
      · exact if_neg plain
      all_goals simp_all
  -- the escapes of one letter are read at once
  all_goals rfl

theorem units?_flatMap_escaped (units : List Nat) (text rest : List Char) :
    units? units (text.flatMap escaped ++ '\x22' :: rest) =
      some ((text.map Char.toNat).reverse ++ units, rest) := by
  induction text generalizing units with
  | nil => rfl
  | cons c text ih =>
    rw [List.flatMap_cons, List.append_assoc, units?_escaped, ih]
    simp

/-- No character is half a surrogate pair. -/
theorem charsOfUnits?_codes (text more : List Char) :
    charsOfUnits? more (text.map Char.toNat) = some (text.reverse ++ more) := by
  have whole : ∀ c : Char, ¬ (0xD800 ≤ c.toNat ∧ c.toNat < 0xE000) := by
    intro c
    have valid : c.toNat.isValidChar := c.valid
    simp only [Nat.isValidChar] at valid
    omega
  have same : ∀ c : Char, Char.ofNat c.toNat = c := Char.ofNat_toNat
  induction text generalizing more with
  | nil => rfl
  | cons c text ih =>
    have here := whole c
    cases text with
    | nil =>
      simp only [List.map_cons, List.map_nil, charsOfUnits?]
      rw [if_neg here, same]
      rfl
    | cons d text =>
      have next := ih (c :: more)
      rw [List.map_cons] at next
      simp only [List.map_cons, charsOfUnits?]
      rw [if_neg (by omega), if_neg (by omega), same, next]
      simp

theorem stringAfterQuote?_escaped (s : String) (rest : List Char) :
    stringAfterQuote? (s.toList.flatMap escaped ++ '\x22' :: rest) = some (some s, rest) := by
  rw [stringAfterQuote?, units?_flatMap_escaped, List.append_nil, ← List.map_reverse]
  simp only [Option.map_some, charsOfUnits?_codes, List.reverse_reverse, List.append_nil,
    String.ofList_toList]

/-! ## How texts start and go on -/

section Texts

variable {c : Char} {j : Json} {t : Tree} {text rest : List Char}

theorem skipBlank_cons (solid : skipBlank [c] = [c]) (rest : List Char) :
    skipBlank (c :: rest) = c :: rest := by
  rw [skipBlank, List.dropWhile_cons] at solid ⊢
  split at solid
  · cases solid
  · rename_i plain
    exact if_neg plain

/-- What the text of a value starts with: no blank, and no end of an array. -/
def OpensValue (text : List Char) : Prop :=
  ∃ c rest, text = c :: rest ∧ skipBlank [c] = [c] ∧ c ≠ ']'

/-- Numbers start with neither. -/
theorem skipBlank_start (start : c = '-' ∨ c.isDigit = true) : skipBlank [c] = [c] := by
  refine List.dropWhile_cons_of_neg ?_
  simp only [Bool.or_eq_true, beq_iff_eq, not_or]
  refine ⟨⟨⟨?_, ?_⟩, ?_⟩, ?_⟩
  all_goals
    rintro rfl
    rcases start with start | start <;> cases start

theorem opensValue_decimalInt (i : Int) : OpensValue (decimalInt i) := by
  obtain ⟨c, rest, text, start⟩ := exists_start i
  refine ⟨c, rest, text, skipBlank_start start, ?_⟩
  rintro rfl
  rcases start with start | start <;> cases start

theorem opensValue_chars (spelled : j.spelling? = some t) : OpensValue (chars j) := by
  match j, spelled with
  | .null, _ => exact ⟨'n', _, rfl, rfl, by decide⟩
  | .bool true, _ => exact ⟨'t', _, rfl, rfl, by decide⟩
  | .bool false, _ => exact ⟨'f', _, rfl, rfl, by decide⟩
  | .number (.integer i), _ =>
    have flat : chars (.number (.integer i)) = decimalInt i := by simp [chars, pieces, Number.text]
    exact flat ▸ opensValue_decimalInt i
  | .string s, _ => exact ⟨'\x22', _, rfl, rfl, by decide⟩
  | .array _, _ => exact ⟨'[', _, rfl, rfl, by decide⟩
  | .object _, _ => exact ⟨'\x7b', _, rfl, rfl, by decide⟩

end Texts

/-- The text of items with commas between them. -/
def itemChars (items : List Json) : List Char :=
  (itemPieces true items).flatten

/-- The text of members with commas between them. -/
def memberChars (members : List (String × Json)) : List Char :=
  (memberPieces true members).flatten

theorem chars_string (s : String) :
    chars (.string s) = '\x22' :: (s.toList.flatMap escaped ++ ['\x22']) :=
  flatten_stringPieces s

theorem chars_array (items : List Json) :
    chars (.array items) = '[' :: (itemChars items ++ [']']) := by
  simp [chars, pieces, itemChars]

theorem chars_object (members : List (String × Json)) :
    chars (.object members) = '\x7b' :: (memberChars members ++ ['\x7d']) := by
  simp [chars, pieces, memberChars]

theorem itemChars_singleton (item : Json) : itemChars [item] = chars item := by
  simp [itemChars, itemPieces, chars]

theorem itemChars_cons (item next : Json) (rest : List Json) :
    itemChars (item :: next :: rest) = chars item ++ ',' :: itemChars (next :: rest) := by
  simp [itemChars, itemPieces, chars]

theorem memberChars_singleton (key : String) (value : Json) :
    memberChars [(key, value)] =
      '\x22' :: (key.toList.flatMap escaped ++ '\x22' :: ':' :: chars value) := by
  simp [memberChars, memberPieces, chars, flatten_stringPieces]

theorem memberChars_cons (key : String) (value : Json) (next : String × Json)
    (rest : List (String × Json)) :
    memberChars ((key, value) :: next :: rest) =
      '\x22' :: (key.toList.flatMap escaped ++
        '\x22' :: ':' :: (chars value ++ ',' :: memberChars (next :: rest))) := by
  simp [memberChars, memberPieces, chars, flatten_stringPieces]

/-! ## Values -/

section Values

variable {fuel : Nat} {rest : List Char}

theorem tree?_decimalInt (i : Int) (ends : EndsValue rest) :
    tree? (fuel + 1) (decimalInt i ++ rest) = some (.number (.ofInt i), rest) := by
  have read := literal?_decimalInt i ends
  obtain ⟨c, tail, text, start⟩ := exists_start i
  rw [text, List.cons_append] at read ⊢
  rw [tree?, skipBlank_cons (skipBlank_start start)]
  split
  case h_7 =>
    rw [read]
    rfl
  -- no other value starts like a number
  all_goals
    rename_i first
    injection first with same
    subst same
    rcases start with start | start <;> cases start

theorem tree?_string (s : String) :
    tree? (fuel + 1) (chars (.string s) ++ rest) = some (.string s, rest) := by
  have read := stringAfterQuote?_escaped s rest
  rw [chars_string, tree?, List.cons_append, skipBlank_cons rfl]
  simp only [List.append_assoc, List.cons_append, List.nil_append, read, Option.map_some]

/-- What is read back in at most `fuel` nested steps: values, and items and members up to the end
of the array or object that they are in. -/
structure ReadsBack (fuel : Nat) : Prop where
  value : ∀ {j : Json} {t : Tree} {rest : List Char}, j.spelling? = some t →
    (chars j).length ≤ fuel → EndsValue rest → tree? fuel (chars j ++ rest) = some (t, rest)
  items : ∀ {items : List Json} {ts : List Tree} (rest : List Char), items ≠ [] →
    itemSpellings? items = some ts → (itemChars items).length < fuel →
    items? fuel (itemChars items ++ ']' :: rest) = some (ts, rest)
  members : ∀ {members : List (String × Json)} {ts : List (Option String × Tree)}
    (rest : List Char), members ≠ [] → memberSpellings? members = some ts →
    (memberChars members).length < fuel →
    members? fuel (memberChars members ++ '\x7d' :: rest) = some (ts, rest)

/-- Items start as the first of them. -/
theorem opensValue_itemChars {item : Json} (more : List Json) {t : Tree}
    (spelled : item.spelling? = some t) : OpensValue (itemChars (item :: more)) := by
  obtain ⟨c, tail, text, opens⟩ := opensValue_chars spelled
  cases more with
  | nil => exact ⟨c, tail, by rw [itemChars_singleton, text], opens⟩
  | cons next more => exact ⟨c, _, by rw [itemChars_cons, text]; rfl, opens⟩

namespace ReadsBack

variable (reads : ReadsBack fuel)
include reads

theorem array {items : List Json} {t : Tree} (spelled : (Json.array items).spelling? = some t)
    (enough : (chars (.array items)).length ≤ fuel + 1) :
    tree? (fuel + 1) (chars (.array items) ++ rest) = some (t, rest) := by
  rw [spelling?, Option.map_eq_some_iff] at spelled
  obtain ⟨ts, spelled, rfl⟩ := spelled
  rw [chars_array, List.length_cons, List.length_append, List.length_singleton] at enough
  cases items with
  | nil =>
    cases spelled
    rfl
  | cons item more =>
    have inside := reads.items rest (List.cons_ne_nil _ _) spelled (by omega)
    obtain ⟨first, spelledFirst, -⟩ := Option.bind_eq_some_iff.1 spelled
    obtain ⟨c, tail, text, solid, inner⟩ := opensValue_itemChars more spelledFirst
    rw [chars_array, tree?, List.cons_append, skipBlank_cons rfl]
    simp only [List.append_assoc, List.cons_append, List.nil_append]
    rw [text, List.cons_append] at inside ⊢
    rw [skipBlank_cons solid]
    split
    · rename_i closed
      injection closed with same
      exact absurd same inner
    · rw [inside]
      rfl

theorem object {members : List (String × Json)} {t : Tree}
    (spelled : (Json.object members).spelling? = some t)
    (enough : (chars (.object members)).length ≤ fuel + 1) :
    tree? (fuel + 1) (chars (.object members) ++ rest) = some (t, rest) := by
  rw [spelling?, Option.map_eq_some_iff] at spelled
  obtain ⟨ts, spelled, rfl⟩ := spelled
  rw [chars_object, List.length_cons, List.length_append, List.length_singleton] at enough
  cases members with
  | nil =>
    cases spelled
    rfl
  | cons member more =>
    have inside := reads.members rest (List.cons_ne_nil _ _) spelled (by omega)
    obtain ⟨tail, text⟩ : ∃ tail, memberChars (member :: more) = '\x22' :: tail := ⟨_, rfl⟩
    rw [chars_object, tree?, List.cons_append, skipBlank_cons rfl]
    simp only [List.append_assoc, List.cons_append, List.nil_append]
    rw [text, List.cons_append] at inside ⊢
    rw [skipBlank_cons rfl]
    rw [inside]
    rfl

theorem value_succ {j : Json} {t : Tree} (spelled : j.spelling? = some t)
    (enough : (chars j).length ≤ fuel + 1) (ends : EndsValue rest) :
    tree? (fuel + 1) (chars j ++ rest) = some (t, rest) := by
  match j, spelled with
  | .null, rfl => rfl
  | .bool true, rfl => rfl
  | .bool false, rfl => rfl
  | .number (.integer i), rfl =>
    have flat : chars (.number (.integer i)) = decimalInt i := by simp [chars, pieces, Number.text]
    exact flat ▸ tree?_decimalInt i ends
  | .string s, rfl => exact tree?_string s
  | .array items, spelled => exact reads.array spelled enough
  | .object members, spelled => exact reads.object spelled enough

theorem items_succ {items : List Json} {ts : List Tree} (nonempty : items ≠ [])
    (spelled : itemSpellings? items = some ts) (enough : (itemChars items).length < fuel + 1) :
    items? (fuel + 1) (itemChars items ++ ']' :: rest) = some (ts, rest) := by
  match items, nonempty with
  | item :: more, _ =>
    obtain ⟨t, spelledFirst, spelled⟩ := Option.bind_eq_some_iff.1 spelled
    obtain ⟨ts, spelledMore, spelled⟩ := Option.bind_eq_some_iff.1 spelled
    cases spelled
    cases more with
    | nil =>
      cases spelledMore
      rw [itemChars_singleton] at enough ⊢
      have first := reads.value spelledFirst (by omega) (endsValue_cons (c := ']') (by decide) rest)
      rw [items?, first]
      rfl
    | cons next more =>
      rw [itemChars_cons, List.length_append, List.length_cons] at enough
      have later := reads.items rest (List.cons_ne_nil _ _) spelledMore (by omega)
      have first := reads.value spelledFirst (by omega)
        (endsValue_cons (c := ',') (by decide) (itemChars (next :: more) ++ ']' :: rest))
      rw [itemChars_cons, List.append_assoc, List.cons_append, items?, first]
      simp only [Option.bind_eq_bind, Option.bind_some, skipBlank_cons (c := ',') rfl, later]

theorem members_succ {members : List (String × Json)} {ts : List (Option String × Tree)}
    (nonempty : members ≠ []) (spelled : memberSpellings? members = some ts)
    (enough : (memberChars members).length < fuel + 1) :
    members? (fuel + 1) (memberChars members ++ '\x7d' :: rest) = some (ts, rest) := by
  match members, nonempty with
  | (key, value) :: more, _ =>
    obtain ⟨t, spelledFirst, spelled⟩ := Option.bind_eq_some_iff.1 spelled
    obtain ⟨ts, spelledMore, spelled⟩ := Option.bind_eq_some_iff.1 spelled
    cases spelled
    cases more with
    | nil =>
      cases spelledMore
      rw [memberChars_singleton] at enough ⊢
      simp only [List.length_append, List.length_cons] at enough
      have first := reads.value spelledFirst (by omega)
        (endsValue_cons (c := '\x7d') (by decide) rest)
      simp only [List.cons_append, List.append_assoc]
      rw [members?, skipBlank_cons rfl]
      simp only [stringAfterQuote?_escaped, Option.bind_eq_bind, Option.bind_some,
        skipBlank_cons (c := ':') rfl, first, skipBlank_cons (c := '\x7d') rfl]
    | cons next more =>
      rw [memberChars_cons] at enough ⊢
      simp only [List.length_append, List.length_cons] at enough
      have later := reads.members rest (List.cons_ne_nil _ _) spelledMore (by omega)
      have first := reads.value spelledFirst (by omega)
        (endsValue_cons (c := ',') (by decide) (memberChars (next :: more) ++ '\x7d' :: rest))
      simp only [List.cons_append, List.append_assoc]
      rw [members?, skipBlank_cons rfl]
      simp only [stringAfterQuote?_escaped, Option.bind_eq_bind, Option.bind_some,
        skipBlank_cons (c := ':') rfl, first, skipBlank_cons (c := ',') rfl, later]

end ReadsBack

/-- Everything is read back, in as many steps as its text has characters. -/
theorem readsBack (fuel : Nat) : ReadsBack fuel := by
  induction fuel with
  | zero =>
    refine ⟨fun spelled short _ => ?_, fun _ _ _ short => ?_, fun _ _ _ short => ?_⟩
    · obtain ⟨c, tail, text, -⟩ := opensValue_chars spelled
      rw [text] at short
      cases short
    · cases short
    · cases short
  | succ fuel reads =>
    exact ⟨reads.value_succ, fun _ => reads.items_succ, fun _ => reads.members_succ⟩

/-- **The compact text of a value is read by its structure.** -/
theorem Tree.ofText?_compact {j : Json} {t : Tree} (spelled : j.spelling? = some t) :
    Tree.ofText? j.compact = some t := by
  have read := (readsBack ((chars j).length + 1)).value spelled (by omega) endsValue_nil
  rw [List.append_nil] at read
  have text : j.compact.toList = chars j := String.toList_ofList
  simp only [Tree.ofText?, text, read]
  rfl

end Values

end AisFeed.Json
