import AisFeed.Output.CsvLog
import AisFeed.Proofs.Text.Numeral
import AisFeed.Proofs.Text.Parts
import AisFeed.Proofs.Time.Order
import Mathlib.Algebra.Order.Field.Rat
import Mathlib.Tactic.Linarith
import Mathlib.Tactic.NormNum
import Mathlib.Tactic.Ring

/-!
# Times in rows

Every row starts with a time: the whole seconds, rounded down, and after a point what the time is
past them. Before 1970 the whole seconds have a sign, which a reader takes to belong to the fraction
as well. So the column is the time exactly if it is not before 1970 or has no microseconds, and no
leap second (`timeColumn_right_iff`), and two times of one second before 1970 stand in the
wrong order.
-/

set_option autoImplicit false

namespace AisFeed

open Text

/-! ## Numbers with a point -/

/-- A number with a point: its sign, the number before the point and the digits behind it. -/
structure FixedPoint where
  isNegative : Bool
  whole : Nat
  fraction : List Char
  deriving DecidableEq, Repr

namespace FixedPoint

/-- Are these digits, and at least one? -/
def isNumeral (text : List Char) : Bool :=
  !text.isEmpty && text.all Char.isDigit

/-- Read digits, a point and digits, behind a sign if there was one. -/
def unsigned? (isNegative : Bool) (text : List Char) : Option FixedPoint :=
  match cutAt? '.' text with
  | none => none
  | some (whole, fraction) =>
    if isNumeral whole && isNumeral fraction then some ⟨isNegative, ofDecimal whole, fraction⟩
    else none

/-- Read a number with a point. -/
def ofText? : List Char → Option FixedPoint
  | '-' :: text => unsigned? true text
  | text => unsigned? false text

/-- The number that is spelled. The sign belongs to all of it. -/
def value (x : FixedPoint) : ℚ :=
  (if x.isNegative then -1 else 1) * (x.whole + ofDecimal x.fraction / 10 ^ x.fraction.length)

/-- The number in front of the point with its sign. -/
def signed (x : FixedPoint) : Int :=
  if x.isNegative then -x.whole else x.whole

theorem signed_natAbs (i : Int) (fraction : List Char) :
    signed ⟨decide (i < 0), i.natAbs, fraction⟩ = i := by
  unfold signed
  by_cases negative : i < 0
  · rw [decide_eq_true negative, if_pos rfl, Int.ofNat_natAbs_of_nonpos (by omega), Int.neg_neg]
  · rw [decide_eq_false negative, if_neg Bool.false_ne_true, Int.natAbs_of_nonneg (by omega)]

theorem isNumeral_iff {text : List Char} :
    isNumeral text = true ↔ text ≠ [] ∧ ∀ c ∈ text, c.isDigit = true := by
  simp [isNumeral]

theorem isNumeral_decimal (n : Nat) : isNumeral (decimal n) = true :=
  isNumeral_iff.2 ⟨decimal_ne_nil n, fun _ => isDigit_of_mem_decimal⟩

theorem isNumeral_decimalPadded (width n : Nat) : isNumeral (decimalPadded width n) = true :=
  isNumeral_iff.2 ⟨decimalPadded_ne_nil width n, fun _ => isDigit_of_mem_decimalPadded⟩

theorem unsigned?_decimal (isNegative : Bool) (n : Nat) {fraction : List Char}
    (digits : isNumeral fraction = true) :
    unsigned? isNegative (decimal n ++ '.' :: fraction) = some ⟨isNegative, n, fraction⟩ := by
  have pointless : '.' ∉ decimal n := fun mem => by cases isDigit_of_mem_decimal mem
  rw [unsigned?, cutAt?_append pointless]
  dsimp only
  rw [isNumeral_decimal, digits, Bool.and_self, if_pos rfl, ofDecimal_decimal]

/-- An integer, a point and digits are read as they are spelled. -/
theorem ofText?_decimalInt (i : Int) {fraction : List Char} (digits : isNumeral fraction = true) :
    ofText? (decimalInt i ++ '.' :: fraction) = some ⟨decide (i < 0), i.natAbs, fraction⟩ := by
  unfold decimalInt
  by_cases negative : i < 0
  · rw [if_pos negative, decide_eq_true negative, List.cons_append, ofText?,
      unsigned?_decimal true _ digits]
  · have unsigned : ∀ text, decimal i.natAbs ++ '.' :: fraction ≠ '-' :: text := by
      obtain ⟨c, rest, spelled, digit⟩ := exists_digit i.natAbs
      rw [spelled]
      rintro text same
      cases (List.cons.inj same).1
      cases digit
    rw [if_neg negative, decide_eq_false negative, ofText?.eq_2 _ unsigned,
      unsigned?_decimal false _ digits]

end FixedPoint

/-! ## The column of a time -/

/-- The number at the start of a row, up to the first comma. -/
def timeColumn? (row : List Char) : Option ℚ :=
  (FixedPoint.ofText? (row.takeWhile (· ≠ ','))).map FixedPoint.value

namespace Time

/-- The seconds since the start of 1970, rounded down to a microsecond. -/
def roundedSeconds (t : Time) : ℚ :=
  (t.instant / 1000 : Int) / 1000000

/-- The microseconds of a time past its second. -/
def micros (t : Time) : Nat :=
  t.nanos / 1000

/-- What the digits behind the point of a column say. There is one more in a leap second. -/
def shownFraction (t : Time) : ℚ :=
  t.micros / if t.nanos < 1000000000 then 1000000 else 10000000

/-- The number that a column says. -/
def shown (t : Time) : ℚ :=
  if 0 ≤ t.seconds then t.seconds + t.shownFraction else t.seconds - t.shownFraction

/-- A column is an integer, a point and digits. -/
theorem epochText_eq (t : Time) :
    t.epochText = decimalInt t.seconds ++ '.' :: decimalPadded 6 t.micros := by
  rw [epochText, List.append_assoc]
  rfl

theorem not_mem_epochText {c : Char} (notDigit : c.isDigit = false) (notSign : c ≠ '-')
    (notPoint : c ≠ '.') (t : Time) : c ∉ t.epochText := by
  rw [epochText_eq, List.mem_append, List.mem_cons]
  rintro (mem | rfl | mem)
  · unfold decimalInt at mem
    split at mem
    · rcases List.mem_cons.1 mem with rfl | mem
      · exact notSign rfl
      · rw [isDigit_of_mem_decimal mem] at notDigit
        cases notDigit
    · rw [isDigit_of_mem_decimal mem] at notDigit
      cases notDigit
  · exact notPoint rfl
  · rw [isDigit_of_mem_decimalPadded mem] at notDigit
    cases notDigit

/-- A second has less than a million microseconds, unless it is a leap second. -/
theorem micros_bounds (t : Time) :
    (t.nanos < 1000000000 → t.micros < 1000000) ∧
      (1000000000 ≤ t.nanos → 1000000 ≤ t.micros ∧ t.micros < 2000000) := by
  have less := t.nanos_lt
  unfold micros
  omega

/-- Six digits stand behind the point, in a leap second seven. -/
theorem length_fraction (t : Time) :
    (decimalPadded 6 t.micros).length = if t.nanos < 1000000000 then 6 else 7 := by
  have bounds := t.micros_bounds
  split
  · rename_i ordinary
    exact length_decimalPadded (by decide) (bounds.1 ordinary)
  · rename_i leap
    obtain ⟨least, most⟩ := bounds.2 (Nat.not_lt.1 leap)
    have seven : (decimal t.micros).length ≤ 7 := length_decimal_le (by decide) (by omega)
    have six : ¬(decimal t.micros).length ≤ 6 := by
      rw [decimal, Nat.length_toDigits_le_iff (by decide) (by decide)]
      omega
    rw [decimalPadded, padLeft, List.length_append, List.length_replicate]
    omega

/-- A column is read as the number that it shows. -/
theorem value_epochText (t : Time) :
    (FixedPoint.ofText? t.epochText).map FixedPoint.value = some t.shown := by
  have scale : (10 : ℚ) ^ (if t.nanos < 1000000000 then 6 else 7) =
      if t.nanos < 1000000000 then 1000000 else 10000000 := by
    split <;> norm_num
  rw [epochText_eq, FixedPoint.ofText?_decimalInt _ (FixedPoint.isNumeral_decimalPadded _ _),
    Option.map_some, FixedPoint.value, ofDecimal_decimalPadded, length_fraction, scale, shown,
    shownFraction]
  by_cases before : t.seconds < 0
  · have size : ((t.seconds.natAbs : Nat) : ℚ) = -t.seconds := by
      rw [Nat.cast_natAbs, abs_of_neg before, Int.cast_neg]
    rw [if_neg (Int.not_le.2 before), decide_eq_true before, if_pos rfl, size]
    ring_nf
  · have size : ((t.seconds.natAbs : Nat) : ℚ) = t.seconds := by
      rw [Nat.cast_natAbs, abs_of_nonneg (Int.not_lt.1 before)]
    rw [if_pos (Int.not_lt.1 before), decide_eq_false before, if_neg Bool.false_ne_true, size,
      one_mul]

theorem timeColumn?_epochText (t : Time) (rest : List Char) :
    timeColumn? (t.epochText ++ ',' :: rest) = some t.shown := by
  have commaless : ',' ∉ t.epochText := not_mem_epochText (by decide) (by decide) (by decide) t
  have all : ∀ c ∈ t.epochText, decide (c ≠ ',') = true := by
    intro c mem
    exact decide_eq_true fun same => commaless (same ▸ mem)
  rw [timeColumn?, List.takeWhile_append_of_pos all, List.takeWhile_cons_of_neg (by simp),
    List.append_nil, value_epochText]

/-! ## What a column shows and what the time is -/

theorem shownFraction_of_lt {t : Time} (ordinary : t.nanos < 1000000000) :
    t.shownFraction = t.micros / 1000000 := by
  rw [shownFraction, if_pos ordinary]

theorem shownFraction_of_leap {t : Time} (leap : 1000000000 ≤ t.nanos) :
    t.shownFraction = t.micros / 10000000 := by
  rw [shownFraction, if_neg (Nat.not_lt.2 leap)]

/-- A fraction is less than one, and in a leap second even less than a half. -/
theorem shownFraction_bounds (t : Time) :
    0 ≤ t.shownFraction ∧ t.shownFraction < 1 ∧
      (1000000000 ≤ t.nanos → t.shownFraction < 1 / 2) := by
  by_cases ordinary : t.nanos < 1000000000
  · have micros : (t.micros : ℚ) < 1000000 := by exact_mod_cast t.micros_bounds.1 ordinary
    rw [shownFraction_of_lt ordinary]
    exact ⟨div_nonneg (Nat.cast_nonneg _) (by norm_num), by linarith,
      fun leap => absurd ordinary (Nat.not_lt.2 leap)⟩
  · have leap := Nat.not_lt.1 ordinary
    have micros : (t.micros : ℚ) < 2000000 := by exact_mod_cast (t.micros_bounds.2 leap).2
    rw [shownFraction_of_leap leap]
    exact ⟨div_nonneg (Nat.cast_nonneg _) (by norm_num), by linarith, fun _ => by linarith⟩

/-- Outside of leap seconds the seconds are rounded down by leaving out what is less than a
microsecond. -/
theorem roundedSeconds_of_lt {t : Time} (ordinary : t.nanos < 1000000000) :
    t.roundedSeconds = t.seconds + t.shownFraction := by
  have floor : t.instant / 1000 = t.seconds * 1000000 + t.micros := by
    unfold instant micros
    omega
  rw [roundedSeconds, floor, shownFraction_of_lt ordinary]
  push_cast
  ring

/-- A leap second runs on into the second that follows, but a column shows less. -/
theorem shown_ne_of_leap {t : Time} (leap : 1000000000 ≤ t.nanos) : t.shown ≠ t.roundedSeconds := by
  obtain ⟨least, -, half⟩ := t.shownFraction_bounds
  have small := half leap
  have floor : t.seconds * 1000000 + 1000000 ≤ t.instant / 1000 := by
    unfold instant
    omega
  have late : (t.seconds : ℚ) * 1000000 + 1000000 ≤ (t.instant / 1000 : Int) := by
    exact_mod_cast floor
  rw [roundedSeconds, shown]
  split <;> intro same <;> linarith

/-- A column is the time exactly if it is not before 1970 or there are no microseconds. -/
theorem shown_eq_iff (t : Time) :
    t.shown = t.roundedSeconds ↔ t.nanos < 1000000000 ∧ (0 ≤ t.seconds ∨ t.nanos < 1000) := by
  by_cases ordinary : t.nanos < 1000000000
  · rw [roundedSeconds_of_lt ordinary, shown]
    by_cases late : 0 ≤ t.seconds
    · simp [late, ordinary]
    · have none : t.shownFraction = 0 ↔ t.nanos < 1000 := by
        rw [shownFraction_of_lt ordinary, div_eq_zero_iff, Nat.cast_eq_zero]
        unfold micros
        norm_num
      rw [if_neg late]
      constructor
      · intro same
        exact ⟨ordinary, Or.inr (none.1 (by linarith))⟩
      · rintro ⟨-, late' | few⟩
        · exact absurd late' late
        · rw [none.2 few]
          ring
  · constructor
    · intro same
      exact absurd same (shown_ne_of_leap (Nat.not_lt.1 ordinary))
    · intro right
      exact absurd right.1 ordinary

/-- Two columns contradict the order of their times exactly if the times are of one second and the
fractions are in the wrong order, which before 1970 is the order of the times. -/
theorem shown_lt_iff {t u : Time} (before : t < u) :
    u.shown < t.shown ↔ t.seconds = u.seconds ∧
      if 0 ≤ t.seconds then u.shownFraction < t.shownFraction
      else t.shownFraction < u.shownFraction := by
  obtain ⟨least, most, -⟩ := t.shownFraction_bounds
  obtain ⟨least', most', -⟩ := u.shownFraction_bounds
  rcases lt_iff.1 before with earlier | ⟨same, -⟩
  · have apart : (t.seconds : ℚ) + 1 ≤ u.seconds := by exact_mod_cast earlier
    have order : t.shown ≤ u.shown := by
      unfold shown
      split <;> split
      · linarith
      · omega
      · linarith
      · linarith
    constructor
    · intro wrong
      exact absurd wrong (not_lt.2 order)
    · rintro ⟨same, -⟩
      omega
  · unfold shown
    rw [← same]
    split
    · simp
    · simp

theorem roundedSeconds_mono {t u : Time} (ordinary : t.isLeap = false) (h : t ≤ u) :
    t.roundedSeconds ≤ u.roundedSeconds := by
  have micros : t.instant / 1000 ≤ u.instant / 1000 :=
    Int.ediv_le_ediv (by decide) (instant_mono ordinary h)
  have order : ((t.instant / 1000 : Int) : ℚ) ≤ (u.instant / 1000 : Int) := Int.cast_le.2 micros
  unfold roundedSeconds
  linarith

end Time

/-! ## Rows -/

theorem Record.timeColumn?_csvRow (r : Record) :
    timeColumn? r.csvRow = some r.receivedAt.shown := by
  simp only [csvRow, List.append_assoc, List.singleton_append]
  exact Time.timeColumn?_epochText _ _

theorem Message.timeColumn?_csvRow (m : Message) :
    timeColumn? m.csvRow = some m.receivedAt.shown := by
  simp only [csvRow, List.append_assoc, List.singleton_append]
  exact Time.timeColumn?_epochText _ _

/-- **When the column of a time is the time.** Every row of a record or a message starts with a
number. It is the time in seconds, rounded down to a microsecond, exactly if the time is in no leap
second and either not before 1970 or less than a microsecond past its second. Columns that are right
never contradict the order of the times. In general two columns contradict it exactly if the times
are of one second and their fractions are in the wrong order: in a leap second, or, before 1970,
whenever the column of the later time has the larger fraction. -/
theorem timeColumn_right_iff (t u : Time) :
    (∀ r : Record, r.receivedAt = t → timeColumn? r.csvRow = some t.shown) ∧
    (∀ m : Message, m.receivedAt = t → timeColumn? m.csvRow = some t.shown) ∧
    (t.shown = t.roundedSeconds ↔ t.nanos < 1000000000 ∧ (0 ≤ t.seconds ∨ t.nanos < 1000)) ∧
    (t ≤ u → t.shown = t.roundedSeconds → u.shown = u.roundedSeconds → t.shown ≤ u.shown) ∧
    (t < u → (u.shown < t.shown ↔ t.seconds = u.seconds ∧
      if 0 ≤ t.seconds then u.shownFraction < t.shownFraction
      else t.shownFraction < u.shownFraction)) := by
  refine ⟨?_, ?_, Time.shown_eq_iff t, ?_, Time.shown_lt_iff⟩
  · rintro r rfl
    exact r.timeColumn?_csvRow
  · rintro m rfl
    exact m.timeColumn?_csvRow
  · intro order right right'
    have ordinary : t.nanos < 1000000000 := ((Time.shown_eq_iff t).1 right).1
    rw [right, right']
    exact Time.roundedSeconds_mono (decide_eq_false (Nat.not_le.2 ordinary)) order

/-- A quarter of a second and half a second past the last second but one before 1970, and the start
of 1970. -/
theorem timeColumn_right_iff_around_epoch :
    let quarter : Time := ⟨-2, 250000000, by decide, by decide, by decide, by decide⟩
    let half : Time := ⟨-2, 500000000, by decide, by decide, by decide, by decide⟩
    let last : Time := ⟨-1, 0, by decide, by decide, by decide, by decide⟩
    timeColumn? (Record.ofBytes quarter []).csvRow = some quarter.shown ∧
      timeColumn? (Message.csvRow ⟨quarter, []⟩) = some quarter.shown ∧
      quarter < half ∧ half.shown < quarter.shown ∧ quarter.shown ≠ quarter.roundedSeconds ∧
      last ≤ .epoch ∧ last.shown = last.roundedSeconds ∧ last.shown ≤ Time.shown .epoch := by
  intro quarter half last
  obtain ⟨record, message, right, -, contradict⟩ := timeColumn_right_iff quarter half
  obtain ⟨-, -, right', agree, -⟩ := timeColumn_right_iff last .epoch
  have before : quarter < half := by decide
  have order : last ≤ .epoch := by decide
  have fractions : quarter.shownFraction < half.shownFraction := by
    norm_num [Time.shownFraction, Time.micros, quarter, half]
  have wrong : ¬(quarter.nanos < 1000000000 ∧ (0 ≤ quarter.seconds ∨ quarter.nanos < 1000)) := by
    decide
  have shown : last.shown = last.roundedSeconds := right'.2 (by decide)
  have shown' : Time.shown .epoch = Time.roundedSeconds .epoch :=
    (Time.shown_eq_iff .epoch).2 (by decide)
  exact ⟨record _ rfl, message _ rfl, before, (contradict before).2 ⟨rfl, fractions⟩,
    mt right.1 wrong, order, shown, agree order shown shown'⟩

/-- Half a second before 1970 a column says one and a half, and so less than the column of a time
that is a quarter of a second earlier. -/
theorem timeColumn_wrong_before_epoch :
    let earlier : Time := ⟨-1, 250000000, by decide, by decide, by decide, by decide⟩
    let later : Time := ⟨-1, 500000000, by decide, by decide, by decide, by decide⟩
    earlier < later ∧ later.roundedSeconds = -1 / 2 ∧
      timeColumn? (Record.ofBytes later []).csvRow = some (-3 / 2) ∧
      timeColumn? (Record.ofBytes earlier []).csvRow = some (-5 / 4) ∧ (-3 / 2 : ℚ) < -5 / 4 ∧
      ¬∀ r : Record, timeColumn? r.csvRow = some r.receivedAt.roundedSeconds := by
  intro earlier later
  have rounded : later.roundedSeconds = -1 / 2 := by
    norm_num [Time.roundedSeconds, Time.instant, later]
  have shown : timeColumn? (Record.ofBytes later []).csvRow = some (-3 / 2) := by
    rw [Record.timeColumn?_csvRow]
    norm_num [Record.ofBytes, Time.shown, Time.shownFraction, Time.micros, later]
  have shown' : timeColumn? (Record.ofBytes earlier []).csvRow = some (-5 / 4) := by
    rw [Record.timeColumn?_csvRow]
    norm_num [Record.ofBytes, Time.shown, Time.shownFraction, Time.micros, earlier]
  refine ⟨by decide, rounded, shown, shown', by norm_num, fun right => ?_⟩
  have same := (shown.symm.trans (right (Record.ofBytes later []))).trans (congrArg some rounded)
  norm_num at same

end AisFeed
