import AisFeed.Proofs.Text.Numeral
import AisFeed.Proofs.Time.Calendar
import AisFeed.Time.Timestamp

/-!
# Times are read as they are written

`Time.ofText?_rfc3339`: the text of a time names that time, leap seconds and years of any sign and
length included. Each part of the text is read back in front of what follows it, so the parts need
only be put in a row. Texts name the same time in many other spellings; those are not written.
-/

set_option autoImplicit false

namespace AisFeed

open Text

/-! ## Where years lie -/

namespace Time

theorem date_year_le_iff {t : Time} {year : Int} :
    t.date.year ≤ year ↔ t.seconds < Date.toDays ⟨year + 1, 1, 1⟩ * 86400 := by
  rw [date, Date.year_ofDays_le_iff]
  omega

/-- The range of times is that of whole years of the calendar. -/
theorem inCalendar_date (t : Time) : inCalendar t.date.year = true := by
  have low := @date_year_le_iff t (-262144)
  have high := @date_year_le_iff t 262142
  have first : Date.toDays ⟨-262144 + 1, 1, 1⟩ = -96465292 := by decide
  have last : Date.toDays ⟨262142 + 1, 1, 1⟩ = 95026237 := by decide
  rw [first] at low
  rw [last] at high
  have lower := t.lower
  have upper := t.upper
  simp only [inCalendar, Bool.decide_and, Bool.and_eq_true, decide_eq_true_eq]
  omega

end Time

/-! ## Parts of a text -/

namespace Text

theorem isBlank_of_isDigit {c : Char} (digit : c.isDigit = true) : isBlank c = false := by
  simp only [Char.isDigit, Bool.and_eq_true, decide_eq_true_eq] at digit
  have low : 48 ≤ c.toNat := digit.1
  have high : c.toNat ≤ 57 := digit.2
  simp [isBlank, blankRanges]
  omega

theorem trimStart_cons {c : Char} (solid : isBlank c = false) (rest : List Char) :
    trimStart (c :: rest) = c :: rest :=
  List.dropWhile_cons_of_neg (by simp [solid])

theorem trimStart_decimalPadded (width n : Nat) (rest : List Char) :
    trimStart (decimalPadded width n ++ rest) = decimalPadded width n ++ rest := by
  obtain ⟨c, cs, digits, digit⟩ := exists_digit_decimalPadded width n
  rw [digits]
  exact trimStart_cons (isBlank_of_isDigit digit) _

end Text

namespace Time

/-- Digits that end where no more are looked for, or where none follows. -/
theorem digits?_decimalPadded {most width n : Nat} {rest : List Char}
    (fits : (decimalPadded width n).length ≤ most)
    (ends : EndsDigits (rest.take (most - (decimalPadded width n).length))) :
    digits? most (decimalPadded width n ++ rest) = some (n, rest) := by
  have run := (takeWhile_decimalPadded width n ends).1
  have looked : (decimalPadded width n ++ rest).take most =
      decimalPadded width n ++ rest.take (most - (decimalPadded width n).length) := by
    rw [List.take_append, List.take_of_length_le fits]
  rw [digits?, looked, run, if_neg (by simpa using decimalPadded_ne_nil width n),
    ofDecimal_decimalPadded, List.drop_left]

/-- Numbers of two digits, whatever follows. -/
theorem pair?_decimalPadded {n : Nat} (small : n < 100) (rest : List Char) :
    pair? (decimalPadded 2 n ++ rest) = some (n, rest) := by
  have two : (decimalPadded 2 n).length = 2 := length_decimalPadded (by decide) small
  rw [pair?, trimStart_decimalPadded]
  apply digits?_decimalPadded
  · omega
  · rw [two]
    exact fun c none => nomatch none

theorem mark?_cons {c : Char} (solid : isBlank c = false) (rest : List Char) :
    mark? c (c :: rest) = some rest := by
  rw [mark?, trimStart_cons solid]
  exact if_pos rfl

theorem endsDigits_dash (rest : List Char) (n : Nat) : EndsDigits (('-' :: rest).take n) := by
  intro c first
  cases n with
  | zero => cases first
  | succ n =>
    cases first
    rfl

/-- A year without a sign: its digits are taken for nothing else. -/
theorem year?_unsigned {n : Nat} (small : n < 10000) (rest : List Char) :
    year? (decimalPadded 4 n ++ '-' :: rest) = some ((n : Int), '-' :: rest) := by
  have four : (decimalPadded 4 n).length = 4 := length_decimalPadded (by decide) small
  have read : digits? 4 (decimalPadded 4 n ++ '-' :: rest) = some (n, '-' :: rest) :=
    digits?_decimalPadded (by omega) (endsDigits_dash rest _)
  rw [year?, trimStart_decimalPadded]
  obtain ⟨c, cs, digits, digit⟩ := exists_digit_decimalPadded 4 n
  rw [digits, List.cons_append] at read ⊢
  split
  · rename_i sign
    injection sign with same
    subst same
    cases digit
  · rename_i sign
    injection sign with same
    subst same
    cases digit
  · rw [read]
    rfl

/-- A year with a sign, which stands before a dash. -/
theorem year?_signed (n : Nat) (rest : List Char) :
    year? ('-' :: (decimalPadded 4 n ++ '-' :: rest)) = some (-(n : Int), '-' :: rest) ∧
      year? ('+' :: (decimalPadded 4 n ++ '-' :: rest)) = some ((n : Int), '-' :: rest) := by
  have read : digits? (decimalPadded 4 n ++ '-' :: rest).length
      (decimalPadded 4 n ++ '-' :: rest) = some (n, '-' :: rest) :=
    digits?_decimalPadded (by simp) (endsDigits_dash rest _)
  constructor
  · rw [year?, trimStart_cons (by decide)]
    simp only [read, Option.map_some]
  · rw [year?, trimStart_cons (by decide)]
    simp only [read, Option.map_some]

theorem year?_yearText (year : Int) (rest : List Char) :
    year? (Date.yearText year ++ '-' :: rest) = some (year, '-' :: rest) := by
  unfold Date.yearText
  split
  · rename_i short
    rw [year?_unsigned (by omega), Int.toNat_of_nonneg short.1]
  · obtain ⟨negative, positive⟩ := year?_signed year.natAbs rest
    rw [List.cons_append]
    split
    · rename_i below
      rw [negative]
      congr 2
      omega
    · rename_i above
      rw [positive]
      congr 2
      omega

/-- A date of the calendar, whatever follows. -/
theorem date?_text {d : Date} (valid : d.isValid = true) (rest : List Char) :
    date? (d.text ++ rest) = some (d, rest) := by
  simp only [Date.isValid, Bool.decide_and, Bool.and_eq_true, decide_eq_true_eq] at valid
  obtain ⟨-, months, -, days⟩ := valid
  have short : d.day ≤ 31 := by
    have longest : Date.daysIn d.year d.month ≤ 31 := by
      unfold Date.daysIn
      repeat' split
      all_goals decide
    omega
  have dash : isBlank '-' = false := by decide
  simp only [date?, Date.text, List.append_assoc, List.cons_append, List.nil_append]
  rw [year?_yearText]
  simp only [Option.bind_eq_bind, Option.bind_some, mark?_cons dash]
  rw [pair?_decimalPadded (by omega)]
  simp only [Option.bind_some, mark?_cons dash]
  rw [pair?_decimalPadded (by omega), Option.bind_some]

/-! ## The clock -/

/-- Digits after a point, at most nine of them. -/
theorem fraction?_point {width n : Nat} {rest : List Char} (positive : 0 < width)
    (nine : width ≤ 9) (small : n < 10 ^ width) (ends : EndsDigits rest) :
    fraction? ('.' :: (decimalPadded width n ++ rest)) = some (n * 10 ^ (9 - width), rest) := by
  have long := length_decimalPadded positive small
  obtain ⟨run, after⟩ := takeWhile_decimalPadded width n ends
  have all : (decimalPadded width n).take 9 = decimalPadded width n :=
    List.take_of_length_le (by omega)
  simp only [fraction?, run, after, all, long, ofDecimal_decimalPadded]
  rw [if_neg (by simpa using decimalPadded_ne_nil width n)]
  rfl

theorem fraction?_fractionText (t : Time) :
    fraction? (t.fractionText ++ ['Z']) = some (t.nanos % 1000000000, ['Z']) := by
  have ends : EndsDigits ['Z'] := by
    intro c first
    cases first
    rfl
  have bound : t.nanos % 1000000000 < 1000000000 := Nat.mod_lt _ (by decide)
  simp only [fractionText]
  generalize t.nanos % 1000000000 = n at bound
  split
  · rename_i zero
    rw [zero]
    rfl
  -- milliseconds, microseconds and nanoseconds differ in the width of the fraction only
  split
  on_goal 2 => split
  all_goals
    rw [List.cons_append, fraction?_point (by decide) (by decide) (by omega) ends]
    congr 2
    omega

theorem secondOfDay_lt (t : Time) : t.secondOfDay < 86400 := by
  unfold secondOfDay
  omega

/-- The clock of a time, a leap second included. -/
theorem clock?_clockText (t : Time) :
    clock? (t.clockText ++ (t.fractionText ++ ['Z'])) = some (t.secondOfDay, t.nanos, ['Z']) := by
  have inDay := t.secondOfDay_lt
  have colon : isBlank ':' = false := by decide
  have leap : 1000000000 ≤ t.nanos → t.secondOfDay % 60 = 59 := by
    intro long
    have last := t.leap long
    unfold secondOfDay
    omega
  have below := t.nanos_lt
  simp only [clock?, clockText, List.append_assoc, List.cons_append, List.nil_append]
  rw [pair?_decimalPadded (by omega)]
  simp only [Option.bind_eq_bind, Option.bind_some, mark?_cons colon]
  rw [pair?_decimalPadded (by omega)]
  simp only [Option.bind_some, mark?_cons colon]
  rw [pair?_decimalPadded (by split <;> omega), Option.bind_some, fraction?_fractionText,
    Option.bind_some]
  by_cases plain : t.nanos < 1000000000
  · rw [if_pos plain, if_pos (by omega), if_neg (by omega), Nat.mod_eq_of_lt plain]
    congr 2
    omega
  · have last := leap (by omega)
    rw [if_neg plain, if_pos (by omega), if_pos (by omega)]
    congr 2
    · omega
    · congr 1
      omega

/-- **A time is read from its text.** -/
@[simp] theorem ofText?_rfc3339 (t : Time) : ofText? t.rfc3339 = some t := by
  have date := date?_text (Date.isValid_ofDays (t.seconds / 86400))
    ('T' :: (t.clockText ++ (t.fractionText ++ ['Z'])))
  have zone : offset? (trimStart ['Z']) = some (0, []) := by decide
  have whole : (Date.ofDays (t.seconds / 86400)).toDays * 86400 + t.secondOfDay - 0 =
      t.seconds := by
    rw [Date.toDays_ofDays, secondOfDay]
    omega
  simp only [ofText?, rfc3339, String.toList_ofList, List.append_assoc, List.cons_append,
    List.nil_append]
  rw [Time.date, date]
  simp only [Option.bind_eq_bind, Option.bind_some, true_or, if_true, clock?_clockText, zone]
  rw [if_pos ⟨Date.isValid_ofDays _, t.inCalendar_date, rfl⟩, whole]
  exact of?_eq_some_iff.2 ⟨rfl, rfl⟩

end Time

end AisFeed
