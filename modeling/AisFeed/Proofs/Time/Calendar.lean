import AisFeed.Time.Calendar
import Mathlib.Tactic.IntervalCases

/-!
# The dates of days

The date of a day is a date of the calendar (`Date.isValid_ofDays`), and its year is known from
the days on which years start (`Date.year_ofDays_le_iff`). Both rest on the fact that a day of the
four hundred year cycle is a day of one of its years (`Date.cycleYear_bounds`).
-/

set_option autoImplicit false

namespace AisFeed.Date

/-- The day before the first one of a year that is counted from March. -/
def marchStart (year : Int) : Int :=
  year * 365 + year / 4 - year / 100 + year / 400

theorem marchStart_eq (year : Int) :
    year / 400 * 146097 + daysBefore (year % 400) = marchStart year := by
  unfold daysBefore marchStart
  omega

theorem marchStart_succ_le (year : Int) : marchStart year + 365 ≤ marchStart (year + 1) := by
  unfold marchStart
  omega

/-- Each year has 365 days at least. -/
theorem marchStart_le {year later : Int} (h : year < later) :
    marchStart year + 365 ≤ marchStart later := by
  obtain ⟨n, rfl⟩ : ∃ n : Nat, later = year + 1 + n := ⟨(later - year - 1).toNat, by omega⟩
  clear h
  induction n with
  | zero => simpa using marchStart_succ_le year
  | succ n ih =>
    have next := marchStart_succ_le (year + 1 + n)
    have same : year + 1 + ((n + 1 : Nat) : Int) = year + 1 + n + 1 := by omega
    rw [same]
    omega

/-- The first of January is the 307th day of the year that started in March. -/
theorem toDays_january (year : Int) :
    toDays ⟨year + 1, 1, 1⟩ = marchStart year + 306 - 719468 := by
  have start := marchStart_eq year
  have same : year + 1 - 1 = year := by omega
  simp only [toDays, monthStart, if_pos (show 1 ≤ 2 by decide), same]
  omega

/-- The 366th day of a year that is counted from March is a leap day. -/
theorem isLeap_of_cycleYear {c : Int} (low : 0 ≤ c) (high : c < 146097)
    (last : c - daysBefore (cycleYear c) = 365) : isLeap (cycleYear c + 1) = true := by
  simp only [cycleYear, daysBefore] at last ⊢
  obtain ⟨century, hc⟩ : ∃ a, a = min (c / 36524) 3 := ⟨_, rfl⟩
  obtain ⟨four, hf⟩ : ∃ q, q = (c - 36524 * century) / 1461 := ⟨_, rfl⟩
  obtain ⟨year, hy⟩ : ∃ r, r = min ((c - 36524 * century) % 1461 / 365) 3 := ⟨_, rfl⟩
  rw [← hc, ← hf, ← hy] at last ⊢
  have hc0 : 0 ≤ century ∧ century ≤ 3 ∧ 0 ≤ c - 36524 * century ∧
      c - 36524 * century ≤ 36524 ∧ (century < 3 → c - 36524 * century < 36524) := by omega
  have hf0 : 0 ≤ four ∧ four ≤ 24 := by omega
  have hy0 : 0 ≤ year ∧ year ≤ 3 := by omega
  have e1 : (100 * century + 4 * four + year) / 4 = 25 * century + four := by omega
  have e2 : (100 * century + 4 * four + year) / 100 = century := by omega
  rw [e1, e2] at last
  have third : year = 3 := by omega
  have long : four = 24 → century = 3 := by omega
  subst third
  simp only [isLeap, Bool.decide_and, Bool.decide_or, Bool.and_eq_true, Bool.or_eq_true,
    decide_eq_true_eq]
  omega

/-- A day, as a day of a year that is counted from March. -/
theorem exists_march (days : Int) :
    ∃ year yearDay : Int, ofDays days = ofMarch year yearDay ∧ 0 ≤ yearDay ∧ yearDay ≤ 365 ∧
      days + 719468 = marchStart year + yearDay ∧ (yearDay = 365 → isLeap (year + 1) = true) := by
  have low : 0 ≤ (days + 719468) % 146097 := by omega
  have high : (days + 719468) % 146097 < 146097 := by omega
  obtain ⟨cycle0, cycle1, day0, day1⟩ := cycleYear_bounds low high
  have leap := isLeap_of_cycleYear low high
  refine ⟨_, _, rfl, day0, day1, ?_, fun last => ?_⟩
  · have start := marchStart_eq
      ((days + 719468) / 146097 * 400 + cycleYear ((days + 719468) % 146097))
    generalize cycleYear ((days + 719468) % 146097) = cycle at *
    have e1 : ((days + 719468) / 146097 * 400 + cycle) / 400 = (days + 719468) / 146097 := by omega
    have e2 : ((days + 719468) / 146097 * 400 + cycle) % 400 = cycle := by omega
    rw [e1, e2] at start
    omega
  · have ofCycle := leap last
    generalize cycleYear ((days + 719468) % 146097) = cycle at *
    simp only [isLeap, Bool.decide_and, Bool.decide_or, Bool.and_eq_true, Bool.or_eq_true,
      decide_eq_true_eq] at ofCycle ⊢
    omega

/-- The year of a day, by the days on which years start. -/
theorem year_ofDays_le_iff {days year : Int} :
    (ofDays days).year ≤ year ↔ days < toDays ⟨year + 1, 1, 1⟩ := by
  obtain ⟨march, yearDay, date, day0, day1, place, -⟩ := exists_march days
  rw [date, toDays_january]
  have january : (5 * yearDay + 2) / 153 ≤ 9 ↔ yearDay < 306 := by omega
  have before := fun h => @marchStart_le march year h
  have after := fun h => @marchStart_le year march h
  simp only [ofMarch]
  rcases Int.lt_trichotomy march year with h | rfl | h
  · have := before h
    split <;> omega
  · split <;> omega
  · have := after h
    split <;> omega

/-- The days of a month that is counted from March as month 0: so many days of the year come before
the next one. The last month ends with the year. -/
theorem le_daysIn {month day : Int} (low : 0 ≤ month) (high : month ≤ 10) (year : Int)
    (before : day < monthStart (month + 1)) :
    day - monthStart month + 1 ≤
      daysIn year (if month ≤ 9 then month + 3 else month - 9).toNat := by
  obtain ⟨n, rfl⟩ : ∃ n : Nat, month = n := ⟨month.toNat, by omega⟩
  have cases : n < 11 := by omega
  unfold monthStart at before ⊢
  interval_cases n <;> simp [daysIn] <;> omega

/-- **The date of a day is a date of the calendar.** -/
theorem isValid_ofDays (days : Int) : (ofDays days).isValid = true := by
  obtain ⟨march, yearDay, date, day0, day1, -, leap⟩ := exists_march days
  rw [date]
  obtain ⟨month, here⟩ : ∃ month, month = (5 * yearDay + 2) / 153 := ⟨_, rfl⟩
  have started : monthStart month ≤ yearDay := by unfold monthStart; omega
  have ends : yearDay < monthStart (month + 1) := by unfold monthStart; omega
  simp only [ofMarch, isValid, ← here, Bool.decide_and, Bool.and_eq_true, decide_eq_true_eq]
  refine ⟨by split <;> omega, by split <;> omega, by omega, ?_⟩
  by_cases february : month = 11
  · subst february
    simp only [daysIn, monthStart] at *
    by_cases last : yearDay = 365
    · simp [leap last]
      omega
    · simp
      split <;> omega
  · have short : month ≤ 10 := by omega
    have := le_daysIn (by omega) short (if month ≤ 9 then march else march + 1) ends
    omega

end AisFeed.Date
