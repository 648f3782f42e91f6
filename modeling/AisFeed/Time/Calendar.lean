/-!
# The calendar

Days since the start of 1970 as dates of the Gregorian calendar, extended to all years before
and after its adoption. Years are counted from March here, so that a leap day is the last day
of its year; four hundred years are always 146097 days. `toDays_ofDays` says that the date of a
day names that day.
-/

set_option autoImplicit false

namespace AisFeed

/-- A date: months are 1 to 12, days of the month start at 1. -/
structure Date where
  year : Int
  month : Nat
  day : Nat
  deriving DecidableEq, Repr

namespace Date

/-- Has the year a 29th of February? -/
def isLeap (year : Int) : Bool :=
  year % 4 = 0 ∧ (year % 100 ≠ 0 ∨ year % 400 = 0)

/-- The length of a month. -/
def daysIn (year : Int) (month : Nat) : Nat :=
  if month = 2 then (if isLeap year then 29 else 28)
  else if month = 4 ∨ month = 6 ∨ month = 9 ∨ month = 11 then 30
  else 31

/-- Is there such a day? -/
def isValid (d : Date) : Bool :=
  1 ≤ d.month ∧ d.month ≤ 12 ∧ 1 ≤ d.day ∧ d.day ≤ daysIn d.year d.month

/-- Days before a year of the four hundred year cycle, both counted from March. -/
def daysBefore (cycleYear : Int) : Int :=
  cycleYear * 365 + cycleYear / 4 - cycleYear / 100

/-- The year of the cycle in which a day of the cycle lies: centuries of 36524 days, in them
groups of four years of 1461 days, in them years of 365 days, the last of each the longest. -/
def cycleYear (cycleDay : Int) : Int :=
  let century := min (cycleDay / 36524) 3
  let ofCentury := cycleDay - 36524 * century
  let year := min (ofCentury % 1461 / 365) 3
  100 * century + 4 * (ofCentury / 1461) + year

/-- Days before a month, counted from March as month 0. -/
def monthStart (month : Int) : Int :=
  (153 * month + 2) / 5

/-- The date of a day of a year, both counted from March. -/
def ofMarch (year yearDay : Int) : Date :=
  let month := (5 * yearDay + 2) / 153
  { year := if month ≤ 9 then year else year + 1
    month := (if month ≤ 9 then month + 3 else month - 9).toNat
    day := (yearDay - monthStart month + 1).toNat }

/-- Days from the start of 1970 to a date. -/
def toDays (d : Date) : Int :=
  let year := if d.month ≤ 2 then d.year - 1 else d.year
  let month : Int := if d.month ≤ 2 then d.month + 9 else d.month - 3
  year / 400 * 146097 + daysBefore (year % 400) + monthStart month + d.day - 1 - 719468

/-- The date of the day `days` after the start of 1970. -/
def ofDays (days : Int) : Date :=
  let fromMarch := days + 719468
  let year := cycleYear (fromMarch % 146097)
  ofMarch (fromMarch / 146097 * 400 + year) (fromMarch % 146097 - daysBefore year)

theorem cycleYear_bounds {c : Int} (h0 : 0 ≤ c) (h1 : c < 146097) :
    0 ≤ cycleYear c ∧ cycleYear c < 400 ∧ 0 ≤ c - daysBefore (cycleYear c) ∧
      c - daysBefore (cycleYear c) ≤ 365 := by
  simp only [cycleYear, daysBefore]
  obtain ⟨a, ha⟩ : ∃ a, a = min (c / 36524) 3 := ⟨_, rfl⟩
  obtain ⟨q, hq⟩ : ∃ q, q = (c - 36524 * a) / 1461 := ⟨_, rfl⟩
  obtain ⟨r, hr⟩ : ∃ r, r = min ((c - 36524 * a) % 1461 / 365) 3 := ⟨_, rfl⟩
  rw [← ha, ← hq, ← hr]
  have ha0 : 0 ≤ a ∧ a ≤ 3 ∧ 0 ≤ c - 36524 * a ∧ c - 36524 * a ≤ 36524 := by omega
  have hq0 : 0 ≤ q ∧ q ≤ 24 := by omega
  have hr0 : 0 ≤ r ∧ r ≤ 3 := by omega
  have e1 : (100 * a + 4 * q + r) / 4 = 25 * a + q := by omega
  have e2 : (100 * a + 4 * q + r) / 100 = a := by omega
  rw [e1, e2]
  omega

theorem toDays_ofMarch {y yd : Int} (h0 : 0 ≤ yd) (h1 : yd ≤ 365) :
    (ofMarch y yd).toDays = y / 400 * 146097 + daysBefore (y % 400) + yd - 719468 := by
  obtain ⟨m, hm⟩ : ∃ m, m = (5 * yd + 2) / 153 := ⟨_, rfl⟩
  have hd : 0 ≤ yd - monthStart m := by unfold monthStart; omega
  simp only [ofMarch, toDays, ← hm]
  by_cases h : m ≤ 9
  · have e1 : ¬ (m + 3).toNat ≤ 2 := by omega
    have e2 : ((m + 3).toNat : Int) - 3 = m := by omega
    simp only [if_pos h, if_neg e1, e2]
    omega
  · have e1 : (m - 9).toNat ≤ 2 := by omega
    have e2 : ((m - 9).toNat : Int) + 9 = m := by omega
    have e3 : y + 1 - 1 = y := by omega
    simp only [if_neg h, if_pos e1, e2, e3]
    omega

theorem toDays_ofDays (days : Int) : (ofDays days).toDays = days := by
  have h := @cycleYear_bounds ((days + 719468) % 146097) (by omega) (by omega)
  simp only [ofDays]
  rw [toDays_ofMarch h.2.2.1 h.2.2.2]
  generalize cycleYear ((days + 719468) % 146097) = y at *
  have e1 : ((days + 719468) / 146097 * 400 + y) / 400 = (days + 719468) / 146097 := by omega
  have e2 : ((days + 719468) / 146097 * 400 + y) % 400 = y := by omega
  rw [e1, e2]
  omega

end Date

end AisFeed
