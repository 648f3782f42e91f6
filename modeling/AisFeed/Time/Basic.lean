/-!
# Times and spans

A `Time` counts seconds and nanoseconds since the start of 1970 in universal time, within the years
that receive times may have. A leap second is the last second of a minute with a count of
nanoseconds that runs on past one second. A `Span` is a signed length of time, at most
9223372036854775807 milliseconds either way. `Time.minus?` is the one piece of arithmetic: a time
less a span, if that is still a time.
-/

set_option autoImplicit false

namespace AisFeed

/-- A point in universal time. -/
structure Time where
  seconds : Int
  nanos : Nat
  lower : -8334601228800 ≤ seconds
  upper : seconds ≤ 8210266876799
  nanos_lt : nanos < 2000000000
  leap : 1000000000 ≤ nanos → seconds % 60 = 59
  deriving DecidableEq, Repr

/-- A signed length of time. -/
structure Span where
  nanos : Int
  lower : -9223372036854775807000000 ≤ nanos
  upper : nanos ≤ 9223372036854775807000000
  deriving DecidableEq, Repr

namespace Span

/-- A span of `n` nanoseconds, if it is not too long. -/
def ofNanos? (n : Int) : Option Span :=
  if h : -9223372036854775807000000 ≤ n ∧ n ≤ 9223372036854775807000000 then some ⟨n, h.1, h.2⟩
  else none

/-- A span of `n` milliseconds, if it is not too long. -/
def ofMillis? (n : Int) : Option Span := ofNanos? (n * 1000000)

/-- A span of `n` seconds, if it is not too long. -/
def ofSeconds? (n : Int) : Option Span := ofNanos? (n * 1000000000)

/-- One minute. -/
def minute : Span := ⟨60000000000, by decide, by decide⟩

end Span

namespace Time

/-- The time of the given seconds and nanoseconds, if there is one. -/
def of? (seconds : Int) (nanos : Nat) : Option Time :=
  if h : -8334601228800 ≤ seconds ∧ seconds ≤ 8210266876799 ∧ nanos < 2000000000 ∧
      (1000000000 ≤ nanos → seconds % 60 = 59) then
    some ⟨seconds, nanos, h.1, h.2.1, h.2.2.1, h.2.2.2⟩
  else none

/-- The start of 1970. -/
def epoch : Time := ⟨0, 0, by decide, by decide, by decide, by decide⟩

instance : Inhabited Time := ⟨epoch⟩

/-- Times are ordered by seconds, then by nanoseconds. -/
instance : LT Time :=
  ⟨fun t u => t.seconds < u.seconds ∨ t.seconds = u.seconds ∧ t.nanos < u.nanos⟩

instance : LE Time := ⟨fun t u => ¬ u < t⟩

theorem lt_iff {t u : Time} :
    t < u ↔ t.seconds < u.seconds ∨ t.seconds = u.seconds ∧ t.nanos < u.nanos :=
  Iff.rfl

theorem le_iff_not_lt {t u : Time} : t ≤ u ↔ ¬ u < t := Iff.rfl

instance (t u : Time) : Decidable (t < u) := decidable_of_iff _ lt_iff.symm

instance (t u : Time) : Decidable (t ≤ u) := decidable_of_iff _ le_iff_not_lt.symm

/-- Is it a leap second? -/
def isLeap (t : Time) : Bool :=
  decide (1000000000 ≤ t.nanos)

/-- Nanoseconds since the start of 1970. Those of a leap second run on into the next second. -/
def instant (t : Time) : Int :=
  t.seconds * 1000000000 + t.nanos

/-- The time that lies `d` before `t`, if there is one. Less than a second away from a leap second,
and not beyond its end, the count of seconds is the same. Further back a leap second counts as the
first second of the next minute, and further on as the second that it prolongs. -/
def minus? (t : Time) (d : Span) : Option Time :=
  let nanos := t.nanos - d.nanos
  if t.isLeap ∧ -1000000000 < d.nanos ∧ d.nanos < 1000000000 ∧ nanos < 2000000000 then
    of? t.seconds nanos.toNat
  else
    let start := if t.isLeap ∧ d.nanos < 0 then t.instant - 1000000000 else t.instant
    let n := start - d.nanos
    of? (n / 1000000000) (n % 1000000000).toNat

theorem of?_eq_some_iff {s : Int} {n : Nat} {t : Time} :
    of? s n = some t ↔ t.seconds = s ∧ t.nanos = n := by
  unfold of?
  constructor
  · intro h
    split at h
    · cases h; exact ⟨rfl, rfl⟩
    · cases h
  · rintro ⟨rfl, rfl⟩
    rw [dif_pos ⟨t.lower, t.upper, t.nanos_lt, t.leap⟩]

end Time

end AisFeed
