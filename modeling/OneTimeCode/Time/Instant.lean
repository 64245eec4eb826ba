/-!
# Instants

An instant is a second of coordinated universal time and the nanoseconds passed
in it.  A second can be two seconds long; nanoseconds from 1 000 000 000 on lie in
the leap second at its end.  Leap seconds end minutes, but an instant can be put into
the leap second of any other second as well.
-/

namespace OneTimeCode

def nanosPerSecond : Nat := 1000000000

def nanosPerMilli : Nat := 1000000

/-- The first second of the year -262143. -/
def earliestSecond : Int := -8334601228800

/-- The last second of the year 262142. -/
def latestSecond : Int := 8210266876799

/-- `second` counts from the start of 1970. -/
structure Instant where
  second : Int
  nanos : Nat
  second_ge : earliestSecond ≤ second
  second_le : second ≤ latestSecond
  nanos_lt : nanos < 2 * nanosPerSecond
deriving DecidableEq, Repr

namespace Instant

/-- The instant of a second and nanoseconds, if they are in range. -/
def of? (second : Int) (nanos : Nat) : Option Instant :=
  if h : earliestSecond ≤ second ∧ second ≤ latestSecond ∧ nanos < 2 * nanosPerSecond then
    some ⟨second, nanos, h.1, h.2.1, h.2.2⟩
  else
    none

/-- The last instant outside a leap second. -/
def latest : Instant :=
  ⟨latestSecond, 999999999, by decide, by decide, by decide⟩

def isLeap (instant : Instant) : Bool :=
  nanosPerSecond ≤ instant.nanos

/-- Instants are ordered by second and then by nanoseconds, so a leap second comes
before the next second. -/
instance : LE Instant where
  le left right :=
    left.second < right.second ∨ left.second = right.second ∧ left.nanos ≤ right.nanos

instance : LT Instant where
  lt left right :=
    left.second < right.second ∨ left.second = right.second ∧ left.nanos < right.nanos

instance (left right : Instant) : Decidable (left ≤ right) :=
  inferInstanceAs (Decidable (_ ∨ _ ∧ _))

instance (left right : Instant) : Decidable (left < right) :=
  inferInstanceAs (Decidable (_ ∨ _ ∧ _))

/-- Whole milliseconds since the start of 1970, rounded down.  A leap second is
counted like the second after it. -/
def millis (instant : Instant) : Int :=
  instant.second * 1000 + (instant.nanos / nanosPerMilli : Nat)

/-- The instant of a count of milliseconds, never in a leap second. -/
def ofMillis? (millis : Int) : Option Instant :=
  of? (millis / 1000) ((millis % 1000).toNat * nanosPerMilli)

/-- One millisecond later.  A leap second is passed through like any other, and
the last millisecond of the range has no successor. -/
def nextMilli? (instant : Instant) : Option Instant :=
  let secondEnd := if instant.isLeap then 2 * nanosPerSecond else nanosPerSecond
  let nanos := instant.nanos + nanosPerMilli
  if nanos < secondEnd then of? instant.second nanos
  else of? (instant.second + 1) (nanos - secondEnd)

/-- The start of the millisecond that an instant lies in. -/
def truncateToMilli (instant : Instant) : Instant where
  second := instant.second
  nanos := instant.nanos - instant.nanos % nanosPerMilli
  second_ge := instant.second_ge
  second_le := instant.second_le
  nanos_lt := Nat.lt_of_le_of_lt (Nat.sub_le _ _) instant.nanos_lt

/-- An instant rounded up to a whole millisecond; in the last millisecond of the
range, where that is not possible, it is rounded down. -/
def ceilToMilli (instant : Instant) : Instant :=
  let truncated := instant.truncateToMilli
  if truncated = instant then truncated else truncated.nextMilli?.getD truncated

@[ext]
theorem ext {left right : Instant} (hsecond : left.second = right.second)
    (hnanos : left.nanos = right.nanos) : left = right := by
  cases left
  cases right
  simp_all

theorem of?_eq_some_iff (second : Int) (nanos : Nat) (instant : Instant) :
    of? second nanos = some instant ↔ instant.second = second ∧ instant.nanos = nanos := by
  constructor
  · intro h
    unfold of? at h
    split at h
    · cases h
      exact ⟨rfl, rfl⟩
    · cases h
  · rintro ⟨rfl, rfl⟩
    exact dif_pos ⟨instant.second_ge, instant.second_le, instant.nanos_lt⟩

theorem le_def (left right : Instant) :
    left ≤ right ↔
      left.second < right.second ∨ left.second = right.second ∧ left.nanos ≤ right.nanos :=
  Iff.rfl

theorem lt_def (left right : Instant) :
    left < right ↔
      left.second < right.second ∨ left.second = right.second ∧ left.nanos < right.nanos :=
  Iff.rfl

theorem not_le (left right : Instant) : ¬ left ≤ right ↔ right < left := by
  rw [le_def, lt_def]
  omega

end Instant

end OneTimeCode
