import OneTimeCode.Time.Instant

/-!
# Instants in whole milliseconds

Tables keep an expiry as a count of milliseconds, clocks show finer instants.
An instant is recovered from its count exactly when it has no finer part and
lies outside leap seconds, and comparing such an instant with a clock's reading
is comparing the two counts.  Of the instants in leap seconds, only those at the very end
of the range have a count that denotes no instant at all.
-/

namespace OneTimeCode.Instant

/-- The start of 1970. -/
def epoch : Instant :=
  ⟨0, 0, by decide, by decide, by decide⟩

/-- Half a millisecond into the second after it. -/
def inSecondOne : Instant :=
  ⟨1, 500000, by decide, by decide, by decide⟩

theorem le_refl (now : Instant) : now ≤ now := by
  rw [le_def]
  omega

theorem lt_irrefl (now : Instant) : ¬ now < now := by
  rw [lt_def]
  omega

theorem le_trans {earlier now later : Instant} (hearlier : earlier ≤ now)
    (hlater : now ≤ later) : earlier ≤ later := by
  rw [le_def] at *
  omega

theorem lt_trans {earlier now later : Instant} (hearlier : earlier < now)
    (hlater : now < later) : earlier < later := by
  rw [lt_def] at *
  omega

theorem le_of_lt {earlier later : Instant} (hlt : earlier < later) : earlier ≤ later := by
  rw [lt_def] at hlt
  rw [le_def]
  omega

theorem lt_of_le_of_lt {earlier now later : Instant} (hle : earlier ≤ now)
    (hlt : now < later) : earlier < later := by
  rw [le_def] at hle
  rw [lt_def] at hlt ⊢
  omega

/-- No part below a millisecond and outside a leap second. -/
def IsWhole (instant : Instant) : Prop :=
  instant.isLeap = false ∧ instant.nanos % nanosPerMilli = 0

theorem isLeap_eq_false_iff (instant : Instant) :
    instant.isLeap = false ↔ instant.nanos < nanosPerSecond := by
  simp [isLeap]

/-- The only counts without an instant are those outside the range. -/
theorem ofMillis?_eq_none_iff (count : Int) :
    ofMillis? count = none ↔
      count < earliestSecond * 1000 ∨ (latestSecond + 1) * 1000 ≤ count := by
  have hnanos : (count % 1000).toNat * nanosPerMilli < nanosPerSecond := by
    simp only [nanosPerMilli, nanosPerSecond]
    omega
  rw [ofMillis?, of?, dite_eq_right_iff]
  simp only [reduceCtorEq, imp_false, earliestSecond, latestSecond]
  omega

/-- A count denotes the one whole instant that has it. -/
theorem ofMillis?_eq_some_iff (count : Int) (instant : Instant) :
    ofMillis? count = some instant ↔ instant.IsWhole ∧ instant.millis = count := by
  rw [ofMillis?, of?_eq_some_iff, IsWhole, isLeap_eq_false_iff, millis]
  simp only [nanosPerMilli, nanosPerSecond]
  omega

theorem ofMillis?_millis {instant : Instant} (hwhole : instant.IsWhole) :
    ofMillis? instant.millis = some instant :=
  (ofMillis?_eq_some_iff _ _).2 ⟨hwhole, rfl⟩

theorem earliest_le_millis (instant : Instant) :
    earliestSecond * 1000 ≤ instant.millis := by
  have hsecond := instant.second_ge
  simp only [millis, nanosPerMilli]
  omega

theorem millis_lt_latest {instant : Instant} (hleap : instant.isLeap = false) :
    instant.millis < (latestSecond + 1) * 1000 := by
  have hsecond := instant.second_le
  rw [isLeap_eq_false_iff] at hleap
  simp only [millis, nanosPerMilli, nanosPerSecond] at *
  omega

/-- Outside leap seconds a later instant has no smaller count. -/
theorem millis_le_millis {left right : Instant} (hleap : left.isLeap = false)
    (hle : left ≤ right) : left.millis ≤ right.millis := by
  rw [le_def] at hle
  rw [isLeap_eq_false_iff] at hleap
  simp only [millis, nanosPerMilli, nanosPerSecond] at *
  omega

/-- A whole instant has been reached exactly when its count has been. -/
theorem le_iff_millis_le {expiry now : Instant} (hwhole : expiry.IsWhole)
    (hleap : now.isLeap = false) : expiry ≤ now ↔ expiry.millis ≤ now.millis := by
  obtain ⟨hexpiry, hfraction⟩ := hwhole
  rw [isLeap_eq_false_iff] at hexpiry hleap
  rw [le_def]
  simp only [millis, nanosPerMilli, nanosPerSecond] at *
  omega

theorem truncateToMilli_isWhole {instant : Instant} (hleap : instant.isLeap = false) :
    instant.truncateToMilli.IsWhole := by
  rw [isLeap_eq_false_iff] at hleap
  rw [IsWhole, isLeap_eq_false_iff]
  simp only [truncateToMilli, nanosPerMilli, nanosPerSecond] at *
  omega

theorem nextMilli?_isWhole {instant next : Instant} (hwhole : instant.IsWhole)
    (hnext : instant.nextMilli? = some next) : next.IsWhole := by
  obtain ⟨hleap, hfraction⟩ := hwhole
  rw [nextMilli?, hleap] at hnext
  rw [isLeap_eq_false_iff] at hleap
  rw [IsWhole, isLeap_eq_false_iff]
  simp only [Bool.false_eq_true, if_false] at hnext
  split at hnext
  all_goals
    obtain ⟨-, hnanos⟩ := (of?_eq_some_iff _ _ _).1 hnext
    simp only [nanosPerMilli, nanosPerSecond] at *
    omega

/-- Rounding up leaves a whole instant, also at the end of the range. -/
theorem ceilToMilli_isWhole {instant : Instant} (hleap : instant.isLeap = false) :
    instant.ceilToMilli.IsWhole := by
  have htruncated := truncateToMilli_isWhole hleap
  rw [ceilToMilli]
  split
  · exact htruncated
  · cases hnext : instant.truncateToMilli.nextMilli? with
    | none => exact htruncated
    | some next => exact nextMilli?_isWhole htruncated hnext

/-! ## The end of the range -/

/-- In the leap second at the very end of the range. -/
def IsFinalLeap (instant : Instant) : Prop :=
  instant.second = latestSecond ∧ instant.isLeap = true

/-- The one leap second whose milliseconds denote no instant is the final one. -/
theorem ofMillis?_millis_eq_none_iff (instant : Instant) :
    ofMillis? instant.millis = none ↔ instant.IsFinalLeap := by
  have hearliest := instant.earliest_le_millis
  have hsecond := instant.second_le
  have hnanos := instant.nanos_lt
  rw [ofMillis?_eq_none_iff, IsFinalLeap, isLeap, decide_eq_true_iff]
  simp only [millis, nanosPerMilli, nanosPerSecond] at *
  omega

theorem isLeap_truncateToMilli (instant : Instant) :
    instant.truncateToMilli.isLeap = instant.isLeap := by
  rw [isLeap, isLeap, decide_eq_decide]
  simp only [truncateToMilli, nanosPerMilli, nanosPerSecond]
  omega

/-- One millisecond later it is the same second still, within or without its leap second, or
the next second has begun. -/
theorem nextMilli?_cases {instant next : Instant} (hnext : instant.nextMilli? = some next) :
    next.second = instant.second ∧ next.isLeap = instant.isLeap ∨
      next.second = instant.second + 1 ∧ next.isLeap = false := by
  have hnanos := instant.nanos_lt
  rw [isLeap, isLeap, decide_eq_decide, decide_eq_false_iff_not]
  by_cases hleap : nanosPerSecond ≤ instant.nanos
  all_goals
    simp only [nextMilli?, isLeap, hleap, decide_true, decide_false, if_true,
      Bool.false_eq_true, if_false] at hnext
    simp only [hleap, iff_true, iff_false]
    split at hnext
    all_goals
      obtain ⟨hsecond, hcount⟩ := (of?_eq_some_iff _ _ _).1 hnext
      clear hnext
      simp only [nanosPerMilli, nanosPerSecond] at *
      omega

/-- Rounding up keeps an instant in its second and in its leap second, or it leads to the
start of the next second. -/
theorem ceilToMilli_cases (instant : Instant) :
    instant.ceilToMilli.second = instant.second ∧
        instant.ceilToMilli.isLeap = instant.isLeap ∨
      instant.ceilToMilli.second = instant.second + 1 ∧
        instant.ceilToMilli.isLeap = false := by
  rw [ceilToMilli]
  split
  · exact Or.inl ⟨rfl, instant.isLeap_truncateToMilli⟩
  · cases hnext : instant.truncateToMilli.nextMilli? with
    | none => exact Or.inl ⟨rfl, instant.isLeap_truncateToMilli⟩
    | some next =>
        have hcases := nextMilli?_cases hnext
        rw [isLeap_truncateToMilli] at hcases
        exact hcases

theorem ceilToMilli_isFinalLeap_iff (instant : Instant) :
    instant.ceilToMilli.IsFinalLeap ↔ instant.IsFinalLeap := by
  have hsecond := instant.ceilToMilli.second_le
  rcases instant.ceilToMilli_cases with ⟨hsame, hleap⟩ | ⟨hnext, hleap⟩
  · rw [IsFinalLeap, IsFinalLeap, hsame, hleap]
  · rw [IsFinalLeap, IsFinalLeap, hleap]
    constructor
    · rintro ⟨-, hfalse⟩
      cases hfalse
    · rintro ⟨hlatest, -⟩
      omega

end OneTimeCode.Instant
