import OneTimeCode.Proofs.ExpiryRounding
import Mathlib.Data.Set.Basic
import Mathlib.Order.Bounds.Defs

/-!
# Rounding up takes the least whole instant

An instant has a ceiling among the whole ones: the least that is not earlier or, in the last
millisecond of the range, the greatest of all.  Rounding up gives this ceiling.  Whole instants
are a millisecond apart, so the ceiling is nearer than that; it is its own ceiling, and a later
instant has no earlier one, all of this outside leap seconds.
-/

namespace OneTimeCode.Instant

instance (instant : Instant) : Decidable instant.IsWhole :=
  inferInstanceAs (Decidable (_ ∧ _))

/-- The whole instants that are not earlier. -/
def wholeFrom (instant : Instant) : Set Instant :=
  {whole | whole.IsWhole ∧ instant ≤ whole}

/-- The least whole instant that is not earlier or, if there is none, the greatest of all. -/
def IsCeiling (instant ceiling : Instant) : Prop :=
  IsLeast instant.wholeFrom ceiling ∨
    instant.wholeFrom = ∅ ∧ IsGreatest {whole | whole.IsWhole} ceiling

/-- Nanoseconds since the start of 1970. -/
def elapsed (instant : Instant) : Int :=
  instant.second * nanosPerSecond + instant.nanos

theorem not_le_of_wholeFrom_eq_empty {instant whole : Instant}
    (hempty : instant.wholeFrom = ∅) (hwhole : whole.IsWhole) : ¬ instant ≤ whole := by
  intro hle
  have hmem : whole ∈ instant.wholeFrom := ⟨hwhole, hle⟩
  rw [hempty] at hmem
  exact Set.notMem_empty _ hmem

theorem le_antisymm {left right : Instant} (hle : left ≤ right) (hge : right ≤ left) :
    left = right := by
  rw [le_def] at *
  apply ext
  all_goals omega

theorem le_iff_elapsed_le {left right : Instant} (hleft : left.isLeap = false)
    (hright : right.isLeap = false) : left ≤ right ↔ left.elapsed ≤ right.elapsed := by
  rw [isLeap_eq_false_iff] at *
  rw [le_def]
  simp only [elapsed, nanosPerSecond] at *
  omega

theorem elapsed_of_isWhole {whole : Instant} (hwhole : whole.IsWhole) :
    whole.elapsed = whole.millis * nanosPerMilli := by
  obtain ⟨-, hfraction⟩ := hwhole
  simp only [elapsed, millis, nanosPerMilli, nanosPerSecond] at *
  omega

/-- Whole instants are a millisecond apart. -/
theorem exists_previous_whole {earlier later : Instant} (hearlier : earlier.isLeap = false)
    (hwhole : later.IsWhole) (hfar : earlier.elapsed + nanosPerMilli ≤ later.elapsed) :
    ∃ previous, previous.IsWhole ∧ earlier ≤ previous ∧ ¬ later ≤ previous := by
  have hstart := earlier.second_ge
  have hend := millis_lt_latest hwhole.1
  have hlater := elapsed_of_isWhole hwhole
  cases hprevious : ofMillis? (later.millis - 1) with
  | none =>
      rw [ofMillis?_eq_none_iff] at hprevious
      simp only [elapsed, nanosPerMilli, nanosPerSecond] at *
      omega
  | some previous =>
      obtain ⟨hprevious, hmillis⟩ := (ofMillis?_eq_some_iff _ _).1 hprevious
      have helapsed := elapsed_of_isWhole hprevious
      refine ⟨previous, hprevious, ?_, ?_⟩
      · rw [le_iff_elapsed_le hearlier hprevious.1]
        simp only [nanosPerMilli] at *
        omega
      · rw [le_iff_elapsed_le hwhole.1 hprevious.1]
        simp only [nanosPerMilli] at *
        omega

/-! ## Ceilings -/

namespace IsCeiling

variable {instant ceiling : Instant} (hceiling : instant.IsCeiling ceiling)

include hceiling

theorem isWhole : ceiling.IsWhole := by
  rcases hceiling with ⟨hfrom, -⟩ | ⟨-, hwhole, -⟩
  · exact hfrom.1
  · exact hwhole

/-- A later instant has no earlier ceiling. -/
theorem le_ceiling {later ceiling' : Instant} (hlater : later.IsCeiling ceiling')
    (hle : instant ≤ later) : ceiling ≤ ceiling' := by
  rcases hlater with ⟨⟨hwhole', hfrom'⟩, -⟩ | ⟨-, -, hgreatest'⟩
  · have hfrom := le_trans hle hfrom'
    rcases hceiling with ⟨-, hleast⟩ | ⟨hempty, -⟩
    · exact hleast ⟨hwhole', hfrom⟩
    · exact absurd hfrom (not_le_of_wholeFrom_eq_empty hempty hwhole')
  · exact hgreatest' hceiling.isWhole

theorem unique {ceiling' : Instant} (hceiling' : instant.IsCeiling ceiling') :
    ceiling = ceiling' :=
  le_antisymm (hceiling.le_ceiling hceiling' (le_refl _))
    (hceiling'.le_ceiling hceiling (le_refl _))

theorem eq_self (hwhole : instant.IsWhole) : ceiling = instant := by
  have hself : instant.IsCeiling instant := Or.inl ⟨⟨hwhole, le_refl _⟩, fun _ hmem => hmem.2⟩
  exact hceiling.unique hself

/-- The ceiling is less than a millisecond away. -/
theorem natAbs_elapsed_sub_lt (hleap : instant.isLeap = false) :
    (ceiling.elapsed - instant.elapsed).natAbs < nanosPerMilli := by
  rcases hceiling with ⟨⟨hwhole, hle⟩, hleast⟩ | ⟨hempty, hwhole, hgreatest⟩
  · rw [le_iff_elapsed_le hleap hwhole.1] at hle
    apply Decidable.byContradiction
    intro hfar
    obtain ⟨previous, hprevious, hfrom, hless⟩ :=
      exists_previous_whole hleap hwhole (by omega)
    exact hless (hleast ⟨hprevious, hfrom⟩)
  · have hless := not_le_of_wholeFrom_eq_empty hempty hwhole
    have htruncated := truncateToMilli_isWhole hleap
    have hbelow := hgreatest htruncated
    rw [le_iff_elapsed_le hleap hwhole.1] at hless
    rw [le_iff_elapsed_le htruncated.1 hwhole.1] at hbelow
    simp only [elapsed, truncateToMilli, nanosPerMilli, nanosPerSecond] at *
    omega

end IsCeiling

/-! ## Rounding up -/

/-- Rounding up does not pass a whole instant. -/
theorem Rounds.le_of_isWhole {instant rounded whole : Instant} (hrounds : instant.Rounds rounded)
    (hwhole : whole.IsWhole) (hle : instant ≤ whole) : rounded ≤ whole := by
  obtain ⟨hleap, hfraction⟩ := hwhole
  rw [isLeap_eq_false_iff] at hleap
  rw [le_def] at *
  cases hrounds with
  | whole _ hsame =>
      rw [hsame]
      exact hle
  | within _ _ hsecond hnanos =>
      simp only [nanosPerMilli, nanosPerSecond] at *
      omega
  | carried _ _ hsecond hnanos =>
      simp only [nanosPerMilli, nanosPerSecond] at *
      omega
  | saturated _ _ _ hdown =>
      rw [hdown]
      simp only [truncateToMilli]
      omega

theorem le_truncateToMilli {instant whole : Instant} (hwhole : whole.IsWhole)
    (hle : whole ≤ instant) : whole ≤ instant.truncateToMilli := by
  obtain ⟨-, hfraction⟩ := hwhole
  rw [le_def] at *
  simp only [truncateToMilli, nanosPerMilli] at *
  omega

theorem wholeFrom_eq_empty {instant : Instant} (hleap : instant.isLeap = false)
    (hbeyond : instant.IsBeyondMillis) : instant.wholeFrom = ∅ := by
  rw [Set.eq_empty_iff_forall_notMem]
  rintro whole ⟨⟨hleap', hfraction⟩, hle⟩
  have hsecond := whole.second_le
  obtain ⟨hlatest, hlast⟩ := hbeyond
  rw [isLeap_eq_false_iff] at *
  rw [le_def] at hle
  simp only [nanosPerMilli, nanosPerSecond] at *
  omega

theorem isCeiling_ceilToMilli {instant : Instant} (hleap : instant.isLeap = false) :
    instant.IsCeiling instant.ceilToMilli := by
  have hrounds := instant.rounds_ceilToMilli
  have hwhole := ceilToMilli_isWhole hleap
  by_cases hbeyond : instant.IsBeyondMillis
  · have hempty := wholeFrom_eq_empty hleap hbeyond
    refine Or.inr ⟨hempty, hwhole, ?_⟩
    intro other hother
    have hbelow := not_le_of_wholeFrom_eq_empty hempty hother
    rw [not_le] at hbelow
    rw [hrounds.eq_truncateToMilli hbeyond]
    exact le_truncateToMilli hother (le_of_lt hbelow)
  · exact Or.inl ⟨⟨hwhole, hrounds.le_iff.2 hbeyond⟩,
      fun whole hfrom => hrounds.le_of_isWhole hfrom.1 hfrom.2⟩

/-- Outside leap seconds rounding up gives the ceiling and nothing else.  So it changes nothing
the second time, keeps the order, and moves an instant by less than a millisecond. -/
theorem ceilToMilli_least_whole {instant : Instant} (hleap : instant.isLeap = false) :
    (∀ ceiling, instant.ceilToMilli = ceiling ↔
        IsLeast instant.wholeFrom ceiling ∨
          instant.wholeFrom = ∅ ∧ IsGreatest {whole | whole.IsWhole} ceiling) ∧
      instant.ceilToMilli.ceilToMilli = instant.ceilToMilli ∧
      (∀ later : Instant, later.isLeap = false → instant ≤ later →
        instant.ceilToMilli ≤ later.ceilToMilli) ∧
      (instant.ceilToMilli.elapsed - instant.elapsed).natAbs < nanosPerMilli := by
  have hceiling := isCeiling_ceilToMilli hleap
  refine ⟨?_, ?_, ?_, hceiling.natAbs_elapsed_sub_lt hleap⟩
  · intro ceiling
    constructor
    · rintro rfl
      exact hceiling
    · exact hceiling.unique
  · have hwhole := hceiling.isWhole
    exact (isCeiling_ceilToMilli hwhole.1).eq_self hwhole
  · intro later hlater hle
    exact hceiling.le_ceiling (isCeiling_ceilToMilli hlater) hle

/-- The start of 1969. -/
def yearBeforeEpoch : Instant :=
  { epoch with
    second := -31536000
    second_ge := by decide
    second_le := by decide }

/-- The first nanosecond of the last millisecond of 1968. -/
def endOfLeapYear : Instant :=
  ⟨-31536001, 999000001, by decide, by decide, by decide⟩

/-- At the end of 1968 the carry leads into the next year, and from the last nanosecond of the
range there is no whole instant to be rounded up to. -/
theorem ceilToMilli_least_whole_at_year_and_range_end :
    endOfLeapYear.isLeap = false ∧ latest.isLeap = false ∧
      IsLeast endOfLeapYear.wholeFrom yearBeforeEpoch ∧ latest.wholeFrom = ∅ ∧
      IsGreatest {whole : Instant | whole.IsWhole} latest.truncateToMilli ∧
      endOfLeapYear.ceilToMilli ≤ latest.ceilToMilli := by
  have hyear : endOfLeapYear.isLeap = false := by decide
  have hlatest : latest.isLeap = false := by decide
  have hleast := ((ceilToMilli_least_whole hyear).1 yearBeforeEpoch).1 (by decide)
  have hgreatest := ((ceilToMilli_least_whole hlatest).1 latest.truncateToMilli).1 (by decide)
  have horder := (ceilToMilli_least_whole hyear).2.2.1 latest hlatest (by decide)
  rcases hleast with hleast | ⟨hempty, -⟩
  · rcases hgreatest with ⟨⟨-, hle⟩, -⟩ | ⟨hempty, hgreatest⟩
    · exact absurd hle (by decide)
    · exact ⟨hyear, hlatest, hleast, hempty, hgreatest, horder⟩
  · have hwhole : yearBeforeEpoch.IsWhole := by decide
    exact absurd (by decide) (not_le_of_wholeFrom_eq_empty hempty hwhole)

end OneTimeCode.Instant
