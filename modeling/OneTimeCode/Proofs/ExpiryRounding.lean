import OneTimeCode.Proofs.WholeMillis

/-!
# Rounding an expiry

An expiry is rounded up to a whole millisecond.  It can be one already, the next one can
lie in the same second or start the next second, and where the range ends there is none,
so that rounding goes down instead.  All that is said about rounding follows from these
four cases.  What is rounded to a leap second is counted, and read back, as the same
fraction of the second after it.
-/

namespace OneTimeCode.Instant

/-- Beyond the last whole millisecond of the range, or of the leap second at its end. -/
def IsBeyondMillis (instant : Instant) : Prop :=
  instant.second = latestSecond ∧
    nanosPerSecond - nanosPerMilli < instant.nanos % nanosPerSecond

instance (instant : Instant) : Decidable instant.IsBeyondMillis :=
  inferInstanceAs (Decidable (_ ∧ _))

/-- In a leap second, and rounding up does not lead out of it. -/
def RoundsToLeap (instant : Instant) : Prop :=
  nanosPerSecond ≤ instant.nanos ∧
    (instant.nanos ≤ 2 * nanosPerSecond - nanosPerMilli ∨ instant.second = latestSecond)

instance (instant : Instant) : Decidable instant.RoundsToLeap :=
  inferInstanceAs (Decidable (_ ∧ _))

/-- The ways in which an instant can be rounded up. -/
inductive Rounds (instant rounded : Instant) : Prop
  | whole (hpart : instant.nanos % nanosPerMilli = 0) (hsame : rounded = instant)
  | within (hpart : instant.nanos % nanosPerMilli ≠ 0)
      (hroom : instant.nanos % nanosPerSecond < nanosPerSecond - nanosPerMilli)
      (hsecond : rounded.second = instant.second)
      (hnanos : rounded.nanos =
        instant.nanos - instant.nanos % nanosPerMilli + nanosPerMilli)
  | carried (hpart : instant.nanos % nanosPerMilli ≠ 0)
      (hfull : nanosPerSecond - nanosPerMilli ≤ instant.nanos % nanosPerSecond)
      (hsecond : rounded.second = instant.second + 1) (hnanos : rounded.nanos = 0)
  | saturated (hpart : instant.nanos % nanosPerMilli ≠ 0)
      (hfull : nanosPerSecond - nanosPerMilli ≤ instant.nanos % nanosPerSecond)
      (hlatest : instant.second = latestSecond) (hdown : rounded = instant.truncateToMilli)

/-! ## The four cases -/

theorem truncateToMilli_eq_self_iff (instant : Instant) :
    instant.truncateToMilli = instant ↔ instant.nanos % nanosPerMilli = 0 := by
  have hpart := Nat.mod_le instant.nanos nanosPerMilli
  rw [Instant.ext_iff]
  simp only [truncateToMilli, true_and]
  omega

/-- The next millisecond starts in the same second. -/
theorem nextMilli?_of_room {instant : Instant}
    (hroom : instant.nanos % nanosPerSecond < nanosPerSecond - nanosPerMilli) :
    instant.truncateToMilli.nextMilli? =
      of? instant.second (instant.nanos - instant.nanos % nanosPerMilli + nanosPerMilli) := by
  have hnanos := instant.nanos_lt
  rw [nextMilli?, isLeap_truncateToMilli, isLeap]
  by_cases hleap : nanosPerSecond ≤ instant.nanos
  all_goals
    simp only [hleap, decide_true, decide_false, if_true, Bool.false_eq_true, if_false,
      truncateToMilli]
    rw [if_pos]
    simp only [nanosPerMilli, nanosPerSecond] at *
    omega

/-- The next millisecond is the first one of the next second. -/
theorem nextMilli?_of_full {instant : Instant}
    (hfull : nanosPerSecond - nanosPerMilli ≤ instant.nanos % nanosPerSecond) :
    instant.truncateToMilli.nextMilli? = of? (instant.second + 1) 0 := by
  have hnanos := instant.nanos_lt
  rw [nextMilli?, isLeap_truncateToMilli, isLeap]
  by_cases hleap : nanosPerSecond ≤ instant.nanos
  all_goals
    simp only [hleap, decide_true, decide_false, if_true, Bool.false_eq_true, if_false,
      truncateToMilli]
    rw [if_neg]
    · apply congrArg (of? (instant.second + 1))
      simp only [nanosPerMilli, nanosPerSecond] at *
      omega
    · simp only [nanosPerMilli, nanosPerSecond] at *
      omega

theorem exists_of?_of_room {instant : Instant}
    (hroom : instant.nanos % nanosPerSecond < nanosPerSecond - nanosPerMilli) :
    ∃ next, of? instant.second
      (instant.nanos - instant.nanos % nanosPerMilli + nanosPerMilli) = some next := by
  have hnanos := instant.nanos_lt
  refine ⟨_, dif_pos ⟨instant.second_ge, instant.second_le, ?_⟩⟩
  simp only [nanosPerMilli, nanosPerSecond] at *
  omega

theorem of?_succ_zero_eq_none_iff (instant : Instant) :
    of? (instant.second + 1) 0 = none ↔ instant.second = latestSecond := by
  have hearliest := instant.second_ge
  have hlatest := instant.second_le
  rw [of?, dite_eq_right_iff]
  simp only [reduceCtorEq, imp_false, nanosPerSecond] at *
  omega

theorem rounds_ceilToMilli (instant : Instant) : instant.Rounds instant.ceilToMilli := by
  rw [ceilToMilli]
  by_cases hpart : instant.nanos % nanosPerMilli = 0
  · have hsame := (truncateToMilli_eq_self_iff instant).2 hpart
    rw [if_pos hsame]
    exact .whole hpart hsame
  rw [if_neg fun hsame => hpart ((truncateToMilli_eq_self_iff instant).1 hsame)]
  rcases Nat.lt_or_ge (instant.nanos % nanosPerSecond) (nanosPerSecond - nanosPerMilli)
    with hroom | hfull
  · obtain ⟨next, hnext⟩ := exists_of?_of_room hroom
    obtain ⟨hsecond, hnanos⟩ := (of?_eq_some_iff _ _ _).1 hnext
    rw [nextMilli?_of_room hroom, hnext]
    exact .within hpart hroom hsecond hnanos
  · rw [nextMilli?_of_full hfull]
    cases hnext : of? (instant.second + 1) 0 with
    | none =>
        have hlatest := (of?_succ_zero_eq_none_iff instant).1 hnext
        exact .saturated hpart hfull hlatest rfl
    | some next =>
        obtain ⟨hsecond, hnanos⟩ := (of?_eq_some_iff _ _ _).1 hnext
        exact .carried hpart hfull hsecond hnanos

namespace Rounds

variable {instant rounded : Instant} (hrounds : instant.Rounds rounded)

include hrounds

theorem nanos_mod_eq_zero : rounded.nanos % nanosPerMilli = 0 := by
  cases hrounds with
  | whole hpart hsame => rw [hsame, hpart]
  | within _ _ _ hnanos =>
      rw [hnanos]
      simp only [nanosPerMilli]
      omega
  | carried _ _ _ hnanos => rw [hnanos, Nat.zero_mod]
  | saturated _ _ _ hdown =>
      rw [hdown]
      simp only [truncateToMilli, nanosPerMilli]
      omega

theorem eq_truncateToMilli (hbeyond : instant.IsBeyondMillis) :
    rounded = instant.truncateToMilli := by
  have hnext := rounded.second_le
  obtain ⟨hlatest, hlast⟩ := hbeyond
  cases hrounds with
  | whole hpart hsame => rw [hsame, (truncateToMilli_eq_self_iff instant).2 hpart]
  | within _ hroom =>
      simp only [nanosPerMilli, nanosPerSecond] at *
      omega
  | carried _ _ hsecond =>
      rw [hsecond, hlatest] at hnext
      omega
  | saturated _ _ _ hdown => exact hdown

/-- Rounding up never goes below the instant, unless it would leave the range. -/
theorem le_iff : instant ≤ rounded ↔ ¬ instant.IsBeyondMillis := by
  constructor
  · intro hle hbeyond
    rw [hrounds.eq_truncateToMilli hbeyond, le_def] at hle
    obtain ⟨-, hlast⟩ := hbeyond
    simp only [truncateToMilli, nanosPerMilli, nanosPerSecond] at *
    omega
  · intro hbeyond
    rw [le_def]
    cases hrounds with
    | whole _ hsame =>
        rw [hsame]
        exact Or.inr ⟨rfl, Nat.le_refl _⟩
    | within _ _ hsecond hnanos =>
        refine Or.inr ⟨hsecond.symm, ?_⟩
        rw [hnanos]
        simp only [nanosPerMilli]
        omega
    | carried _ _ hsecond => omega
    | saturated hpart hfull hlatest =>
        apply absurd _ hbeyond
        refine ⟨hlatest, ?_⟩
        simp only [nanosPerMilli, nanosPerSecond] at *
        omega

/-- What an instant ahead of now is rounded to is ahead of now as well, unless both lie in
the same last millisecond. -/
theorem le_now_iff {now : Instant} (hahead : now < instant) :
    rounded ≤ now ↔ instant.IsBeyondMillis ∧ instant.truncateToMilli ≤ now := by
  constructor
  · intro hreached
    have hbeyond : instant.IsBeyondMillis := by
      apply Decidable.byContradiction
      intro hnot
      have hle := hrounds.le_iff.2 hnot
      rw [le_def] at hle hreached
      rw [lt_def] at hahead
      omega
    rw [hrounds.eq_truncateToMilli hbeyond] at hreached
    exact ⟨hbeyond, hreached⟩
  · rintro ⟨hbeyond, hreached⟩
    rw [hrounds.eq_truncateToMilli hbeyond]
    exact hreached

theorem isLeap_iff : rounded.isLeap = true ↔ instant.RoundsToLeap := by
  have hnext := rounded.second_le
  have hbound := instant.nanos_lt
  rw [isLeap, decide_eq_true_iff, RoundsToLeap]
  cases hrounds with
  | whole hpart hsame =>
      rw [hsame]
      simp only [nanosPerMilli, nanosPerSecond] at *
      omega
  | within hpart hroom hsecond hnanos =>
      rw [hnanos]
      simp only [nanosPerMilli, nanosPerSecond] at *
      omega
  | carried hpart hfull hsecond hnanos =>
      rw [hnanos]
      simp only [nanosPerMilli, nanosPerSecond] at *
      omega
  | saturated hpart hfull hlatest hdown =>
      rw [hdown]
      simp only [truncateToMilli, nanosPerMilli, nanosPerSecond] at *
      omega

end Rounds

/-! ## Counted leap seconds -/

/-- The instant that a count of milliseconds stands for in the end: a leap second counts as
the second after it. -/
def asCounted? (instant : Instant) : Option Instant :=
  if instant.isLeap then of? (instant.second + 1) (instant.nanos - nanosPerSecond)
  else some instant

theorem ofMillis?_millis_of_mod_eq_zero {instant : Instant}
    (hpart : instant.nanos % nanosPerMilli = 0) :
    ofMillis? instant.millis = instant.asCounted? := by
  rw [asCounted?]
  split
  · next hleap =>
    have hbound := instant.nanos_lt
    rw [isLeap, decide_eq_true_iff] at hleap
    have hsecond : instant.millis / 1000 = instant.second + 1 := by
      simp only [millis, nanosPerMilli, nanosPerSecond] at *
      omega
    have hnanos : (instant.millis % 1000).toNat * nanosPerMilli =
        instant.nanos - nanosPerSecond := by
      simp only [millis, nanosPerMilli, nanosPerSecond] at *
      omega
    rw [ofMillis?, hsecond, hnanos]
  · next hleap => exact ofMillis?_millis ⟨Bool.eq_false_iff.2 hleap, hpart⟩

theorem asCounted?_of_isLeap_eq_false {instant : Instant} (hleap : instant.isLeap = false) :
    instant.asCounted? = some instant := by
  rw [asCounted?, hleap, if_neg Bool.false_ne_true]

/-- Counting puts a leap second off. -/
theorem lt_of_asCounted? {instant counted : Instant} (hleap : instant.isLeap = true)
    (hcounted : instant.asCounted? = some counted) : instant < counted := by
  rw [asCounted?, if_pos hleap] at hcounted
  obtain ⟨hsecond, -⟩ := (of?_eq_some_iff _ _ _).1 hcounted
  rw [lt_def]
  omega

/-- Counting never brings an expiry forward. -/
theorem le_of_asCounted? {instant counted : Instant}
    (hcounted : instant.asCounted? = some counted) : instant ≤ counted := by
  cases hleap : instant.isLeap with
  | false =>
      rw [asCounted?_of_isLeap_eq_false hleap, Option.some.injEq] at hcounted
      rw [hcounted]
      exact le_refl counted
  | true =>
      have hlater := lt_of_asCounted? hleap hcounted
      rw [lt_def] at hlater
      rw [le_def]
      omega

theorem asCounted?_eq_none_iff (instant : Instant) :
    instant.asCounted? = none ↔ instant.IsFinalLeap := by
  rw [asCounted?, IsFinalLeap]
  cases hleap : instant.isLeap with
  | false => simp
  | true =>
      have hearliest := instant.second_ge
      have hlatest := instant.second_le
      have hbound := instant.nanos_lt
      have hrest : instant.nanos - nanosPerSecond < nanosPerSecond := by
        simp only [nanosPerSecond] at *
        omega
      rw [if_pos rfl, of?, dite_eq_right_iff]
      simp only [reduceCtorEq, imp_false, and_true, nanosPerSecond] at *
      omega

/-- An expiry ahead of now is still ahead of now once rounded and counted, unless rounding has
put it back to now or its count stands for nothing. -/
theorem ahead_of_counted_iff {now expiry : Instant} (hahead : now < expiry) :
    (∃ counted, expiry.ceilToMilli.asCounted? = some counted ∧ now < counted) ↔
      ¬ (expiry.IsBeyondMillis ∧ expiry.truncateToMilli ≤ now) ∧ ¬ expiry.IsFinalLeap := by
  have hrounds := expiry.rounds_ceilToMilli
  rw [← hrounds.le_now_iff hahead, ← ceilToMilli_isFinalLeap_iff, ← asCounted?_eq_none_iff]
  constructor
  · rintro ⟨counted, hcounted, hlater⟩
    refine ⟨?_, by rw [hcounted]; exact Option.some_ne_none counted⟩
    intro hreached
    cases hleap : expiry.ceilToMilli.isLeap with
    | false =>
        rw [asCounted?_of_isLeap_eq_false hleap, Option.some.injEq] at hcounted
        rw [hcounted, ← not_le] at *
        exact hlater hreached
    | true =>
        obtain ⟨⟨hlatest, -⟩, -⟩ := (hrounds.le_now_iff hahead).1 hreached
        have hfinal : expiry.IsFinalLeap :=
          ⟨hlatest, decide_eq_true (hrounds.isLeap_iff.1 hleap).1⟩
        rw [← ceilToMilli_isFinalLeap_iff, ← asCounted?_eq_none_iff, hcounted] at hfinal
        cases hfinal
  · rintro ⟨hnot, hsome⟩
    obtain ⟨counted, hcounted⟩ := Option.ne_none_iff_exists'.1 hsome
    refine ⟨counted, hcounted, ?_⟩
    rw [not_le] at hnot
    cases hleap : expiry.ceilToMilli.isLeap with
    | false =>
        rw [asCounted?_of_isLeap_eq_false hleap, Option.some.injEq] at hcounted
        rw [← hcounted]
        exact hnot
    | true => exact lt_trans hnot (lt_of_asCounted? hleap hcounted)

end OneTimeCode.Instant
