import OneTimeCode.Proofs.WholeMillis
import OneTimeCode.Time.Clock
import Mathlib.Algebra.Order.BigOperators.Group.List
import Mathlib.Algebra.Ring.Int.Defs
import Mathlib.Data.List.Infix

/-!
# The readings of an advanced clock

A manual clock keeps its count in 64 bits, so the count that it keeps is the exact one wrapped
around, and a reading has the exact count whenever that denotes an instant.  Every other count,
be it below or above the range, is shown as the latest instant.  So the readings of a clock that
only moves forwards stay in order as long as its count does not come into the range from
outside, which takes a start below the range or a count that has wrapped around.
-/

namespace OneTimeCode

/-- The counts of milliseconds that denote an instant. -/
def Instant.IsCount (count : Int) : Prop :=
  earliestSecond * 1000 ≤ count ∧ count < (latestSecond + 1) * 1000

instance (count : Int) : Decidable (Instant.IsCount count) :=
  inferInstanceAs (Decidable (_ ∧ _))

namespace Span

/-- The span does not run backwards. -/
def IsForward (span : Span) : Prop :=
  0 ≤ span.nanos

instance (span : Span) : Decidable span.IsForward :=
  inferInstanceAs (Decidable (_ ≤ _))

/-- A forward span moves a count by less than half of what 64 bits hold. -/
theorem wholeMillis_bounds {span : Span} (hforward : span.IsForward) :
    0 ≤ span.wholeMillis ∧ span.wholeMillis ≤ longestSpanMillis := by
  have hbounded := span.bounded
  rw [wholeMillis, Int.tdiv_eq_ediv_of_nonneg hforward]
  rw [IsForward] at hforward
  simp only [longestSpanMillis, nanosPerMilli] at *
  omega

end Span

namespace ManualClock

def after (clock : ManualClock) (spans : List Span) : ManualClock :=
  spans.foldl advance clock

/-- What the clock shows at first and after each of the spans. -/
def readings (clock : ManualClock) : List Span → List Instant
  | [] => [clock.now]
  | span :: spans => clock.now :: (clock.advance span).readings spans

/-- The count after the spans, each cut to whole milliseconds, if nothing wrapped around. -/
def exactCount (clock : ManualClock) (spans : List Span) : Int :=
  clock.millis.toInt + (spans.map Span.wholeMillis).sum

/-- The count started below the range or has wrapped around. -/
def IsAstray (clock : ManualClock) (spans : List Span) : Prop :=
  clock.millis.toInt < earliestSecond * 1000 ∨
    Int64.maxValue.toInt < clock.exactCount spans

instance (clock : ManualClock) (spans : List Span) : Decidable (clock.IsAstray spans) :=
  inferInstanceAs (Decidable (_ ∨ _))

/-! ## What is shown -/

theorem now_of_isCount {clock : ManualClock} (hcount : Instant.IsCount clock.millis.toInt) :
    clock.now.IsWhole ∧ clock.now.millis = clock.millis.toInt := by
  cases hshown : Instant.ofMillis? clock.millis.toInt with
  | none =>
      rw [Instant.ofMillis?_eq_none_iff] at hshown
      rw [Instant.IsCount] at hcount
      omega
  | some instant =>
      rw [now, hshown]
      exact (Instant.ofMillis?_eq_some_iff _ _).1 hshown

theorem now_of_not_isCount {clock : ManualClock}
    (hcount : ¬ Instant.IsCount clock.millis.toInt) : clock.now = Instant.latest := by
  have hnone : Instant.ofMillis? clock.millis.toInt = none := by
    rw [Instant.ofMillis?_eq_none_iff]
    rw [Instant.IsCount] at hcount
    omega
  rw [now, hnone, Option.getD_none]

/-- The latest instant has a part below a millisecond, so no count denotes it. -/
theorem now_lt_latest_iff (clock : ManualClock) :
    clock.now < Instant.latest ↔ Instant.IsCount clock.millis.toInt := by
  constructor
  · intro hlt
    apply Decidable.byContradiction
    intro hcount
    rw [now_of_not_isCount hcount] at hlt
    exact Instant.lt_irrefl _ hlt
  · intro hcount
    obtain ⟨⟨hleap, hfraction⟩, -⟩ := now_of_isCount hcount
    have hsecond := clock.now.second_le
    rw [Instant.isLeap_eq_false_iff] at hleap
    rw [Instant.lt_def]
    simp only [Instant.latest, nanosPerMilli, nanosPerSecond] at *
    omega

theorem now_le_latest (clock : ManualClock) : clock.now ≤ Instant.latest := by
  by_cases hcount : Instant.IsCount clock.millis.toInt
  · exact Instant.le_of_lt ((now_lt_latest_iff clock).2 hcount)
  · rw [now_of_not_isCount hcount]
    exact Instant.le_refl _

/-- One reading comes after another unless its count has come into the range from outside, or
is the smaller one there. -/
theorem now_le_now_iff (earlier later : ManualClock) :
    earlier.now ≤ later.now ↔
      (Instant.IsCount later.millis.toInt →
        Instant.IsCount earlier.millis.toInt ∧
          earlier.millis.toInt ≤ later.millis.toInt) := by
  by_cases hlater : Instant.IsCount later.millis.toInt
  · by_cases hearlier : Instant.IsCount earlier.millis.toInt
    · obtain ⟨hwhole, hmillis⟩ := now_of_isCount hearlier
      obtain ⟨⟨hleap, -⟩, hmillis'⟩ := now_of_isCount hlater
      rw [Instant.le_iff_millis_le hwhole hleap, hmillis, hmillis']
      simp only [hlater, hearlier, true_and, true_imp_iff]
    · rw [now_of_not_isCount hearlier]
      simp only [hlater, hearlier, false_and, imp_false, not_true_eq_false, iff_false]
      rw [Instant.not_le]
      exact (now_lt_latest_iff later).2 hlater
  · rw [now_of_not_isCount hlater]
    simp only [hlater, false_imp_iff, iff_true]
    exact now_le_latest earlier

/-! ## What is kept -/

theorem toInt_advance (clock : ManualClock) (span : Span) :
    (clock.advance span).millis.toInt =
      (clock.millis.toInt + span.wholeMillis).bmod Int64.size := by
  rw [advance, Int64.toInt_add, Int64.toInt_ofInt, Int.add_bmod_bmod]

theorem exactCount_cons (clock : ManualClock) (span : Span) (spans : List Span) :
    clock.exactCount (span :: spans) =
      clock.millis.toInt + span.wholeMillis + (spans.map Span.wholeMillis).sum := by
  rw [exactCount, List.map_cons, List.sum_cons, Int.add_assoc]

/-- The count that is kept is the exact one wrapped around. -/
theorem toInt_after (clock : ManualClock) (spans : List Span) :
    (clock.after spans).millis.toInt = (clock.exactCount spans).bmod Int64.size := by
  induction spans generalizing clock with
  | nil =>
      rw [exactCount, List.map_nil, List.sum_nil, Int.add_zero]
      exact (Int64.toInt_bmod clock.millis).symm
  | cons span spans ih =>
      calc (clock.after (span :: spans)).millis.toInt
          = ((clock.advance span).exactCount spans).bmod Int64.size := ih _
        _ = ((clock.millis.toInt + span.wholeMillis).bmod Int64.size +
              (spans.map Span.wholeMillis).sum).bmod Int64.size := by
            rw [exactCount, toInt_advance]
        _ = (clock.exactCount (span :: spans)).bmod Int64.size := by
            rw [Int.bmod_add_bmod, exactCount_cons]

theorem toInt_after_of_fits {clock : ManualClock} {spans : List Span}
    (hleast : Int64.minValue.toInt ≤ clock.exactCount spans)
    (hgreatest : clock.exactCount spans ≤ Int64.maxValue.toInt) :
    (clock.after spans).millis.toInt = clock.exactCount spans := by
  rw [toInt_after]
  rw [Int64.toInt_minValue] at hleast
  rw [Int64.toInt_maxValue] at hgreatest
  apply Int.bmod_eq_of_le
  all_goals
    simp only [Int64.size]
    omega

theorem exactCount_mono (clock : ManualClock) {earlier later : List Span}
    (hforward : ∀ span ∈ later, span.IsForward) (hinit : earlier <+: later) :
    clock.exactCount earlier ≤ clock.exactCount later := by
  obtain ⟨rest, rfl⟩ := hinit
  have hrest : 0 ≤ (rest.map Span.wholeMillis).sum := by
    apply List.sum_nonneg
    intro millis hmillis
    obtain ⟨span, hspan, rfl⟩ := List.mem_map.1 hmillis
    exact (Span.wholeMillis_bounds (hforward span (List.mem_append_right _ hspan))).1
  rw [exactCount, exactCount, List.map_append, List.sum_append]
  omega

theorem le_exactCount (clock : ManualClock) {spans : List Span}
    (hforward : ∀ span ∈ spans, span.IsForward) :
    clock.millis.toInt ≤ clock.exactCount spans := by
  calc clock.millis.toInt
      = clock.exactCount [] := by rw [exactCount, List.map_nil, List.sum_nil, Int.add_zero]
    _ ≤ clock.exactCount spans := exactCount_mono clock hforward List.nil_prefix

/-- A count that has not gone astray is kept as it is, and it does not lie below the range. -/
theorem toInt_after_of_not_isAstray {clock : ManualClock} {spans : List Span}
    (hforward : ∀ span ∈ spans, span.IsForward) (hstays : ¬ clock.IsAstray spans) :
    (clock.after spans).millis.toInt = clock.exactCount spans ∧
      earliestSecond * 1000 ≤ clock.exactCount spans := by
  have hle := le_exactCount clock hforward
  have hleast := Int64.minValue_le_toInt clock.millis
  rw [IsAstray] at hstays
  constructor
  · apply toInt_after_of_fits
    all_goals omega
  · omega

theorem IsAstray.mono {clock : ManualClock} {earlier later : List Span}
    (hforward : ∀ span ∈ later, span.IsForward) (hinit : earlier <+: later)
    (hastray : clock.IsAstray earlier) : clock.IsAstray later := by
  have hmono := exactCount_mono clock hforward hinit
  rw [IsAstray] at *
  omega

/-- A span is too short to lead from the range around into it again, so what goes astray after a
span from the range is still astray when the clock is started after that span. -/
theorem isAstray_advance {clock : ManualClock} {span : Span} {spans : List Span}
    (hforward : span.IsForward) (hcount : Instant.IsCount clock.millis.toInt)
    (hastray : clock.IsAstray (span :: spans)) : (clock.advance span).IsAstray spans := by
  obtain ⟨hnonneg, hshort⟩ := Span.wholeMillis_bounds hforward
  obtain ⟨hearliest, hlatest⟩ := hcount
  rw [IsAstray, exactCount_cons] at hastray
  rw [IsAstray, exactCount, toInt_advance]
  by_cases hfits : clock.millis.toInt + span.wholeMillis ≤ Int64.maxValue.toInt
  · right
    rw [Int.bmod_eq_of_le]
    all_goals
      simp only [Int64.size, Int64.toInt_maxValue, earliestSecond, latestSecond] at *
      omega
  · left
    rw [Int.bmod_def]
    simp only [Int64.size, Int64.toInt_maxValue, longestSpanMillis, earliestSecond,
      latestSecond] at *
    omega

/-- A count that has gone astray has been outside the range at first or on its way. -/
theorem exists_not_isCount_of_isAstray {clock : ManualClock} {spans : List Span}
    (hforward : ∀ span ∈ spans, span.IsForward) (hastray : clock.IsAstray spans) :
    ∃ passed, passed <+: spans ∧ ¬ Instant.IsCount (clock.after passed).millis.toInt := by
  by_cases hcount : Instant.IsCount clock.millis.toInt
  · induction spans generalizing clock with
    | nil =>
        have hgreatest := Int64.toInt_le clock.millis
        obtain ⟨hearliest, -⟩ := hcount
        rw [IsAstray, exactCount, List.map_nil, List.sum_nil] at hastray
        omega
    | cons span spans ih =>
        have hspan := hforward span List.mem_cons_self
        have hnext := isAstray_advance hspan hcount hastray
        by_cases hstays : Instant.IsCount (clock.advance span).millis.toInt
        · obtain ⟨passed, hpassed, houtside⟩ :=
            ih (fun later hlater => hforward later (List.mem_cons_of_mem _ hlater)) hnext hstays
          exact ⟨span :: passed, List.cons_prefix_cons.2 ⟨rfl, hpassed⟩, houtside⟩
        · exact ⟨[span], List.cons_prefix_cons.2 ⟨rfl, List.nil_prefix⟩, hstays⟩
  · exact ⟨[], List.nil_prefix, hcount⟩

/-! ## The readings in order -/

theorem mem_readings_iff (clock : ManualClock) (spans : List Span) (reading : Instant) :
    reading ∈ clock.readings spans ↔
      ∃ passed, passed <+: spans ∧ (clock.after passed).now = reading := by
  induction spans generalizing clock with
  | nil =>
      rw [readings, List.mem_singleton]
      constructor
      · intro hreading
        exact ⟨[], List.nil_prefix, hreading.symm⟩
      · rintro ⟨passed, hpassed, hreading⟩
        rw [List.prefix_nil.1 hpassed] at hreading
        exact hreading.symm
  | cons span spans ih =>
      rw [readings, List.mem_cons, ih]
      constructor
      · rintro (hreading | ⟨passed, hpassed, hreading⟩)
        · exact ⟨[], List.nil_prefix, hreading.symm⟩
        · exact ⟨span :: passed, List.cons_prefix_cons.2 ⟨rfl, hpassed⟩, hreading⟩
      · rintro ⟨passed, hpassed, hreading⟩
        rcases List.prefix_cons_iff.1 hpassed with rfl | ⟨rest, rfl, hrest⟩
        · exact Or.inl hreading.symm
        · exact Or.inr ⟨rest, hrest, hreading⟩

theorem pairwise_readings_iff (clock : ManualClock) (spans : List Span) :
    (clock.readings spans).Pairwise (· ≤ ·) ↔
      ∀ earlier later, earlier <+: later → later <+: spans →
        (clock.after earlier).now ≤ (clock.after later).now := by
  induction spans generalizing clock with
  | nil =>
      rw [readings]
      refine ⟨?_, fun _ => List.pairwise_singleton _ _⟩
      intro _ earlier later hearlier hlater
      rw [List.prefix_nil] at hlater
      rw [hlater, List.prefix_nil] at hearlier
      rw [hearlier, hlater]
      exact Instant.le_refl _
  | cons span spans ih =>
      rw [readings, List.pairwise_cons, ih]
      constructor
      · rintro ⟨hfirst, hrest⟩ earlier later hearlier hlater
        rcases List.prefix_cons_iff.1 hlater with rfl | ⟨after, rfl, hafter⟩
        · rw [List.prefix_nil.1 hearlier]
          exact Instant.le_refl _
        · rcases List.prefix_cons_iff.1 hearlier with rfl | ⟨before, rfl, hbefore⟩
          · exact hfirst _ ((mem_readings_iff _ _ _).2 ⟨after, hafter, rfl⟩)
          · exact hrest before after hbefore hafter
      · intro hordered
        constructor
        · intro reading hreading
          obtain ⟨passed, hpassed, rfl⟩ := (mem_readings_iff _ _ _).1 hreading
          exact hordered [] (span :: passed) List.nil_prefix
            (List.cons_prefix_cons.2 ⟨rfl, hpassed⟩)
        · intro earlier later hearlier hlater
          exact hordered (span :: earlier) (span :: later)
            (List.cons_prefix_cons.2 ⟨rfl, hearlier⟩) (List.cons_prefix_cons.2 ⟨rfl, hlater⟩)

/-- An advanced clock shows a later instant, or the same one, if its count is not back in the
range after it has gone astray. -/
theorem now_after_le_now_after {clock : ManualClock} {earlier later : List Span}
    (hforward : ∀ span ∈ later, span.IsForward) (hinit : earlier <+: later)
    (hstays : Instant.IsCount (clock.after later).millis.toInt → ¬ clock.IsAstray later) :
    (clock.after earlier).now ≤ (clock.after later).now := by
  rw [now_le_now_iff]
  intro hcount
  have hlater := hstays hcount
  have hearlier : ¬ clock.IsAstray earlier :=
    fun hastray => hlater (hastray.mono hforward hinit)
  have hmono := exactCount_mono clock hforward hinit
  obtain ⟨hkept, -⟩ := toInt_after_of_not_isAstray hforward hlater
  obtain ⟨hkept', hearliest⟩ := toInt_after_of_not_isAstray
    (fun span hspan => hforward span (hinit.subset hspan)) hearlier
  rw [Instant.IsCount] at *
  omega

/-- A reading has the exact count if that denotes an instant, whatever the clock has shown
before. -/
theorem millis_now_after {clock : ManualClock} {spans : List Span}
    (hcount : Instant.IsCount (clock.exactCount spans)) :
    (clock.after spans).now.millis = clock.exactCount spans := by
  have hkept : (clock.after spans).millis.toInt = clock.exactCount spans := by
    obtain ⟨hearliest, hlatest⟩ := hcount
    apply toInt_after_of_fits
    all_goals
      simp only [Int64.toInt_minValue, Int64.toInt_maxValue, earliestSecond,
        latestSecond] at *
      omega
  rw [← hkept] at hcount ⊢
  exact (now_of_isCount hcount).2

/-- The readings of a clock that is advanced are in order exactly if its count is never in the
range when it has gone astray, and each of them has the exact count if that denotes an
instant. -/
theorem readings_in_order_iff (clock : ManualClock) (spans : List Span)
    (hforward : ∀ span ∈ spans, span.IsForward) :
    ((clock.readings spans).Pairwise (· ≤ ·) ↔
        ∀ passed, passed <+: spans →
          Instant.IsCount (clock.after passed).millis.toInt → ¬ clock.IsAstray passed) ∧
      ∀ passed, passed <+: spans → Instant.IsCount (clock.exactCount passed) →
        (clock.after passed).now.millis = clock.exactCount passed := by
  have hpassed : ∀ passed, passed <+: spans → ∀ span ∈ passed, span.IsForward :=
    fun passed hinit span hspan => hforward span (hinit.subset hspan)
  refine ⟨?_, fun passed _ hcount => millis_now_after hcount⟩
  rw [pairwise_readings_iff]
  constructor
  · intro hordered passed hinit hcount hastray
    obtain ⟨earlier, hearlier, houtside⟩ :=
      exists_not_isCount_of_isAstray (hpassed passed hinit) hastray
    have hle := hordered earlier passed hearlier hinit
    exact houtside ((now_le_now_iff _ _).1 hle hcount).1
  · intro hstays earlier later hearlier hlater
    exact now_after_le_now_after (hpassed later hlater) hearlier (hstays later hlater)

/-- Two milliseconds before the last one of the range. -/
def nearTheEnd : ManualClock :=
  ⟨8210266876799997⟩

def oneMilli : Span :=
  ⟨1000000, by decide⟩

def longestSpan : Span :=
  ⟨longestSpanMillis * nanosPerMilli, by decide⟩

/-- To the last millisecond of the range, out of it and around. -/
def pastTheEnd : List Span :=
  [⟨1999999, by decide⟩, ⟨500000, by decide⟩, oneMilli, oneMilli, longestSpan]

/-- The clock stays at the latest instant when its count has left the range and wraps around, and
before that it has shown the last millisecond. -/
theorem readings_in_order_past_the_end :
    (∀ span ∈ pastTheEnd, span.IsForward) ∧
      (nearTheEnd.readings pastTheEnd).Pairwise (· ≤ ·) ∧
      nearTheEnd.IsAstray pastTheEnd ∧
      (nearTheEnd.after (pastTheEnd.take 3)).now.millis = 8210266876799999 := by
  have hforward : ∀ span ∈ pastTheEnd, span.IsForward := by decide
  have hreadings := readings_in_order_iff nearTheEnd pastTheEnd hforward
  refine ⟨hforward, hreadings.1.2 ?_, by decide, ?_⟩
  · have hstays : ∀ passed ∈ pastTheEnd.inits,
        Instant.IsCount (nearTheEnd.after passed).millis.toInt →
          ¬ nearTheEnd.IsAstray passed := by
      decide
    intro passed hpassed
    exact hstays passed ((List.mem_inits _ _).2 hpassed)
  · exact hreadings.2 _ ( List.take_prefix _ _) (by decide)

/-- A clock that starts one millisecond below the range goes back from the latest instant to the
earliest one, and two longest spans lead from the start of 1970 around to just before it. -/
theorem readings_out_of_order :
    oneMilli.IsForward ∧ longestSpan.IsForward ∧
      (readings ⟨-8334601228800001⟩ [oneMilli]).map Instant.millis =
        [8210266876799999, -8334601228800000] ∧
      ¬ (readings ⟨-8334601228800001⟩ [oneMilli]).Pairwise (· ≤ ·) ∧
      (readings ⟨0⟩ [longestSpan, longestSpan]).map Instant.millis =
        [0, 8210266876799999, -2] ∧
      ¬ (readings ⟨0⟩ [longestSpan, longestSpan]).Pairwise (· ≤ ·) := by
  decide

end ManualClock

end OneTimeCode
