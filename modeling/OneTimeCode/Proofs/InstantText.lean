import OneTimeCode.Proofs.CalendarDays
import OneTimeCode.Proofs.DecimalDigits

/-!
# Instants as texts

An instant is read back from the text that it is written as, unless it lies in a leap second
that does not end a minute: the text shows that one as the second after it.  Each part of the
text is read up to where the next one begins, and then the date and the time of day add up to
the second and the nanoseconds that they show.
-/

namespace OneTimeCode

theorem Text.isBlank_eq_false_of_isDigit {c : Char} (hc : c.isDigit = true) :
    isBlank c = false := by
  rw [Char.isDigit, Bool.and_eq_true, decide_eq_true_iff, decide_eq_true_iff] at hc
  have hcode : 48 ≤ c.toNat ∧ c.toNat ≤ 57 := hc
  simp only [isBlank, Bool.or_eq_false_iff, Bool.and_eq_false_iff, decide_eq_false_iff_not,
    beq_eq_false_iff_ne]
  omega

namespace Instant

/-- In a leap second that does not end a minute. -/
def IsMisplacedLeap (instant : Instant) : Prop :=
  nanosPerSecond ≤ instant.nanos ∧ instant.second % 60 ≠ 59

instance (instant : Instant) : Decidable instant.IsMisplacedLeap :=
  inferInstanceAs (Decidable (_ ∧ _))

/-- The range of instants ends with a minute. -/
theorem IsMisplacedLeap.second_lt {instant : Instant} (hmisplaced : instant.IsMisplacedLeap) :
    instant.second < latestSecond := by
  have hlatest := instant.second_le
  have hminute := hmisplaced.2
  simp only [latestSecond] at *
  omega

/-- The instant that a date and a time of day can show: second 60 is there in the last minute
second only, so any other leap second counts as the second after it. -/
def asShown (instant : Instant) : Instant :=
  if hmisplaced : instant.IsMisplacedLeap then
    { second := instant.second + 1
      nanos := instant.nanos - nanosPerSecond
      second_ge := Int.le_trans instant.second_ge (Int.le_add_of_nonneg_right (by decide))
      second_le := hmisplaced.second_lt
      nanos_lt := Nat.lt_of_le_of_lt (Nat.sub_le _ _) instant.nanos_lt }
  else
    instant

theorem asShown_of_not_isMisplacedLeap {instant : Instant}
    (hplaced : ¬ instant.IsMisplacedLeap) : instant.asShown = instant :=
  dif_neg hplaced

theorem second_asShown_of_isMisplacedLeap {instant : Instant}
    (hmisplaced : instant.IsMisplacedLeap) :
    instant.asShown.second = instant.second + 1 := by
  rw [asShown, dif_pos hmisplaced]

theorem nanos_asShown_of_isMisplacedLeap {instant : Instant}
    (hmisplaced : instant.IsMisplacedLeap) :
    instant.asShown.nanos = instant.nanos - nanosPerSecond := by
  rw [asShown, dif_pos hmisplaced]

/-- Only leap seconds off the end of a minute are shown as something else. -/
theorem asShown_eq_self_iff (instant : Instant) :
    instant.asShown = instant ↔ ¬ instant.IsMisplacedLeap := by
  refine ⟨fun hsame hmisplaced => ?_, asShown_of_not_isMisplacedLeap⟩
  have hsecond := second_asShown_of_isMisplacedLeap hmisplaced
  rw [hsame] at hsecond
  omega

end Instant

namespace Rfc3339

open OneTimeCode.Text

/-! ## The parts of a text -/

theorem skipBlank_append_of_isDigit {digits : List Char} (hpos : digits ≠ [])
    (hdigits : ∀ c ∈ digits, c.isDigit = true) (rest : List Char) :
    skipBlank (digits ++ rest) = digits ++ rest := by
  obtain ⟨first, others, rfl⟩ := List.exists_cons_of_ne_nil hpos
  exact skipBlank_cons_of_not_isBlank _
    (isBlank_eq_false_of_isDigit (hdigits first List.mem_cons_self))

theorem field_lastDigits {lowest highest value : Nat} (hlowest : lowest ≤ value)
    (hhighest : value ≤ highest) (hdigits : value < 100) (rest : List Char) :
    field lowest highest (lastDigits 2 value ++ rest) = .ok (value, rest) := by
  have hpos : lastDigits 2 value ≠ [] := by simp [lastDigits]
  have hall : ∀ c ∈ lastDigits 2 value, c.isDigit = true := fun c => isDigit_of_mem_lastDigits
  have hvalue : valueOf (lastDigits 2 value) = value := by
    rw [valueOf_lastDigits, Nat.mod_eq_of_lt (show value < 10 ^ 2 from hdigits)]
  have hlargest : valueOf (lastDigits 2 value) ≤ largestNumber := by
    rw [hvalue, largestNumber]
    omega
  have hnumber : number (some 2) (lastDigits 2 value ++ rest) = .ok (value, rest) := by
    have hread : number (some (lastDigits 2 value).length) (lastDigits 2 value ++ rest) = _ :=
      number_of_width hpos hall hlargest
    rwa [length_lastDigits, hvalue] at hread
  rw [field, skipBlank_append_of_isDigit hpos hall, hnumber]
  exact if_pos ⟨hlowest, hhighest⟩

theorem separator_cons {c : Char} (hc : isBlank c = false) (rest : List Char) :
    separator c (c :: rest) = .ok ((), rest) := by
  rw [separator, skipBlank_cons_of_not_isBlank rest hc]
  exact if_pos rfl

/-- The years that a reader takes are those of 32 bits. -/
theorem boundedYear_of_bounds {value : Int} (hearliest : earliestYear ≤ value)
    (hlatest : value ≤ latestYear) (rest : List Char) :
    boundedYear value rest = .ok (value, rest) := by
  simp only [earliestYear, latestYear] at hearliest hlatest
  exact if_pos (by omega)

theorem number_padded {width : Option Nat} {value : Nat} (hvalue : value ≤ largestNumber)
    {rest : List Char} (hrest : EndsDigits rest)
    (hwidth : ∀ most ∈ width, (padded 4 value).length ≤ most) :
    number width (padded 4 value ++ rest) = .ok (value, rest) := by
  have hall : ∀ c ∈ padded 4 value, c.isDigit = true := fun c => isDigit_of_mem_padded
  rw [number_of_endsDigits (ne_nil_of_padded (by decide) value) hall
    (by rwa [valueOf_padded]) hrest hwidth, valueOf_padded]

/-- Without a sign a year has up to four digits. -/
theorem year_of_digits {digits rest : List Char} (hpos : digits ≠ [])
    (hdigits : ∀ c ∈ digits, c.isDigit = true) {value : Nat}
    (hnumber : number (some 4) (digits ++ rest) = .ok (value, rest)) :
    year (digits ++ rest) = boundedYear value rest := by
  obtain ⟨first, others, rfl⟩ := List.exists_cons_of_ne_nil hpos
  have hfirst := hdigits first List.mem_cons_self
  rw [year, skipBlank_append_of_isDigit hpos hdigits]
  split
  · next hsign =>
    cases hsign
    exact absurd hfirst (by decide)
  · next hsign =>
    cases hsign
    exact absurd hfirst (by decide)
  · simp only [hnumber, bind, Except.bind]

theorem year_printYear {value : Int} (hearliest : earliestYear ≤ value)
    (hlatest : value ≤ latestYear) {rest : List Char} (hrest : EndsDigits rest) :
    year (printYear value ++ rest) = .ok (value, rest) := by
  have hbounded := boundedYear_of_bounds hearliest hlatest rest
  simp only [earliestYear, latestYear] at hearliest hlatest
  have hlargest : value.natAbs ≤ largestNumber := by
    simp only [largestNumber]
    omega
  have hnumber : number none (padded 4 value.natAbs ++ rest) = .ok (value.natAbs, rest) :=
    number_padded hlargest hrest (by simp)
  rw [printYear]
  split
  case isTrue hplain =>
    have hlength : (padded 4 value.toNat).length = 4 := by
      rw [padded_eq_lastDigits (by decide) (by omega), length_lastDigits]
    have hplainNumber : number (some 4) (padded 4 value.toNat ++ rest) =
        .ok (value.toNat, rest) :=
      number_padded (by simp only [largestNumber]; omega) hrest (by simp [hlength])
    rw [year_of_digits (ne_nil_of_padded (by decide) _) (fun c => isDigit_of_mem_padded)
      hplainNumber, Int.toNat_of_nonneg hplain.1, hbounded]
  case isFalse hplain =>
    split
    case isTrue hnegative =>
      have hvalue : -(value.natAbs : Int) = value := by omega
      rw [List.cons_append, year, skipBlank_cons_of_not_isBlank _ (by decide)]
      simp only [hnumber, bind, Except.bind]
      rw [hvalue, hbounded]
    case isFalse hnegative =>
      have hvalue : (value.natAbs : Int) = value := by omega
      rw [List.cons_append, year, skipBlank_cons_of_not_isBlank _ (by decide)]
      simp only [hnumber, bind, Except.bind]
      rw [hvalue, hbounded]

theorem date_printDate {value : Date} (hvalid : value.Valid)
    (hearliest : earliestYear ≤ value.year) (hlatest : value.year ≤ latestYear)
    (rest : List Char) : date (printDate value ++ rest) = .ok (value, rest) := by
  obtain ⟨hmonth, hmonth', hday, hday'⟩ := hvalid
  have hlongest := Nat.le_trans hday' (Date.daysInMonth_le value.year value.month)
  have hhyphen : isBlank '-' = false := by decide
  have hyear := year_printYear hearliest hlatest (EndsDigits.cons (c := '-') (by decide)
    (lastDigits 2 value.month ++ '-' :: (lastDigits 2 value.day ++ rest)))
  rw [printDate]
  simp only [List.append_assoc, List.cons_append]
  rw [date, hyear]
  simp only [bind, Except.bind, separator_cons hhyphen,
    field_lastDigits hmonth hmonth' (by omega), field_lastDigits hday hlongest (by omega)]

/-! ## The time of day -/

/-- Digits after the point stand for the nanoseconds that nine of them would. -/
theorem decimals_lastDigits {width value : Nat} (hpos : 0 < width) (hwidth : width ≤ 9)
    (hvalue : value < 10 ^ width) {rest : List Char} (hrest : EndsDigits rest) :
    decimals ('.' :: lastDigits width value ++ rest) =
      .ok (value * 10 ^ (9 - width), rest) := by
  have hlength : 0 < (lastDigits width value).length := by rwa [length_lastDigits]
  have hread : valueOf (lastDigits width value) = value := by
    rw [valueOf_lastDigits, Nat.mod_eq_of_lt hvalue]
  have hlargest : value ≤ largestNumber := by
    have hnine : 10 ^ width ≤ 10 ^ 9 := Nat.pow_le_pow_right (by decide) hwidth
    simp only [largestNumber]
    omega
  have hnumber : number (some 9) (lastDigits width value ++ rest) = .ok (value, rest) := by
    rw [number_of_endsDigits (List.length_pos_iff.1 hlength)
      (fun c => isDigit_of_mem_lastDigits) (by rwa [hread]) hrest (by simpa using hwidth), hread]
  have hdropped : rest.dropWhile Char.isDigit = rest := by
    cases rest with
    | nil => rfl
    | cons c rest => simp [hrest c rfl]
  rw [List.cons_append, decimals]
  simp only [hnumber, bind, Except.bind, hdropped, List.length_append, length_lastDigits,
    Nat.add_sub_cancel]
  rfl

/-- The fewest decimals that are enough say all of the nanoseconds. -/
theorem decimals_printDecimals {nanos : Nat} (hnanos : nanos < nanosPerSecond) {c : Char}
    (hc : c.isDigit = false) (hpoint : c ≠ '.') (rest : List Char) :
    decimals (printDecimals nanos ++ c :: rest) = .ok (nanos, c :: rest) := by
  have hends := EndsDigits.cons hc rest
  simp only [nanosPerSecond] at hnanos
  rw [printDecimals]
  split
  · next hzero =>
    rw [List.nil_append, decimals, hzero]
    intro after hafter
    cases hafter
    exact hpoint rfl
  · split
    · rw [decimals_lastDigits (by decide) (by decide) (by omega) hends]
      congr 2
      omega
    · split
      · rw [decimals_lastDigits (by decide) (by decide) (by omega) hends]
        congr 2
        omega
      · rw [decimals_lastDigits (by decide) (by decide) (by omega) hends]
        congr 2
        omega

theorem timeOfDay_printTime {daySecond nanos : Nat} (hday : daySecond < 86400)
    (hnanos : nanos < 2 * nanosPerSecond) {c : Char} (hc : c.isDigit = false)
    (hpoint : c ≠ '.') (rest : List Char) :
    timeOfDay (printTime daySecond nanos ++ c :: rest) =
      .ok (⟨daySecond / 3600, daySecond / 60 % 60, daySecond % 60 + nanos / nanosPerSecond,
        nanos % nanosPerSecond⟩, c :: rest) := by
  have hcolon : isBlank ':' = false := by decide
  have hsecond : daySecond % 60 + nanos / nanosPerSecond ≤ 60 := by
    simp only [nanosPerSecond] at hnanos ⊢
    omega
  have hdecimals := decimals_printDecimals (Nat.mod_lt nanos (by decide : 0 < nanosPerSecond))
    hc hpoint rest
  rw [printTime]
  simp only [List.append_assoc, List.cons_append]
  rw [timeOfDay]
  simp only [bind, Except.bind, separator_cons hcolon, hdecimals,
    field_lastDigits (Nat.zero_le (daySecond / 3600)) (show daySecond / 3600 ≤ 23 by omega)
      (by omega),
    field_lastDigits (Nat.zero_le (daySecond / 60 % 60))
      (show daySecond / 60 % 60 ≤ 59 by omega) (by omega),
    field_lastDigits (Nat.zero_le _) hsecond (by omega)]

/-! ## Whole texts -/

/-- The second of the minute and the nanoseconds beyond it, which may lie in second 60. -/
theorem of?_parts (instant : Instant) (minute : Int) (second : Nat)
    (hsecond : minute * 60 + second = instant.second)
    (hlimit : second ≤ 59) :
    (if second + instant.nanos / nanosPerSecond = 60 then
        Instant.of? (minute * 60 + 59) (nanosPerSecond + instant.nanos % nanosPerSecond)
      else
        Instant.of? (minute * 60 + (second + instant.nanos / nanosPerSecond : Nat))
          (instant.nanos % nanosPerSecond)) = some instant.asShown := by
  have hnanos := instant.nanos_lt
  by_cases hmisplaced : instant.IsMisplacedLeap
  · have hminute := hmisplaced.2
    have hleap := hmisplaced.1
    simp only [nanosPerSecond] at hnanos hleap
    rw [if_neg (by simp only [nanosPerSecond]; omega), Instant.of?_eq_some_iff,
      Instant.second_asShown_of_isMisplacedLeap hmisplaced,
      Instant.nanos_asShown_of_isMisplacedLeap hmisplaced]
    simp only [nanosPerSecond]
    omega
  · rw [Instant.asShown_of_not_isMisplacedLeap hmisplaced]
    rw [Instant.IsMisplacedLeap] at hmisplaced
    split
    all_goals
      next hsixty =>
      rw [Instant.of?_eq_some_iff]
      simp only [nanosPerSecond] at hnanos hmisplaced hsixty ⊢
      omega

/-- The date and the time of day of an instant give the instant that they show. -/
theorem resolve_parts (instant : Instant) :
    resolve (Date.ofDayNumber (instant.second / 86400))
      ⟨(instant.second % 86400).toNat / 3600, (instant.second % 86400).toNat / 60 % 60,
        (instant.second % 86400).toNat % 60 + instant.nanos / nanosPerSecond,
        instant.nanos % nanosPerSecond⟩ 0 = .ok instant.asShown := by
  obtain ⟨hearliest, hlatest⟩ := Date.year_ofDayNumber_bounds
    (Int.ediv_le_ediv (by decide) instant.second_ge)
    (Int.ediv_le_ediv (by decide) instant.second_le)
  have hvalid := Date.valid_ofDayNumber (instant.second / 86400)
  rw [resolve, if_pos ⟨hvalid, hearliest, hlatest, by decide⟩, Date.dayNumber_ofDayNumber]
  simp only
  rw [of?_parts instant _ _ (by omega) (by omega)]

/-- Every instant is read back from its text, as far as the text shows it. -/
theorem read_print (instant : Instant) : read (print instant) = .ok instant.asShown := by
  obtain ⟨hearliest, hlatest⟩ := Date.year_ofDayNumber_bounds
    (Int.ediv_le_ediv (by decide) instant.second_ge)
    (Int.ediv_le_ediv (by decide) instant.second_le)
  have hdate := date_printDate (Date.valid_ofDayNumber (instant.second / 86400)) hearliest
    hlatest ('T' :: (printTime (instant.second % 86400).toNat instant.nanos ++ ['Z']))
  have hday : (instant.second % 86400).toNat < 86400 := by omega
  have htime := timeOfDay_printTime hday instant.nanos_lt (c := 'Z') (by decide) (by decide) []
  have hend : dateEnd ('T' :: (printTime (instant.second % 86400).toNat instant.nanos ++ ['Z'])) =
      .ok ((), printTime (instant.second % 86400).toNat instant.nanos ++ ['Z']) := by
    simp [dateEnd]
  have hoffset : offset ['Z'] = .ok (0, []) := rfl
  rw [read, print, String.toList_ofList, printChars]
  simp only [List.append_assoc, List.cons_append]
  rw [readChars]
  simp only [bind, Except.bind, hdate, hend, htime, hoffset, skipBlank_nil, resolve_parts]
  rfl

/-- A leap second at the end of the first minute of the range of instants. -/
def firstLeapSecond : Instant :=
  ⟨earliestSecond + 59, 1500000000, by decide, by decide, by decide⟩

example : print firstLeapSecond = "-262143-01-01T00:00:60.500Z" := by cbv

end Rfc3339

end OneTimeCode
