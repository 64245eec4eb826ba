import OneTimeCode.Time.Rfc3339.Reader

/-!
# Dates by their day numbers

Every day number has a date of the calendar, and the date has that number.  Both facts
go through the days of a year counted from March: a day is found in a cycle of 400 years,
in a century, in four years and in a year, and a month and its day in a year.
-/

namespace OneTimeCode.Date

/-- The day lies in the year counted from March, as the last one only in a leap year. -/
structure IsYearDay (number year : Int) (yearDay : Nat) : Prop where
  number_eq : number =
    365 * year + year / 4 - year / 100 + year / 400 + yearDay - epochShift
  fits : yearDay < 365 ∨ yearDay = 365 ∧ isLeapYear (year + 1) = true

theorem IsYearDay.le {number year : Int} {yearDay : Nat}
    (hyearDay : IsYearDay number year yearDay) : yearDay ≤ 365 := by
  rcases hyearDay.fits with hlt | ⟨rfl, -⟩ <;> omega

theorem isLeapYear_eq_true_iff (year : Int) :
    isLeapYear year = true ↔ year % 4 = 0 ∧ (year % 100 ≠ 0 ∨ year % 400 = 0) := by
  simp [isLeapYear]

/-- The quotients of a year by those of its parts. -/
theorem isYearDay_of_parts {number cycle : Int} {century four year yearDay : Nat}
    (hnumber : number + epochShift =
      146097 * cycle + 36524 * century + 1461 * four + 365 * year + yearDay)
    (hcentury : century ≤ 3) (hfour : four ≤ 24) (hyear : year ≤ 3)
    (hfits : yearDay < 365 ∨ yearDay = 365 ∧ year = 3 ∧ (four < 24 ∨ century = 3)) :
    IsYearDay number (400 * cycle + 100 * century + 4 * four + year) yearDay := by
  constructor
  · omega
  · rcases hfits with hfits | ⟨hlast, hfits⟩
    · exact Or.inl hfits
    · refine Or.inr ⟨hlast, ?_⟩
      rw [isLeapYear_eq_true_iff]
      omega

/-- Every day lies in a year. -/
theorem exists_isYearDay (number : Int) :
    ∃ year yearDay, ofDayNumber number = ofYearDay year yearDay ∧
      IsYearDay number year yearDay := by
  refine ⟨_, _, rfl, ?_⟩
  have hcycle := Int.emod_nonneg (number + epochShift) (show (146097 : Int) ≠ 0 by decide)
  have hlength := Int.emod_lt_of_pos (number + epochShift) (show (0 : Int) < 146097 by decide)
  apply isYearDay_of_parts
  all_goals omega

/-- The month of a day of the year counted from March, which lies neither before the
first day of the month nor after its last one. -/
theorem month_of_yearDay {yearDay : Nat} (hyearDay : yearDay ≤ 365) :
    (5 * yearDay + 2) / 153 ≤ 11 ∧
      daysBeforeMonth ((5 * yearDay + 2) / 153) ≤ yearDay ∧
      yearDay < daysBeforeMonth ((5 * yearDay + 2) / 153 + 1) := by
  simp only [daysBeforeMonth]
  omega

theorem yearFromMarch_ofYearDay (year : Int) {yearDay : Nat} (hyearDay : yearDay ≤ 365) :
    (ofYearDay year yearDay).yearFromMarch = year := by
  have hmonth := (month_of_yearDay hyearDay).1
  simp only [ofYearDay, yearFromMarch]
  split
  · exact if_neg (by simp)
  · rw [if_pos (by simp only; omega)]
    simp

theorem monthFromMarch_ofYearDay (year : Int) {yearDay : Nat} (hyearDay : yearDay ≤ 365) :
    (ofYearDay year yearDay).monthFromMarch = (5 * yearDay + 2) / 153 := by
  have hmonth := (month_of_yearDay hyearDay).1
  simp only [ofYearDay, monthFromMarch]
  split
  · simp only
    omega
  · simp only
    omega

theorem day_ofYearDay (year : Int) (yearDay : Nat) :
    (ofYearDay year yearDay).day =
      yearDay - daysBeforeMonth ((5 * yearDay + 2) / 153) + 1 := by
  rw [ofYearDay]
  split <;> rfl

theorem dayNumber_ofYearDay (year : Int) {yearDay : Nat} (hyearDay : yearDay ≤ 365) :
    (ofYearDay year yearDay).dayNumber =
      365 * year + year / 4 - year / 100 + year / 400 + yearDay - epochShift := by
  obtain ⟨-, hstart, -⟩ := month_of_yearDay hyearDay
  rw [dayNumber, yearFromMarch_ofYearDay year hyearDay,
    monthFromMarch_ofYearDay year hyearDay, day_ofYearDay]
  omega

theorem month_ofYearDay (year : Int) (yearDay : Nat) :
    (ofYearDay year yearDay).month =
      if (5 * yearDay + 2) / 153 < 10 then (5 * yearDay + 2) / 153 + 3
      else (5 * yearDay + 2) / 153 - 9 := by
  rw [ofYearDay]
  split <;> rfl

theorem year_ofYearDay (year : Int) (yearDay : Nat) :
    (ofYearDay year yearDay).year =
      if (5 * yearDay + 2) / 153 < 10 then year else year + 1 := by
  rw [ofYearDay]
  split <;> rfl

/-- Each month before February ends where the next one starts. -/
theorem daysBeforeMonth_succ (year : Int) : ∀ monthFromMarch ≤ 10,
    daysBeforeMonth (monthFromMarch + 1) = daysBeforeMonth monthFromMarch +
      daysInMonth year (if monthFromMarch < 10 then monthFromMarch + 3 else monthFromMarch - 9)
  | 0, _ | 1, _ | 2, _ | 3, _ | 4, _ | 5, _ | 6, _ | 7, _ | 8, _ | 9, _ | 10, _ => rfl
  | monthFromMarch + 11, hmonth => absurd hmonth (by omega)

/-- A day of a year is one of the calendar. -/
theorem valid_ofYearDay {number year : Int} {yearDay : Nat}
    (hyearDay : IsYearDay number year yearDay) : (ofYearDay year yearDay).Valid := by
  obtain ⟨hmonth, hstart, hend⟩ := month_of_yearDay hyearDay.le
  rw [Valid, month_ofYearDay, day_ofYearDay]
  refine ⟨by split <;> omega, by split <;> omega, by omega, ?_⟩
  rcases Nat.lt_or_eq_of_le hmonth with hbefore | hfebruary
  · have hnext := daysBeforeMonth_succ (ofYearDay year yearDay).year _
      (Nat.le_of_lt_succ hbefore)
    omega
  · -- February is the last month, so the leap day ends the year.
    rw [hfebruary] at hstart
    rw [year_ofYearDay, hfebruary]
    change yearDay - 337 + 1 ≤ if isLeapYear (year + 1) = true then 29 else 28
    rcases hyearDay.fits with hlt | ⟨rfl, hleap⟩
    · split <;> omega
    · exact Nat.le_of_eq (if_pos hleap).symm

theorem daysInMonth_le (year : Int) (month : Nat) : daysInMonth year month ≤ 31 := by
  rw [daysInMonth]
  split
  · split <;> decide
  · split <;> decide

/-! ## All days -/

theorem dayNumber_ofDayNumber (number : Int) : (ofDayNumber number).dayNumber = number := by
  obtain ⟨year, yearDay, hdate, hyearDay⟩ := exists_isYearDay number
  rw [hdate, dayNumber_ofYearDay year hyearDay.le, hyearDay.number_eq]

theorem valid_ofDayNumber (number : Int) : (ofDayNumber number).Valid := by
  obtain ⟨year, yearDay, hdate, hyearDay⟩ := exists_isYearDay number
  rw [hdate]
  exact valid_ofYearDay hyearDay

/-- The days of the range of instants lie in its years. -/
theorem year_ofDayNumber_bounds {number : Int} (hearliest : earliestSecond / 86400 ≤ number)
    (hlatest : number ≤ latestSecond / 86400) :
    Rfc3339.earliestYear ≤ (ofDayNumber number).year ∧
      (ofDayNumber number).year ≤ Rfc3339.latestYear := by
  obtain ⟨year, yearDay, hdate, hyearDay⟩ := exists_isYearDay number
  have hle := hyearDay.le
  have hnumber := hyearDay.number_eq
  simp only [earliestSecond, latestSecond, epochShift] at hearliest hlatest hnumber
  have hfirst : year = -262144 ∧ 306 ≤ yearDay ∨ -262143 ≤ year := by
    rcases Int.lt_trichotomy year (-262144) with hlt | rfl | hgt <;> omega
  have hlast : year = 262142 ∧ yearDay ≤ 305 ∨ year ≤ 262141 := by
    rcases Int.lt_trichotomy year 262142 with hlt | rfl | hgt <;> omega
  rw [hdate, year_ofYearDay]
  simp only [Rfc3339.earliestYear, Rfc3339.latestYear]
  split <;> omega

end OneTimeCode.Date
