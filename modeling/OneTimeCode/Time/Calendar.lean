/-!
# Calendar dates

Dates of the Gregorian calendar, extended to all years, and their numbering by
days from 1 January 1970.
-/

namespace OneTimeCode

structure Date where
  year : Int
  month : Nat
  day : Nat
deriving DecidableEq, Repr

namespace Date

def isLeapYear (year : Int) : Bool :=
  year % 4 = 0 && (year % 100 ≠ 0 || year % 400 = 0)

def daysInMonth (year : Int) (month : Nat) : Nat :=
  if month = 2 then (if isLeapYear year then 29 else 28)
  else if month = 4 ∨ month = 6 ∨ month = 9 ∨ month = 11 then 30
  else 31

/-- The day occurs in the calendar. -/
def Valid (date : Date) : Prop :=
  1 ≤ date.month ∧ date.month ≤ 12 ∧ 1 ≤ date.day ∧
    date.day ≤ daysInMonth date.year date.month

instance (date : Date) : Decidable date.Valid :=
  inferInstanceAs (Decidable (_ ∧ _ ∧ _ ∧ _))

/-- Years are counted from March here, so that a leap day ends its year. -/
def yearFromMarch (date : Date) : Int :=
  if date.month ≤ 2 then date.year - 1 else date.year

/-- March is month 0 and February month 11. -/
def monthFromMarch (date : Date) : Nat :=
  (date.month + 9) % 12

/-- How many days of a year counted from March lie before a month. -/
def daysBeforeMonth (monthFromMarch : Nat) : Nat :=
  (153 * monthFromMarch + 2) / 5

/-- The day number of 1 March of year 0, negated. -/
def epochShift : Int := 719468

/-- Days from 1 January 1970; earlier days have negative numbers. -/
def dayNumber (date : Date) : Int :=
  let year := date.yearFromMarch
  365 * year + year / 4 - year / 100 + year / 400 +
    daysBeforeMonth date.monthFromMarch + date.day - 1 - epochShift

/-- The date of a year counted from March and a day of that year, the first being
day 0. -/
def ofYearDay (yearFromMarch : Int) (yearDay : Nat) : Date :=
  let monthFromMarch := (5 * yearDay + 2) / 153
  let day := yearDay - daysBeforeMonth monthFromMarch + 1
  if monthFromMarch < 10 then ⟨yearFromMarch, monthFromMarch + 3, day⟩
  else ⟨yearFromMarch + 1, monthFromMarch - 9, day⟩

/-- The date of a day number.  A cycle of 400 years has 146097 days; the last
century of a cycle, and the last year of four, can be a day longer than the
others, which the two minima allow for. -/
def ofDayNumber (number : Int) : Date :=
  let shifted := number + epochShift
  let cycle := shifted / 146097
  let cycleDay := (shifted % 146097).toNat
  let century := min (cycleDay / 36524) 3
  let centuryDay := cycleDay - 36524 * century
  let four := centuryDay / 1461
  let fourDay := centuryDay - 1461 * four
  let year := min (fourDay / 365) 3
  let yearDay := fourDay - 365 * year
  ofYearDay (400 * cycle + 100 * century + 4 * four + year) yearDay

end Date

end OneTimeCode
