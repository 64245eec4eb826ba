import OneTimeCode.Text.Digits
import OneTimeCode.Time.Calendar
import OneTimeCode.Time.Instant

/-!
# Writing instants

Instants are written as RFC 3339 dates in universal time, with as many decimals
as are needed out of none, three, six and nine.
-/

namespace OneTimeCode.Rfc3339

open OneTimeCode.Text

/-- Years outside 0 to 9999 have a sign, and every year at least four digits. -/
def printYear (year : Int) : List Char :=
  if 0 ≤ year ∧ year ≤ 9999 then padded 4 year.toNat
  else if year < 0 then '-' :: padded 4 year.natAbs
  else '+' :: padded 4 year.natAbs

def printDate (date : Date) : List Char :=
  printYear date.year ++ '-' :: lastDigits 2 date.month ++ '-' :: lastDigits 2 date.day

/-- The decimals of a second, with the point before them. -/
def printDecimals (nanos : Nat) : List Char :=
  if nanos = 0 then []
  else if nanos % 1000000 = 0 then '.' :: lastDigits 3 (nanos / 1000000)
  else if nanos % 1000 = 0 then '.' :: lastDigits 6 (nanos / 1000)
  else '.' :: lastDigits 9 nanos

/-- The time of a second of the day.  A leap second is second 60. -/
def printTime (daySecond nanos : Nat) : List Char :=
  let second := daySecond % 60 + nanos / nanosPerSecond
  lastDigits 2 (daySecond / 3600) ++ ':' :: lastDigits 2 (daySecond / 60 % 60) ++
    ':' :: lastDigits 2 second ++ printDecimals (nanos % nanosPerSecond)

def printChars (instant : Instant) : List Char :=
  printDate (Date.ofDayNumber (instant.second / 86400)) ++
    'T' :: printTime (instant.second % 86400).toNat instant.nanos ++ ['Z']

def print (instant : Instant) : String :=
  String.ofList (printChars instant)

end OneTimeCode.Rfc3339
