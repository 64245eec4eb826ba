import OneTimeCode.Text.Characters
import OneTimeCode.Text.Digits
import OneTimeCode.Time.Calendar
import OneTimeCode.Time.Instant

/-!
# Reading instants

The reader takes more than RFC 3339 allows: blanks between the parts, numbers
without leading zeros, years with a sign, and a leap second in any minute.  It
goes from left to right and stops at the first fault.
-/

namespace OneTimeCode.Rfc3339

open OneTimeCode.Text

inductive Fault
  | tooShort
  | invalid
  | outOfRange
  | tooLong
  | impossible
deriving DecidableEq, Repr

def Fault.message : Fault → String
  | tooShort => "premature end of input"
  | invalid => "input contains invalid characters"
  | outOfRange => "input is out of range"
  | tooLong => "trailing input"
  | impossible => "no possible date and time matching input"

/-! The readers of parts give what a part says and the text after it. -/

/-- The largest number that can be read. -/
def largestNumber : Nat := 0x7fffffffffffffff

/-- A run of digits at the front, of at most `width` of them when it is given. -/
def number (width : Option Nat) (text : List Char) : Except Fault (Nat × List Char) :=
  match text with
  | [] => .error .tooShort
  | c :: _ =>
    if c.isDigit then
      let digits := (match width with
        | some width => text.take width
        | none => text).takeWhile Char.isDigit
      if valueOf digits ≤ largestNumber then
        .ok (valueOf digits, text.drop digits.length)
      else
        .error .outOfRange
    else
      .error .invalid

/-- A number of one or two digits between bounds, after blanks. -/
def field (lowest highest : Nat) (text : List Char) : Except Fault (Nat × List Char) := do
  let (value, rest) ← number (some 2) (skipBlank text)
  if lowest ≤ value ∧ value ≤ highest then .ok (value, rest) else .error .outOfRange

/-- A year that fits 32 bits. -/
def boundedYear (year : Int) (rest : List Char) : Except Fault (Int × List Char) :=
  if -0x80000000 ≤ year ∧ year < 0x80000000 then .ok (year, rest) else .error .outOfRange

/-- A year of up to four digits, or of any number of them after a sign. -/
def year (text : List Char) : Except Fault (Int × List Char) :=
  match skipBlank text with
  | '-' :: rest => do
    let (value, rest) ← number none rest
    boundedYear (-value) rest
  | '+' :: rest => do
    let (value, rest) ← number none rest
    boundedYear value rest
  | text => do
    let (value, rest) ← number (some 4) text
    boundedYear value rest

/-- A character that has to come next, after blanks. -/
def separator (c : Char) (text : List Char) : Except Fault (Unit × List Char) :=
  match skipBlank text with
  | [] => .error .tooShort
  | found :: rest => if found = c then .ok ((), rest) else .error .invalid

def date (text : List Char) : Except Fault (Date × List Char) := do
  let (year, rest) ← year text
  let (_, rest) ← separator '-' rest
  let (month, rest) ← field 1 12 rest
  let (_, rest) ← separator '-' rest
  let (day, rest) ← field 1 31 rest
  .ok (⟨year, month, day⟩, rest)

/-- The letter or the space between date and time. -/
def dateEnd : List Char → Except Fault (Unit × List Char)
  | [] => .error .tooShort
  | c :: rest => if c = 'T' ∨ c = 't' ∨ c = ' ' then .ok ((), rest) else .error .invalid

/-- Decimals of a second as nanoseconds; digits after the ninth are passed over. -/
def decimals (text : List Char) : Except Fault (Nat × List Char) :=
  match text with
  | '.' :: rest => do
    let (value, after) ← number (some 9) rest
    .ok (value * Nat.pow 10 (9 - (rest.length - after.length)), after.dropWhile Char.isDigit)
  | text => .ok (0, text)

/-- A time of day; second 60 is a leap second. -/
structure TimeOfDay where
  hour : Nat
  minute : Nat
  second : Nat
  nanos : Nat
deriving DecidableEq, Repr

def timeOfDay (text : List Char) : Except Fault (TimeOfDay × List Char) := do
  let (hour, rest) ← field 0 23 text
  let (_, rest) ← separator ':' rest
  let (minute, rest) ← field 0 59 rest
  let (_, rest) ← separator ':' rest
  let (second, rest) ← field 0 60 rest
  let (nanos, rest) ← decimals rest
  .ok (⟨hour, minute, second, nanos⟩, rest)

/-- Two digits at the front.  A single character of more than one byte is not too
short but invalid. -/
def twoDigits : List Char → Except Fault (Nat × List Char)
  | [] => .error .tooShort
  | [c] => if c.toNat < 0x80 then .error .tooShort else .error .invalid
  | first :: second :: rest =>
    if first.isDigit && second.isDigit then .ok (valueOf [first, second], rest)
    else .error .invalid

/-- Hours and minutes of an offset, with any colons and blanks between them, in
minutes. -/
def offsetMinutes (text : List Char) : Except Fault (Nat × List Char) := do
  let (hours, rest) ← twoDigits text
  let (minutes, rest) ← twoDigits (rest.dropWhile fun c => c = ':' || isBlank c)
  if minutes < 60 then .ok (hours * 60 + minutes, rest) else .error .outOfRange

/-- An offset from universal time in minutes, after blanks. -/
def offset (text : List Char) : Except Fault (Int × List Char) :=
  match skipBlank text with
  | [] => .error .tooShort
  | c :: rest =>
    if (c :: rest.take 2).map Char.toUpper = ['U', 'T', 'C'] then .ok (0, rest.drop 2)
    else if c = 'Z' ∨ c = 'z' then .ok (0, rest)
    else if c = '+' then do
      let (minutes, rest) ← offsetMinutes rest
      .ok ((minutes : Int), rest)
    else if c = '-' ∨ c = '\u2212' then do
      let (minutes, rest) ← offsetMinutes rest
      .ok (-(minutes : Int), rest)
    else .error .invalid

/-- The years of the range of instants. -/
def earliestYear : Int := -262143

def latestYear : Int := 262142

/-- The instant of a local date and time. -/
def resolve (date : Date) (time : TimeOfDay) (offset : Int) : Except Fault Instant :=
  if date.Valid ∧ earliestYear ≤ date.year ∧ date.year ≤ latestYear ∧
      offset.natAbs < 24 * 60 then
    let minute := date.dayNumber * 1440 + time.hour * 60 + time.minute - offset
    let instant := if time.second = 60 then
        Instant.of? (minute * 60 + 59) (nanosPerSecond + time.nanos)
      else
        Instant.of? (minute * 60 + time.second) time.nanos
    match instant with
    | some instant => .ok instant
    | none => .error .impossible
  else
    .error .outOfRange

def readChars (text : List Char) : Except Fault Instant := do
  let (date, rest) ← date text
  let (_, rest) ← dateEnd rest
  let (time, rest) ← timeOfDay rest
  let (offset, rest) ← offset rest
  if skipBlank rest = [] then resolve date time offset else .error .tooLong

def read (text : String) : Except Fault Instant :=
  readChars text.toList

end OneTimeCode.Rfc3339
