import OneTimeCode.Json
import OneTimeCode.Text.Digits

/-!
# Numbers in a JSON text

A number is split into its parts first.  What it stands for depends on how it is
written: `1` is an integer, and `1.0` and `1e0` are not.
-/

namespace OneTimeCode.Json

/-- A number by its parts: the digits before the point and after it, and the power
of ten.  A part that is not written has no digits. -/
structure Numeral where
  negative : Bool
  whole : List Char
  fraction : List Char
  exponent : Option Int
deriving Repr

namespace Numeral

/-- A run of one or more digits, and what follows it. -/
def digits? (text : List Char) : Option (List Char × List Char) :=
  match text.span Char.isDigit with
  | ([], _) => none
  | (digits, rest) => some (digits, rest)

/-- A leading zero stands alone. -/
def whole? (text : List Char) : Option (List Char × List Char) :=
  match digits? text with
  | some ('0' :: _ :: _, _) => none
  | part => part

def fraction? : List Char → Option (List Char × List Char)
  | '.' :: text => digits? text
  | text => some ([], text)

def signed? : List Char → Option (Int × List Char)
  | '-' :: text => do
    let (digits, rest) ← digits? text
    some (-Text.valueOf digits, rest)
  | '+' :: text => do
    let (digits, rest) ← digits? text
    some (Text.valueOf digits, rest)
  | text => do
    let (digits, rest) ← digits? text
    some (Text.valueOf digits, rest)

/-- The power of ten is all that can follow the digits. -/
def exponent? : List Char → Option (Option Int)
  | [] => some none
  | mark :: text =>
    if mark = 'e' ∨ mark = 'E' then
      match signed? text with
      | some (exponent, []) => some (some exponent)
      | _ => none
    else
      none

def unsigned? (negative : Bool) (text : List Char) : Option Numeral := do
  let (whole, rest) ← whole? text
  let (fraction, rest) ← fraction? rest
  some ⟨negative, whole, fraction, ← exponent? rest⟩

def ofChars? : List Char → Option Numeral
  | '-' :: text => unsigned? true text
  | text => unsigned? false text

/-- The largest number whose digits are kept. -/
def largestKept : Nat := 0xffffffffffffffff

/-- Continues a number by further digits as long as it can be kept, and gives the
digits left over. -/
def keep (value : Nat) : List Char → Nat × List Char
  | [] => (value, [])
  | c :: rest =>
    let longer := 10 * value + Text.digitValue c
    if longer ≤ largestKept then keep longer rest else (value, c :: rest)

/-- A negative integer goes down to the least one of 64 bits, and zero with a sign
is not an integer. -/
def integerOf (negative : Bool) (value : Nat) : Json :=
  if !negative then .integer value
  else if value = 0 ∨ 0x8000000000000000 < value then .real true (.nearest value 1)
  else .integer (-value)

/-- Digits beyond the kept ones count as zeros before the point, and not at all
after it.  A number which is too large has no value. -/
def value? (numeral : Numeral) : Option Json :=
  let (head, dropped) := keep 0 numeral.whole
  if dropped = [] ∧ numeral.fraction = [] ∧ numeral.exponent = none then
    some (integerOf numeral.negative head)
  else
    let (digits, ignored) := keep head numeral.fraction
    let places := numeral.fraction.length - ignored.length
    let exponent := numeral.exponent.getD 0 + dropped.length - places
    (Number.Binary.ofDecimal? digits exponent).map (.real numeral.negative)

end Numeral

end OneTimeCode.Json
