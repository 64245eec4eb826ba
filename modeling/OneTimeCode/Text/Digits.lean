/-!
# Digits

Dates, and the numbers in settings, are written in the ten ASCII digits.  Escapes
give characters and bytes by hexadecimal digits of either case.
-/

namespace OneTimeCode.Text

/-! ## Decimal digits -/

def digitChar (digit : Nat) : Char :=
  Char.ofNat ('0'.toNat + digit % 10)

def digitValue (c : Char) : Nat :=
  c.toNat - '0'.toNat

/-- The last `width` digits of a number, leading zeros included. -/
def lastDigits : (width : Nat) → (n : Nat) → List Char
  | 0, _ => []
  | width + 1, n => lastDigits width (n / 10) ++ [digitChar n]

/-- How many digits a number has. -/
def digitCount (n : Nat) : Nat :=
  if n < 10 then 1 else digitCount (n / 10) + 1

/-- All digits of a number, after as many zeros as make up `width`. -/
def padded (width n : Nat) : List Char :=
  lastDigits (max width (digitCount n)) n

/-- The number that a run of digits stands for. -/
def valueOf (digits : List Char) : Nat :=
  digits.foldl (fun value c => 10 * value + digitValue c) 0

@[simp]
theorem length_lastDigits (width n : Nat) : (lastDigits width n).length = width := by
  induction width generalizing n with
  | zero => rfl
  | succ width ih => simp [lastDigits, ih]

theorem valueOf_append_singleton (digits : List Char) (c : Char) :
    valueOf (digits ++ [c]) = 10 * valueOf digits + digitValue c := by
  simp [valueOf, List.foldl_append]

/-! ## Hexadecimal digits -/

def hexDigit? (c : Char) : Option Nat :=
  if c.isDigit then some (c.toNat - '0'.toNat)
  else if 'a' ≤ c ∧ c ≤ 'f' then some (c.toNat - 'a'.toNat + 10)
  else if 'A' ≤ c ∧ c ≤ 'F' then some (c.toNat - 'A'.toNat + 10)
  else none

/-- The number that a run of hexadecimal digits stands for. -/
def hexValue? (digits : List Char) : Option Nat := do
  let values ← digits.mapM hexDigit?
  return values.foldl (fun value digit => 16 * value + digit) 0

end OneTimeCode.Text
