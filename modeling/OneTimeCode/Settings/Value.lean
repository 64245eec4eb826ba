import OneTimeCode.Text.Digits

/-!
# Values of settings

Settings are given as texts.  Counts fit 64 bits, and switches are spelled out.
-/

namespace OneTimeCode.Settings

inductive ValueFault
  | countEmpty
  | countInvalid
  | countTooLarge
  | notASwitch
deriving DecidableEq, Repr

def ValueFault.message : ValueFault → String
  | countEmpty => "cannot parse integer from empty string"
  | countInvalid => "invalid digit found in string"
  | countTooLarge => "number too large to fit in target type"
  | notASwitch => "provided string was not `true` or `false`"

def largestCount : Nat := 0xffffffffffffffff

/-- Continues a count by its remaining digits and stops at the first character
that is no digit or makes the count too large. -/
def readDigits (value : Nat) : List Char → Except ValueFault Nat
  | [] => .ok value
  | c :: rest =>
    if c.isDigit then
      let value := 10 * value + Text.digitValue c
      if value ≤ largestCount then readDigits value rest else .error .countTooLarge
    else
      .error .countInvalid

/-- A count is written in one or more digits, with a plus sign before them or
none. -/
def readCount (text : String) : Except ValueFault Nat :=
  match text.toList with
  | [] => .error .countEmpty
  | ['+'] => .error .countInvalid
  | '+' :: digits => readDigits 0 digits
  | digits => readDigits 0 digits

def readSwitch (text : String) : Except ValueFault Bool :=
  if text = "true" then .ok true
  else if text = "false" then .ok false
  else .error .notASwitch

def readText (text : String) : Except ValueFault String :=
  .ok text

end OneTimeCode.Settings
