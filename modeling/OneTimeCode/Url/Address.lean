import OneTimeCode.Text.Digits

/-!
# Addresses of hosts

A host that ends in a number is an address of four bytes, and one in brackets is an
address of eight groups.
-/

namespace OneTimeCode.Url

/-! ## Four bytes -/

def isOctal (c : Char) : Bool :=
  '0' ≤ c && c ≤ '7'

def octalValue (digits : List Char) : Nat :=
  digits.foldl (fun value c => 8 * value + Text.digitValue c) 0

/-- A number is hexadecimal behind `0x`, octal behind another zero, and else
decimal. -/
def addressNumber? : List Char → Option Nat
  | [] => none
  | '0' :: 'x' :: digits => Text.hexValue? digits
  | '0' :: 'X' :: digits => Text.hexValue? digits
  | '0' :: digits => if digits.all isOctal then some (octalValue digits) else none
  | digits => if digits.all Char.isDigit then some (Text.valueOf digits) else none

/-- The labels of a domain, without an empty one at the end. -/
def significantLabels (labels : List (List Char)) : List (List Char) :=
  if labels.getLast? = some [] ∧ 1 < labels.length then labels.dropLast else labels

/-- A domain that ends in a number, well formed or not, has to be an address. -/
def endsInNumber (labels : List (List Char)) : Bool :=
  match (significantLabels labels).getLast? with
  | none => false
  | some label =>
    !label.isEmpty && (label.all Char.isDigit || (addressNumber? label).isSome)

/-- Each number but the last is a byte, and the last one holds the other bytes. -/
def isAddress (labels : List (List Char)) : Bool :=
  let labels := significantLabels labels
  match labels.mapM addressNumber? with
  | none => false
  | some numbers =>
    numbers.length ≤ 4 && numbers.dropLast.all (· < 256) &&
      numbers.getLast?.any (· < Nat.pow 256 (5 - numbers.length))

/-! ## Eight groups -/

/-- One byte in decimal digits, without leading zeros. -/
def isByte : List Char → Bool
  | [] => false
  | ['0'] => true
  | '0' :: _ => false
  | digits => digits.all Char.isDigit && Text.valueOf digits < 256

/-- The pieces of a text between marks. -/
def pieces (mark : Char) (text : List Char) : List (List Char) :=
  text.splitOn mark

/-- Four bytes with points between them take the place of two groups. -/
def isDottedPair (text : List Char) : Bool :=
  let bytes := pieces '.' text
  bytes.length == 4 && bytes.all isByte

def isGroup (text : List Char) : Bool :=
  !text.isEmpty && text.length ≤ 4 && text.all fun c => (Text.hexDigit? c).isSome

/-- How many groups the pieces stand for; the last one can be a dotted pair. -/
def groupCount? (lastMayBeDotted : Bool) : List (List Char) → Option Nat
  | [] => some 0
  | [piece] =>
    if isGroup piece then some 1
    else if lastMayBeDotted && isDottedPair piece then some 2
    else none
  | piece :: rest =>
    if isGroup piece then (· + 1) <$> groupCount? lastMayBeDotted rest else none

/-- The text before the first two colons in a row, and the text after them. -/
def splitAtGap : List Char → Option (List Char × List Char)
  | [] => none
  | ':' :: ':' :: rest => some ([], rest)
  | c :: rest => (splitAtGap rest).map fun (before, after) => (c :: before, after)

def groupPieces (text : List Char) : List (List Char) :=
  if text.isEmpty then [] else pieces ':' text

/-- All eight groups are given, or two colons stand for those that are left out. -/
def isGroupedAddress (text : List Char) : Bool :=
  match splitAtGap text with
  | none => groupCount? true (groupPieces text) == some 8
  | some (before, after) =>
    match groupCount? false (groupPieces before), groupCount? true (groupPieces after) with
    | some left, some right => left + right < 8
    | _, _ => false

end OneTimeCode.Url
