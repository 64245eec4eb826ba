import OneTimeCode.Number.Binary
import OneTimeCode.Text.Digits

/-!
# Shortest text of a binary number

A binary number is shown by the fewest decimal digits that read back as the same
one, and by the nearest of those.
-/

namespace OneTimeCode.Number

/-- The power of ten of the leading digit of a quotient below one, searched from
the first place after the point. -/
def leadingPlaceBelowOne (numerator denominator : Nat) : (fuel : Nat) → Int
  | 0 => 0
  | fuel + 1 =>
    if denominator ≤ numerator then 0
    else leadingPlaceBelowOne (numerator * 10) denominator fuel - 1

/-- The power of ten of the leading digit of a positive quotient. -/
def leadingPlace (numerator denominator : Nat) : Int :=
  if denominator ≤ numerator then
    (Text.digitCount (numerator / denominator) : Int) - 1
  else
    leadingPlaceBelowOne numerator denominator 400

/-- Whether `digits * 10 ^ place` lies among the numbers that are rounded to the
given binary number; the ends belong to them when its significand is even. -/
def readsBack (binary : Binary) (digits : Nat) (place : Int) : Bool :=
  let quarter := binary.exponent - 2
  let below := if binary.significand = leastFull ∧ lowestPlace < binary.exponent then 1 else 2
  let (unit, unitBottom) := scale 1 1 quarter
  let top := if 0 ≤ place then digits * Nat.pow 10 place.toNat else digits
  let bottom := if 0 ≤ place then 1 else Nat.pow 10 (-place).toNat
  let low := (4 * binary.significand - below) * unit * bottom
  let high := (4 * binary.significand + 2) * unit * bottom
  let value := top * unitBottom
  if binary.significand % 2 = 0 then low ≤ value && value ≤ high
  else low < value && value < high

/-- The shorter and then nearer of the decimal neighbours that read back, trying
one more digit at a time.  Of two that are as near the even one is taken. -/
def shortestDigits (binary : Binary) (numerator denominator : Nat) (place : Int) :
    (fuel : Nat) → Nat × Int
  | 0 => (numerator / denominator, place)
  | fuel + 1 =>
    let top := if 0 ≤ place then numerator else numerator * Nat.pow 10 (-place).toNat
    let bottom := if 0 ≤ place then denominator * Nat.pow 10 place.toNat else denominator
    let floor := top / bottom
    let floorFits := readsBack binary floor place
    let ceilFits := readsBack binary (floor + 1) place
    let floorNearer := roundHalfEven top bottom = floor
    if floorFits && (floorNearer || !ceilFits) then (floor, place)
    else if ceilFits then (floor + 1, place)
    else shortestDigits binary numerator denominator (place - 1) fuel

/-- `digits * 10 ^ place` without an exponent. -/
def positional (digits : Nat) (place : Int) : String :=
  if 0 ≤ place then
    toString (digits * Nat.pow 10 place.toNat) ++ ".0"
  else
    let places := (-place).toNat
    let unit := Nat.pow 10 places
    toString (digits / unit) ++ "." ++
      String.ofList (Text.lastDigits places (digits % unit))

/-- The first digit, the others after a point, and the power of ten that the first
digit stands at. -/
def scientific (digits : Nat) (leading : Int) : String :=
  let places := Text.digitCount digits - 1
  let unit := Nat.pow 10 places
  let fraction :=
    if places = 0 then ""
    else "." ++ String.ofList (Text.lastDigits places (digits % unit))
  let sign := if leading < 0 then "-" else "+"
  toString (digits / unit) ++ fraction ++ "e" ++ sign ++ toString leading.natAbs

namespace Binary

/-- The fewest digits that read back, and the power of ten that the last of them
stands at. -/
def shortest (binary : Binary) : Nat × Int :=
  let (top, bottom) := scale binary.significand 1 binary.exponent
  let (digits, place) := shortestDigits binary top bottom (leadingPlace top bottom) 17
  if digits % 10 = 0 then (digits / 10, place + 1) else (digits, place)

/-- Numbers from a hundred-thousandth to below `10 ^ 16` are written without an
exponent and with at least one digit after the point. -/
def text (binary : Binary) : String :=
  if binary.significand = 0 then
    "0.0"
  else
    let (digits, place) := binary.shortest
    let leading := place + Text.digitCount digits - 1
    if -5 ≤ leading ∧ leading < 16 then positional digits place
    else scientific digits leading

end Binary

end OneTimeCode.Number
