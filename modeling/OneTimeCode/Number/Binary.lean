/-!
# Binary numbers of 53 digits

A number written with a point or an exponent is kept to 53 binary digits.  All
results here are exact quotients rounded once, a half going to the even
neighbour.
-/

namespace OneTimeCode.Number

/-- The number `significand * 2 ^ exponent`. -/
structure Binary where
  significand : Nat
  exponent : Int
deriving DecidableEq, Repr

/-- `numerator / denominator` scaled by `2 ^ exponent`, again as a quotient. -/
def scale (numerator denominator : Nat) (exponent : Int) : Nat × Nat :=
  if 0 ≤ exponent then (numerator * Nat.pow 2 exponent.toNat, denominator)
  else (numerator, denominator * Nat.pow 2 (-exponent).toNat)

/-- A quotient to the nearest integer; a half goes to the even neighbour. -/
def roundHalfEven (numerator denominator : Nat) : Nat :=
  let floor := numerator / denominator
  let doubled := 2 * (numerator % denominator)
  if doubled < denominator then floor
  else if denominator < doubled then floor + 1
  else if floor % 2 = 0 then floor else floor + 1

/-- The least significand of 53 digits. -/
def leastFull : Nat := 0x10000000000000

/-- Digits are kept down to the 1074th place after the binary point. -/
def lowestPlace : Int := -1074

/-- The exponent of the last digit to keep: the 53rd one, or the lowest place. -/
def lastBinaryPlace (numerator denominator : Nat) : Int :=
  let guess : Int := (Nat.log2 numerator : Int) - Nat.log2 denominator - 52
  let (top, bottom) := scale numerator denominator (-guess)
  max (if top < bottom * leastFull then guess - 1 else guess) lowestPlace

namespace Binary

/-- The nearest binary number to a quotient. -/
def nearest (numerator denominator : Nat) : Binary :=
  let place := if numerator = 0 then lowestPlace else lastBinaryPlace numerator denominator
  let (top, bottom) := scale numerator denominator (-place)
  let significand := roundHalfEven top bottom
  if significand = 2 * leastFull then ⟨leastFull, place + 1⟩ else ⟨significand, place⟩

def mul (left right : Binary) : Binary :=
  let (top, bottom) := scale (left.significand * right.significand) 1
    (left.exponent + right.exponent)
  nearest top bottom

def div (left right : Binary) : Binary :=
  let (top, bottom) := scale left.significand right.significand
    (left.exponent - right.exponent)
  nearest top bottom

/-- Numbers from `2 ^ 1024` on are too large to be kept. -/
def isKept (binary : Binary) : Bool :=
  binary.exponent ≤ 971

def powerOfTen (exponent : Nat) : Binary :=
  nearest (Nat.pow 10 exponent) 1

/-- Multiplies by a power of ten, or divides by one, rounding each time.  A factor
below the 308th power is reached in several divisions. -/
def shiftDecimal? (binary : Binary) (exponent : Int) : Option Binary :=
  if binary.significand = 0 then
    some binary
  else if 308 < exponent then
    none
  else if 0 ≤ exponent then
    let product := binary.mul (powerOfTen exponent.toNat)
    if product.isKept then some product else none
  else if -308 ≤ exponent then
    some (binary.div (powerOfTen (-exponent).toNat))
  else
    shiftDecimal? (binary.div (powerOfTen 308)) (exponent + 308)
termination_by (-exponent).toNat

/-- The number `digits * 10 ^ exponent`.  The digits, the power of ten and the
result are rounded one after the other. -/
def ofDecimal? (digits : Nat) (exponent : Int) : Option Binary :=
  (nearest digits 1).shiftDecimal? exponent

end Binary

end OneTimeCode.Number
