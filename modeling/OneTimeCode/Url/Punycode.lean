/-!
# Encoded labels

A label of a domain can be written in ASCII: its ASCII characters come first, and
behind a hyphen a row of numbers tells where the others are put in.
-/

namespace OneTimeCode.Url.Punycode

/-- The letters are the digits from 0 to 25, and the decimal digits those after. -/
def digit? (c : Char) : Option Nat :=
  if c.isDigit then some (c.toNat - '0'.toNat + 26)
  else if c.isUpper then some (c.toNat - 'A'.toNat)
  else if c.isLower then some (c.toNat - 'a'.toNat)
  else none

/-- The last digit of a number is the first one below its threshold. -/
def threshold (place bias : Nat) : Nat :=
  min 26 (max 1 (place - bias))

/-- Reads a number, least digit first, whose digits weigh the more the higher the
thresholds before them are. -/
def number? (bias place weight value : Nat) : List Char → Option (Nat × List Char)
  | [] => none
  | c :: rest => do
    let digit ← digit? c
    let value := value + digit * weight
    let limit := threshold place bias
    if digit < limit then some (value, rest)
    else number? bias (place + 36) (weight * (36 - limit)) value rest

theorem length_lt_of_number? {bias place weight value result : Nat} {text rest : List Char}
    (h : number? bias place weight value text = some (result, rest)) :
    rest.length < text.length := by
  induction text generalizing place weight value with
  | nil => simp [number?] at h
  | cons c text ih =>
    rw [number?] at h
    cases hdigit : digit? c with
    | none => simp [hdigit] at h
    | some digit =>
      simp only [hdigit, Option.bind_eq_bind, Option.bind_some] at h
      split at h
      · simp only [Option.some.injEq, Prod.mk.injEq] at h
        simp [h.2]
      · exact Nat.lt_succ_of_lt (ih h)

/-- Takes the weight out of a difference, a digit at a time. -/
def settle (delta place : Nat) : Nat :=
  if 455 < delta then settle (delta / 35) (place + 36)
  else place + 36 * delta / (delta + 38)
termination_by delta
decreasing_by exact Nat.div_lt_self (by omega) (by omega)

/-- The bias for the next number, from the latest one and the length of the label. -/
def adapt (delta count : Nat) (isFirst : Bool) : Nat :=
  let damped := if isFirst then delta / 700 else delta / 2
  settle (damped + damped / count) 0

/-- Puts in the characters that the numbers stand for.  Code points grow, and a
position that runs over the end goes on at the front with the next one. -/
def insertAll (label : List Char) (code position bias : Nat) (isFirst : Bool)
    (text : List Char) : Option (List Char) :=
  if text.isEmpty then
    some label
  else
    match h : number? bias 36 1 0 text with
    | none => none
    | some (delta, rest) =>
      let count := label.length + 1
      let code := code + (position + delta) / count
      let place := (position + delta) % count
      if code.isValidChar then
        insertAll (label.insertIdx place (Char.ofNat code)) code (place + 1)
          (adapt delta count isFirst) false rest
      else
        none
termination_by text.length
decreasing_by exact length_lt_of_number? h

/-- The label that an encoded text stands for. -/
def decode? (text : List Char) : Option (List Char) :=
  let tail := (text.reverse.takeWhile (· != '-')).reverse
  let head := text.take (text.length - tail.length - 1)
  if text.all fun c => c.toNat < 128 then insertAll head 128 0 72 true tail else none

end OneTimeCode.Url.Punycode
