import OneTimeCode.Time.Rfc3339.Printer
import OneTimeCode.Time.Rfc3339.Reader
import Mathlib.Algebra.Group.Nat.Defs

/-!
# Numbers written in decimal digits

A number is recovered from its last digits up to the power of ten that they make up,
and from a padded text exactly.  The reader takes as many digits as it is asked for, or
all up to the first other character.
-/

namespace OneTimeCode

namespace Text

@[simp]
theorem digitValue_digitChar (digit : Nat) : digitValue (digitChar digit) = digit % 10 := by
  have hdigits : ∀ d < 10, digitValue (Char.ofNat ('0'.toNat + d)) = d := by decide
  exact hdigits (digit % 10) (Nat.mod_lt _ (by decide))

@[simp]
theorem isDigit_digitChar (digit : Nat) : (digitChar digit).isDigit = true := by
  have hdigits : ∀ d < 10, (Char.ofNat ('0'.toNat + d)).isDigit = true := by decide
  exact hdigits (digit % 10) (Nat.mod_lt _ (by decide))

theorem isDigit_of_mem_lastDigits {width n : Nat} {c : Char} (hc : c ∈ lastDigits width n) :
    c.isDigit = true := by
  induction width generalizing n with
  | zero => cases hc
  | succ width ih =>
      rw [lastDigits, List.mem_append, List.mem_singleton] at hc
      rcases hc with hearlier | rfl
      · exact ih hearlier
      · exact isDigit_digitChar n

theorem valueOf_lastDigits (width n : Nat) : valueOf (lastDigits width n) = n % 10 ^ width := by
  induction width generalizing n with
  | zero => simp [lastDigits, valueOf, Nat.mod_one]
  | succ width ih =>
      rw [lastDigits, valueOf_append_singleton, ih, digitValue_digitChar, Nat.pow_succ,
        Nat.mul_comm (10 ^ width) 10, Nat.mod_mul]
      omega

theorem lt_pow_digitCount (n : Nat) : n < 10 ^ digitCount n := by
  fun_induction digitCount n with
  | case1 n hlt => exact hlt
  | case2 n hge ih =>
      rw [Nat.pow_succ]
      omega

theorem valueOf_padded (width n : Nat) : valueOf (padded width n) = n := by
  rw [padded, valueOf_lastDigits]
  apply Nat.mod_eq_of_lt
  exact Nat.lt_of_lt_of_le (lt_pow_digitCount n)
    (Nat.pow_le_pow_right (by decide) (Nat.le_max_right _ _))

theorem digitCount_le {width n : Nat} (hpos : 0 < width) (hlt : n < 10 ^ width) :
    digitCount n ≤ width := by
  fun_induction digitCount n generalizing width with
  | case1 n hsmall => exact hpos
  | case2 n hlarge ih =>
      cases width with
      | zero => cases hpos
      | succ width =>
          rw [Nat.pow_succ] at hlt
          have hwidth : 0 < width := by
            rcases Nat.eq_zero_or_pos width with rfl | hwidth
            · omega
            · exact hwidth
          exact Nat.succ_le_succ (ih hwidth (by omega))

theorem padded_eq_lastDigits {width n : Nat} (hpos : 0 < width) (hlt : n < 10 ^ width) :
    padded width n = lastDigits width n := by
  rw [padded, Nat.max_eq_left (digitCount_le hpos hlt)]

theorem isDigit_of_mem_padded {width n : Nat} {c : Char} (hc : c ∈ padded width n) :
    c.isDigit = true :=
  isDigit_of_mem_lastDigits hc

theorem ne_nil_of_padded {width : Nat} (hpos : 0 < width) (n : Nat) : padded width n ≠ [] := by
  rw [← List.length_pos_iff, padded, length_lastDigits]
  exact Nat.lt_of_lt_of_le hpos (Nat.le_max_left _ _)

end Text

namespace Rfc3339

open OneTimeCode.Text

/-- A character that ends a run of digits comes next. -/
def EndsDigits (text : List Char) : Prop :=
  ∀ c ∈ text.head?, c.isDigit = false

theorem EndsDigits.cons {c : Char} (hc : c.isDigit = false) (rest : List Char) :
    EndsDigits (c :: rest) := by
  intro other hother
  rw [List.head?_cons, Option.mem_some_iff] at hother
  rw [← hother, hc]

theorem EndsDigits.take {text : List Char} (hends : EndsDigits text) (count : Nat) :
    EndsDigits (text.take count) := by
  intro c hc
  rw [List.head?_take] at hc
  split at hc
  · cases hc
  · exact hends c hc

theorem takeWhile_isDigit_append {digits rest : List Char}
    (hdigits : ∀ c ∈ digits, c.isDigit = true) (hrest : EndsDigits rest) :
    (digits ++ rest).takeWhile Char.isDigit = digits := by
  rw [List.takeWhile_append_of_pos hdigits]
  cases rest with
  | nil => simp
  | cons c rest =>
      have hc := hrest c rfl
      simp [hc]

/-- A run of digits is read as the number that it stands for if the digits that the
reader finds within its width are those of the run. -/
theorem number_append {width : Option Nat} {digits rest : List Char} (hpos : digits ≠ [])
    (hdigits : ∀ c ∈ digits, c.isDigit = true) (hvalue : valueOf digits ≤ largestNumber)
    (hfound : ((width.map (digits ++ rest).take).getD (digits ++ rest)).takeWhile Char.isDigit =
      digits) :
    number width (digits ++ rest) = .ok (valueOf digits, rest) := by
  obtain ⟨first, others, rfl⟩ := List.exists_cons_of_ne_nil hpos
  have hfirst := hdigits first List.mem_cons_self
  have hrest : (first :: (others ++ rest)).drop (first :: others).length = rest :=
    List.drop_left
  rw [List.cons_append] at hfound ⊢
  cases width with
  | none =>
      simp only [Option.map_none, Option.getD_none] at hfound
      simp only [number, if_pos hfirst, hfound, if_pos hvalue, hrest]
  | some most =>
      simp only [Option.map_some, Option.getD_some] at hfound
      simp only [number, if_pos hfirst, hfound, if_pos hvalue, hrest]

theorem number_of_width {digits rest : List Char} (hpos : digits ≠ [])
    (hdigits : ∀ c ∈ digits, c.isDigit = true) (hvalue : valueOf digits ≤ largestNumber) :
    number (some digits.length) (digits ++ rest) = .ok (valueOf digits, rest) := by
  apply number_append hpos hdigits hvalue
  have hends : EndsDigits [] := by simp [EndsDigits]
  simpa using takeWhile_isDigit_append hdigits hends

theorem number_of_endsDigits {width : Option Nat} {digits rest : List Char}
    (hpos : digits ≠ []) (hdigits : ∀ c ∈ digits, c.isDigit = true)
    (hvalue : valueOf digits ≤ largestNumber) (hrest : EndsDigits rest)
    (hwidth : ∀ most ∈ width, digits.length ≤ most) :
    number width (digits ++ rest) = .ok (valueOf digits, rest) := by
  apply number_append hpos hdigits hvalue
  cases width with
  | none => exact takeWhile_isDigit_append hdigits hrest
  | some most =>
      have hends : EndsDigits (rest.take (most - digits.length)) := hrest.take _
      have htake : (digits ++ rest).take most = digits ++ rest.take (most - digits.length) := by
        rw [List.take_append, List.take_of_length_le (hwidth most rfl)]
      simpa [htake] using takeWhile_isDigit_append hdigits hends

end Rfc3339

end OneTimeCode
