/-!
# Random codes

Codes are strings of letters and digits.  Their characters are picked one by one,
each from the whole alphabet.  Where the picks come from is left open; if they are
random and even, every code of a length is equally likely.
-/

namespace OneTimeCode

/-- Upper- and lower-case letters and the ten digits. -/
def codeAlphabet : List Char :=
  "ABCDEFGHIJKLMNOPQRSTUVWXYZabcdefghijklmnopqrstuvwxyz0123456789".toList

/-- The longest code that fits the table's column. -/
def longestCode : Nat := 255

def standardCodeLength : Nat := 10

/-- Draws codes of one fixed length. -/
structure Generator where
  length : Nat
  length_pos : 1 ≤ length
  length_le : length ≤ longestCode
deriving DecidableEq, Repr

namespace Generator

/-- A generator of codes of the wanted length, or of the nearest possible one. -/
def ofLength (wanted : Nat) : Generator where
  length := max 1 (min wanted longestCode)
  length_pos := Nat.le_max_left _ _
  length_le := Nat.max_le.2 ⟨by decide, Nat.min_le_right _ _⟩

def standard : Generator := ofLength standardCodeLength

/-- Draws a code by picking each of its characters from the alphabet. -/
def draw {m : Type → Type} [Monad m] (generator : Generator)
    (pick : m (Fin codeAlphabet.length)) : m String := do
  let places ← (List.range generator.length).mapM fun _ => pick
  return String.ofList (places.map codeAlphabet.get)

/-- The code is made of letters and digits only. -/
def isAlphanumeric (code : String) : Bool :=
  code.toList.all fun c => codeAlphabet.contains c

theorem length_run_mapM_const {σ α β : Type} (pick : StateM σ β) (items : List α)
    (source : σ) : ((items.mapM fun _ => pick).run source).1.length = items.length := by
  induction items generalizing source with
  | nil => rfl
  | cons item rest ih =>
    rw [List.mapM_cons, List.length_cons, ← ih (pick.run source).2]
    rfl

/-- Whatever is picked, a code has the length of its generator and no character from
outside the alphabet. -/
theorem isAlphanumeric_draw {σ : Type} (generator : Generator)
    (pick : StateM σ (Fin codeAlphabet.length)) (source : σ) :
    ((generator.draw pick).run source).1.length = generator.length ∧
      isAlphanumeric ((generator.draw pick).run source).1 = true := by
  have hlength := length_run_mapM_const pick (List.range generator.length) source
  rw [List.length_range] at hlength
  have hdraw : ((generator.draw pick).run source).1 = String.ofList
      ((((List.range generator.length).mapM fun _ => pick).run source).1.map
        codeAlphabet.get) := rfl
  rw [hdraw]
  constructor
  · rw [String.length_ofList, List.length_map, hlength]
  · rw [isAlphanumeric, String.toList_ofList, List.all_eq_true]
    intro c hc
    obtain ⟨place, -, rfl⟩ := List.mem_map.1 hc
    exact List.contains_iff_mem.2 (List.get_mem codeAlphabet place)

end Generator

end OneTimeCode
