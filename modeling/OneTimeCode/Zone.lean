import OneTimeCode.Json.ReadFault
import OneTimeCode.Text.Characters

/-!
# Zones

A zone keeps the codes of one tenant apart from those of every other.  Its name
is free text; only a name made up of blanks is refused when a caller gives it.
-/

namespace OneTimeCode

/-- A zone is its name.  A stored or received name is taken as it is, so a blank
one can occur; `Zone.named?` is where callers' names are checked. -/
structure Zone where
  id : String
deriving DecidableEq, Repr

namespace Zone

/-- The zone of callers that name none. -/
def standard : Zone := ⟨"default"⟩

/-- The zone of a name given by a caller, untrimmed, unless the name is blank. -/
def named? (id : String) : Option Zone :=
  if Text.allBlank id then none else some ⟨id⟩

/-- The reason given to a caller whose name is blank. -/
def blankMessage : String := "zone id must not be empty"

/-- Zones in ascending order of their names, code point by code point. -/
def sort (zones : List Zone) : List Zone :=
  zones.mergeSort fun left right => decide (left.id ≤ right.id)

/-- A zone is written as its name alone. -/
def toJson (zone : Zone) : Json :=
  .string zone.id

/-- Any text is read as a zone, a blank one included. -/
def ofJson (value : Json) : Except ReadFault Zone :=
  Zone.mk <$> value.asString

theorem named?_eq_some_iff (id : String) (zone : Zone) :
    named? id = some zone ↔ Text.allBlank id = false ∧ zone = ⟨id⟩ := by
  cases hblank : Text.allBlank id
  · simp only [named?, hblank, Bool.false_eq_true, if_false, Option.some.injEq, true_and]
    exact eq_comm
  · simp [named?, hblank]

end Zone

end OneTimeCode
