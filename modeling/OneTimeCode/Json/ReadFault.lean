import OneTimeCode.Json

/-!
# Why a JSON value could not be read
-/

namespace OneTimeCode

/-- What was wrong with a value that does not have the form asked for.
`wrongText` carries the reason for refusing a text of the right type. -/
inductive ReadFault
  | wrongType (found : Json) (expected : String)
  | wrongLength (length : Nat) (expected : String)
  | missingField (name : String)
  | wrongText (reason : String)
  | noIntent
deriving Repr

namespace ReadFault

def message : ReadFault → String
  | wrongType found expected => s!"invalid type: {found.describe}, expected {expected}"
  | wrongLength length expected => s!"invalid length {length}, expected {expected}"
  | missingField name => s!"missing field `{name}`"
  | wrongText reason => reason
  | noIntent => "data did not match any variant of untagged enum CodeIntent"

end ReadFault

namespace Json

def asString : Json → Except ReadFault String
  | string text => .ok text
  | other => .error (.wrongType other "a string")

/-- An absent text is written as `null`. -/
def asOptionalString : Json → Except ReadFault (Option String)
  | null => .ok none
  | other => some <$> other.asString

end Json

end OneTimeCode
