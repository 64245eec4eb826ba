import OneTimeCode.Json.ReadFault
import OneTimeCode.Text.Characters

/-!
# Intents

An intent tags codes with what they were issued for, so that all codes of one
purpose can be revoked together.  Five purposes are well known; any other text is
an intent of its own.
-/

namespace OneTimeCode

inductive Intent
  | registration
  | invitation
  | autologin
  | emailChange
  | passwordReset
  | custom (tag : String)
deriving DecidableEq, Repr

namespace Intent

/-- The text by which an intent is stored, shown and compared when revoking. -/
def tag : Intent → String
  | registration => "REGISTRATION"
  | invitation => "INVITATION"
  | autologin => "AUTOLOGIN"
  | emailChange => "EMAIL_CHANGE"
  | passwordReset => "PASSWORD_RESET"
  | custom tag => tag

/-- The intent of a tag: the well-known one, if the tag is exactly its own. -/
def ofTag (tag : String) : Intent :=
  if tag = "REGISTRATION" then registration
  else if tag = "INVITATION" then invitation
  else if tag = "AUTOLOGIN" then autologin
  else if tag = "EMAIL_CHANGE" then emailChange
  else if tag = "PASSWORD_RESET" then passwordReset
  else custom tag

/-- Intents are shown as their tags. -/
instance : ToString Intent := ⟨tag⟩

/-- The purposes that have intents made for them. -/
def wellKnown : List Intent :=
  [registration, invitation, autologin, emailChange, passwordReset]

/-- What a purpose is called.  Any other intent is called by its tag. -/
def title : Intent → String
  | registration => "Registration"
  | invitation => "Invitation"
  | autologin => "Autologin"
  | emailChange => "EmailChange"
  | passwordReset => "PasswordReset"
  | custom tag => tag

/-- The name of an intent in JSON.  That of a well-known one is made from its
title. -/
def jsonName : Intent → String
  | custom tag => tag
  | known => Text.constantCase known.title

/-- The well-known intent that has a name in JSON. -/
def ofJsonName? (name : String) : Option Intent :=
  wellKnown.find? fun known => known.jsonName == name

/-- Every intent is written as its name alone. -/
def toJson (intent : Intent) : Json :=
  .string intent.jsonName

/-- The well-known intent that a value stands for: its name, or an object whose
only member has the name and no value. -/
def knownOfJson? : Json → Option Intent
  | .string name => ofJsonName? name
  | .object [(name, .null)] => ofJsonName? name
  | _ => none

/-- A value that stands for no well-known intent can only be the tag of another
one. -/
def ofJson (value : Json) : Except ReadFault Intent :=
  match knownOfJson? value with
  | some known => .ok known
  | none =>
    match value with
    | .string tag => .ok (custom tag)
    | _ => .error .noIntent

@[simp]
theorem tag_ofTag (tag : String) : (ofTag tag).tag = tag := by
  unfold ofTag
  repeat' split
  all_goals simp_all [Intent.tag]

end Intent

end OneTimeCode
