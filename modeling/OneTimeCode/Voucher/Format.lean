import OneTimeCode.Time.Rfc3339.Printer
import OneTimeCode.Time.Rfc3339.Reader
import OneTimeCode.Voucher

/-!
# Vouchers as JSON values

A voucher is written as an object of five members.  It is read from such an
object, whatever the order of the members and whatever others there are, or from
an array of the five values in the order in which they are written.
-/

namespace OneTimeCode.Voucher

def instantToJson (instant : Instant) : Json :=
  .string (Rfc3339.print instant)

def instantOfJson : Json → Except ReadFault Instant
  | .string text =>
    match Rfc3339.read text with
    | .ok instant => .ok instant
    | .error fault => .error (.wrongText fault.message)
  | other => .error (.wrongType other "an RFC 3339 formatted date and time string")

def optionalToJson : Option String → Json
  | none => .null
  | some text => .string text

def toJson (voucher : Voucher) : Json :=
  .object [("code", .string voucher.code), ("expires_at", instantToJson voucher.expiresAt),
    ("data", .string voucher.data), ("intent", optionalToJson voucher.intent),
    ("zone_id", voucher.zone.toJson)]

/-- A member that is there must be readable. -/
def readMember {α : Type} (read : Json → Except ReadFault α) (name : String)
    (members : List (String × Json)) : Except ReadFault (Option α) :=
  match Json.member? name members with
  | some value => some <$> read value
  | none => .ok none

def required {α : Type} (name : String) : Option α → Except ReadFault α
  | some value => .ok value
  | none => .error (.missingField name)

/-- Members that are there are read in ascending order of their names, so the
first faulty one is reported; only then is the first missing one. -/
def ofMembers (members : List (String × Json)) : Except ReadFault Voucher := do
  let code ← readMember Json.asString "code" members
  let data ← readMember Json.asString "data" members
  let expiresAt ← readMember instantOfJson "expires_at" members
  let intent ← readMember Json.asOptionalString "intent" members
  let zone ← readMember Zone.ofJson "zone_id" members
  let code ← required "code" code
  let expiresAt ← required "expires_at" expiresAt
  let data ← required "data" data
  let zone ← required "zone_id" zone
  .ok ⟨code, expiresAt, data, intent.join, zone⟩

def ofItems (items : List Json) : Except ReadFault Voucher := do
  let item (index : Nat) : Except ReadFault Json :=
    match items[index]? with
    | some value => .ok value
    | none => .error (.wrongLength items.length "struct ExpiringCode with 5 elements")
  let code ← (← item 0).asString
  let expiresAt ← instantOfJson (← item 1)
  let data ← (← item 2).asString
  let intent ← (← item 3).asOptionalString
  let zone ← Zone.ofJson (← item 4)
  if items.length = 5 then .ok ⟨code, expiresAt, data, intent, zone⟩
  else .error (.wrongLength items.length "fewer elements in array")

def ofJson : Json → Except ReadFault Voucher
  | .object members => ofMembers members
  | .array items => ofItems items
  | other => .error (.wrongType other "struct ExpiringCode")

end OneTimeCode.Voucher
