import OneTimeCode.Number.Shortest
import OneTimeCode.Text.Quoted

/-!
# JSON values

Vouchers, zones and intents are exchanged as JSON values, and log lines are
printed as such.
-/

namespace OneTimeCode

/-- A JSON value.  An integer of up to 64 bits is kept exactly; every other
number is a binary one with a sign, which zero has too. -/
inductive Json
  | null
  | boolean (value : Bool)
  | integer (value : Int)
  | real (negative : Bool) (magnitude : Number.Binary)
  | string (text : String)
  | array (items : List Json)
  | object (members : List (String × Json))
deriving Inhabited, Repr

namespace Json

/-- The value of a member, the last one where a name is repeated.  The order of
the members and any other names do not matter. -/
def member? (name : String) (members : List (String × Json)) : Option Json :=
  (members.reverse.find? fun member => member.1 == name).map Prod.snd

def realText (negative : Bool) (magnitude : Number.Binary) : String :=
  if negative then "-" ++ magnitude.text else magnitude.text

/-- How a message names a value that has the wrong type. -/
def describe : Json → String
  | null => "null"
  | boolean value => s!"boolean `{value}`"
  | integer value => s!"integer `{value}`"
  | real negative magnitude => "floating point `" ++ realText negative magnitude ++ "`"
  | string text => "string " ++ Text.quoted text
  | array _ => "sequence"
  | object _ => "map"

end Json

end OneTimeCode
