import OneTimeCode.Text.Quoted
import OneTimeCode.Url.Percent

/-!
# Options of a connection

Behind its scheme, a connection string names a database file, and its parameters
say how the file is to be opened.
-/

namespace OneTimeCode.Connection

/-- How a database is to be opened. -/
structure Options where
  file : String
  inMemory : Bool
  readOnly : Bool
  creates : Bool
  immutable : Bool
  fileSystem : Option String
deriving DecidableEq, Repr

inductive OptionFault
  | badName (fault : Text.Utf8Fault)
  | badValue (parameter value : String)
  | unknown (parameter : String)
deriving DecidableEq, Repr

namespace OptionFault

/-- The form in which the fault is reported. -/
def report : OptionFault → String
  | badName fault =>
    let size := (fault.size.map fun size => s!"Some({size})").getD "None"
    s!"Utf8Error \x7b valid_up_to: {fault.validUpTo}, error_len: {size} \x7d"
  | badValue parameter value =>
    Text.quoted s!"unknown value {Text.quoted value} for `{parameter}`"
  | unknown parameter =>
    Text.quoted s!"unknown query parameter `{parameter}` while parsing connection URL"

end OptionFault

namespace Options

/-- Takes a parameter into account.  Being read-only cannot be taken back, and where
the cache is kept does not matter. -/
def set (options : Options) (parameter : String × String) : Except OptionFault Options :=
  match parameter with
  | ("mode", "ro") => .ok { options with readOnly := true }
  | ("mode", "rw") => .ok options
  | ("mode", "rwc") => .ok { options with creates := true }
  | ("mode", "memory") => .ok { options with inMemory := true }
  | ("cache", "private") => .ok options
  | ("cache", "shared") => .ok options
  | ("immutable", value) =>
    if value = "true" ∨ value = "1" then .ok { options with immutable := true }
    else if value = "false" ∨ value = "0" then .ok { options with immutable := false }
    else .error (.badValue "immutable" value)
  | ("vfs", value) => .ok { options with fileSystem := some value }
  | ("mode", value) => .error (.badValue "mode" value)
  | ("cache", value) => .error (.badValue "cache" value)
  | (name, _) => .error (.unknown name)

/-- Drops a beginning as often as it is there. -/
def dropAll (beginning text : List Char) : List Char :=
  if beginning.isPrefixOf text ∧ 0 < beginning.length ∧ 0 < text.length then
    dropAll beginning (text.drop beginning.length)
  else
    text
termination_by text.length
decreasing_by
  rw [List.length_drop]
  omega

/-- The name of the database that is kept in memory. -/
def memoryName : String := ":memory:"

/-- The options for a database, before its parameters are looked at. -/
def ofName (name : String) : Except OptionFault Options :=
  if name = memoryName then .ok ⟨"", true, false, false, false, none⟩
  else
    match Text.percentText name with
    | .ok file => .ok ⟨file, false, false, false, false, none⟩
    | .error fault => .error (.badName fault)

/-- Reads a connection string.  The name of the database ends at the first question
mark. -/
def ofString (text : String) : Except OptionFault Options := do
  let rest := dropAll "sqlite:".toList (dropAll "sqlite://".toList text.toList)
  let name := rest.takeWhile (· != '?')
  let options ← ofName (String.ofList name)
  let parameters := Url.parameters (String.ofList (rest.drop (name.length + 1)))
  parameters.foldlM set options

end Options

end OneTimeCode.Connection
