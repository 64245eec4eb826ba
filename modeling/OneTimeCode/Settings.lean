import OneTimeCode.Settings.Value
import OneTimeCode.Text.Characters
import OneTimeCode.Text.Quoted
import OneTimeCode.Time.Clock

/-!
# Settings

A service is set up by named variables.  The case of a name does not matter,
variables with other names are passed over, and only the database has to be
named; a setting given twice is refused.
-/

namespace OneTimeCode

structure Settings where
  databaseUrl : String
  cleanupIntervalSecs : Nat
  cleanupEnabled : Bool
  codeLength : Nat
  runMigrations : Bool
deriving DecidableEq, Repr

namespace Settings

inductive Field
  | databaseUrl
  | cleanupIntervalSecs
  | cleanupEnabled
  | codeLength
  | runMigrations
deriving DecidableEq, Repr

def Field.all : List Field :=
  [databaseUrl, cleanupIntervalSecs, cleanupEnabled, codeLength, runMigrations]

def Field.name : Field → String
  | databaseUrl => "database_url"
  | cleanupIntervalSecs => "cleanup_interval_secs"
  | cleanupEnabled => "cleanup_enabled"
  | codeLength => "code_length"
  | runMigrations => "run_migrations"

/-- The setting that a variable of this name is for. -/
def Field.ofName? (name : String) : Option Field :=
  Field.all.find? fun field => field.name == Text.lowerCase name

/-- A variable's name and its value. -/
abbrev Variable := String × String

inductive LoadFault
  | duplicate (field : Field)
  | unreadable (fault : ValueFault) (entry : Variable)
  | missing (field : Field)
deriving DecidableEq, Repr

namespace LoadFault

def message : LoadFault → String
  | duplicate field => s!"duplicate field `{field.name}`"
  | unreadable fault (name, value) =>
    s!"{fault.message} while parsing value '{value}' provided by {name}"
  | missing field => s!"missing value for field {field.name}"

/-- The form in which a service that cannot start reports the fault. -/
def report : LoadFault → String
  | missing field => "MissingValue(" ++ Text.quoted field.name ++ ")"
  | fault => "Custom(" ++ Text.quoted fault.message ++ ")"

end LoadFault

/-- What the value of a setting is. -/
abbrev Field.Value : Field → Type
  | databaseUrl => String
  | cleanupIntervalSecs => Nat
  | cleanupEnabled => Bool
  | codeLength => Nat
  | runMigrations => Bool

def Field.read : (field : Field) → String → Except ValueFault field.Value
  | databaseUrl => readText
  | cleanupIntervalSecs => readCount
  | cleanupEnabled => readSwitch
  | codeLength => readCount
  | runMigrations => readSwitch

/-- The settings given so far. -/
abbrev Given := (field : Field) → Option field.Value

def Given.nothing : Given := fun _ => none

def Given.set (given : Given) (field : Field) (value : field.Value) : Given :=
  fun other => if h : field = other then some (h ▸ value) else given other

/-- Takes one more variable into account.  A setting that was given before cannot be
given again, whatever its value is now. -/
def Given.add (given : Given) (entry : Variable) : Except LoadFault Given :=
  match Field.ofName? entry.1 with
  | none => .ok given
  | some field =>
    if (given field).isSome then .error (.duplicate field)
    else
      match field.read entry.2 with
      | .ok value => .ok (given.set field value)
      | .error fault => .error (.unreadable fault entry)

/-- Fills in the settings that were not given. -/
def Given.complete (given : Given) : Except LoadFault Settings :=
  match given .databaseUrl with
  | none => .error (.missing .databaseUrl)
  | some databaseUrl => .ok {
      databaseUrl
      cleanupIntervalSecs := (given .cleanupIntervalSecs).getD 60
      cleanupEnabled := (given .cleanupEnabled).getD true
      codeLength := (given .codeLength).getD 10
      runMigrations := (given .runMigrations).getD true }

/-- The settings of a list of variables; the first fault in it is reported. -/
def ofVariables (entries : List Variable) : Except LoadFault Settings := do
  let given ← entries.foldlM Given.add Given.nothing
  given.complete

/-- The time between two sweeps, at least a second. -/
def cleanupInterval (settings : Settings) : Interval where
  millis := max settings.cleanupIntervalSecs 1 * 1000
  positive := Nat.mul_pos (Nat.lt_of_lt_of_le Nat.one_pos (Nat.le_max_right _ _)) (by decide)

end Settings

end OneTimeCode
