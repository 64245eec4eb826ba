import OneTimeCode.Settings
import OneTimeCode.Store.Connection
import OneTimeCode.Store.Migration.Help

/-!
# The migration tool

The tool works on the database that an option or a variable names.
-/

namespace OneTimeCode.Migration

def databaseVariable : String := "DATABASE_URL"

def schemaVariable : String := "DATABASE_SCHEMA"

def versionLine : String := "sea-orm-migration 1.1.20"

/-- Does what is asked for on the database. -/
def Invocation.run (invocation : Invocation) (defaults : Defaults) :
    Except Abort (List String) :=
  match invocation.databaseUrl.or defaults.databaseUrl with
  | none => .error (.failed s!"Environment variable '{databaseVariable}' not set")
  | some url =>
    match Connection.ofString url with
    | .error fault =>
      .error (.failed ("Fail to acquire database connection: " ++ fault.report))
    | .ok connection =>
      if connection.readOnly then .error .gaveUp
      else Command.run invocation.command invocation.steps connection.ledger

/-- The lines that the tool prints. -/
def runTool (arguments : List String) (entries : List Settings.Variable) :
    Except Abort (List String) :=
  let defaults : Defaults := ⟨entries.lookup databaseVariable, entries.lookup schemaVariable⟩
  match Invocation.ofArguments arguments with
  | .ok invocation => invocation.run defaults
  | .error .usage => .error .usage
  | .error .version => .ok [versionLine]
  | .error (.help topic long) => .ok (Help.lines topic defaults long)

end OneTimeCode.Migration
