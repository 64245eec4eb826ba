import OneTimeCode.Failure
import OneTimeCode.Store.Migration.Progress

/-!
# Commands of the migration tool

Each command moves a database from one layout to another, or reports on it.  Two
commands are for writing migrations.
-/

namespace OneTimeCode.Migration

inductive Command
  | init
  | generate
  | fresh
  | refresh
  | reset
  | status
  | up
  | down
deriving DecidableEq, Repr

namespace Command

def all : List Command := [init, generate, fresh, refresh, reset, status, up, down]

def name : Command → String
  | init => "init"
  | generate => "generate"
  | fresh => "fresh"
  | refresh => "refresh"
  | reset => "reset"
  | status => "status"
  | up => "up"
  | down => "down"

def ofName? (name : String) : Option Command :=
  all.find? fun command => command.name == name

/-- The files of a new directory of migrations. -/
def newFiles : List String :=
  ["src/lib.rs", "src/m20220101_000001_create_table.rs", "src/main.rs", "Cargo.toml",
    "README.md"]

def initLines : List String :=
  ["Initializing migration directory..."] ++
    newFiles.map (fun file => s!"Creating file `./{file}`") ++ ["Done!"]

/-- Runs a command, with the number of steps where one is given.  Everything pending
is applied where there is no command.  A migration cannot be generated, as there is
no list that it could be added to. -/
def run (command : Option Command) (steps : Option Nat) (ledger : Ledger) :
    Except Abort (List String) :=
  match command with
  | none => .ok (Direction.lines (.up none) ledger)
  | some up => .ok (Direction.lines (.up steps) ledger)
  | some down => .ok (Direction.lines (.down (steps.getD 1)) ledger)
  | some refresh => .ok (Direction.refresh.lines ledger)
  | some reset => .ok (Direction.reset.lines ledger)
  | some status => .ok (statusLines ledger)
  | some fresh => .error (.failed "Sqlite feature is off")
  | some init => .ok initLines
  | some generate => .error .gaveUp

end Command

end OneTimeCode.Migration
