import OneTimeCode.Store.Migration

/-!
# Progress of migrations

What is reported, line by line, while migrations are applied and undone.
-/

namespace OneTimeCode.Migration

/-- The migrations that a limited number of steps reaches. -/
def within (steps : Option Nat) (migrations : List Migration) : List Migration :=
  match steps with
  | none => migrations
  | some count => migrations.take count

def applyHeading : Option Nat → String
  | none => "Applying all pending migrations"
  | some count => s!"Applying {count} pending migrations"

def rollBackHeading : Option Nat → String
  | none => "Rolling back all applied migrations"
  | some count => s!"Rolling back {count} applied migrations"

def applyLines (steps : Option Nat) (ledger : Ledger) : List String :=
  let pending := (pending? ledger).getD []
  let progress := (within steps pending).flatMap fun migration =>
    [s!"Applying migration '{migration.name}'",
      s!"Migration '{migration.name}' has been applied"]
  applyHeading steps :: (if pending.isEmpty then ["No pending migrations"] else progress)

/-- The latest migration is undone first. -/
def rollBackLines (steps : Option Nat) (ledger : Ledger) : List String :=
  let applied := ((applied? ledger).getD []).reverse
  let progress := (within steps applied).flatMap fun migration =>
    [s!"Rolling back migration '{migration.name}'",
      s!"Migration '{migration.name}' has been rollbacked"]
  rollBackHeading steps :: (if applied.isEmpty then ["No applied migrations"] else progress)

def Direction.lines (direction : Direction) (ledger : Ledger) : List String :=
  match direction with
  | up steps => applyLines steps ledger
  | down steps => rollBackLines (some steps) ledger
  | refresh => rollBackLines none ledger ++ applyLines none (rollBack none ledger)
  | reset => rollBackLines none ledger

/-- Every migration and whether it has been applied. -/
def statusLines (ledger : Ledger) : List String :=
  "Checking migration status" ::
    (((applied? ledger).getD []).map fun migration =>
      s!"Migration '{migration.name}'... Applied") ++
    (((pending? ledger).getD []).map fun migration =>
      s!"Migration '{migration.name}'... Pending")

end OneTimeCode.Migration
