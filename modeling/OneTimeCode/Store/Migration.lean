import OneTimeCode.Store.Ledger

/-!
# Migrations

The table of a ledger is created by a migration, which can be undone again.
Undoing it drops the table and all its rows.
-/

namespace OneTimeCode

/-- A change of a database's layout that can be made and undone. -/
structure Migration where
  name : String
deriving DecidableEq, Repr

namespace Migration

/-- Creates the table of vouchers and its two indexes. -/
def createTable : Migration := ⟨"m20261001_000001_create_expiring_codes"⟩

/-- The migrations of which a ledger is the result; none where they cannot be
looked up. -/
def applied? : Ledger → Option (List Migration)
  | .closed => none
  | .unmigrated => some []
  | .ready _ => some [createTable]

/-- The migrations still to be applied. -/
def pending? : Ledger → Option (List Migration)
  | .closed => none
  | .unmigrated => some [createTable]
  | .ready _ => some []

/-- Applies pending migrations, at most as many as given. -/
def apply (steps : Option Nat) : Ledger → Ledger
  | .unmigrated => if steps = some 0 then .unmigrated else .ready Keyed.empty
  | ledger => ledger

/-- Undoes applied migrations, at most as many as given. -/
def rollBack (steps : Option Nat) : Ledger → Ledger
  | .ready table => if steps = some 0 then .ready table else .unmigrated
  | ledger => ledger

inductive Direction
  | up (steps : Option Nat)
  | down (steps : Nat)
  | refresh
  | reset
deriving DecidableEq, Repr

def run (direction : Direction) (ledger : Ledger) : Ledger :=
  match direction with
  | .up steps => apply steps ledger
  | .down steps => rollBack (some steps) ledger
  | .refresh => apply none (rollBack none ledger)
  | .reset => rollBack none ledger

/-- The type, name and definition of everything a migrated ledger consists of. -/
def schema : List (String × String × String) := [
  ("index", "idx_expiring_codes_expires_at",
    "CREATE INDEX \"idx_expiring_codes_expires_at\" ON \"expiring_codes\" (\"expires_at\")"),
  ("index", "idx_expiring_codes_zone_intent",
    "CREATE INDEX \"idx_expiring_codes_zone_intent\" ON \"expiring_codes\" (\"zone_id\", \"intent\")"),
  ("table", "expiring_codes",
    "CREATE TABLE \"expiring_codes\" ( \"zone_id\" text NOT NULL, " ++
      "\"code\" varchar(255) NOT NULL, \"expires_at\" bigint NOT NULL, " ++
      "\"data\" text NOT NULL, \"intent\" text, PRIMARY KEY (\"zone_id\", \"code\") )")]

def schema? : Ledger → Option (List (String × String × String))
  | .closed => none
  | .unmigrated => some []
  | .ready _ => some schema

end Migration

end OneTimeCode
