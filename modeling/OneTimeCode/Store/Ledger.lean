import OneTimeCode.Store.Reply
import OneTimeCode.Store.Table

/-!
# The store in a database

A ledger keeps vouchers as rows of a table.  Every call is split where others may
come between: issuing checks the request and then inserts, redeeming takes the
row and then looks at it, sweeping reads the clock and then deletes.
-/

namespace OneTimeCode

/-- The database can be closed, or it can lack the table. -/
inductive Ledger
  | closed
  | unmigrated
  | ready (table : Table)

/-- Why a row could not be inserted. -/
inductive RowFault
  | unavailable
  | duplicate
deriving DecidableEq, Repr

namespace Ledger

/-- The table, where statements can reach it. -/
def table? : Ledger → Option Table
  | ready table => some table
  | _ => none

/-- How many rows there are, those of expired vouchers included. -/
def size? (ledger : Ledger) : Option Nat :=
  ledger.table?.map Keyed.size

/-- Runs a statement that cannot fail on a table. -/
def run {α : Type} (ledger : Ledger) (statement : Statement) (action : Table → α × Table) :
    Except Failure (α × Ledger) :=
  match ledger.table? with
  | none => .error (.dataAccess (.unavailable statement))
  | some table => .ok ((action table).1, ready (action table).2)

/-- Inserts a row, whose key must be free.  The row of an expired voucher takes
its key until it is deleted. -/
def insert (ledger : Ledger) (row : Row) : Except RowFault Ledger :=
  match ledger.table? with
  | none => .error .unavailable
  | some table =>
    match table.insert? row with
    | none => .error .duplicate
    | some table => .ok (ready table)

/-- The second half of issuing: inserts the row of a voucher. -/
def record (ledger : Ledger) (voucher : Voucher) : Conclusion Ledger Voucher :=
  match ledger.insert (Row.ofVoucher voucher) with
  | .ok ledger => ⟨.ok voucher, ledger, [.issued voucher.zone voucher.intent]⟩
  | .error .duplicate => Conclusion.refuse ledger .conflict
  | .error .unavailable => Conclusion.refuse ledger (.dataAccess (.unavailable .insert))

/-- The first half of redeeming: takes the row of a code out of the table. -/
def take (ledger : Ledger) (key : Key) : Except Failure (Option Row × Ledger) :=
  ledger.run .consume fun table => table.take key

/-- The second half of redeeming: what is answered for the row that was taken. -/
def answerRow (row : Option Row) (now : Instant) :
    Except Failure (Option Voucher) :=
  match row with
  | none => .ok none
  | some row =>
    match row.toVoucher with
    | .error fault => .error (.dataAccess fault)
    | .ok voucher => .ok (if voucher.isExpiredAt now then none else some voucher)

/-- What redeeming logs: a voucher handed out, or a row that was taken for an
expired one. -/
def redeemEvents (row : Option Row) (zone : Zone) :
    Except Failure (Option Voucher) → List Log.StoreEvent
  | .ok (some voucher) => [.redeemed zone voucher.intent]
  | .ok none => if row.isSome then [.discarded zone] else []
  | .error _ => []

/-- Hands out the voucher of a code and forgets it.  The row is gone whatever is
answered. -/
def redeem (ledger : Ledger) (now : Instant) (code : Option String) (zone : Zone) :
    Conclusion Ledger (Option Voucher) :=
  match code with
  | none => Conclusion.refuse ledger (.invalidArgument .codeMissing)
  | some code =>
    match ledger.take ⟨zone, code⟩ with
    | .error failure => Conclusion.refuse ledger failure
    | .ok (row, remaining) =>
      let answer := answerRow row now
      ⟨answer, remaining, redeemEvents row zone answer⟩

/-- Forgets every voucher of a zone with this intent and counts them. -/
def revoke (ledger : Ledger) (intent : String) (zone : Zone) : Conclusion Ledger Nat :=
  match ledger.run .revoke fun table => table.deleteIntent intent zone with
  | .error failure => Conclusion.refuse ledger failure
  | .ok (removed, remaining) => ⟨.ok removed, remaining, [.revoked zone intent removed]⟩

/-- Deletes the rows that have expired by the millisecond of now, in all zones. -/
def sweep (ledger : Ledger) (now : Instant) : Conclusion Ledger Nat :=
  match ledger.run .sweep fun table => table.deleteExpired now.millis with
  | .error failure => Conclusion.refuse ledger failure
  | .ok (removed, remaining) => ⟨.ok removed, remaining, []⟩

/-- All rows in ascending order of their keys. -/
def rows? (ledger : Ledger) : Option (List Row) :=
  ledger.table?.map Table.sorted

end Ledger

end OneTimeCode
