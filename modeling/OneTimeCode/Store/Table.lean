import OneTimeCode.Failure
import OneTimeCode.Store.Keyed
import OneTimeCode.Voucher

/-!
# Tables of vouchers

A row has the expiry of a voucher in whole milliseconds and its zone as text.
Zone and code are the primary key.  Each statement on a table is one step: what
it removes, nothing else can remove as well.
-/

namespace OneTimeCode

structure Row where
  zone : String
  code : String
  expiresAt : Int
  data : String
  intent : Option String
deriving DecidableEq, Repr

namespace Row

def key (row : Row) : Key :=
  ⟨⟨row.zone⟩, row.code⟩

/-- The row that a voucher is written to. -/
def ofVoucher (voucher : Voucher) : Row :=
  ⟨voucher.zone.id, voucher.code, voucher.expiresAt.millis, voucher.data, voucher.intent⟩

/-- The voucher of a row.  Rows can be written by others, so the expiry may be out
of range and then the zone blank. -/
def toVoucher (row : Row) : Except AccessFault Voucher :=
  match Instant.ofMillis? row.expiresAt, Zone.named? row.zone with
  | none, _ => .error (.expiryOutOfRange row.expiresAt)
  | some _, none => .error .zoneBlank
  | some expiresAt, some zone => .ok ⟨row.code, expiresAt, row.data, row.intent, zone⟩

end Row

abbrev Table := Keyed Row.key

namespace Table

/-- Deletes the row under a key and returns it. -/
def take (table : Table) (key : Key) : Option Row × Table :=
  (table.find? key, table.erase key)

/-- Deletes the rows that pass a test and counts them. -/
def delete (table : Table) (test : Row → Bool) : Nat × Table :=
  ((table.items.filter test).length, table.keep fun row => !test row)

/-- Deletes the rows of a zone with an intent; a row without intent has none. -/
def deleteIntent (table : Table) (intent : String) (zone : Zone) : Nat × Table :=
  table.delete fun row => row.zone = zone.id && row.intent = some intent

/-- Deletes the rows that have expired by a count of milliseconds, in all zones. -/
def deleteExpired (table : Table) (millis : Int) : Nat × Table :=
  table.delete fun row => row.expiresAt ≤ millis

/-- The rows in ascending order of zone and code. -/
def sorted (table : Table) : List Row :=
  table.items.mergeSort fun left right =>
    decide (left.zone < right.zone ∨ left.zone = right.zone ∧ left.code ≤ right.code)

end Table

end OneTimeCode
