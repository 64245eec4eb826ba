import OneTimeCode.Failure
import OneTimeCode.Log
import OneTimeCode.Voucher

/-!
# What is logged

Stores log what happens to vouchers, but never a code or its data.  Sweeps and
the service log their own progress.
-/

namespace OneTimeCode.Log

/-- Where vouchers are kept. -/
inductive Backend
  | memory
  | ledger
deriving DecidableEq, Repr

def Backend.target : Backend → String
  | memory => "codestore::infra::memory"
  | ledger => "codestore::infra::db"

/-- What can happen to the vouchers of a store. -/
inductive StoreEvent
  | issued (zone : Zone) (intent : Option String)
  | redeemed (zone : Zone) (intent : Option String)
  | discarded (zone : Zone)
  | revoked (zone : Zone) (intent : String) (removed : Nat)
deriving DecidableEq, Repr

def StoreEvent.line (backend : Backend) : StoreEvent → Line
  | issued zone intent => ⟨.debug, backend.target, "expiring code generated",
      [("zone_id", .string zone.id), ("intent", .string (Text.quotedOption intent))]⟩
  | redeemed zone intent => ⟨.debug, backend.target, "expiring code consumed",
      [("zone_id", .string zone.id), ("intent", .string (Text.quotedOption intent))]⟩
  | discarded zone => ⟨.debug, backend.target, "expired code discarded on read",
      [("zone_id", .string zone.id)]⟩
  | revoked zone intent removed => ⟨.debug, backend.target, "codes expired by intent",
      [("zone_id", .string zone.id), ("intent", .string intent), ("removed", .integer removed)]⟩

/-- What happens in the course of sweeping. -/
inductive SweepEvent
  | started (intervalSeconds : Nat)
  | nothingRemoved
  | removed (count : Nat)
  | failed (failure : Failure)
  | stopped
deriving DecidableEq, Repr

def cleanupTarget : String := "codestore::usecase::cleanup"

def SweepEvent.line : SweepEvent → Line
  | started intervalSeconds => ⟨.info, cleanupTarget, "cleanup scheduler started",
      [("interval_secs", .integer intervalSeconds)]⟩
  | nothingRemoved => ⟨.debug, cleanupTarget, "no expired codes to sweep", []⟩
  | removed count => ⟨.info, cleanupTarget, "expired codes swept",
      [("removed", .integer count)]⟩
  | failed failure => ⟨.error, cleanupTarget, "expired code sweep failed",
      [("error", .string failure.message), ("kind", .string failure.kind)]⟩
  | stopped => ⟨.info, cleanupTarget, "cleanup scheduler stopped", []⟩

/-- What the service itself reports. -/
inductive ServiceEvent
  | cleanupDisabled
  | shutdownReceived
deriving DecidableEq, Repr

def serviceTarget : String := "codestore"

def ServiceEvent.line : ServiceEvent → Line
  | cleanupDisabled =>
    ⟨.info, serviceTarget, "expired code cleanup disabled, nothing to run", []⟩
  | shutdownReceived => ⟨.info, serviceTarget, "shutdown signal received", []⟩

end OneTimeCode.Log
