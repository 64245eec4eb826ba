import OneTimeCode.Time.Instant
import OneTimeCode.Zone

/-!
# Vouchers

A voucher is a one-time code together with the data that it unlocks.  Vouchers
belong to a zone: two zones may hold the same code independently.
-/

namespace OneTimeCode

structure Voucher where
  code : String
  expiresAt : Instant
  data : String
  intent : Option String
  zone : Zone
deriving DecidableEq, Repr

/-- Vouchers are found by their zone and their code. -/
structure Key where
  zone : Zone
  code : String
deriving DecidableEq, Repr

namespace Voucher

def key (voucher : Voucher) : Key :=
  ⟨voucher.zone, voucher.code⟩

/-- From the instant of its expiry on, a voucher counts as absent. -/
def isExpiredAt (voucher : Voucher) (now : Instant) : Bool :=
  voucher.expiresAt ≤ now

end Voucher

end OneTimeCode
