import OneTimeCode.Failure
import OneTimeCode.Voucher

/-!
# Drafts

A request for a voucher is checked before a code is drawn for it.  What passes is
a draft, which only lacks the code.
-/

namespace OneTimeCode

/-- What a caller asks a voucher for. -/
structure Request where
  data : Option String
  expiresAt : Option Instant
  intent : Option String
  zone : Zone
deriving DecidableEq, Repr

/-- A checked request. -/
structure Draft where
  expiresAt : Instant
  data : String
  intent : Option String
  zone : Zone
deriving DecidableEq, Repr

namespace Draft

def withCode (draft : Draft) (code : String) : Voucher :=
  ⟨code, draft.expiresAt, draft.data, draft.intent, draft.zone⟩

end Draft

namespace Request

/-- Data and expiry must be there, and the expiry must not lie before now; the
first fault counts.  The expiry is kept in whole milliseconds and rounded up, so
that one in the future stays there. -/
def check (request : Request) (now : Instant) : Except ArgumentFault Draft :=
  match request.data, request.expiresAt with
  | none, _ => .error .dataMissing
  | some _, none => .error .expiryMissing
  | some data, some expiresAt =>
    if expiresAt < now then .error .expiryPast
    else .ok ⟨expiresAt.ceilToMilli, data, request.intent, request.zone⟩

end Request

end OneTimeCode
