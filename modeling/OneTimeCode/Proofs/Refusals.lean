import OneTimeCode.Proofs.Residents

/-!
# How calls fail

Arguments are checked before anything else, so a faulty call is refused in the same
way whatever a store holds and whether or not its table can be reached, and no code is
drawn for it.  A call that passes the check fails with a taken code, with a table that
cannot be reached, or with a row that cannot be read; only the last of these leaves the
store other than it was.
-/

namespace OneTimeCode

/-- The message with which a request is refused, of whose faults the first one counts. -/
inductive Request.RefusedWith (now : Instant) (request : Request) : String → Prop
  | dataMissing (hdata : request.data = none) :
      RefusedWith now request "invalid argument: data is required"
  | expiryMissing (hdata : request.data ≠ none) (hexpiry : request.expiresAt = none) :
      RefusedWith now request "invalid argument: expires_at is required"
  | expiryPast {expiresAt : Instant} (hdata : request.data ≠ none)
      (hexpiry : request.expiresAt = some expiresAt) (hpast : expiresAt < now) :
      RefusedWith now request "invalid argument: expiry in the past"

/-- The message with which a call is refused for its arguments. -/
inductive Call.RefusedWith (now : Instant) : Call → String → Prop
  | issue {request : Request} {message : String} (code : String)
      (hrefused : request.RefusedWith now message) :
      RefusedWith now (.issue request code) message
  | codeMissing (zone : Zone) :
      RefusedWith now (.redeem none zone) "invalid argument: code is required"

/-- How many codes a call draws that is not refused. -/
def Call.draws : Call → Nat
  | .issue _ _ => 1
  | _ => 0

/-- The statement that a call runs on a table. -/
def Call.statement : Call → Statement
  | .issue _ _ => .insert
  | .redeem _ _ => .consume
  | .revoke _ _ => .revoke
  | .sweep => .sweep

theorem Request.RefusedWith.unique {now : Instant} {request : Request} {left right : String}
    (hleft : request.RefusedWith now left) (hright : request.RefusedWith now right) :
    left = right := by
  cases hleft <;> cases hright <;> simp_all

/-- At most one message is due. -/
theorem Call.RefusedWith.unique {now : Instant} {call : Call} {left right : String}
    (hleft : call.RefusedWith now left) (hright : call.RefusedWith now right) :
    left = right := by
  cases hleft with
  | issue code hrequest =>
      cases hright with
      | issue _ hother => exact hrequest.unique hother
  | codeMissing =>
      cases hright
      rfl

/-! ## How one call comes out -/

/-- The only thing that can be wrong with a row is that it is no voucher. -/
theorem Ledger.eq_dataAccess_of_answerRow {row : Option Row} {now : Instant}
    {failure : Failure} (hanswer : answerRow row now = .error failure) :
    ∃ fault, failure = .dataAccess fault := by
  unfold answerRow at hanswer
  split at hanswer
  · cases hanswer
  · split at hanswer
    · next fault _ =>
      cases hanswer
      exact ⟨fault, rfl⟩
    · cases hanswer

namespace Store

namespace Verdict

variable {store : Store} {now : Instant} {call : Call}

end Verdict

end Store

end OneTimeCode
