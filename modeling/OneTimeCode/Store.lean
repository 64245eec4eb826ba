import OneTimeCode.Store.Ledger
import OneTimeCode.Store.Memory
import OneTimeCode.Voucher.Draft

/-!
# Stores

Both kinds of store answer the same three calls.  A call of issuing takes its code from
a source; what the source is, the store does not know.
-/

namespace OneTimeCode

inductive Store
  | memory (kept : MemoryStore)
  | ledger (kept : Ledger)

namespace Store

def backend : Store → Log.Backend
  | memory _ => .memory
  | ledger _ => .ledger

/-- How many vouchers are held, expired ones included, if that can be told. -/
def size? : Store → Option Nat
  | memory kept => some kept.size
  | ledger kept => kept.size?

/-- The second half of issuing, after a code has been drawn. -/
def put (store : Store) (now : Instant) (voucher : Voucher) : Conclusion Store Voucher :=
  match store with
  | memory kept => (kept.put now voucher).map memory
  | ledger kept => (kept.record voucher).map Store.ledger

/-- Issues a voucher.  Its code is drawn once the request has passed its check, and a
request that does not pass draws none. -/
def issueFrom {m : Type → Type} [Monad m] (store : Store) (now : Instant)
    (request : Request) (draw : m String) : m (Conclusion Store Voucher) :=
  match request.check now with
  | .error fault => return Conclusion.refuse store (.invalidArgument fault)
  | .ok draft => do
    let code ← draw
    return store.put now (draft.withCode code)

/-- Issues a voucher under a known code, if one is drawn. -/
def issue (store : Store) (now : Instant) (request : Request) (code : String) :
    Reply Store Voucher :=
  .counting (store.issueFrom now request (countedSource code))

def redeem (store : Store) (now : Instant) (code : Option String) (zone : Zone) :
    Reply Store (Option Voucher) :=
  .undrawn <| match store with
    | memory kept => (kept.redeem now code zone).map memory
    | ledger kept => (kept.redeem now code zone).map Store.ledger

def revoke (store : Store) (intent : String) (zone : Zone) : Reply Store Nat :=
  .undrawn <| match store with
    | memory kept => (kept.revoke intent zone).map memory
    | ledger kept => (kept.revoke intent zone).map Store.ledger

section

variable {σ : Type} (store : Store) {now : Instant} {request : Request}

/-- A request that does not pass its check leaves every source as it is. -/
theorem run_issueFrom_of_check_error {fault : ArgumentFault}
    (hcheck : request.check now = .error fault) (draw : StateM σ String) (source : σ) :
    (store.issueFrom now request draw).run source =
      (Conclusion.refuse store (.invalidArgument fault), source) := by
  rw [issueFrom, hcheck]
  rfl

/-- A request that passes its check draws once from every source. -/
theorem run_issueFrom_of_check_ok {draft : Draft} (hcheck : request.check now = .ok draft)
    (draw : StateM σ String) (source : σ) :
    (store.issueFrom now request draw).run source =
      (store.put now (draft.withCode (draw.run source).1), (draw.run source).2) := by
  rw [issueFrom, hcheck]
  rfl

theorem issue_of_check_error {fault : ArgumentFault}
    (hcheck : request.check now = .error fault) (code : String) :
    store.issue now request code = Reply.refuse store (.invalidArgument fault) 0 := by
  rw [issue, Reply.counting, run_issueFrom_of_check_error store hcheck]
  rfl

theorem issue_of_check_ok {draft : Draft} (hcheck : request.check now = .ok draft)
    (code : String) :
    store.issue now request code = ⟨store.put now (draft.withCode code), 1⟩ := by
  rw [issue, Reply.counting, run_issueFrom_of_check_ok store hcheck]
  rfl

end

end Store

end OneTimeCode
