import OneTimeCode.Proofs.RowEncoding
import OneTimeCode.Store

/-!
# Histories of calls

A history is a list of calls, each with the reading of the clock at which it is
made and the code that it would draw.  Running a history on a store gives a
transcript, which says of every call what it answered.
-/

namespace OneTimeCode

/-- A call of a store.  A code is drawn only if the request passes its check. -/
inductive Call
  | issue (request : Request) (code : String)
  | redeem (code : Option String) (zone : Zone)
  | revoke (intent : String) (zone : Zone)
  | sweep
deriving DecidableEq, Repr

/-- Vouchers are asked for in a named zone and not until a leap second. -/
def Call.IsPlain : Call → Prop
  | .issue request _ => request.IsPlain
  | _ => True

/-- What a call answers unless it fails.  `unswept` stands for the sweep of a
store in memory, which there is none of. -/
inductive Answer
  | issued (voucher : Voucher)
  | redeemed (voucher : Option Voucher)
  | removed (count : Nat)
  | unswept
deriving DecidableEq, Repr

/-- The same reply with its answer put as an answer of any call. -/
def Reply.answering {σ α : Type} (wrap : α → Answer) (reply : Reply σ α) :
    Reply σ Answer :=
  ⟨⟨reply.outcome.map wrap, reply.store, reply.events⟩, reply.draws⟩

theorem Reply.answering_refuse {σ α : Type} (wrap : α → Answer) (store : σ)
    (failure : Failure) (draws : Nat) :
    (Reply.refuse store failure draws : Reply σ α).answering wrap =
      Reply.refuse store failure draws := rfl

/-- A call and the clock's reading at which it is made. -/
structure TimedCall where
  now : Instant
  call : Call
deriving DecidableEq, Repr

/-- A call of a history, what it answered and how many codes it drew. -/
structure Entry extends TimedCall where
  outcome : Except Failure Answer
  draws : Nat

namespace Store

/-- A store that nothing has been issued from yet. -/
def fresh : Log.Backend → Store
  | .memory => memory .empty
  | .ledger => ledger (.ready .empty)

/-- Only a ledger is swept; a store in memory keeps what it has. -/
def sweep (store : Store) (now : Instant) : Reply Store Answer :=
  match store with
  | memory kept => .undrawn ⟨.ok .unswept, memory kept, []⟩
  | ledger kept => (Reply.undrawn ((kept.sweep now).map ledger)).answering .removed

def perform (store : Store) (now : Instant) : Call → Reply Store Answer
  | .issue request code => (store.issue now request code).answering .issued
  | .redeem code zone => (store.redeem now code zone).answering .redeemed
  | .revoke intent zone => (store.revoke intent zone).answering .removed
  | .sweep => store.sweep now

def next (store : Store) (timed : TimedCall) : Store :=
  (store.perform timed.now timed.call).store

def entry (store : Store) (timed : TimedCall) : Entry :=
  ⟨timed, (store.perform timed.now timed.call).outcome,
    (store.perform timed.now timed.call).draws⟩

theorem entry_eq_of_perform {left right : Store} {timed : TimedCall}
    (houtcome : (left.perform timed.now timed.call).outcome =
      (right.perform timed.now timed.call).outcome)
    (hdraws : (left.perform timed.now timed.call).draws =
      (right.perform timed.now timed.call).draws) : left.entry timed = right.entry timed := by
  rw [entry, entry, houtcome, hdraws]

/-- The store after all calls of a history. -/
def after (store : Store) (calls : List TimedCall) : Store :=
  calls.foldl next store

/-- What the calls of a history answer one after the other. -/
def transcript (store : Store) : List TimedCall → List Entry
  | [] => []
  | timed :: rest => store.entry timed :: (store.next timed).transcript rest

@[simp]
theorem after_nil (store : Store) : store.after [] = store := rfl

@[simp]
theorem after_cons (store : Store) (timed : TimedCall) (rest : List TimedCall) :
    store.after (timed :: rest) = (store.next timed).after rest := rfl

theorem take_transcript (store : Store) (calls : List TimedCall) (count : Nat) :
    (store.transcript calls).take count = store.transcript (calls.take count) := by
  induction calls generalizing store count with
  | nil => simp [transcript]
  | cons timed rest ih =>
      cases count with
      | zero => rfl
      | succ count => simp [transcript, ih]

/-- What a call answers depends on the calls before it only. -/
theorem getElem?_transcript (store : Store) (calls : List TimedCall) (position : Nat) :
    (store.transcript calls)[position]? =
      calls[position]?.map (store.after (calls.take position)).entry := by
  induction calls generalizing store position with
  | nil => simp [transcript]
  | cons timed rest ih =>
      cases position with
      | zero => rfl
      | succ position => simp [transcript, ih]

end Store

end OneTimeCode
