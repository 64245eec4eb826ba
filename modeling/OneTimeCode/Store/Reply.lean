import OneTimeCode.Failure
import OneTimeCode.Log.Event

/-!
# Replies of a store

A call of a store concludes with its outcome, the store afterwards, and what there is
to log.  The caller supplies the clock's reading and, for issuing, a source of codes.
A reply adds how many codes were drawn, which is found out by running the call on a
source that counts.
-/

namespace OneTimeCode

structure Conclusion (σ α : Type) where
  outcome : Except Failure α
  store : σ
  events : List Log.StoreEvent

namespace Conclusion

variable {σ τ α : Type}

/-- The call failed and left the store as it was. -/
def refuse (store : σ) (failure : Failure) : Conclusion σ α :=
  ⟨.error failure, store, []⟩

/-- The same conclusion for a store that contains the one called. -/
def map (embed : σ → τ) (conclusion : Conclusion σ α) : Conclusion τ α :=
  ⟨conclusion.outcome, embed conclusion.store, conclusion.events⟩

end Conclusion

structure Reply (σ α : Type) extends Conclusion σ α where
  draws : Nat

/-- A source of one code that counts how often it is drawn from. -/
def countedSource (code : String) : StateM Nat String :=
  modifyGet fun draws => (code, draws + 1)

namespace Reply

variable {σ α : Type}

/-- The reply of a call whose source counts, from none on. -/
def counting (call : StateM Nat (Conclusion σ α)) : Reply σ α :=
  let (conclusion, draws) := call.run 0
  ⟨conclusion, draws⟩

/-- The reply of a call that has no source to draw from. -/
def undrawn (conclusion : Conclusion σ α) : Reply σ α :=
  counting (pure conclusion)

/-- The same reply of a store that contains the one called. -/
def map {τ : Type} (embed : σ → τ) (reply : Reply σ α) : Reply τ α :=
  ⟨reply.toConclusion.map embed, reply.draws⟩

/-- The call failed after some draws and left the store as it was. -/
def refuse (store : σ) (failure : Failure) (draws : Nat) : Reply σ α :=
  ⟨.refuse store failure, draws⟩

@[simp]
theorem undrawn_eq (conclusion : Conclusion σ α) : undrawn conclusion = ⟨conclusion, 0⟩ := rfl

section

variable (store : σ) (failure : Failure) (draws : Nat)

@[simp]
theorem outcome_refuse : (refuse store failure draws : Reply σ α).outcome = .error failure := rfl

@[simp]
theorem store_refuse : (refuse store failure draws : Reply σ α).store = store := rfl

@[simp]
theorem draws_refuse : (refuse store failure draws : Reply σ α).draws = draws := rfl

end

end Reply

end OneTimeCode
