import OneTimeCode.Store.Keyed
import OneTimeCode.Store.Reply
import OneTimeCode.Voucher

/-!
# The store in memory

Vouchers are kept as they were issued.  Nothing sweeps this store: an expired
voucher stays until its key is used again, it is redeemed or it is revoked.
-/

namespace OneTimeCode

/-- A voucher under the key that it was stored with. -/
abbrev MemoryEntry := Key × Voucher

structure MemoryStore where
  entries : Keyed (Prod.fst : MemoryEntry → Key)

namespace MemoryStore

def empty : MemoryStore := ⟨Keyed.empty⟩

/-- How many vouchers are held, expired ones included. -/
def size (store : MemoryStore) : Nat :=
  store.entries.size

def isEmpty (store : MemoryStore) : Bool :=
  store.entries.items.isEmpty

/-- The voucher held under a key, expired or not. -/
def find? (store : MemoryStore) (key : Key) : Option Voucher :=
  (store.entries.find? key).map Prod.snd

/-- The second half of issuing: keeps a voucher.  A code is taken as long as the
voucher that has it is not expired; an expired one gives way. -/
def put (store : MemoryStore) (now : Instant) (voucher : Voucher) :
    Conclusion MemoryStore Voucher :=
  let taken := (store.find? voucher.key).any fun resident => !resident.isExpiredAt now
  if taken then Conclusion.refuse store .conflict
  else
    { outcome := .ok voucher
      store := ⟨store.entries.replace (voucher.key, voucher)⟩
      events := [.issued voucher.zone voucher.intent] }

/-- Hands out the voucher of a code and forgets it.  An expired one is forgotten
too, but not handed out. -/
def redeem (store : MemoryStore) (now : Instant) (code : Option String) (zone : Zone) :
    Conclusion MemoryStore (Option Voucher) :=
  match code with
  | none => Conclusion.refuse store (.invalidArgument .codeMissing)
  | some code =>
    let remaining : MemoryStore := ⟨store.entries.erase ⟨zone, code⟩⟩
    match store.find? ⟨zone, code⟩ with
    | none => ⟨.ok none, store, []⟩
    | some voucher =>
      if voucher.isExpiredAt now then ⟨.ok none, remaining, [.discarded zone]⟩
      else ⟨.ok (some voucher), remaining, [.redeemed zone voucher.intent]⟩

/-- Forgets every voucher of a zone with this intent and counts them. -/
def revoke (store : MemoryStore) (intent : String) (zone : Zone) : Conclusion MemoryStore Nat :=
  let remaining := store.entries.keep fun entry =>
    !(entry.1.zone = zone && entry.2.intent = some intent)
  let removed := store.entries.size - remaining.size
  ⟨.ok removed, ⟨remaining⟩, [.revoked zone intent removed]⟩

end MemoryStore

end OneTimeCode
