import OneTimeCode.Proofs.ExpiryRounding
import OneTimeCode.Proofs.Residents

/-!
# The balance of a store in memory

Nothing sweeps a store in memory, so its size follows from its calls alone: every issuing adds a
voucher, and a voucher leaves when an issuing replaces it, a redeeming finds it or a revoking
hits it.  The books of a history count these, and they balance whatever the clock shows.
-/

namespace OneTimeCode

/-- What calls have added to a store and what has left it in exchange. -/
structure Books where
  issued : Nat := 0
  replaced : Nat := 0
  answered : Nat := 0
  discarded : Nat := 0
  revoked : Nat := 0
deriving DecidableEq, Repr

namespace Books

def add (earlier later : Books) : Books where
  issued := earlier.issued + later.issued
  replaced := earlier.replaced + later.replaced
  answered := earlier.answered + later.answered
  discarded := earlier.discarded + later.discarded
  revoked := earlier.revoked + later.revoked

/-- The vouchers that have left the store. -/
def gone (books : Books) : Nat :=
  books.replaced + books.answered + books.discarded + books.revoked

end Books

/-- The call is about the voucher: it draws its key, asks for it or revokes its intent. -/
def Call.Touches (call : Call) (voucher : Voucher) : Prop :=
  match call with
  | .issue request code => voucher.key = ⟨request.zone, code⟩
  | .redeem code zone => code = some voucher.code ∧ zone = voucher.zone
  | .revoke intent zone => zone = voucher.zone ∧ voucher.intent = some intent
  | .sweep => False

instance (call : Call) (voucher : Voucher) : Decidable (call.Touches voucher) := by
  unfold Call.Touches
  split <;> infer_instance

namespace Store

/-- A voucher is held under the key that has expired by then. -/
def holdsExpired (store : Store) (now : Instant) (key : Key) : Bool :=
  (store.resident? key).any fun resident => resident.isExpiredAt now

/-- What one call enters in the books: its answer, and whether there was an expired voucher under
the key for which it issued another one or answered none. -/
def bookEntry (store : Store) (timed : TimedCall) : Books :=
  match timed.call, (store.perform timed.now timed.call).outcome with
  | .issue _ _, .ok (.issued voucher) =>
    { issued := 1, replaced := (store.holdsExpired timed.now voucher.key).toNat }
  | .redeem _ _, .ok (.redeemed (some _)) => { answered := 1 }
  | .redeem (some code) zone, .ok (.redeemed none) =>
    { discarded := (store.holdsExpired timed.now ⟨zone, code⟩).toNat }
  | .revoke _ _, .ok (.removed count) => { revoked := count }
  | _, _ => {}

/-- The books of a history of calls. -/
def books (store : Store) : List TimedCall → Books
  | [] => {}
  | timed :: rest => (store.bookEntry timed).add ((store.next timed).books rest)

end Store

namespace MemoryStore

/-- Every voucher is held under its own key and expires at a whole millisecond, be it one of a
leap second. -/
structure IsTidy (kept : MemoryStore) : Prop where
  keyed : kept.IsKeyed
  rounded : ∀ entry ∈ kept.entries.items, entry.2.expiresAt.nanos % nanosPerMilli = 0

/-- What a call can do to a store in memory, and what it enters in the books. -/
inductive Turn (kept : MemoryStore) (call : Call) : MemoryStore → Books → Prop
  | unchanged : Turn kept call kept {}
  | issued {request : Request} {code : String} (voucher : Voucher)
      (hcall : call = .issue request code) (hkey : voucher.key = ⟨request.zone, code⟩)
      (hrounded : voucher.expiresAt.nanos % nanosPerMilli = 0) :
      Turn kept call ⟨kept.entries.replace (voucher.key, voucher)⟩
        { issued := 1, replaced := (kept.entries.find? voucher.key).toList.length }
  | redeemed {code : String} {zone : Zone} {books : Books}
      (hcall : call = .redeem (some code) zone)
      (hbooks : books = { answered := 1 } ∨ books = { discarded := 1 })
      (hfound : (kept.entries.find? ⟨zone, code⟩).toList.length = 1) :
      Turn kept call ⟨kept.entries.erase ⟨zone, code⟩⟩ books
  | revoked {intent : String} {zone : Zone} {test : MemoryEntry → Bool}
      (hcall : call = .revoke intent zone)
      (htest : ∀ entry, test entry = false ↔
        entry.1.zone = zone ∧ entry.2.intent = some intent) :
      Turn kept call ⟨kept.entries.keep test⟩
        { revoked := kept.entries.size - (kept.entries.keep test).size }

variable {kept : MemoryStore}

/-! ## One call -/

theorem length_toList_find? (kept : MemoryStore) (key : Key) :
    (kept.find? key).toList.length = (kept.entries.find? key).toList.length := by
  rw [find?]
  cases kept.entries.find? key <;> rfl

/-- Where no voucher is in the way of another one, the one that is held has expired. -/
theorem toNat_holdsExpired_of_not_blocks {now : Instant} {key : Key}
    (hfree : ¬ (Store.memory kept).Blocks now key) :
    ((Store.memory kept).holdsExpired now key).toNat =
      (kept.entries.find? key).toList.length := by
  rw [Store.blocks_memory_iff] at hfree
  rw [← length_toList_find?, Store.holdsExpired, Store.resident?_memory]
  cases hfound : kept.find? key with
  | none => rfl
  | some resident =>
      have hexpired : resident.isExpiredAt now = true := by simpa [hfound] using hfree
      simp [hexpired]

/-- The call has made one of the turns that there are. -/
def Turns (kept : MemoryStore) (timed : TimedCall) : Prop :=
  ∃ result, (Store.memory kept).next timed = .memory result ∧
    kept.Turn timed.call result ((Store.memory kept).bookEntry timed)

theorem turns_of_refuse {now : Instant} {request : Request} {code : String}
    {failure : Failure} {draws : Nat}
    (hissue : (Store.memory kept).issue now request code =
      Reply.refuse (.memory kept) failure draws) :
    kept.Turns ⟨now, .issue request code⟩ := by
  refine ⟨kept, ?_, ?_⟩
  · rw [Store.next, Store.perform, hissue, Reply.answering_refuse, Reply.store_refuse]
  · simp only [Store.bookEntry, Store.perform, hissue, Reply.answering_refuse,
      Reply.outcome_refuse]
    exact .unchanged

theorem turns_issue (kept : MemoryStore) (now : Instant) (request : Request) (code : String) :
    kept.Turns ⟨now, .issue request code⟩ := by
  rcases Store.issue_memory_cases kept now request code with
    ⟨failure, draws, hissue⟩ | ⟨draft, hcheck, hfree⟩
  · exact turns_of_refuse hissue
  · have hissue := Store.issue_memory_of_not_blocks hcheck hfree
    have hkey := Request.key_withCode hcheck code
    obtain ⟨data, expiresAt, -, -, -, rfl⟩ := (Request.check_eq_ok_iff _ _ _).1 hcheck
    refine ⟨_, by rw [Store.next, Store.perform, hissue]; rfl, ?_⟩
    simp only [Store.bookEntry, Store.perform, hissue, Reply.answering, Except.map]
    rw [toNat_holdsExpired_of_not_blocks (by rwa [hkey])]
    exact .issued _ rfl hkey expiresAt.rounds_ceilToMilli.nanos_mod_eq_zero

theorem turns_redeem (kept : MemoryStore) (now : Instant) (code : Option String)
    (zone : Zone) : kept.Turns ⟨now, .redeem code zone⟩ := by
  cases code with
  | none => exact ⟨kept, rfl, .unchanged⟩
  | some code =>
      have hlength := kept.length_toList_find? ⟨zone, code⟩
      cases hfound : kept.find? ⟨zone, code⟩ with
      | none =>
          have hredeem : (Store.memory kept).redeem now (some code) zone =
              ⟨⟨.ok none, .memory kept, []⟩, 0⟩ := by
            simp [Store.redeem, redeem, hfound, Conclusion.map]
          refine ⟨kept, by rw [Store.next, Store.perform, hredeem]; rfl, ?_⟩
          simp only [Store.bookEntry, Store.perform, hredeem, Reply.answering, Except.map,
            Store.holdsExpired, Store.resident?_memory, hfound]
          exact .unchanged
      | some voucher =>
          rw [hfound] at hlength
          cases hexpired : voucher.isExpiredAt now with
          | true =>
              have hredeem : (Store.memory kept).redeem now (some code) zone =
                  ⟨⟨.ok none, .memory ⟨kept.entries.erase ⟨zone, code⟩⟩, [.discarded zone]⟩,
                    0⟩ := by
                simp [Store.redeem, redeem, hfound, hexpired, Conclusion.map]
              refine ⟨_, by rw [Store.next, Store.perform, hredeem]; rfl, ?_⟩
              simp only [Store.bookEntry, Store.perform, hredeem, Reply.answering, Except.map,
                Store.holdsExpired, Store.resident?_memory, hfound, Option.any_some, hexpired]
              exact .redeemed rfl (Or.inr rfl) hlength.symm
          | false =>
              have hredeem : (Store.memory kept).redeem now (some code) zone =
                  ⟨⟨.ok (some voucher), .memory ⟨kept.entries.erase ⟨zone, code⟩⟩,
                    [.redeemed zone voucher.intent]⟩, 0⟩ := by
                simp [Store.redeem, redeem, hfound, hexpired, Conclusion.map]
              refine ⟨_, by rw [Store.next, Store.perform, hredeem]; rfl, ?_⟩
              simp only [Store.bookEntry, Store.perform, hredeem, Reply.answering, Except.map]
              exact .redeemed rfl (Or.inl rfl) hlength.symm

/-- Every call makes one of the turns. -/
theorem turns (kept : MemoryStore) (timed : TimedCall) : kept.Turns timed := by
  rcases timed with ⟨now, call⟩
  cases call with
  | issue request code => exact kept.turns_issue now request code
  | redeem code zone => exact kept.turns_redeem now code zone
  | revoke intent zone =>
      refine ⟨_, rfl, .revoked rfl ?_⟩
      intro entry
      simp
  | sweep => exact ⟨kept, rfl, .unchanged⟩

namespace Turn

variable {call : Call} {result : MemoryStore} {books : Books}

theorem isTidy (hturn : kept.Turn call result books) (htidy : kept.IsTidy) : result.IsTidy := by
  cases hturn with
  | unchanged => exact htidy
  | issued voucher hcall hkey hrounded =>
      refine ⟨htidy.keyed.replace voucher, ?_⟩
      intro entry hentry
      rcases List.mem_append.1 hentry with hkept | hnew
      · exact htidy.rounded entry (List.mem_filter.1 hkept).1
      · rw [List.mem_singleton.1 hnew]
        exact hrounded
  | redeemed =>
      refine ⟨htidy.keyed.keep _, ?_⟩
      intro entry hentry
      exact htidy.rounded entry (List.mem_filter.1 hentry).1
  | revoked =>
      refine ⟨htidy.keyed.keep _, ?_⟩
      intro entry hentry
      exact htidy.rounded entry (List.mem_filter.1 hentry).1

/-- What was issued is held or gone. -/
theorem balance (hturn : kept.Turn call result books) :
    result.size + books.gone = kept.size + books.issued := by
  cases hturn with
  | unchanged => rfl
  | issued voucher =>
      have herase := kept.entries.size_erase_add voucher.key
      simp only [size, Keyed.size, Keyed.items_replace, List.length_append,
        List.length_singleton, Books.gone] at *
      omega
  | @redeemed code zone _ hcall hbooks hfound =>
      have herase := kept.entries.size_erase_add ⟨zone, code⟩
      rw [hfound] at herase
      rcases hbooks with rfl | rfl
      · exact herase
      · exact herase
  | @revoked intent zone test =>
      have hkeep := kept.entries.size_keep_add test
      simp only [size, Books.gone]
      omega

/-- A voucher that the call does not touch stays where it is. -/
theorem find?_of_not_touches (hturn : kept.Turn call result books) {voucher : Voucher}
    (hheld : kept.find? voucher.key = some voucher) (huntouched : ¬ call.Touches voucher) :
    result.find? voucher.key = some voucher := by
  cases hturn with
  | unchanged => exact hheld
  | issued other hcall hkey =>
      subst hcall
      rw [find?_replace, if_neg, hheld]
      intro hsame
      exact huntouched (hsame.trans hkey)
  | redeemed hcall =>
      subst hcall
      rw [find?_erase, if_neg, hheld]
      intro hsame
      exact huntouched ⟨congrArg (fun key => some key.code) hsame.symm,
        congrArg Key.zone hsame.symm⟩
  | revoked hcall htest =>
      subst hcall
      rw [find?_keep, hheld, Option.filter_some, if_pos]
      rw [← Bool.not_eq_false, htest]
      rintro ⟨hzone, hintent⟩
      exact huntouched ⟨hzone.symm, hintent⟩

/-- Where nothing is entered in the books, nothing has changed. -/
theorem eq_of_books_eq (hturn : kept.Turn call result books) (hbooks : books = {}) :
    result = kept := by
  cases hturn with
  | unchanged => rfl
  | issued => cases hbooks
  | redeemed _ hentered => rcases hentered with rfl | rfl <;> cases hbooks
  | @revoked _ _ test =>
      have hrevoked := congrArg Books.revoked hbooks
      have hkeep := kept.entries.size_keep_add test
      have hsize : (kept.entries.keep test).size = kept.entries.size := by
        simp only at hrevoked
        omega
      exact congrArg MemoryStore.mk (Keyed.eq_of_items_eq (List.filter_sublist.eq_of_length hsize))

end Turn

/-! ## Many calls -/

theorem after_of_isTidy (htidy : kept.IsTidy) (calls : List TimedCall) :
    ∃ result, (Store.memory kept).after calls = .memory result ∧ result.IsTidy ∧
      result.size + ((Store.memory kept).books calls).gone =
        kept.size + ((Store.memory kept).books calls).issued := by
  induction calls generalizing kept with
  | nil => exact ⟨kept, rfl, htidy, rfl⟩
  | cons timed rest ih =>
      obtain ⟨next, hnext, hturn⟩ := kept.turns timed
      obtain ⟨result, hafter, hresult, hbalance⟩ := ih (hturn.isTidy htidy)
      refine ⟨result, ?_, hresult, ?_⟩
      · rw [Store.after_cons, hnext, hafter]
      · have hturned := hturn.balance
        rw [Store.books, hnext]
        simp only [Books.gone, Books.add] at *
        omega

/-- A voucher stays while no call touches it, whatever the clock shows. -/
theorem resident?_after_of_not_touches {voucher : Voucher}
    (hheld : kept.find? voucher.key = some voucher) {later : List TimedCall}
    (huntouched : ∀ timed ∈ later, ¬ timed.call.Touches voucher) :
    ((Store.memory kept).after later).resident? voucher.key = some voucher := by
  induction later generalizing kept with
  | nil => exact hheld
  | cons timed rest ih =>
      rw [List.forall_mem_cons] at huntouched
      obtain ⟨next, hnext, hturn⟩ := kept.turns timed
      rw [Store.after_cons, hnext]
      exact ih (hturn.find?_of_not_touches hheld huntouched.1) huntouched.2

/-- What an issuing has answered is held from then on, and so nothing else is under its key. -/
theorem resident?_next_of_issued {timed : TimedCall} {voucher : Voucher}
    (hissued : ((Store.memory kept).perform timed.now timed.call).outcome =
      .ok (.issued voucher)) :
    ((Store.memory kept).next timed).resident? voucher.key = some voucher := by
  rcases timed with ⟨now, call⟩
  cases call with
  | issue request code =>
      rw [Store.next]
      rw [Store.perform] at hissued ⊢
      rcases Store.issue_memory_cases kept now request code with
        ⟨failure, draws, hissue⟩ | ⟨draft, hcheck, hfree⟩
      · rw [hissue] at hissued
        cases hissued
      · rw [Store.issue_memory_of_not_blocks hcheck hfree] at hissued ⊢
        cases hissued
        exact (kept.find?_replace (draft.withCode code) _).trans (if_pos rfl)
  | redeem code zone =>
      rw [Store.perform, Reply.answering] at hissued
      cases hredeem : ((Store.memory kept).redeem now code zone).outcome <;>
        simp [hredeem, Except.map] at hissued
  | revoke intent zone => cases hissued
  | sweep => cases hissued

end MemoryStore

/-- Redeeming or revoking a voucher is the end of it. -/
theorem Store.resident?_next_of_touches {store : Store} (hsound : store.IsSound)
    {timed : TimedCall} {voucher : Voucher} (htouches : timed.call.Touches voucher)
    (hother : ∀ request code, timed.call ≠ .issue request code)
    (hheld : store.resident? voucher.key = some voucher) :
    (store.next timed).resident? voucher.key = none := by
  rcases timed with ⟨now, call⟩
  cases call with
  | issue request code => exact absurd rfl (hother request code)
  | redeem code zone =>
      obtain ⟨rfl, rfl⟩ := htouches
      obtain ⟨-, -, -, hresident⟩ := redeem_of_isSound hsound now voucher.code voucher.zone
      exact (hresident voucher.key).trans (if_pos rfl)
  | revoke intent zone =>
      obtain ⟨rfl, hintent⟩ := htouches
      obtain ⟨-, -, -, hresident⟩ := revoke_of_isSound hsound intent voucher.zone
      refine (hresident voucher.key).trans ?_
      rw [hheld]
      simp [Option.filter, hintent]
  | sweep => cases htouches

/-- After any calls, every voucher in memory is held under its own key and expires at a whole
millisecond, and the books balance: what was issued is held, was replaced when it had expired, was
found by a redeeming or was revoked.  Only calls that are entered in the books change what is held,
so a voucher stays, expired or not, until a call touches it; an issuing puts its own voucher under
the key, and redeeming or revoking ends what was there. -/
theorem memory_balanced (calls : List TimedCall) :
    ∃ kept, (Store.fresh .memory).after calls = .memory kept ∧
      (∀ entry ∈ kept.entries.items,
        entry.1 = entry.2.key ∧ entry.2.expiresAt.nanos % nanosPerMilli = 0) ∧
      kept.size + ((Store.fresh .memory).books calls).gone =
        ((Store.fresh .memory).books calls).issued ∧
      (∀ timed, (Store.memory kept).bookEntry timed = {} →
        (Store.memory kept).next timed = .memory kept) ∧
      (∀ timed voucher, ((Store.memory kept).perform timed.now timed.call).outcome =
          .ok (.issued voucher) →
        ((Store.memory kept).next timed).resident? voucher.key = some voucher) ∧
      ∀ voucher, kept.find? voucher.key = some voucher →
        (∀ later, (∀ timed ∈ later, ¬ timed.call.Touches voucher) →
          ((Store.memory kept).after later).resident? voucher.key = some voucher) ∧
        ∀ timed, timed.call.Touches voucher → (∀ request code, timed.call ≠ .issue request code) →
          ((Store.memory kept).next timed).resident? voucher.key = none := by
  have hfresh : MemoryStore.empty.IsTidy :=
    ⟨Store.isSound_fresh .memory, fun _ hentry => absurd hentry List.not_mem_nil⟩
  obtain ⟨kept, hafter, htidy, hbalance⟩ := MemoryStore.after_of_isTidy hfresh calls
  have hempty : MemoryStore.empty.size = 0 := rfl
  rw [hempty, Nat.zero_add] at hbalance
  refine ⟨kept, hafter, ?entries, hbalance, ?unchanged,
    fun _ _ => MemoryStore.resident?_next_of_issued, ?stays⟩
  case entries =>
    intro entry hentry
    exact ⟨(htidy.keyed entry hentry).symm, htidy.rounded entry hentry⟩
  case unchanged =>
    intro timed hbooks
    obtain ⟨result, hnext, hturn⟩ := kept.turns timed
    rw [hnext, hturn.eq_of_books_eq hbooks]
  case stays =>
    intro voucher hheld
    refine ⟨fun later huntouched => MemoryStore.resident?_after_of_not_touches hheld huntouched, ?_⟩
    intro timed htouches hother
    have hsound : (Store.memory kept).IsSound := htidy.keyed
    exact Store.resident?_next_of_touches hsound htouches hother hheld

/-- A voucher that nobody comes back for. -/
def Voucher.leftBehind : Voucher :=
  ⟨"c", .epoch, "payload", none, .standard⟩

/-- A code is issued again after its voucher has expired, and refused after the clock has been set
back.  Another one is discarded, and the third is left behind. -/
def leavingBehind : List TimedCall :=
  [⟨.epoch, .issue (.untilInstant .epoch) "a"⟩,
    ⟨.inSecondOne, .issue (.untilInstant .inSecondOne) "a"⟩,
    ⟨.epoch, .issue (.untilInstant .inSecondOne) "a"⟩,
    ⟨.epoch, .issue (.untilInstant .epoch) "b"⟩, ⟨.inSecondOne, .redeem (some "b") .standard⟩,
    ⟨.epoch, .issue (.untilInstant .epoch) "c"⟩]

/-- Long after it has expired, the voucher left behind is still held. -/
theorem memory_balanced_of_leavingBehind :
    ∃ kept, (Store.fresh .memory).after leavingBehind = .memory kept ∧
      (Store.fresh .memory).books leavingBehind =
        { issued := 4, replaced := 1, answered := 0, discarded := 1, revoked := 0 } ∧
      kept.size = 2 ∧
      ((Store.memory kept).after [⟨.inSecondOne, .redeem (some "a") .standard⟩,
        ⟨.latest, .revoke "login" .standard⟩]).resident? Voucher.leftBehind.key =
          some .leftBehind := by
  obtain ⟨kept, hafter, -, hbalance, -, -, hstays⟩ := memory_balanced leavingBehind
  have hbooks : (Store.fresh .memory).books leavingBehind = ⟨4, 1, 0, 1, 0⟩ := rfl
  have hheld : kept.find? Voucher.leftBehind.key = some .leftBehind := by
    rw [← Store.resident?_memory, ← hafter]
    rfl
  refine ⟨kept, hafter, hbooks, ?_, ?_⟩
  · rw [hbooks] at hbalance
    exact Nat.add_right_cancel hbalance
  · apply (hstays _ hheld).1
    simp only [List.forall_mem_cons]
    exact ⟨by decide, by decide, List.forall_mem_nil _⟩

end OneTimeCode
