import OneTimeCode.Proofs.CallHistory
import OneTimeCode.Proofs.Collections
import OneTimeCode.Proofs.RowEncoding

/-!
# The vouchers that a store holds

Both kinds of store are seen as what they hold under each key, expired vouchers
included.  For every call there is one statement of its answer and of the
vouchers held afterwards, and it is the same for both kinds except where a code
is taken: in memory an expired voucher gives way, in a ledger it does not.
-/

namespace OneTimeCode

/-- The voucher that the row under a key is read as. -/
def Table.resident? (table : Table) (key : Key) : Option Voucher :=
  (table.find? key).bind fun row => row.toVoucher.toOption

/-- Every row can be read as a voucher. -/
def Table.IsReadable (table : Table) : Prop :=
  ∀ row ∈ table.items, ∃ voucher, row.toVoucher = .ok voucher

/-- Every voucher is held under its own key. -/
def MemoryStore.IsKeyed (store : MemoryStore) : Prop :=
  ∀ entry ∈ store.entries.items, entry.2.key = entry.1

namespace Table

variable {table : Table}

theorem resident?_of_find?_eq_none {key : Key} (hfree : table.find? key = none) :
    table.resident? key = none := by
  simp [resident?, hfree]

theorem resident?_of_find? {key : Key} {row : Row} {voucher : Voucher}
    (hfound : table.find? key = some row) (hread : row.toVoucher = .ok voucher) :
    table.resident? key = some voucher := by
  simp [resident?, hfound, hread, Except.toOption]

/-- What is held under a key was read from the row under that key. -/
theorem resident?_eq_some_iff (key : Key) (voucher : Voucher) :
    table.resident? key = some voucher ↔
      ∃ row, table.find? key = some row ∧ row.toVoucher = .ok voucher := by
  rw [resident?, Option.bind_eq_some_iff]
  apply exists_congr
  intro row
  cases row.toVoucher <;> simp [Except.toOption]

theorem IsReadable.resident?_eq_none_iff (hreadable : table.IsReadable) (key : Key) :
    table.resident? key = none ↔ table.find? key = none := by
  constructor
  · intro hnone
    cases hfound : table.find? key with
    | none => rfl
    | some row =>
        obtain ⟨hrow, -⟩ := (Keyed.find?_eq_some_iff _ _ _).1 hfound
        obtain ⟨voucher, hread⟩ := hreadable row hrow
        rw [resident?_of_find? hfound hread] at hnone
        cases hnone
  · exact resident?_of_find?_eq_none

theorem key_eq_of_resident? {key : Key} {voucher : Voucher}
    (hresident : table.resident? key = some voucher) : voucher.key = key := by
  obtain ⟨row, hfound, hread⟩ := (resident?_eq_some_iff _ _).1 hresident
  obtain ⟨-, hkey⟩ := (Keyed.find?_eq_some_iff _ _ _).1 hfound
  rw [← hkey, Row.key_eq_of_toVoucher hread]

theorem IsReadable.keep (hreadable : table.IsReadable) (test : Row → Bool) :
    Table.IsReadable (table.keep test) := by
  intro row hrow
  exact hreadable row (List.mem_filter.1 hrow).1

/-- Keeping rows is keeping the vouchers that they are read as. -/
theorem resident?_keep (table : Table) (test : Row → Bool) (key : Key) :
    resident? (table.keep test) key =
      (table.resident? key).filter fun voucher => test (Row.ofVoucher voucher) := by
  apply Option.ext
  intro voucher
  rw [Option.filter_eq_some_iff, resident?_eq_some_iff, resident?_eq_some_iff,
    Keyed.find?_keep]
  constructor
  · rintro ⟨row, hfound, hread⟩
    obtain ⟨hfound, htest⟩ := Option.filter_eq_some_iff.1 hfound
    obtain ⟨-, rfl⟩ := (Row.toVoucher_eq_ok_iff _ _).1 hread
    exact ⟨⟨_, hfound, hread⟩, htest⟩
  · rintro ⟨⟨row, hfound, hread⟩, htest⟩
    obtain ⟨-, rfl⟩ := (Row.toVoucher_eq_ok_iff _ _).1 hread
    exact ⟨_, Option.filter_eq_some_iff.2 ⟨hfound, htest⟩, hread⟩

theorem resident?_erase (table : Table) (unwanted key : Key) :
    resident? (table.erase unwanted) key =
      if key = unwanted then none else table.resident? key := by
  split
  · next hkey =>
    subst hkey
    exact resident?_of_find?_eq_none (Keyed.find?_erase_self _ _)
  · next hkey =>
    rw [resident?, Keyed.find?_erase_of_ne _ hkey, resident?]

theorem resident?_insert? {result : Table} {voucher : Voucher}
    (hstorable : voucher.IsStorable)
    (hinsert : table.insert? (Row.ofVoucher voucher) = some result) (key : Key) :
    result.resident? key = if key = voucher.key then some voucher else table.resident? key := by
  have hfind := Keyed.find?_of_insert? hinsert key
  rw [Row.key_ofVoucher] at hfind
  split
  · next hkey =>
    rw [if_pos hkey] at hfind
    exact resident?_of_find? hfind (Row.toVoucher_ofVoucher hstorable)
  · next hkey =>
    rw [if_neg hkey] at hfind
    rw [resident?, hfind, resident?]

theorem IsReadable.insert? {result : Table} {voucher : Voucher}
    (hreadable : table.IsReadable) (hstorable : voucher.IsStorable)
    (hinsert : Keyed.insert? table (Row.ofVoucher voucher) = some result) :
    result.IsReadable := by
  obtain ⟨-, hitems⟩ := (Keyed.insert?_eq_some_iff _ _ _).1 hinsert
  intro row hrow
  rw [hitems, List.mem_append, List.mem_singleton] at hrow
  rcases hrow with hrow | rfl
  · exact hreadable row hrow
  · exact ⟨voucher, Row.toVoucher_ofVoucher hstorable⟩

end Table

namespace MemoryStore

variable {store : MemoryStore}

theorem find?_eq_some_iff (store : MemoryStore) (key : Key) (voucher : Voucher) :
    store.find? key = some voucher ↔ (key, voucher) ∈ store.entries.items := by
  rw [find?, Option.map_eq_some_iff]
  constructor
  · rintro ⟨⟨entryKey, kept⟩, hfound, rfl⟩
    obtain ⟨hentry, rfl⟩ := (Keyed.find?_eq_some_iff _ _ _).1 hfound
    exact hentry
  · intro hentry
    exact ⟨(key, voucher), (Keyed.find?_eq_some_iff _ _ _).2 ⟨hentry, rfl⟩, rfl⟩

theorem IsKeyed.key_eq_of_find? (hkeyed : store.IsKeyed) {key : Key} {voucher : Voucher}
    (hfound : store.find? key = some voucher) : voucher.key = key :=
  hkeyed _ ((find?_eq_some_iff _ _ _).1 hfound)

theorem IsKeyed.keep (hkeyed : store.IsKeyed) (test : MemoryEntry → Bool) :
    IsKeyed ⟨store.entries.keep test⟩ := by
  intro entry hentry
  exact hkeyed entry (List.mem_filter.1 hentry).1

theorem IsKeyed.replace (hkeyed : store.IsKeyed) (voucher : Voucher) :
    IsKeyed ⟨store.entries.replace (voucher.key, voucher)⟩ := by
  intro entry hentry
  rcases List.mem_append.1 hentry with hkept | hnew
  · exact hkeyed entry (List.mem_filter.1 hkept).1
  · rw [List.mem_singleton.1 hnew]

theorem find?_keep (store : MemoryStore) (test : MemoryEntry → Bool) (key : Key) :
    find? ⟨store.entries.keep test⟩ key =
      (store.find? key).filter fun voucher => test (key, voucher) := by
  apply Option.ext
  intro voucher
  rw [Option.filter_eq_some_iff, find?_eq_some_iff, find?_eq_some_iff,
    Keyed.items_keep, List.mem_filter]

theorem find?_erase (store : MemoryStore) (unwanted key : Key) :
    find? ⟨store.entries.erase unwanted⟩ key =
      if key = unwanted then none else store.find? key := by
  split
  · next hkey =>
    rw [hkey, find?, Keyed.find?_erase_self, Option.map_none]
  · next hkey =>
    rw [find?, Keyed.find?_erase_of_ne _ hkey, find?]

theorem find?_replace (store : MemoryStore) (voucher : Voucher) (key : Key) :
    find? ⟨store.entries.replace (voucher.key, voucher)⟩ key =
      if key = voucher.key then some voucher else store.find? key := by
  split
  · next hkey =>
    rw [hkey, find?, Keyed.find?_replace_self store.entries (voucher.key, voucher),
      Option.map_some]
  · next hkey =>
    rw [find?, Keyed.find?_replace_of_ne store.entries (voucher.key, voucher) hkey, find?]

/-- Redeeming erases what is under the key, whatever is answered. -/
theorem store_redeem (store : MemoryStore) (now : Instant) (code : String) (zone : Zone) :
    (store.redeem now (some code) zone).store = ⟨store.entries.erase ⟨zone, code⟩⟩ := by
  cases hfound : store.find? ⟨zone, code⟩ with
  | none =>
      rw [find?, Option.map_eq_none_iff] at hfound
      simp [redeem, find?, hfound, store.entries.erase_eq_self hfound]
  | some voucher =>
      cases hexpired : voucher.isExpiredAt now <;> simp [redeem, hfound, hexpired]

end MemoryStore

namespace Store

/-- The voucher that a store holds under a key, expired or not. -/
def resident? : Store → Key → Option Voucher
  | memory kept, key => kept.find? key
  | ledger kept, key => kept.table?.bind fun table => table.resident? key

/-- What is held is what it looks like: memory has every voucher under its own
key, and a ledger has a table of rows that can all be read. -/
def IsSound : Store → Prop
  | memory kept => kept.IsKeyed
  | ledger kept => ∃ table, kept = .ready table ∧ table.IsReadable

/-- The voucher held under a key keeps the key from being issued again. -/
def Blocks (store : Store) (now : Instant) (key : Key) : Prop :=
  ∃ resident, store.resident? key = some resident ∧
    (store.backend = .memory → resident.isExpiredAt now = false)

/-- The call draws the code of a voucher that is held although it has expired. -/
def DrawsExpired (store : Store) (timed : TimedCall) : Prop :=
  ∃ request code draft resident, timed.call = .issue request code ∧
    request.check timed.now = .ok draft ∧
    store.resident? ⟨request.zone, code⟩ = some resident ∧
    resident.isExpiredAt timed.now = true

/-- No call of a history draws the code of a voucher that has expired by then. -/
def NeverDrawsExpired (store : Store) (calls : List TimedCall) : Prop :=
  ∀ position timed, calls[position]? = some timed →
    ¬ (store.after (calls.take position)).DrawsExpired timed

theorem NeverDrawsExpired.head {store : Store} {timed : TimedCall} {rest : List TimedCall}
    (hfree : store.NeverDrawsExpired (timed :: rest)) : ¬ store.DrawsExpired timed :=
  hfree 0 timed rfl

theorem NeverDrawsExpired.tail {store : Store} {timed : TimedCall} {rest : List TimedCall}
    (hfree : store.NeverDrawsExpired (timed :: rest)) :
    (store.next timed).NeverDrawsExpired rest := by
  intro position later hlater
  exact hfree (position + 1) later hlater

/-- What holds of a history holds of each part from its start. -/
theorem NeverDrawsExpired.of_append {store : Store} {earlier later : List TimedCall}
    (hfree : store.NeverDrawsExpired (earlier ++ later)) :
    store.NeverDrawsExpired earlier := by
  intro position timed htimed
  obtain ⟨hlt, -⟩ := List.getElem?_eq_some_iff.1 htimed
  have happend := hfree position timed (by rw [List.getElem?_append_left hlt, htimed])
  rwa [List.take_append_of_le_length (Nat.le_of_lt hlt)] at happend

@[simp]
theorem resident?_memory (kept : MemoryStore) (key : Key) :
    (memory kept).resident? key = kept.find? key := rfl

@[simp]
theorem resident?_ready (table : Table) (key : Key) :
    (ledger (.ready table)).resident? key = table.resident? key := rfl

theorem isSound_fresh (backend : Log.Backend) : (fresh backend).IsSound := by
  cases backend with
  | memory =>
      intro entry hentry
      cases hentry
  | ledger =>
      refine ⟨Keyed.empty, rfl, ?_⟩
      intro row hrow
      cases hrow

theorem resident?_fresh (backend : Log.Backend) (key : Key) :
    (fresh backend).resident? key = none := by
  cases backend <;> rfl

theorem IsSound.key_eq_of_resident? {store : Store} (hsound : store.IsSound) {key : Key}
    {voucher : Voucher} (hresident : store.resident? key = some voucher) :
    voucher.key = key := by
  cases store with
  | memory kept => exact hsound.key_eq_of_find? hresident
  | ledger kept =>
      obtain ⟨table, rfl, -⟩ := hsound
      exact Table.key_eq_of_resident? hresident

/-! ## Issuing -/

theorem blocks_memory_iff (kept : MemoryStore) (now : Instant) (key : Key) :
    (memory kept).Blocks now key ↔
      ((kept.find? key).any fun resident => !resident.isExpiredAt now) = true := by
  rw [Option.any_eq_true]
  simp [Blocks, backend]

theorem blocks_ledger_iff {table : Table} (hreadable : table.IsReadable) (now : Instant)
    (key : Key) : (ledger (.ready table)).Blocks now key ↔ table.find? key ≠ none := by
  rw [Ne, ← hreadable.resident?_eq_none_iff, ← Ne, Option.ne_none_iff_exists']
  simp [Blocks, backend]

/-- A table refuses a key under which it has a row, whatever is in the row. -/
theorem issue_ready_of_taken {table : Table} {now : Instant} {request : Request}
    {draft : Draft} (hcheck : request.check now = .ok draft) {code : String}
    (htaken : table.find? ⟨request.zone, code⟩ ≠ none) :
    (ledger (.ready table)).issue now request code =
      Reply.refuse (ledger (.ready table)) .conflict 1 := by
  rw [← Request.key_withCode hcheck code, ← Row.key_ofVoucher,
    ← Keyed.insert?_eq_none_iff] at htaken
  rw [issue_of_check_ok _ hcheck]
  simp [put, Ledger.record, Ledger.insert, Ledger.table?, htaken, Conclusion.refuse,
    Conclusion.map, Reply.refuse]

theorem issue_ready_of_free {table : Table} {now : Instant} {request : Request}
    {draft : Draft} (hcheck : request.check now = .ok draft) {code : String}
    (hfree : table.find? ⟨request.zone, code⟩ = none) :
    ∃ result, table.insert? (Row.ofVoucher (draft.withCode code)) = some result ∧
      (ledger (.ready table)).issue now request code =
        ⟨⟨.ok (draft.withCode code), ledger (.ready result),
          [.issued (draft.withCode code).zone (draft.withCode code).intent]⟩, 1⟩ := by
  rw [← Request.key_withCode hcheck code, ← Row.key_ofVoucher] at hfree
  cases hinsert : table.insert? (Row.ofVoucher (draft.withCode code)) with
  | none => exact absurd hfree ((Keyed.insert?_eq_none_iff _ _).1 hinsert)
  | some result =>
      refine ⟨result, rfl, ?_⟩
      rw [issue_of_check_ok _ hcheck]
      simp [put, Ledger.record, Ledger.insert, Ledger.table?, hinsert, Conclusion.map]

theorem issue_memory_of_blocks {kept : MemoryStore} {now : Instant} {request : Request}
    {draft : Draft} (hcheck : request.check now = .ok draft) {code : String}
    (hblocks : (memory kept).Blocks now ⟨request.zone, code⟩) :
    (memory kept).issue now request code = Reply.refuse (memory kept) .conflict 1 := by
  rw [← Request.key_withCode hcheck code, blocks_memory_iff] at hblocks
  rw [issue_of_check_ok _ hcheck]
  simp [put, MemoryStore.put, hblocks, Conclusion.refuse, Conclusion.map, Reply.refuse]

/-- A taken key is refused and nothing changes. -/
theorem issue_of_blocks {store : Store} (hsound : store.IsSound) {now : Instant}
    {request : Request} {draft : Draft} (hcheck : request.check now = .ok draft)
    {code : String} (hblocks : store.Blocks now ⟨request.zone, code⟩) :
    store.issue now request code = Reply.refuse store .conflict 1 := by
  cases store with
  | memory kept => exact issue_memory_of_blocks hcheck hblocks
  | ledger kept =>
      obtain ⟨table, rfl, hreadable⟩ := hsound
      exact issue_ready_of_taken hcheck ((blocks_ledger_iff hreadable _ _).1 hblocks)

theorem issue_memory_of_not_blocks {kept : MemoryStore} {now : Instant} {request : Request}
    {draft : Draft} (hcheck : request.check now = .ok draft) {code : String}
    (hfree : ¬ (memory kept).Blocks now ⟨request.zone, code⟩) :
    (memory kept).issue now request code =
      ⟨⟨.ok (draft.withCode code),
        memory ⟨kept.entries.replace ((draft.withCode code).key, draft.withCode code)⟩,
        [.issued (draft.withCode code).zone (draft.withCode code).intent]⟩, 1⟩ := by
  rw [← Request.key_withCode hcheck code, blocks_memory_iff, Bool.not_eq_true] at hfree
  rw [issue_of_check_ok _ hcheck]
  simp [put, MemoryStore.put, hfree, Conclusion.map]

/-- Issuing in memory is refused and nothing changes, or the request passes and its key is not
blocked. -/
theorem issue_memory_cases (kept : MemoryStore) (now : Instant) (request : Request)
    (code : String) :
    (∃ failure draws,
      (memory kept).issue now request code = Reply.refuse (memory kept) failure draws) ∨
    ∃ draft, request.check now = .ok draft ∧
      ¬ (memory kept).Blocks now ⟨request.zone, code⟩ := by
  cases hcheck : request.check now with
  | error fault => exact Or.inl ⟨_, _, issue_of_check_error _ hcheck code⟩
  | ok draft =>
      by_cases hblocks : (memory kept).Blocks now ⟨request.zone, code⟩
      · exact Or.inl ⟨_, _, issue_memory_of_blocks hcheck hblocks⟩
      · exact Or.inr ⟨draft, rfl, hblocks⟩

theorem issue_ready_of_not_blocks {table : Table} (hreadable : table.IsReadable)
    {now : Instant} {request : Request} {draft : Draft}
    (hcheck : request.check now = .ok draft) {code : String}
    (hfree : ¬ (ledger (.ready table)).Blocks now ⟨request.zone, code⟩) :
    ∃ result, table.insert? (Row.ofVoucher (draft.withCode code)) = some result ∧
      (ledger (.ready table)).issue now request code =
        ⟨⟨.ok (draft.withCode code), ledger (.ready result),
          [.issued (draft.withCode code).zone (draft.withCode code).intent]⟩, 1⟩ := by
  rw [blocks_ledger_iff hreadable, Ne, Classical.not_not] at hfree
  exact issue_ready_of_free hcheck hfree

/-- Under a key that is not blocked the voucher asked for is issued and held. -/
theorem issue_of_not_blocks {store : Store} (hsound : store.IsSound) {now : Instant}
    {request : Request} {draft : Draft} (hplain : request.IsPlain)
    (hcheck : request.check now = .ok draft) {code : String}
    (hfree : ¬ store.Blocks now ⟨request.zone, code⟩) :
    (store.issue now request code).outcome = .ok (draft.withCode code) ∧
      (store.issue now request code).draws = 1 ∧
      (store.issue now request code).store.IsSound ∧
      ∀ key, (store.issue now request code).store.resident? key =
        if key = ⟨request.zone, code⟩ then some (draft.withCode code)
        else store.resident? key := by
  rw [← Request.key_withCode hcheck code]
  have hstorable := Request.isStorable_withCode hplain hcheck code
  cases store with
  | memory kept =>
      rw [issue_memory_of_not_blocks hcheck hfree]
      exact ⟨rfl, rfl, hsound.replace _, MemoryStore.find?_replace kept _⟩
  | ledger kept =>
      obtain ⟨table, rfl, hreadable⟩ := hsound
      obtain ⟨result, hinsert, hissue⟩ := issue_ready_of_not_blocks hreadable hcheck hfree
      rw [hissue]
      exact ⟨rfl, rfl, ⟨result, rfl, hreadable.insert? hstorable hinsert⟩,
        Table.resident?_insert? hstorable hinsert⟩

/-! ## Redeeming, revoking and sweeping -/

theorem redeem_without_code (store : Store) (now : Instant) (zone : Zone) :
    store.redeem now none zone =
      Reply.refuse store (.invalidArgument .codeMissing) 0 := by
  cases store <;> rfl

/-- The voucher under the key is answered unless it has expired, and is gone in
either case. -/
theorem redeem_of_isSound {store : Store} (hsound : store.IsSound) (now : Instant)
    (code : String) (zone : Zone) :
    (store.redeem now (some code) zone).outcome =
        .ok ((store.resident? ⟨zone, code⟩).filter fun kept => !kept.isExpiredAt now) ∧
      (store.redeem now (some code) zone).draws = 0 ∧
      (store.redeem now (some code) zone).store.IsSound ∧
      ∀ key, (store.redeem now (some code) zone).store.resident? key =
        if key = ⟨zone, code⟩ then none else store.resident? key := by
  cases store with
  | memory kept =>
      have hstore : ((memory kept).redeem now (some code) zone).store =
          memory ⟨kept.entries.erase ⟨zone, code⟩⟩ :=
        congrArg memory (kept.store_redeem now code zone)
      rw [hstore]
      refine ⟨?_, ?_, hsound.keep _, MemoryStore.find?_erase kept _⟩
      all_goals
        cases hfound : kept.find? ⟨zone, code⟩ with
        | none => simp [redeem, MemoryStore.redeem, hfound, Conclusion.map]
        | some voucher =>
            cases hexpired : voucher.isExpiredAt now <;>
              simp [redeem, MemoryStore.redeem, hfound, hexpired, Conclusion.map, Option.filter]
  | ledger kept =>
      obtain ⟨table, rfl, hreadable⟩ := hsound
      refine ⟨?_, rfl, ⟨_, rfl, hreadable.keep _⟩, Table.resident?_erase table _⟩
      change Ledger.answerRow (table.find? ⟨zone, code⟩) now = _
      rw [resident?_ready]
      cases hfound : table.find? ⟨zone, code⟩ with
      | none =>
          rw [Table.resident?_of_find?_eq_none hfound]
          rfl
      | some row =>
          obtain ⟨hrow, -⟩ := (Keyed.find?_eq_some_iff _ _ _).1 hfound
          obtain ⟨voucher, hread⟩ := hreadable row hrow
          rw [Table.resident?_of_find? hfound hread, Ledger.answerRow_of_toVoucher now hread]

/-- Of the vouchers held, those of the zone with the intent are gone. -/
theorem revoke_of_isSound {store : Store} (hsound : store.IsSound) (intent : String)
    (zone : Zone) :
    (∃ count, (store.revoke intent zone).outcome = .ok count) ∧
      (store.revoke intent zone).draws = 0 ∧
      (store.revoke intent zone).store.IsSound ∧
      ∀ key, (store.revoke intent zone).store.resident? key =
        (store.resident? key).filter fun kept =>
          !decide (kept.zone = zone ∧ kept.intent = some intent) := by
  cases store with
  | memory kept =>
      refine ⟨⟨_, rfl⟩, rfl, hsound.keep _, ?_⟩
      intro key
      change MemoryStore.find? ⟨kept.entries.keep _⟩ key = _
      rw [MemoryStore.find?_keep, resident?_memory]
      cases hfound : kept.find? key with
      | none => rfl
      | some voucher =>
          have hkey := hsound.key_eq_of_find? hfound
          simp [Option.filter, ← hkey, Voucher.key]
  | ledger kept =>
      obtain ⟨table, rfl, hreadable⟩ := hsound
      refine ⟨⟨_, rfl⟩, rfl, ⟨_, rfl, hreadable.keep _⟩, ?_⟩
      intro key
      change Table.resident? (table.keep _) key = _
      rw [Table.resident?_keep, resident?_ready]
      congr
      funext voucher
      have hzone : decide (voucher.zone.id = zone.id) = decide (voucher.zone = zone) :=
        decide_eq_decide.2 Zone.id_inj
      change (!(decide (voucher.zone.id = zone.id) &&
        decide (voucher.intent = some intent))) = _
      rw [hzone, Bool.decide_and]

/-- Of the rows of a ledger, those that have expired by the millisecond of the
reading are gone. -/
theorem sweep_of_isReadable {table : Table} (hreadable : table.IsReadable)
    (now : Instant) :
    ((ledger (.ready table)).sweep now).store.IsSound ∧
      ∀ key, ((ledger (.ready table)).sweep now).store.resident? key =
        (table.resident? key).filter fun kept =>
          !decide (kept.expiresAt.millis ≤ now.millis) := by
  refine ⟨⟨_, rfl, hreadable.keep _⟩, ?_⟩
  intro key
  exact Table.resident?_keep table _ key

end Store

end OneTimeCode
