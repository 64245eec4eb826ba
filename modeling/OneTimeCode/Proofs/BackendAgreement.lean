import OneTimeCode.Proofs.Residents

/-!
# Both kinds of store answer alike

A ledger keeps the rows of the vouchers that memory keeps, in the same order,
as long as no code is drawn whose voucher has expired: then every call has the
same answer from both.  At the first such code memory gives it away again and a
ledger refuses, which is the only difference that a caller can see.
-/

namespace OneTimeCode

/-- A table has the row of every voucher in memory and no other row. -/
structure Mirrors (kept : MemoryStore) (table : Table) : Prop where
  rows : table.items = kept.entries.items.map fun entry => Row.ofVoucher entry.2
  keyed : kept.IsKeyed
  storable : ∀ entry ∈ kept.entries.items, entry.2.IsStorable

namespace Mirrors

variable {kept : MemoryStore} {table : Table}

theorem mem_table_iff (hmirrors : Mirrors kept table) (row : Row) :
    row ∈ table.items ↔ ∃ entry ∈ kept.entries.items, Row.ofVoucher entry.2 = row := by
  rw [hmirrors.rows, List.mem_map]

/-- Both have the same keys, and under a key the row of the voucher. -/
theorem find?_eq_map (hmirrors : Mirrors kept table) (key : Key) :
    table.find? key = (kept.find? key).map Row.ofVoucher := by
  apply Option.ext
  intro row
  rw [Keyed.find?_eq_some_iff, hmirrors.mem_table_iff, Option.map_eq_some_iff]
  constructor
  · rintro ⟨⟨⟨entryKey, voucher⟩, hentry, rfl⟩, hkey⟩
    have hkeyed : voucher.key = entryKey := hmirrors.keyed _ hentry
    rw [Row.key_ofVoucher, hkeyed] at hkey
    subst hkey
    exact ⟨voucher, (MemoryStore.find?_eq_some_iff _ _ _).2 hentry, rfl⟩
  · rintro ⟨voucher, hfound, rfl⟩
    have hentry := (MemoryStore.find?_eq_some_iff _ _ _).1 hfound
    exact ⟨⟨_, hentry, rfl⟩, hmirrors.keyed _ hentry⟩

theorem find?_eq_none_iff (hmirrors : Mirrors kept table) (key : Key) :
    table.find? key = none ↔ kept.entries.find? key = none := by
  rw [hmirrors.find?_eq_map, Option.map_eq_none_iff, MemoryStore.find?,
    Option.map_eq_none_iff]

theorem isReadable (hmirrors : Mirrors kept table) : table.IsReadable := by
  intro row hrow
  obtain ⟨entry, hentry, rfl⟩ := (hmirrors.mem_table_iff row).1 hrow
  exact ⟨entry.2, Row.toVoucher_ofVoucher (hmirrors.storable entry hentry)⟩

theorem isSound_memory (hmirrors : Mirrors kept table) : (Store.memory kept).IsSound :=
  hmirrors.keyed

theorem isSound_ledger (hmirrors : Mirrors kept table) :
    (Store.ledger (.ready table)).IsSound :=
  ⟨table, rfl, hmirrors.isReadable⟩

/-- The rows under a key are read as what memory has there. -/
theorem resident?_eq (hmirrors : Mirrors kept table) (key : Key) :
    table.resident? key = kept.find? key := by
  rw [Table.resident?, hmirrors.find?_eq_map]
  cases hfound : kept.find? key with
  | none => rfl
  | some voucher =>
      have hentry := (MemoryStore.find?_eq_some_iff _ _ _).1 hfound
      have hread := Row.toVoucher_ofVoucher (hmirrors.storable _ hentry)
      simp [hread, Except.toOption]

theorem size_eq (hmirrors : Mirrors kept table) : table.size = kept.size := by
  rw [Keyed.size, hmirrors.rows, List.length_map, MemoryStore.size, Keyed.size]

/-- Tests that agree on a voucher and its row keep the same of both. -/
theorem filter_rows (hmirrors : Mirrors kept table) {testRow : Row → Bool}
    {testEntry : MemoryEntry → Bool}
    (htests : ∀ entry ∈ kept.entries.items,
      testRow (Row.ofVoucher entry.2) = testEntry entry) :
    table.items.filter testRow =
      (kept.entries.items.filter testEntry).map fun entry => Row.ofVoucher entry.2 := by
  rw [hmirrors.rows, List.filter_map]
  congr 1
  exact List.filter_congr htests

theorem keep (hmirrors : Mirrors kept table) {testRow : Row → Bool}
    {testEntry : MemoryEntry → Bool}
    (htests : ∀ entry ∈ kept.entries.items,
      testRow (Row.ofVoucher entry.2) = testEntry entry) :
    Mirrors ⟨kept.entries.keep testEntry⟩ (table.keep testRow) where
  rows := hmirrors.filter_rows htests
  keyed := hmirrors.keyed.keep testEntry
  storable entry hentry := hmirrors.storable entry (List.mem_filter.1 hentry).1

theorem erase (hmirrors : Mirrors kept table) (unwanted : Key) :
    Mirrors ⟨kept.entries.erase unwanted⟩ (table.erase unwanted) := by
  apply hmirrors.keep
  intro entry hentry
  rw [Row.key_ofVoucher, hmirrors.keyed entry hentry]

/-- Under a free key both add the voucher at the end. -/
theorem insert (hmirrors : Mirrors kept table) {result : Table} {voucher : Voucher}
    (hstorable : voucher.IsStorable)
    (hinsert : table.insert? (Row.ofVoucher voucher) = some result) :
    Mirrors ⟨kept.entries.replace (voucher.key, voucher)⟩ result := by
  obtain ⟨hfree, hitems⟩ := (Keyed.insert?_eq_some_iff _ _ _).1 hinsert
  rw [Row.key_ofVoucher, hmirrors.find?_eq_none_iff] at hfree
  have hentries : (kept.entries.replace (voucher.key, voucher)).items =
      kept.entries.items ++ [(voucher.key, voucher)] := by
    change (kept.entries.erase voucher.key).items ++ _ = _
    rw [kept.entries.erase_eq_self hfree]
  refine ⟨?_, hmirrors.keyed.replace voucher, ?_⟩
  · rw [hentries, hitems, hmirrors.rows, List.map_append, List.map_singleton]
  · intro entry hentry
    rw [hentries, List.mem_append, List.mem_singleton] at hentry
    rcases hentry with hold | rfl
    · exact hmirrors.storable entry hold
    · exact hstorable

end Mirrors

namespace Store

/-- A store in memory and a ledger that mirrors it. -/
def Agree (left right : Store) : Prop :=
  ∃ kept table, left = memory kept ∧ right = ledger (.ready table) ∧ Mirrors kept table

theorem agree_fresh : Agree (fresh .memory) (fresh .ledger) := by
  refine ⟨.empty, Keyed.empty, rfl, rfl, rfl, ?_, ?_⟩
  · intro entry hentry
    cases hentry
  · intro entry hentry
    cases hentry

variable {kept : MemoryStore} {table : Table}

theorem blocks_iff_of_mirrors (hmirrors : Mirrors kept table) {now : Instant}
    {request : Request} {draft : Draft} (hcheck : request.check now = .ok draft)
    {code : String}
    (hfree : ¬ (memory kept).DrawsExpired ⟨now, .issue request code⟩) :
    (memory kept).Blocks now ⟨request.zone, code⟩ ↔
      (ledger (.ready table)).Blocks now ⟨request.zone, code⟩ := by
  simp only [Blocks, resident?_memory, resident?_ready, hmirrors.resident?_eq, backend,
    reduceCtorEq, false_implies, and_true, true_implies]
  constructor
  · rintro ⟨resident, hresident, -⟩
    exact ⟨resident, hresident⟩
  · rintro ⟨resident, hresident⟩
    refine ⟨resident, hresident, ?_⟩
    rw [← Bool.not_eq_true]
    intro hexpired
    exact hfree ⟨request, code, draft, resident, rfl, hcheck, hresident, hexpired⟩

/-! ## One call -/

/-- A call is answered alike and leaves both stores in agreement. -/
structure Alike (left right : Store) (timed : TimedCall) : Prop where
  entry_eq : left.entry timed = right.entry timed
  agree : Agree (left.next timed) (right.next timed)

/-- Calls that both stores refuse for the same reason change neither. -/
theorem alike_of_refuse (hmirrors : Mirrors kept table) {timed : TimedCall}
    {failure : Failure} {draws : Nat}
    (hleft : (memory kept).perform timed.now timed.call =
      Reply.refuse (memory kept) failure draws)
    (hright : (ledger (.ready table)).perform timed.now timed.call =
      Reply.refuse (ledger (.ready table)) failure draws) :
    Alike (memory kept) (ledger (.ready table)) timed := by
  constructor
  · apply entry_eq_of_perform <;>
      simp only [hleft, hright, Reply.outcome_refuse, Reply.draws_refuse]
  · rw [next, next, hleft, hright]
    exact ⟨kept, table, rfl, rfl, hmirrors⟩

theorem alike_issue (hmirrors : Mirrors kept table) {now : Instant} {request : Request}
    (hplain : request.IsPlain) {code : String}
    (hfree : ¬ (memory kept).DrawsExpired ⟨now, .issue request code⟩) :
    Alike (memory kept) (ledger (.ready table)) ⟨now, .issue request code⟩ := by
  cases hcheck : request.check now with
  | error fault =>
      apply alike_of_refuse hmirrors
      · rw [perform, issue_of_check_error _ hcheck, Reply.answering_refuse]
      · rw [perform, issue_of_check_error _ hcheck, Reply.answering_refuse]
  | ok draft =>
      have hblocks_iff := blocks_iff_of_mirrors hmirrors hcheck hfree
      by_cases hblocks : (memory kept).Blocks now ⟨request.zone, code⟩
      · apply alike_of_refuse hmirrors
        · rw [perform, issue_of_blocks hmirrors.isSound_memory hcheck hblocks, Reply.answering_refuse]
        · rw [perform, issue_of_blocks hmirrors.isSound_ledger hcheck
            (hblocks_iff.1 hblocks), Reply.answering_refuse]
      · have hleft := issue_memory_of_not_blocks hcheck hblocks
        obtain ⟨result, hinsert, hright⟩ := issue_ready_of_not_blocks hmirrors.isReadable
          hcheck (fun hblocked => hblocks (hblocks_iff.2 hblocked))
        have hstorable := Request.isStorable_withCode hplain hcheck code
        constructor
        · apply entry_eq_of_perform <;> simp only [perform, hleft, hright, Reply.answering]
        · simp only [next, perform, hleft, hright, Reply.answering]
          exact ⟨_, result, rfl, rfl, hmirrors.insert hstorable hinsert⟩

theorem alike_redeem (hmirrors : Mirrors kept table) (now : Instant)
    (code : Option String) (zone : Zone) :
    Alike (memory kept) (ledger (.ready table)) ⟨now, .redeem code zone⟩ := by
  cases code with
  | none =>
      apply alike_of_refuse hmirrors
      · rw [perform, redeem_without_code, Reply.answering_refuse]
      · rw [perform, redeem_without_code, Reply.answering_refuse]
  | some code =>
      obtain ⟨hleft, hleft_draws, -⟩ :=
        redeem_of_isSound hmirrors.isSound_memory now code zone
      obtain ⟨hright, hright_draws, -⟩ :=
        redeem_of_isSound hmirrors.isSound_ledger now code zone
      constructor
      · apply entry_eq_of_perform
        · simp only [perform, Reply.answering, hleft, hright, resident?_memory,
            resident?_ready, hmirrors.resident?_eq]
        · simp only [perform, Reply.answering, hleft_draws, hright_draws]
      · refine ⟨_, _, ?_, rfl, hmirrors.erase ⟨zone, code⟩⟩
        exact congrArg memory (kept.store_redeem now code zone)

theorem alike_revoke (hmirrors : Mirrors kept table) (now : Instant) (intent : String)
    (zone : Zone) : Alike (memory kept) (ledger (.ready table)) ⟨now, .revoke intent zone⟩ := by
  -- A row passes the test of the statement if and only if its voucher passes memory's.
  have htests : ∀ entry ∈ kept.entries.items,
      (decide ((Row.ofVoucher entry.2).zone = zone.id) &&
        decide ((Row.ofVoucher entry.2).intent = some intent)) =
      (decide (entry.1.zone = zone) && decide (entry.2.intent = some intent)) := by
    intro entry hentry
    rw [← hmirrors.keyed entry hentry]
    change (decide (entry.2.zone.id = zone.id) && _) = (decide (entry.2.zone = zone) && _)
    rw [decide_eq_decide.2 Zone.id_inj]
    rfl
  have hcount : kept.entries.size - (kept.entries.keep fun entry =>
      !(decide (entry.1.zone = zone) && decide (entry.2.intent = some intent))).size =
      (table.items.filter fun row =>
        decide (row.zone = zone.id) && decide (row.intent = some intent)).length := by
    rw [hmirrors.filter_rows htests, List.length_map]
    have hsize := kept.entries.size_keep_add fun entry =>
      !(decide (entry.1.zone = zone) && decide (entry.2.intent = some intent))
    simp only [Bool.not_not] at hsize
    omega
  constructor
  · apply entry_eq_of_perform
    · exact congrArg (fun count => Except.ok (Answer.removed count)) hcount
    · rfl
  · refine ⟨_, _, rfl, rfl, ?_⟩
    apply hmirrors.keep
    intro entry hentry
    exact congrArg not (htests entry hentry)

theorem Agree.alike {left right : Store} (hagree : Agree left right) {timed : TimedCall}
    (hplain : timed.call.IsPlain) (hunswept : timed.call ≠ .sweep)
    (hfree : ¬ left.DrawsExpired timed) : Alike left right timed := by
  obtain ⟨kept, table, rfl, rfl, hmirrors⟩ := hagree
  rcases timed with ⟨now, call⟩
  cases call with
  | issue request code => exact alike_issue hmirrors hplain hfree
  | redeem code zone => exact alike_redeem hmirrors now code zone
  | revoke intent zone => exact alike_revoke hmirrors now intent zone
  | sweep => exact absurd rfl hunswept

/-! ## Histories -/

theorem Agree.after {left right : Store} (hagree : Agree left right)
    {calls : List TimedCall} (hplain : ∀ timed ∈ calls, timed.call.IsPlain)
    (hunswept : ∀ timed ∈ calls, timed.call ≠ .sweep) (hfree : left.NeverDrawsExpired calls) :
    left.transcript calls = right.transcript calls ∧
      Agree (left.after calls) (right.after calls) := by
  induction calls generalizing left right with
  | nil => exact ⟨rfl, hagree⟩
  | cons timed rest ih =>
      have halike := hagree.alike (hplain timed List.mem_cons_self)
        (hunswept timed List.mem_cons_self) hfree.head
      obtain ⟨htranscript, hafter⟩ := ih halike.agree
        (fun later hlater => hplain later (List.mem_cons_of_mem _ hlater))
        (fun later hlater => hunswept later (List.mem_cons_of_mem _ hlater)) hfree.tail
      rw [transcript, transcript, halike.entry_eq, htranscript]
      exact ⟨rfl, hafter⟩

/-- A ledger refuses the code of a voucher that has expired, and memory gives it to
the new voucher. -/
theorem issue_of_mirrors_of_isExpiredAt (hmirrors : Mirrors kept table) {now : Instant}
    {request : Request} {draft : Draft} (hcheck : request.check now = .ok draft)
    {code : String} {resident : Voucher}
    (hresident : kept.find? ⟨request.zone, code⟩ = some resident)
    (hexpired : resident.isExpiredAt now = true) :
    (ledger (.ready table)).issue now request code =
        Reply.refuse (ledger (.ready table)) .conflict 1 ∧
      ((memory kept).issue now request code).outcome = .ok (draft.withCode code) ∧
      ((memory kept).issue now request code).draws = 1 ∧
      ((memory kept).issue now request code).store.resident? ⟨request.zone, code⟩ =
        some (draft.withCode code) := by
  have hblocked : (ledger (.ready table)).Blocks now ⟨request.zone, code⟩ := by
    refine ⟨resident, ?_, fun hmemory => ?_⟩
    · rw [resident?_ready, hmirrors.resident?_eq, hresident]
    · cases hmemory
  have hfree : ¬ (memory kept).Blocks now ⟨request.zone, code⟩ := by
    rintro ⟨other, hother, halive⟩
    rw [resident?_memory, hresident, Option.some.injEq] at hother
    rw [← hother, hexpired] at halive
    cases halive rfl
  refine ⟨issue_of_blocks hmirrors.isSound_ledger hcheck hblocked, ?_⟩
  rw [issue_memory_of_not_blocks hcheck hfree]
  refine ⟨rfl, rfl, ?_⟩
  rw [← Request.key_withCode hcheck code, resident?_memory, MemoryStore.find?_replace,
    if_pos rfl]

end Store

/-- Up to the first call that draws the code of an expired voucher, both kinds of
store give every call the same answer and hold the same vouchers, the ledger as rows.
That call the ledger refuses, and memory answers and holds the new voucher. -/
theorem backends_agree {calls : List TimedCall}
    (hplain : ∀ timed ∈ calls, timed.call.IsPlain)
    (hunswept : ∀ timed ∈ calls, timed.call ≠ .sweep)
    (hfree : (Store.fresh .memory).NeverDrawsExpired calls) :
    (Store.fresh .memory).transcript calls = (Store.fresh .ledger).transcript calls ∧
    ∃ kept table, (Store.fresh .memory).after calls = .memory kept ∧
      (Store.fresh .ledger).after calls = .ledger (.ready table) ∧
      table.size = kept.size ∧
      (∀ key, table.find? key = (kept.find? key).map Row.ofVoucher) ∧
      ∀ now request code draft resident, request.check now = .ok draft →
        kept.find? ⟨request.zone, code⟩ = some resident → resident.isExpiredAt now = true →
        (Store.ledger (.ready table)).issue now request code =
            Reply.refuse (.ledger (.ready table)) .conflict 1 ∧
          ((Store.memory kept).issue now request code).outcome = .ok (draft.withCode code) ∧
          ((Store.memory kept).issue now request code).draws = 1 ∧
          ((Store.memory kept).issue now request code).store.resident?
            ⟨request.zone, code⟩ = some (draft.withCode code) := by
  obtain ⟨htranscript, kept, table, hmemory, hledger, hmirrors⟩ :=
    Store.agree_fresh.after hplain hunswept hfree
  refine ⟨htranscript, kept, table, hmemory, hledger, hmirrors.size_eq,
    hmirrors.find?_eq_map, ?_⟩
  intro now request code draft resident hcheck hresident hexpired
  exact Store.issue_of_mirrors_of_isExpiredAt hmirrors hcheck hresident hexpired

/-- A code that is issued, refused to a second request and then left until its voucher
has expired. -/
def abandonedCode : List TimedCall :=
  [⟨.epoch, .issue (.untilInstant .inSecondOne) "a"⟩,
    ⟨.inSecondOne, .issue (.untilInstant .inSecondOne) "a"⟩,
    ⟨.latest, .redeem (some "b") .standard⟩]

theorem backends_agree_on_abandonedCode :
    (Store.fresh .memory).NeverDrawsExpired abandonedCode ∧
      (Store.fresh .memory).transcript abandonedCode =
        (Store.fresh .ledger).transcript abandonedCode ∧
      (((Store.fresh .ledger).after abandonedCode).issue .latest (.untilInstant .latest)
        "a").outcome = .error .conflict := by
  have hrequest : (Request.untilInstant .inSecondOne).IsPlain :=
    Request.isPlain_untilInstant rfl
  have hplain : ∀ timed ∈ abandonedCode, timed.call.IsPlain := by
    simp only [abandonedCode, List.forall_mem_cons]
    exact ⟨hrequest, hrequest, trivial, List.forall_mem_nil _⟩
  have hunswept : ∀ timed ∈ abandonedCode, timed.call ≠ .sweep := by decide
  have hfree : (Store.fresh .memory).NeverDrawsExpired abandonedCode := by
    intro position timed htimed
    rintro ⟨request, code, draft, resident, hcall, -, hresident, hexpired⟩
    match position with
    | 0 =>
        cases hresident
    | 1 =>
        cases htimed
        cases hcall
        cases hresident
        cases hexpired
    | 2 =>
        cases htimed
        cases hcall
    | position + 3 => cases htimed
  obtain ⟨htranscript, kept, table, hmemory, hledger, -, -, hdiffer⟩ :=
    backends_agree hplain hunswept hfree
  refine ⟨hfree, htranscript, ?_⟩
  cases hmemory
  rw [hledger]
  have hcheck : (Request.untilInstant .latest).check .latest = .ok _ := rfl
  rw [(hdiffer .latest _ "a" _ _ hcheck rfl rfl).1, Reply.outcome_refuse]

end OneTimeCode
