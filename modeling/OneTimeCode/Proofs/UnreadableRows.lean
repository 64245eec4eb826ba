import OneTimeCode.Proofs.StandingVouchers

/-!
# Rows that cannot be read

A ledger writes the row of every voucher that it issues, but it cannot read all of them.  A
zone that was received and not named can be blank, which a row's zone must not be, and the
milliseconds of the leap second at the end of the range are counted beyond the range.  Such
a voucher is issued like any other, and the call that redeems it fails.  Nothing else fails
as long as the table can be reached.
-/

namespace OneTimeCode

/-- Issuing from a table is refused, for its arguments or for a taken code, or it inserts the
row of the voucher that was asked for. -/
theorem Store.issue_ready_cases (table : Table) (now : Instant) (request : Request)
    (code : String) :
    (∃ failure draws, (∀ fault, failure ≠ .dataAccess fault) ∧
      (ledger (.ready table)).issue now request code =
        Reply.refuse (ledger (.ready table)) failure draws) ∨
    ∃ draft result, request.check now = .ok draft ∧
      table.insert? (Row.ofVoucher (draft.withCode code)) = some result ∧
      (ledger (.ready table)).issue now request code =
        ⟨⟨.ok (draft.withCode code), ledger (.ready result),
          [.issued (draft.withCode code).zone (draft.withCode code).intent]⟩, 1⟩ := by
  cases hcheck : request.check now with
  | error fault =>
      refine Or.inl ⟨.invalidArgument fault, 0, ?_, issue_of_check_error _ hcheck code⟩
      intro other hother
      cases hother
  | ok draft =>
      by_cases hfree : table.find? ⟨request.zone, code⟩ = none
      · obtain ⟨result, hinsert, hissue⟩ := issue_ready_of_free hcheck hfree
        exact Or.inr ⟨draft, result, rfl, hinsert, hissue⟩
      · refine Or.inl ⟨.conflict, 1, ?_, issue_ready_of_taken hcheck hfree⟩
        intro other hother
        cases hother

/-! ## Rows written and deleted -/

/-- The call is one after which a row is no longer in the table. -/
def Entry.Deletes (entry : Entry) (row : Row) : Prop :=
  match entry.call with
  | .issue _ _ => ∃ other, entry.issued? = some other ∧ other.key = row.key
  | .redeem code zone => code = some row.code ∧ zone.id = row.zone
  | .revoke intent zone => row.zone = zone.id ∧ row.intent = some intent
  | .sweep => row.expiresAt ≤ entry.now.millis

/-- Issuing writes the row of a voucher, later calls delete it. -/
def writtenRows : Effect Entry Row :=
  ⟨fun entry => entry.issued?.map Row.ofVoucher, Entry.Deletes⟩

/-- A call deletes the row of a voucher exactly if it ends the voucher. -/
theorem Entry.deletes_ofVoucher_iff (entry : Entry) (voucher : Voucher) :
    entry.Deletes (Row.ofVoucher voucher) ↔ entry.Ends voucher := by
  rcases entry with ⟨⟨now, call⟩, outcome, draws⟩
  cases call with
  | issue request code => exact Iff.rfl
  | redeem code zone => exact and_congr Iff.rfl Zone.id_inj
  | revoke intent zone => exact and_congr (eq_comm.trans Zone.id_inj) Iff.rfl
  | sweep => exact Iff.rfl

/-- The rows that stand are those of the vouchers that stand. -/
theorem stands_writtenRows_iff (past : List Entry) (position : Nat) (row : Row) :
    writtenRows.Stands past position row ↔
      ∃ voucher, standing.Stands past position voucher ∧ Row.ofVoucher voucher = row :=
  Effect.stands_image_iff (fun _ => rfl) Entry.deletes_ofVoucher_iff past position row

namespace Table

/-- A call of a table leaves exactly the rows that its entry in the transcript says. -/
structure Follows (table : Table) (timed : TimedCall) (result : Table) : Prop where
  next : (Store.ledger (.ready table)).next timed = .ledger (.ready result)
  rows : ∀ row, row ∈ result.items ↔
    row ∈ table.items ∧ ¬ ((Store.ledger (.ready table)).entry timed).Deletes row ∨
      writtenRows.adds ((Store.ledger (.ready table)).entry timed) = some row

variable {table : Table}

theorem follows_of_refuse {timed : TimedCall}
    (hnext : (Store.ledger (.ready table)).next timed = .ledger (.ready table))
    (hissued : ((Store.ledger (.ready table)).entry timed).issued? = none)
    (hdeletes : ∀ row, ¬ ((Store.ledger (.ready table)).entry timed).Deletes row) :
    table.Follows timed table := by
  refine ⟨hnext, ?_⟩
  intro row
  simp [writtenRows, hissued, hdeletes row]

theorem follows_issue_of_refuse {now : Instant} {request : Request} {code : String}
    {failure : Failure} {draws : Nat}
    (hissue : (Store.ledger (.ready table)).issue now request code =
      Reply.refuse (.ledger (.ready table)) failure draws) :
    table.Follows ⟨now, .issue request code⟩ table := by
  have hissued :
      ((Store.ledger (.ready table)).entry ⟨now, .issue request code⟩).issued? = none := by
    simp [Entry.issued?, Store.entry, Store.perform, Reply.answering, hissue, Except.map]
  apply follows_of_refuse _ hissued
  · rintro row ⟨other, hother, -⟩
    rw [hissued] at hother
    cases hother
  · simp [Store.next, Store.perform, Reply.answering, hissue]

theorem exists_follows_issue (table : Table) (now : Instant) (request : Request)
    (code : String) : ∃ result, table.Follows ⟨now, .issue request code⟩ result := by
  rcases Store.issue_ready_cases table now request code with
    ⟨failure, draws, -, hissue⟩ | ⟨draft, result, -, hinsert, hissue⟩
  · exact ⟨table, follows_issue_of_refuse hissue⟩
  · obtain ⟨hfree, hitems⟩ := (Keyed.insert?_eq_some_iff _ _ _).1 hinsert
    have hissued :
        ((Store.ledger (.ready table)).entry ⟨now, .issue request code⟩).issued? =
          some (draft.withCode code) := by
      simp [Entry.issued?, Store.entry, Store.perform, Reply.answering, hissue, Except.map]
    refine ⟨result, ?_, ?_⟩
    · simp [Store.next, Store.perform, Reply.answering, hissue]
    · intro row
      -- The key was free, so no row that is already there has it.
      have hkept : row ∈ table.items →
          ¬ ((Store.ledger (.ready table)).entry ⟨now, .issue request code⟩).Deletes row := by
        rintro hrow ⟨other, hother, hkey⟩
        rw [hissued, Option.some.injEq] at hother
        rw [← hother] at hkey
        exact (Keyed.find?_eq_none_iff _ _).1 hfree row hrow hkey.symm
      rw [hitems, List.mem_append, List.mem_singleton, and_iff_left_of_imp hkept]
      simp [writtenRows, hissued, eq_comm]

theorem exists_follows_redeem (table : Table) (now : Instant) (code : Option String)
    (zone : Zone) : ∃ result, table.Follows ⟨now, .redeem code zone⟩ result := by
  cases code with
  | none =>
      refine ⟨table, follows_of_refuse rfl rfl ?_⟩
      rintro row ⟨hcode, -⟩
      cases hcode
  | some code =>
      refine ⟨table.erase ⟨zone, code⟩, rfl, ?_⟩
      intro row
      have hdeletes : ((Store.ledger (.ready table)).entry
          ⟨now, .redeem (some code) zone⟩).Deletes row ↔ row.key = ⟨zone, code⟩ := by
        change some code = some row.code ∧ zone.id = row.zone ↔ _
        rw [Row.key, Key.mk.injEq, ← Zone.id_inj, Option.some.injEq, and_comm]
        exact and_congr eq_comm eq_comm
      have hadds : writtenRows.adds ((Store.ledger (.ready table)).entry
          ⟨now, .redeem (some code) zone⟩) = none := rfl
      rw [Keyed.mem_items_erase_iff, hdeletes, hadds]
      simp

/-- Both statements that delete rows by a test are calls of this kind. -/
theorem follows_of_delete {timed : TimedCall} {test : Row → Bool}
    (hnext : (Store.ledger (.ready table)).next timed = .ledger (.ready (table.delete test).2))
    (hissued : ((Store.ledger (.ready table)).entry timed).issued? = none)
    (hdeletes : ∀ row, ((Store.ledger (.ready table)).entry timed).Deletes row ↔
      test row = true) : table.Follows timed (table.delete test).2 := by
  refine ⟨hnext, ?_⟩
  intro row
  rw [hdeletes]
  simp [writtenRows, hissued, delete]

/-- Whatever the call, what it does to the rows can be read in its entry. -/
theorem exists_follows (table : Table) (timed : TimedCall) :
    ∃ result, table.Follows timed result := by
  rcases timed with ⟨now, call⟩
  cases call with
  | issue request code => exact table.exists_follows_issue now request code
  | redeem code zone => exact table.exists_follows_redeem now code zone
  | revoke intent zone =>
      refine ⟨_, follows_of_delete rfl rfl ?_⟩
      intro row
      rw [Bool.and_eq_true, decide_eq_true_iff, decide_eq_true_iff]
      rfl
  | sweep =>
      refine ⟨_, follows_of_delete rfl rfl ?_⟩
      intro row
      rw [decide_eq_true_iff]
      rfl

/-- The rows of a table keep to what was written and not deleted, call by call. -/
theorem exists_tracks_after {past : List Entry}
    (htracks : writtenRows.Tracks past (· ∈ table.items)) (calls : List TimedCall) :
    ∃ result : Table, (Store.ledger (.ready table)).after calls = .ledger (.ready result) ∧
      writtenRows.Tracks (past ++ (Store.ledger (.ready table)).transcript calls)
        (· ∈ result.items) := by
  induction calls generalizing table past with
  | nil => exact ⟨table, rfl, by simpa [Store.transcript] using htracks⟩
  | cons timed rest ih =>
      obtain ⟨next, hnext, hrows⟩ := table.exists_follows timed
      obtain ⟨result, hafter, hresult⟩ := ih (htracks.append_singleton hrows)
      refine ⟨result, ?_, ?_⟩
      · rw [Store.after_cons, hnext, hafter]
      · simpa [Store.transcript, hnext] using hresult

/-- After a history from the start there are exactly the rows of the vouchers that stand,
readable or not. -/
theorem exists_after_fresh (calls : List TimedCall) :
    ∃ table : Table, (Store.fresh .ledger).after calls = .ledger (.ready table) ∧
      ∀ row, row ∈ table.items ↔ ∃ voucher position,
        standing.Stands ((Store.fresh .ledger).transcript calls) position voucher ∧
          Row.ofVoucher voucher = row := by
  have hempty : writtenRows.Tracks [] (· ∈ (Keyed.empty : Table).items) :=
    Effect.tracks_nil fun row => List.not_mem_nil
  obtain ⟨table, hafter, htracks⟩ := exists_tracks_after hempty calls
  refine ⟨table, hafter, ?_⟩
  intro row
  rw [exists_comm]
  exact (htracks row).trans
    (exists_congr fun position => stands_writtenRows_iff _ position row)

end Table

/-! ## Failures of the storage -/

theorem Ledger.answerRow_eq_dataAccess_iff (row : Option Row) (now : Instant)
    (fault : AccessFault) :
    answerRow row now = .error (.dataAccess fault) ↔
      ∃ taken, row = some taken ∧ taken.toVoucher = .error fault := by
  cases row with
  | none => simp [answerRow]
  | some taken =>
      cases hread : taken.toVoucher with
      | error other => simp [answerRow, hread]
      | ok voucher => simp [answerRow, hread]

theorem Store.outcome_redeem_eq_dataAccess_iff (table : Table) (now : Instant) (code : String)
    (zone : Zone) (fault : AccessFault) :
    ((ledger (.ready table)).perform now (.redeem (some code) zone)).outcome =
        .error (.dataAccess fault) ↔
      ∃ row, table.find? ⟨zone, code⟩ = some row ∧ row.toVoucher = .error fault := by
  rw [← Ledger.answerRow_eq_dataAccess_iff _ now]
  change (Ledger.answerRow (table.find? ⟨zone, code⟩) now).map Answer.redeemed = _ ↔ _
  cases Ledger.answerRow (table.find? ⟨zone, code⟩) now <;> simp [Except.map]

/-- Of the calls of a table, only a redeeming that takes a row can fail for its storage. -/
theorem Store.outcome_eq_dataAccess_iff (table : Table) (now : Instant) (call : Call)
    (fault : AccessFault) :
    ((ledger (.ready table)).perform now call).outcome = .error (.dataAccess fault) ↔
      ∃ code zone row, call = .redeem (some code) zone ∧
        table.find? ⟨zone, code⟩ = some row ∧ row.toVoucher = .error fault := by
  constructor
  · intro houtcome
    cases call with
    | issue request code =>
        rcases issue_ready_cases table now request code with
          ⟨failure, draws, hkind, hissue⟩ | ⟨draft, result, -, -, hissue⟩
        · rw [perform, hissue] at houtcome
          cases houtcome
          exact absurd rfl (hkind fault)
        · rw [perform, hissue] at houtcome
          cases houtcome
    | redeem code zone =>
        cases code with
        | none => cases houtcome
        | some code =>
            obtain ⟨row, hrow⟩ :=
              (outcome_redeem_eq_dataAccess_iff table now code zone fault).1 houtcome
            exact ⟨code, zone, row, rfl, hrow⟩
    | revoke intent zone => cases houtcome
    | sweep => cases houtcome
  · rintro ⟨code, zone, row, rfl, hrow⟩
    exact (outcome_redeem_eq_dataAccess_iff table now code zone fault).2 ⟨row, hrow⟩

/-- What a table issued is what was asked for. -/
theorem Store.check_of_issued {table : Table} {timed : TimedCall} {voucher : Voucher}
    (hissued : ((ledger (.ready table)).entry timed).issued? = some voucher) :
    ∃ request code draft, timed.call = .issue request code ∧
      request.check timed.now = .ok draft ∧ voucher = draft.withCode code := by
  rcases timed with ⟨now, call⟩
  cases call with
  | issue request code =>
      rcases issue_ready_cases table now request code with
        ⟨failure, draws, -, hissue⟩ | ⟨draft, result, hcheck, -, hissue⟩
      · rw [Entry.issued?, entry, perform, hissue] at hissued
        cases hissued
      · rw [Entry.issued?, entry, perform, hissue] at hissued
        cases hissued
        exact ⟨request, code, draft, rfl, hcheck, rfl⟩
  | redeem code zone => cases hissued
  | revoke intent zone => cases hissued
  | sweep => cases hissued

/-- The zone was named, and no instant of the final leap second is asked for. -/
structure Request.IsReadable (request : Request) : Prop where
  zone_isNamed : request.zone.IsNamed
  expiry_not_final : ∀ expiresAt, request.expiresAt = some expiresAt → ¬ expiresAt.IsFinalLeap

/-- Vouchers are asked for that can be read back from their rows. -/
def Call.IsReadable : Call → Prop
  | .issue request _ => request.IsReadable
  | _ => True

theorem Voucher.exists_isUnreadable_iff (voucher : Voucher) :
    (∃ fault, voucher.IsUnreadable fault) ↔
      voucher.expiresAt.IsFinalLeap ∨ Text.allBlank voucher.zone.id = true := by
  constructor
  · rintro ⟨fault, hunreadable⟩
    cases hunreadable with
    | finalLeap hexpiry => exact Or.inl hexpiry
    | blankZone _ hzone => exact Or.inr hzone
  · intro hreason
    by_cases hexpiry : voucher.expiresAt.IsFinalLeap
    · exact ⟨_, .finalLeap hexpiry⟩
    · exact ⟨_, .blankZone hexpiry (hreason.resolve_left hexpiry)⟩

/-- Of the requests that pass their check, exactly these lead to vouchers that can be read
back. -/
theorem Request.isReadable_iff_of_check {request : Request} {now : Instant} {draft : Draft}
    (hcheck : request.check now = .ok draft) (code : String) :
    request.IsReadable ↔ ∀ fault, ¬ (draft.withCode code).IsUnreadable fault := by
  obtain ⟨data, expiresAt, -, hexpiry, -, rfl⟩ := (check_eq_ok_iff _ _ _).1 hcheck
  rw [← not_exists, Voucher.exists_isUnreadable_iff, not_or, Bool.not_eq_true]
  change _ ↔ ¬ expiresAt.ceilToMilli.IsFinalLeap ∧ Text.allBlank request.zone.id = false
  rw [Instant.ceilToMilli_isFinalLeap_iff]
  have hzone : request.zone.IsNamed ↔ Text.allBlank request.zone.id = false := by
    rw [Zone.isNamed_iff, Zone.named?_eq_some_iff, and_iff_left rfl]
  constructor
  · rintro ⟨hnamed, hfinal⟩
    exact ⟨hfinal expiresAt hexpiry, hzone.1 hnamed⟩
  · rintro ⟨hfinal, hblank⟩
    refine ⟨hzone.2 hblank, ?_⟩
    intro other hother
    rw [hexpiry, Option.some.injEq] at hother
    rw [← hother]
    exact hfinal

section History

variable (calls : List TimedCall)

/-- What a redeeming finds under its key and cannot read is the row of a voucher that
stands. -/
theorem exists_unreadable_row_iff {table : Table}
    (hafter : (Store.fresh .ledger).after calls = .ledger (.ready table)) (key : Key)
    (fault : AccessFault) :
    (∃ row, table.find? key = some row ∧ row.toVoucher = .error fault) ↔
      ∃ voucher, StandsUnder ((Store.fresh .ledger).transcript calls) key voucher ∧
        voucher.IsUnreadable fault := by
  obtain ⟨other, hother, hrows⟩ := Table.exists_after_fresh calls
  rw [hafter, Store.ledger.injEq, Ledger.ready.injEq] at hother
  subst hother
  constructor
  · rintro ⟨row, hfound, hread⟩
    obtain ⟨hrow, hkey⟩ := (Keyed.find?_eq_some_iff _ _ _).1 hfound
    obtain ⟨voucher, issue, hstands, rfl⟩ := (hrows row).1 hrow
    exact ⟨voucher, ⟨hkey, issue, hstands⟩, (Row.toVoucher_ofVoucher_eq_error_iff _ _).1 hread⟩
  · rintro ⟨voucher, ⟨hkey, issue, hstands⟩, hunreadable⟩
    refine ⟨Row.ofVoucher voucher, ?_, (Row.toVoucher_ofVoucher_eq_error_iff _ _).2 hunreadable⟩
    exact (Keyed.find?_eq_some_iff _ _ _).2 ⟨(hrows _).2 ⟨voucher, issue, hstands, rfl⟩, hkey⟩

variable {calls} {position : Nat} {entry : Entry}
variable (hentry : ((Store.fresh .ledger).transcript calls)[position]? = some entry)

include hentry

/-- A call fails for its storage exactly if it redeems a voucher that stands and cannot be
read. -/
theorem outcome_eq_dataAccess_iff (fault : AccessFault) :
    entry.outcome = .error (.dataAccess fault) ↔
      ∃ code zone voucher, entry.call = .redeem (some code) zone ∧
        StandsUnder (((Store.fresh .ledger).transcript calls).take position) ⟨zone, code⟩
          voucher ∧
        voucher.IsUnreadable fault := by
  rw [Store.getElem?_transcript, Option.map_eq_some_iff] at hentry
  obtain ⟨timed, -, rfl⟩ := hentry
  obtain ⟨table, hafter, -⟩ := Table.exists_after_fresh (calls.take position)
  rw [Store.take_transcript, hafter]
  change ((Store.ledger (.ready table)).perform timed.now timed.call).outcome = _ ↔ _
  rw [Store.outcome_eq_dataAccess_iff]
  apply exists_congr
  intro code
  apply exists_congr
  intro zone
  rw [exists_and_left, exists_and_left,
    exists_unreadable_row_iff (calls.take position) hafter ⟨zone, code⟩ fault]
  exact Iff.rfl

/-- A voucher that a readable call issued can be read. -/
theorem not_isUnreadable_of_issued (hreadable : ∀ timed ∈ calls, timed.call.IsReadable)
    {voucher : Voucher} (hissued : entry.issued? = some voucher) (fault : AccessFault) :
    ¬ voucher.IsUnreadable fault := by
  rw [Store.getElem?_transcript, Option.map_eq_some_iff] at hentry
  obtain ⟨timed, htimed, rfl⟩ := hentry
  obtain ⟨table, hafter, -⟩ := Table.exists_after_fresh (calls.take position)
  rw [hafter] at hissued
  obtain ⟨request, code, draft, hcall, hcheck, rfl⟩ := Store.check_of_issued hissued
  have hrequest := hreadable timed (List.mem_of_getElem? htimed)
  rw [hcall] at hrequest
  exact (Request.isReadable_iff_of_check hcheck code).1 hrequest fault

end History

/-- In a history of a ledger from the start, a call fails for its storage exactly if it
redeems a voucher that stands and cannot be read, for that voucher's fault.  No call does if
all requests name their zones and none asks for the final leap second. -/
theorem storage_failures_explained (calls : List TimedCall) :
    (∀ position entry fault,
      ((Store.fresh .ledger).transcript calls)[position]? = some entry →
      (entry.outcome = .error (.dataAccess fault) ↔
        ∃ code zone voucher, entry.call = .redeem (some code) zone ∧
          StandsUnder (((Store.fresh .ledger).transcript calls).take position) ⟨zone, code⟩
            voucher ∧
          voucher.IsUnreadable fault)) ∧
    ((∀ timed ∈ calls, timed.call.IsReadable) →
      ∀ entry ∈ (Store.fresh .ledger).transcript calls, ∀ fault,
        entry.outcome ≠ .error (.dataAccess fault)) := by
  refine ⟨fun position entry fault hentry => outcome_eq_dataAccess_iff hentry fault, ?_⟩
  intro hreadable entry hmem fault houtcome
  obtain ⟨position, hentry⟩ := List.mem_iff_getElem?.1 hmem
  obtain ⟨code, zone, voucher, -, ⟨-, issue, hstands⟩, hunreadable⟩ :=
    (outcome_eq_dataAccess_iff hentry fault).1 houtcome
  obtain ⟨issuing, hissuing, hissued⟩ := hstands.added
  obtain ⟨-, hissuing⟩ := getElem?_take_eq_some_iff.1 hissuing
  exact not_isUnreadable_of_issued hissuing hreadable hissued fault hunreadable

/-- A voucher is issued in a zone and redeemed a moment later. -/
def issuedAndRedeemed (expiresAt : Instant) (zone : Zone) : List TimedCall :=
  [⟨.epoch, .issue ⟨some "payload", some expiresAt, none, zone⟩ "a"⟩,
    ⟨.epoch, .redeem (some "a") zone⟩]

/-- The start of the final leap second. -/
def Instant.finalLeap : Instant :=
  { latest with nanos := nanosPerSecond, nanos_lt := by decide }

/-- The last instant outside the final leap second is rounded down and comes back. -/
theorem storage_failures_explained_until_latest :
    (∀ timed ∈ issuedAndRedeemed .latest .standard, timed.call.IsReadable) ∧
      (∀ entry ∈ (Store.fresh .ledger).transcript (issuedAndRedeemed .latest .standard),
        ∀ fault, entry.outcome ≠ .error (.dataAccess fault)) ∧
      ((Store.fresh .ledger).transcript (issuedAndRedeemed .latest .standard))[1]?.map
          (fun entry => entry.outcome) =
        some (.ok (.redeemed
          (some ⟨"a", Instant.latest.truncateToMilli, "payload", none, .standard⟩))) := by
  have hrequest : (Request.mk (some "payload") (some .latest) none .standard).IsReadable := by
    refine ⟨⟨"default", rfl⟩, ?_⟩
    intro expiresAt hexpiry hfinal
    cases hexpiry
    cases hfinal.2
  have hreadable : ∀ timed ∈ issuedAndRedeemed .latest .standard, timed.call.IsReadable := by
    simp only [issuedAndRedeemed, List.forall_mem_cons]
    exact ⟨hrequest, trivial, List.forall_mem_nil _⟩
  exact ⟨hreadable, (storage_failures_explained _).2 hreadable, rfl⟩

/-- A blank zone is received like any other, but a voucher issued in it cannot be redeemed,
and neither can one that is issued until the final leap second. -/
theorem written_rows_unreadable :
    (∃ zone, Zone.ofJson (.string " ") = .ok zone ∧
      ((Store.fresh .ledger).transcript (issuedAndRedeemed .inSecondOne zone))[1]?.map
          (fun entry => entry.outcome) = some (.error (.dataAccess .zoneBlank))) ∧
      ((Store.fresh .ledger).transcript (issuedAndRedeemed .finalLeap .standard))[1]?.map
          (fun entry => entry.outcome) =
        some (.error (.dataAccess (.expiryOutOfRange 8210266876800000))) :=
  ⟨⟨⟨" "⟩, rfl, rfl⟩, rfl⟩

end OneTimeCode
