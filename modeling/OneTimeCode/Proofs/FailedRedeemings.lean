import OneTimeCode.Proofs.Refusals
import OneTimeCode.Proofs.RowChanges
import OneTimeCode.Proofs.UnreadableRows

/-!
# Redeemings that fail

Rows can be written by others, with any expiry and any zone.  Redeeming takes a row out of
the table before it is read, so if the row cannot be read the call fails and the row is lost
for all later calls.  A redeeming that fails for another reason has taken nothing.
-/

namespace OneTimeCode

/-- The row that a ledger has under a key cannot be read. -/
structure Ledger.HasUnreadable (ledger : Ledger) (key : Key) (row : Row) (fault : AccessFault) :
    Prop where
  mem_contents : row ∈ ledger.contents
  key_eq : row.key = key
  isUnreadable : row.IsUnreadable fault

namespace Ledger

theorem hasUnreadable_ready_iff (table : Table) (key : Key) (row : Row) (fault : AccessFault) :
    (ready table).HasUnreadable key row fault ↔
      table.find? key = some row ∧ row.toVoucher = .error fault := by
  rw [Row.toVoucher_eq_error_iff, Keyed.find?_eq_some_iff]
  constructor
  · rintro ⟨hrow, hkey, hunreadable⟩
    exact ⟨⟨hrow, hkey⟩, hunreadable⟩
  · rintro ⟨⟨hrow, hkey⟩, hunreadable⟩
    exact ⟨hrow, hkey, hunreadable⟩

/-- A table is not left as it was when a row is taken out of it. -/
theorem ready_erase_ne {table : Table} {key : Key} {row : Row}
    (hfound : table.find? key = some row) : ready (table.erase key) ≠ ready table := by
  intro hsame
  rw [ready.injEq] at hsame
  rw [← hsame, Keyed.find?_erase_self] at hfound
  cases hfound

/-- Taking the row under a key takes no other row. -/
theorem items_erase_of_find? {table : Table} {key : Key} {row : Row}
    (hfound : table.find? key = some row) : (table.erase key).items = table.items.erase row := by
  obtain ⟨hrow, hkey⟩ := (Keyed.find?_eq_some_iff _ _ _).1 hfound
  rw [table.nodup_items.erase_eq_filter, Keyed.erase, Keyed.items_keep]
  apply List.filter_congr
  intro other hother
  have hinj : other.key = key ↔ other = row := by
    constructor
    · intro hsame
      exact Keyed.inj_of_nodup table.distinct hother hrow (hsame.trans hkey.symm)
    · rintro rfl
      exact hkey
  by_cases hsame : other = row
  · simp [hsame, hkey]
  · simp [hinj, hsame]

theorem redeem_ready (table : Table) (now : Instant) (code : String) (zone : Zone) :
    ((ready table).redeem now (some code) zone).outcome =
        answerRow (table.find? ⟨zone, code⟩) now ∧
      ((ready table).redeem now (some code) zone).store = ready (table.erase ⟨zone, code⟩) :=
  ⟨rfl, rfl⟩

theorem outcome_redeem_ready_eq_error_iff (table : Table) (now : Instant) (code : String)
    (zone : Zone) (failure : Failure) :
    ((ready table).redeem now (some code) zone).outcome = .error failure ↔
      ∃ row fault, failure = .dataAccess fault ∧
        (ready table).HasUnreadable ⟨zone, code⟩ row fault := by
  rw [(redeem_ready table now code zone).1]
  simp only [hasUnreadable_ready_iff]
  constructor
  · intro hanswer
    obtain ⟨fault, rfl⟩ := eq_dataAccess_of_answerRow hanswer
    obtain ⟨row, hfound, hread⟩ := (answerRow_eq_dataAccess_iff _ _ _).1 hanswer
    exact ⟨row, fault, rfl, hfound, hread⟩
  · rintro ⟨row, fault, rfl, hfound, hread⟩
    exact (answerRow_eq_dataAccess_iff _ _ _).2 ⟨row, hfound, hread⟩

/-- Only a row that was taken and could not be read makes a failed redeeming change a ledger. -/
theorem redeem_fails_changing_iff (ledger : Ledger) (now : Instant) (code : Option String)
    (zone : Zone) (failure : Failure) :
    (ledger.redeem now code zone).outcome = .error failure ∧
        (ledger.redeem now code zone).store ≠ ledger ↔
      ∃ asked row fault, code = some asked ∧ failure = .dataAccess fault ∧
        ledger.HasUnreadable ⟨zone, asked⟩ row fault := by
  cases code with
  | none =>
      constructor
      · rintro ⟨-, hchanged⟩
        exact absurd rfl hchanged
      · rintro ⟨asked, row, fault, hcode, -⟩
        cases hcode
  | some code =>
      cases ledger with
      | ready table =>
          rw [outcome_redeem_ready_eq_error_iff, (redeem_ready table now code zone).2]
          constructor
          · rintro ⟨⟨row, fault, hfailure, hunreadable⟩, -⟩
            exact ⟨code, row, fault, rfl, hfailure, hunreadable⟩
          · rintro ⟨asked, row, fault, hcode, hfailure, hunreadable⟩
            cases hcode
            have hfound := ((hasUnreadable_ready_iff _ _ _ _).1 hunreadable).1
            exact ⟨⟨row, fault, hfailure, hunreadable⟩, ready_erase_ne hfound⟩
      | _ =>
          constructor
          · rintro ⟨-, hchanged⟩
            exact absurd rfl hchanged
          · rintro ⟨asked, row, fault, -, -, hunreadable⟩
            cases hunreadable.mem_contents

/-- The row that could not be read is gone, the others are still there, and its code is unknown
from then on. -/
theorem redeem_of_hasUnreadable {ledger : Ledger} {code : String} {zone : Zone} {row : Row}
    {fault : AccessFault} (hunreadable : ledger.HasUnreadable ⟨zone, code⟩ row fault)
    (now later : Instant) :
    (ledger.redeem now (some code) zone).store.contents = ledger.contents.erase row ∧
      ((ledger.redeem now (some code) zone).store.redeem later (some code) zone).outcome =
        .ok none := by
  cases ledger with
  | ready table =>
      have hfound := ((hasUnreadable_ready_iff _ _ _ _).1 hunreadable).1
      rw [(redeem_ready table now code zone).2]
      refine ⟨items_erase_of_find? hfound, ?_⟩
      rw [(redeem_ready _ later code zone).1, Keyed.find?_erase_self]
      rfl
  | _ => cases hunreadable.mem_contents

end Ledger

/-- A failed redeeming leaves a ledger as it was unless the row under its key cannot be read.
Whoever wrote such a row, redeeming it fails, and then exactly this row is gone, for a later
redeeming as well as for any other call. -/
theorem failed_redeemings_lose_unreadable_rows (ledger : Ledger) (now : Instant)
    (code : Option String) (zone : Zone) :
    (∀ failure, (ledger.redeem now code zone).outcome = .error failure ∧
        (ledger.redeem now code zone).store ≠ ledger ↔
      ∃ asked row fault, code = some asked ∧ failure = .dataAccess fault ∧
        ledger.HasUnreadable ⟨zone, asked⟩ row fault) ∧
    ∀ asked row fault, code = some asked → ledger.HasUnreadable ⟨zone, asked⟩ row fault →
      (ledger.redeem now code zone).store.contents = ledger.contents.erase row ∧
        ∀ later, ((ledger.redeem now code zone).store.redeem later code zone).outcome =
          .ok none := by
  refine ⟨ledger.redeem_fails_changing_iff now code zone, ?_⟩
  rintro asked row fault rfl hunreadable
  refine ⟨(Ledger.redeem_of_hasUnreadable hunreadable now now).1, ?_⟩
  intro later
  exact (Ledger.redeem_of_hasUnreadable hunreadable now later).2

/-- A ledger with one row, which no issuing has written. -/
def Ledger.straying (zone : String) (expiresAt : Int) : Ledger :=
  .ready ⟨[⟨zone, "a", expiresAt, "payload", some "login"⟩], by simp⟩

/-- A blank zone is enough for a row to be lost. -/
theorem failed_redeemings_lose_unreadable_rows_of_blankZone :
    (Ledger.straying " " 1000).HasUnreadable ⟨⟨" "⟩, "a"⟩
        ⟨" ", "a", 1000, "payload", some "login"⟩ .zoneBlank ∧
      ((Ledger.straying " " 1000).redeem .epoch (some "a") ⟨" "⟩).store.contents = [] := by
  have hunreadable : (Ledger.straying " " 1000).HasUnreadable ⟨⟨" "⟩, "a"⟩
      ⟨" ", "a", 1000, "payload", some "login"⟩ .zoneBlank :=
    ⟨List.mem_singleton_self _, rfl, .blankZone (by decide) rfl⟩
  obtain ⟨-, hlost⟩ := failed_redeemings_lose_unreadable_rows (Ledger.straying " " 1000) .epoch
    (some "a") ⟨" "⟩
  refine ⟨hunreadable, ?_⟩
  rw [(hlost "a" _ _ rfl hunreadable).1]
  rfl

/-- The largest expiry that a column can have makes a redeeming fail, and a revoking that would
have found the row before finds it no longer. -/
theorem unreadable_row_lost :
    ((Ledger.straying "default" 9223372036854775807).redeem .epoch (some "a")
        .standard).outcome = .error (.dataAccess (.expiryOutOfRange 9223372036854775807)) ∧
    ((Ledger.straying "default" 9223372036854775807).redeem .epoch (some "a")
        .standard).store ≠ Ledger.straying "default" 9223372036854775807 ∧
    ((Ledger.straying "default" 9223372036854775807).revoke "login" .standard).outcome =
      .ok 1 ∧
    (((Ledger.straying "default" 9223372036854775807).redeem .epoch (some "a")
        .standard).store.revoke "login" .standard).outcome = .ok 0 :=
  ⟨rfl, Ledger.ready_erase_ne rfl, rfl, rfl⟩

end OneTimeCode
