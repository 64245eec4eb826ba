import OneTimeCode.Proofs.Residents

/-!
# Zones do not see each other

What a store holds for one zone is a store of its own.  A call for that zone does
the same to the part as to the whole, a call for another zone does nothing to the
part, and a sweep goes through the part as if it were all there is.  So the calls
for other zones can be left out of a history, and no call for the zone is answered
differently.
-/

namespace OneTimeCode

/-- The zone that a call is made for; a sweep is made for none. -/
def Call.zone? : Call → Option Zone
  | .issue request _ => some request.zone
  | .redeem _ zone => some zone
  | .revoke _ zone => some zone
  | .sweep => none

/-- The call is made for a zone, and it is not this one. -/
def Call.IsElsewhere (zone : Zone) (call : Call) : Prop :=
  ∃ other, call.zone? = some other ∧ other ≠ zone

/-- The second history is the first one without some of the calls for other zones. -/
inductive LeavesOut (zone : Zone) : List TimedCall → List TimedCall → Prop
  | nil : LeavesOut zone [] []
  | keep (timed : TimedCall) {full part : List TimedCall} (hrest : LeavesOut zone full part) :
      LeavesOut zone (timed :: full) (timed :: part)
  | drop (timed : TimedCall) {full part : List TimedCall}
      (helsewhere : timed.call.IsElsewhere zone) (hrest : LeavesOut zone full part) :
      LeavesOut zone (timed :: full) part

/-- The entries of the calls that were made for a zone. -/
def entriesFor (zone : Zone) (past : List Entry) : List Entry :=
  past.filter fun entry => decide (entry.call.zone? = some zone)

/-! ## The part of a zone -/

def MemoryStore.only (zone : Zone) (store : MemoryStore) : MemoryStore :=
  ⟨store.entries.keep fun entry => decide (entry.1.zone = zone)⟩

def Table.only (zone : Zone) (table : Table) : Table :=
  table.keep fun row => decide (row.zone = zone.id)

/-- A table that statements cannot reach has no part either. -/
def Ledger.only (zone : Zone) : Ledger → Ledger
  | closed => closed
  | unmigrated => unmigrated
  | ready table => ready (table.only zone)

/-- What a store holds for a zone, in the order in which the whole store has it. -/
def Store.only (zone : Zone) : Store → Store
  | memory kept => memory (kept.only zone)
  | ledger kept => ledger (kept.only zone)

namespace MemoryStore

variable (store : MemoryStore) {zone : Zone}

theorem find?_only (code : String) :
    (store.only zone).find? ⟨zone, code⟩ = store.find? ⟨zone, code⟩ := by
  rw [find?, find?, only, Keyed.find?_keep_of_imp]
  intro entry hkey
  rw [hkey, decide_eq_true_eq]

theorem put_only (now : Instant) {voucher : Voucher} (hzone : voucher.zone = zone) :
    (store.only zone).put now voucher = (store.put now voucher).map (only zone) := by
  have hkey : voucher.key = ⟨zone, voucher.code⟩ := by rw [Voucher.key, hzone]
  have hreplace : (store.only zone).entries.replace (⟨zone, voucher.code⟩, voucher) =
      (only zone ⟨store.entries.replace (⟨zone, voucher.code⟩, voucher)⟩).entries := by
    rw [only, only, Keyed.keep_replace_of_pos]
    exact decide_eq_true rfl
  simp only [put, hkey, find?_only, hreplace]
  split <;> rfl

theorem only_put_elsewhere (now : Instant) {voucher : Voucher} (hzone : voucher.zone ≠ zone) :
    (store.put now voucher).store.only zone = store.only zone := by
  simp only [put]
  split
  · rfl
  · rw [only, only, Keyed.keep_replace_of_imp]
    intro other hkey
    rw [hkey, decide_eq_false_iff_not]
    exact hzone

theorem redeem_only (now : Instant) (code : Option String) :
    (store.only zone).redeem now code zone =
      (store.redeem now code zone).map (only zone) := by
  cases code with
  | none => rfl
  | some code =>
      have herase : (store.only zone).entries.erase ⟨zone, code⟩ =
          (only zone ⟨store.entries.erase ⟨zone, code⟩⟩).entries :=
        Keyed.keep_comm _ _ _
      simp only [redeem, find?_only, herase]
      cases store.find? ⟨zone, code⟩ with
      | none => rfl
      | some voucher => cases hexpired : voucher.isExpiredAt now <;> simp [hexpired, Conclusion.map]

theorem only_redeem_elsewhere (now : Instant) (code : Option String) {other : Zone}
    (hzone : other ≠ zone) :
    (store.redeem now code other).store.only zone = store.only zone := by
  cases code with
  | none => rfl
  | some code =>
      rw [store_redeem, only, only, Keyed.keep_erase_of_imp]
      intro entry hkey
      rw [hkey, decide_eq_false_iff_not]
      exact hzone

theorem revoke_only (intent : String) :
    (store.only zone).revoke intent zone = (store.revoke intent zone).map (only zone) := by
  simp only [revoke, Conclusion.map, only]
  rw [Keyed.size_sub_size_keep_of_imp, Keyed.keep_comm]
  -- Whatever fails the test of revoking is in the zone.
  intro entry hfails
  simp only [Bool.not_eq_false', Bool.and_eq_true] at hfails
  exact hfails.1

theorem only_revoke_elsewhere (intent : String) {other : Zone} (hzone : other ≠ zone) :
    (store.revoke intent other).store.only zone = store.only zone := by
  rw [only, only, revoke, Keyed.keep_keep_of_imp]
  intro entry hentry
  rw [decide_eq_true_eq] at hentry
  simp [hentry, hzone.symm]

end MemoryStore

theorem Row.zone_of_key {row : Row} {key : Key} (hkey : row.key = key) :
    row.zone = key.zone.id := by
  rw [← hkey]
  rfl

namespace Ledger

variable (ledger : Ledger) {zone : Zone}

theorem record_only {voucher : Voucher} (hzone : voucher.zone = zone) :
    (ledger.only zone).record voucher = (ledger.record voucher).map (only zone) := by
  cases ledger with
  | ready table =>
      have hinsert : (table.only zone).insert? (Row.ofVoucher voucher) =
          (table.insert? (Row.ofVoucher voucher)).map (Table.only zone) := by
        apply Keyed.insert?_keep
        intro other hkey
        rw [decide_eq_true_eq, Row.zone_of_key hkey, ← hzone]
        rfl
      simp only [only, record, insert, table?, hinsert]
      cases table.insert? (Row.ofVoucher voucher) <;> rfl
  | _ => rfl

theorem only_record_elsewhere {voucher : Voucher} (hzone : voucher.zone ≠ zone) :
    (ledger.record voucher).store.only zone = ledger.only zone := by
  cases ledger with
  | ready table =>
      cases hinsert : table.insert? (Row.ofVoucher voucher) with
      | none => simp [record, insert, table?, hinsert, Conclusion.refuse]
      | some result =>
          simp only [record, insert, table?, hinsert]
          apply congrArg ready
          apply Keyed.keep_of_insert? hinsert
          exact decide_eq_false fun hid => hzone (Zone.id_inj.1 hid)
  | _ => rfl

theorem redeem_only (now : Instant) (code : Option String) :
    (ledger.only zone).redeem now code zone =
      (ledger.redeem now code zone).map (only zone) := by
  cases code with
  | none => rfl
  | some code =>
      cases ledger with
      | ready table =>
          have hfind : (table.only zone).find? ⟨zone, code⟩ = table.find? ⟨zone, code⟩ := by
            apply Keyed.find?_keep_of_imp
            intro row hkey
            rw [decide_eq_true_eq, Row.zone_of_key hkey]
          have herase : (table.only zone).erase ⟨zone, code⟩ =
              Table.only zone (table.erase ⟨zone, code⟩) :=
            Keyed.keep_comm _ _ _
          simp only [redeem, take, run, only, table?, Table.take, hfind, herase, Conclusion.map]
      | _ => rfl

theorem only_redeem_elsewhere (now : Instant) (code : Option String) {other : Zone}
    (hzone : other ≠ zone) :
    (ledger.redeem now code other).store.only zone = ledger.only zone := by
  cases code with
  | none => rfl
  | some code =>
      cases ledger with
      | ready table =>
          apply congrArg ready
          apply Keyed.keep_erase_of_imp
          intro row hkey
          rw [decide_eq_false_iff_not, Row.zone_of_key hkey]
          exact fun hid => hzone (Zone.id_inj.1 hid)
      | _ => rfl

theorem revoke_only (intent : String) :
    (ledger.only zone).revoke intent zone = (ledger.revoke intent zone).map (only zone) := by
  cases ledger with
  | ready table =>
      have hrevoked : (table.only zone).items.filter (fun row =>
          decide (row.zone = zone.id) && decide (row.intent = some intent)) =
          table.items.filter fun row =>
            decide (row.zone = zone.id) && decide (row.intent = some intent) := by
        apply congrArg Keyed.items (Keyed.keep_keep_of_imp table _)
        intro row hrow
        exact (Bool.and_eq_true _ _ ▸ hrow).1
      have hkept : ((table.only zone).keep fun row =>
          !(decide (row.zone = zone.id) && decide (row.intent = some intent))) =
          Table.only zone (table.keep fun row =>
            !(decide (row.zone = zone.id) && decide (row.intent = some intent))) :=
        Keyed.keep_comm _ _ _
      simp only [revoke, run, only, table?, Table.deleteIntent, Table.delete, hrevoked, hkept,
        Conclusion.map]
  | _ => rfl

theorem only_revoke_elsewhere (intent : String) {other : Zone} (hzone : other ≠ zone) :
    (ledger.revoke intent other).store.only zone = ledger.only zone := by
  cases ledger with
  | ready table =>
      apply congrArg ready
      apply Keyed.keep_keep_of_imp
      intro row hrow
      rw [decide_eq_true_eq] at hrow
      have hid : row.zone ≠ other.id := by
        rw [hrow]
        exact fun hid => hzone (Zone.id_inj.1 hid.symm)
      simp [hid]
  | _ => rfl

/-- A sweep asks for no zone. -/
theorem only_sweep (now : Instant) :
    (ledger.sweep now).store.only zone = ((ledger.only zone).sweep now).store := by
  cases ledger with
  | ready table => exact congrArg ready (Keyed.keep_comm _ _ _)
  | _ => rfl

end Ledger

namespace Store

variable (store : Store) {zone : Zone}

/-! ## Calls and the part of a zone -/

theorem put_only (now : Instant) {voucher : Voucher} (hzone : voucher.zone = zone) :
    (store.only zone).put now voucher = (store.put now voucher).map (only zone) := by
  cases store with
  | memory kept =>
      rw [only, put, kept.put_only now hzone]
      rfl
  | ledger kept =>
      rw [only, put, kept.record_only hzone]
      rfl

theorem only_put_elsewhere (now : Instant) {voucher : Voucher} (hzone : voucher.zone ≠ zone) :
    (store.put now voucher).store.only zone = store.only zone := by
  cases store with
  | memory kept => exact congrArg memory (kept.only_put_elsewhere now hzone)
  | ledger kept => exact congrArg ledger (kept.only_record_elsewhere hzone)

theorem issue_only (now : Instant) {request : Request} (code : String)
    (hzone : request.zone = zone) :
    (store.only zone).issue now request code =
      (store.issue now request code).map (only zone) := by
  cases hcheck : request.check now with
  | error fault =>
      rw [issue_of_check_error _ hcheck, issue_of_check_error _ hcheck]
      rfl
  | ok draft =>
      have hdraft : (draft.withCode code).zone = zone := by
        rw [Request.zone_withCode hcheck, hzone]
      rw [issue_of_check_ok _ hcheck, issue_of_check_ok _ hcheck, store.put_only now hdraft]
      rfl

theorem only_issue_elsewhere (now : Instant) {request : Request} (code : String)
    (hzone : request.zone ≠ zone) :
    (store.issue now request code).store.only zone = store.only zone := by
  cases hcheck : request.check now with
  | error fault => rw [issue_of_check_error _ hcheck, Reply.store_refuse]
  | ok draft =>
      rw [issue_of_check_ok _ hcheck]
      apply store.only_put_elsewhere
      rw [Request.zone_withCode hcheck]
      exact hzone

/-- A call for the zone is answered from the part as from the whole, and does the same
to it. -/
theorem perform_only (now : Instant) {call : Call} (hzone : call.zone? = some zone) :
    (store.only zone).perform now call = (store.perform now call).map (only zone) := by
  cases call with
  | issue request code =>
      simp only [perform, store.issue_only now code (Option.some.inj hzone)]
      rfl
  | redeem code other =>
      obtain rfl : other = zone := Option.some.inj hzone
      cases store with
      | memory kept =>
          simp only [only, perform, redeem, kept.redeem_only]
          rfl
      | ledger kept =>
          simp only [only, perform, redeem, kept.redeem_only]
          rfl
  | revoke intent other =>
      obtain rfl : other = zone := Option.some.inj hzone
      cases store with
      | memory kept =>
          simp only [only, perform, revoke, kept.revoke_only]
          rfl
      | ledger kept =>
          simp only [only, perform, revoke, kept.revoke_only]
          rfl
  | sweep => cases hzone

/-- A call for another zone does nothing to the part. -/
theorem only_next_of_isElsewhere {timed : TimedCall}
    (helsewhere : timed.call.IsElsewhere zone) :
    (store.next timed).only zone = store.only zone := by
  rcases timed with ⟨now, call⟩
  obtain ⟨other, hother, hzone⟩ := helsewhere
  cases call with
  | issue request code =>
      obtain rfl : request.zone = other := Option.some.inj hother
      exact store.only_issue_elsewhere now code hzone
  | redeem code asked =>
      obtain rfl : asked = other := Option.some.inj hother
      cases store with
      | memory kept => exact congrArg memory (kept.only_redeem_elsewhere now code hzone)
      | ledger kept => exact congrArg ledger (kept.only_redeem_elsewhere now code hzone)
  | revoke intent asked =>
      obtain rfl : asked = other := Option.some.inj hother
      cases store with
      | memory kept => exact congrArg memory (kept.only_revoke_elsewhere intent hzone)
      | ledger kept => exact congrArg ledger (kept.only_revoke_elsewhere intent hzone)
  | sweep => cases hother

theorem only_next_of_zone (timed : TimedCall) (hzone : timed.call.zone? = some zone) :
    (store.next timed).only zone = (store.only zone).next timed := by
  rw [next, next, store.perform_only timed.now hzone]
  rfl

theorem only_next_sweep (now : Instant) :
    (store.next ⟨now, .sweep⟩).only zone = (store.only zone).next ⟨now, .sweep⟩ := by
  cases store with
  | memory kept => rfl
  | ledger kept => exact congrArg ledger (kept.only_sweep now)

/-- Stores that have the same for a zone still do after a call, whichever it is. -/
theorem only_next_congr {left right : Store} (hparts : left.only zone = right.only zone)
    (timed : TimedCall) : (left.next timed).only zone = (right.next timed).only zone := by
  cases hzone : timed.call.zone? with
  | none =>
      obtain ⟨now, call⟩ := timed
      cases call with
      | sweep => rw [only_next_sweep, only_next_sweep, hparts]
      | _ => cases hzone
  | some other =>
      by_cases hother : other = zone
      · subst hother
        rw [left.only_next_of_zone timed hzone, right.only_next_of_zone timed hzone, hparts]
      · have helsewhere : timed.call.IsElsewhere zone := ⟨other, hzone, hother⟩
        rw [left.only_next_of_isElsewhere helsewhere, right.only_next_of_isElsewhere helsewhere,
          hparts]

/-- Stores that have the same for a zone answer a call for it alike. -/
theorem entry_congr {left right : Store} (hparts : left.only zone = right.only zone)
    {timed : TimedCall} (hzone : timed.call.zone? = some zone) :
    left.entry timed = right.entry timed := by
  have hperform : (left.perform timed.now timed.call).map (only zone) =
      (right.perform timed.now timed.call).map (only zone) := by
    rw [← perform_only _ _ hzone, ← perform_only _ _ hzone, hparts]
  have houtcome := congrArg (fun reply => reply.outcome) hperform
  have hdraws := congrArg Reply.draws hperform
  exact entry_eq_of_perform houtcome hdraws

theorem entriesFor_transcript_of_zone {timed : TimedCall} (rest : List TimedCall)
    (hzone : timed.call.zone? = some zone) :
    entriesFor zone (store.transcript (timed :: rest)) =
      store.entry timed :: entriesFor zone ((store.next timed).transcript rest) :=
  List.filter_cons_of_pos (decide_eq_true hzone)

theorem entriesFor_transcript_of_ne {timed : TimedCall} (rest : List TimedCall)
    (hzone : timed.call.zone? ≠ some zone) :
    entriesFor zone (store.transcript (timed :: rest)) =
      entriesFor zone ((store.next timed).transcript rest) :=
  List.filter_cons_of_neg fun hentry => hzone (of_decide_eq_true hentry)

end Store

theorem Call.IsElsewhere.zone?_ne {zone : Zone} {call : Call}
    (helsewhere : call.IsElsewhere zone) : call.zone? ≠ some zone := by
  obtain ⟨other, hother, hzone⟩ := helsewhere
  rw [hother, Ne, Option.some.injEq]
  exact hzone

/-! ## Histories -/

namespace LeavesOut

variable {zone : Zone} {full part : List TimedCall} {left right : Store}

/-- Both histories leave the same for the zone. -/
theorem only_after (hleaves : LeavesOut zone full part)
    (hparts : left.only zone = right.only zone) :
    (left.after full).only zone = (right.after part).only zone := by
  induction hleaves generalizing left right with
  | nil => exact hparts
  | keep timed hrest ih => exact ih (Store.only_next_congr hparts timed)
  | drop timed helsewhere hrest ih =>
      rw [← left.only_next_of_isElsewhere helsewhere] at hparts
      exact ih hparts

/-- Both histories have the same answers for the zone. -/
theorem entriesFor_transcript (hleaves : LeavesOut zone full part)
    (hparts : left.only zone = right.only zone) :
    entriesFor zone (left.transcript full) = entriesFor zone (right.transcript part) := by
  induction hleaves generalizing left right with
  | nil => rfl
  | keep timed hrest ih =>
      have hentries := ih (Store.only_next_congr hparts timed)
      by_cases hzone : timed.call.zone? = some zone
      · rw [left.entriesFor_transcript_of_zone _ hzone,
          right.entriesFor_transcript_of_zone _ hzone, Store.entry_congr hparts hzone, hentries]
      · rw [left.entriesFor_transcript_of_ne _ hzone,
          right.entriesFor_transcript_of_ne _ hzone, hentries]
  | drop timed helsewhere hrest ih =>
      rw [left.entriesFor_transcript_of_ne _ helsewhere.zone?_ne]
      rw [← left.only_next_of_isElsewhere helsewhere] at hparts
      exact ih hparts

end LeavesOut

/-- Leaving calls for other zones out of a history changes neither what the calls for a
zone answer nor what the store holds for the zone, whatever it held at the start. -/
theorem zones_isolated (store : Store) {zone : Zone} {full part : List TimedCall}
    (hleaves : LeavesOut zone full part) :
    entriesFor zone (store.transcript full) = entriesFor zone (store.transcript part) ∧
      (store.after full).only zone = (store.after part).only zone :=
  ⟨hleaves.entriesFor_transcript rfl, hleaves.only_after rfl⟩

/-- A request in a zone for a voucher with an intent. -/
def Request.inZone (id : String) : Request :=
  ⟨some "payload", some .inSecondOne, some "login", ⟨id⟩⟩

/-- One code and one intent in two zones, of which one name begins with the other. -/
def sharedCode : List TimedCall :=
  [⟨.epoch, .issue (.inZone "ab") "k"⟩, ⟨.epoch, .issue (.inZone "a") "k"⟩,
    ⟨.epoch, .revoke "login" ⟨"ab"⟩⟩, ⟨.epoch, .issue (.inZone "a") "k"⟩,
    ⟨.epoch, .redeem (some "k") ⟨"ab"⟩⟩, ⟨.epoch, .sweep⟩, ⟨.epoch, .redeem (some "k") ⟨"a"⟩⟩]

theorem zones_isolated_on_sharedCode :
    LeavesOut ⟨"a"⟩ sharedCode (sharedCode.filter fun timed => timed.call.zone? ≠ some ⟨"ab"⟩) ∧
      ∃ issued redeemed,
        (entriesFor ⟨"a"⟩ ((Store.fresh .ledger).transcript sharedCode)).map Entry.outcome =
          [.ok (.issued issued), .error .conflict, .ok (.redeemed (some redeemed))] := by
  have helsewhere : ∀ call : Call, call.zone? = some ⟨"ab"⟩ → call.IsElsewhere ⟨"a"⟩ :=
    fun call hzone => ⟨_, hzone, by decide⟩
  have hleaves : LeavesOut ⟨"a"⟩ sharedCode
      (sharedCode.filter fun timed => timed.call.zone? ≠ some ⟨"ab"⟩) :=
    .drop _ (helsewhere _ rfl) (.keep _ (.drop _ (helsewhere _ rfl) (.keep _
      (.drop _ (helsewhere _ rfl) (.keep _ (.keep _ .nil))))))
  obtain ⟨hentries, -⟩ := zones_isolated (Store.fresh .ledger) hleaves
  rw [hentries]
  exact ⟨hleaves, _, _, rfl⟩

end OneTimeCode
