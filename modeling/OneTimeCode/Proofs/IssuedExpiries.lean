import OneTimeCode.Proofs.ExpiryRounding
import OneTimeCode.Proofs.UnreadableRows

/-!
# Expiries from request to redeeming

The expiry that is asked for is rounded when a voucher is issued, and a ledger keeps it as
a count of milliseconds until the voucher is redeemed.  Memory hands back the voucher that
it issued.  So does a ledger, except that a voucher in a leap second comes back with the
expiry that its count stands for, if there is one.  An expiry that is accepted ahead of now
stays ahead of now, except in the last millisecond of the range, where it is rounded down.
-/

namespace OneTimeCode

/-! ## Redeeming what was issued -/

/-- What a store that has issued a voucher answers when its code is redeemed. -/
def Store.answerFor (voucher : Voucher) (now : Instant) :
    Log.Backend → Except Failure (Option Voucher)
  | .memory => .ok ((some voucher).filter fun kept => !kept.isExpiredAt now)
  | .ledger => Ledger.answerRow (some (Row.ofVoucher voucher)) now

namespace Store

variable {now : Instant} {request : Request} {code : String} {voucher : Voucher}

theorem redeem_memory_of_find? {kept : MemoryStore} {zone : Zone}
    (hfound : kept.find? ⟨zone, code⟩ = some voucher) :
    ((memory kept).redeem now (some code) zone).outcome = answerFor voucher now .memory := by
  cases hexpired : voucher.isExpiredAt now <;>
    simp [redeem, MemoryStore.redeem, hfound, hexpired, Conclusion.map, answerFor, Option.filter]

/-- What a store has issued is what was asked for, and redeeming its code finds it. -/
theorem redeem_of_issued {store : Store}
    (hissued : (store.issue now request code).outcome = .ok voucher) :
    ∃ draft, request.check now = .ok draft ∧ voucher = draft.withCode code ∧
      ∀ later, ((store.issue now request code).store.redeem later (some code)
        request.zone).outcome = answerFor voucher later store.backend := by
  cases hcheck : request.check now with
  | error fault =>
      rw [issue_of_check_error store hcheck] at hissued
      cases hissued
  | ok draft =>
      refine ⟨draft, rfl, ?_⟩
      have hkey := Request.key_withCode hcheck code
      cases store with
      | memory kept =>
          by_cases hblocks : (memory kept).Blocks now ⟨request.zone, code⟩
          · rw [issue_memory_of_blocks hcheck hblocks] at hissued
            cases hissued
          · rw [issue_memory_of_not_blocks hcheck hblocks] at hissued ⊢
            cases hissued
            refine ⟨rfl, fun later => redeem_memory_of_find? ?_⟩
            rw [MemoryStore.find?_replace, hkey, if_pos rfl]
      | ledger kept =>
          cases kept with
          | ready table =>
              by_cases hfree : table.find? ⟨request.zone, code⟩ = none
              · obtain ⟨result, hinsert, hissue⟩ := issue_ready_of_free hcheck hfree
                rw [hissue] at hissued ⊢
                cases hissued
                refine ⟨rfl, fun later => ?_⟩
                have hfound := Keyed.find?_of_insert? hinsert ⟨request.zone, code⟩
                rw [Row.key_ofVoucher, hkey, if_pos rfl] at hfound
                change Ledger.answerRow (result.find? ⟨request.zone, code⟩) later = _
                rw [hfound]
                rfl
              · rw [issue_ready_of_taken hcheck hfree] at hissued
                cases hissued
          | _ =>
              rw [issue_of_check_ok _ hcheck] at hissued
              cases hissued

end Store

/-! ## Rows and their counts -/

namespace Row

variable {voucher : Voucher}

/-- A row gives back all of a named voucher, with the expiry that its count stands for. -/
theorem toVoucher_of_asCounted? (hnamed : voucher.zone.IsNamed)
    (hpart : voucher.expiresAt.nanos % nanosPerMilli = 0) {counted : Instant}
    (hcounted : voucher.expiresAt.asCounted? = some counted) :
    (ofVoucher voucher).toVoucher = .ok { voucher with expiresAt := counted } := by
  rw [← Instant.ofMillis?_millis_of_mod_eq_zero hpart] at hcounted
  obtain ⟨hwhole, hmillis⟩ := (Instant.ofMillis?_eq_some_iff _ _).1 hcounted
  rw [toVoucher_eq_ok_iff]
  refine ⟨⟨hwhole, hnamed⟩, ?_⟩
  simp only [ofVoucher, hmillis]

/-- Everything but the expiry is read as it was written, and the expiry no earlier. -/
theorem read_of_toVoucher {read : Voucher} (hread : (ofVoucher voucher).toVoucher = .ok read)
    (hpart : voucher.expiresAt.nanos % nanosPerMilli = 0) :
    read = { voucher with expiresAt := read.expiresAt } ∧
      voucher.expiresAt.asCounted? = some read.expiresAt := by
  obtain ⟨⟨hwhole, -⟩, hrow⟩ := (toVoucher_eq_ok_iff _ _).1 hread
  rw [← Instant.ofMillis?_millis_of_mod_eq_zero hpart, Instant.ofMillis?_eq_some_iff]
  rcases read with ⟨code, expiresAt, data, intent, zone⟩
  simp only [ofVoucher, Row.mk.injEq, Zone.id_inj] at hrow
  obtain ⟨rfl, rfl, hmillis, rfl, rfl⟩ := hrow
  exact ⟨rfl, hwhole, hmillis⟩

theorem toVoucher_eq_self_iff (hnamed : voucher.zone.IsNamed)
    (hpart : voucher.expiresAt.nanos % nanosPerMilli = 0) :
    (ofVoucher voucher).toVoucher = .ok voucher ↔ voucher.expiresAt.isLeap = false := by
  constructor
  · intro hread
    obtain ⟨-, hcounted⟩ := read_of_toVoucher hread hpart
    rw [← Bool.not_eq_true]
    intro hleap
    exact Instant.lt_irrefl _ (Instant.lt_of_asCounted? hleap hcounted)
  · intro hleap
    exact toVoucher_of_asCounted? hnamed hpart (Instant.asCounted?_of_isLeap_eq_false hleap)

end Row

namespace Store

variable {voucher : Voucher}

/-- A ledger answers like memory at every reading of the clock unless the voucher is kept in
a leap second; then the two differ when it expires. -/
theorem answerFor_ledger_eq_memory_iff (hnamed : voucher.zone.IsNamed)
    (hpart : voucher.expiresAt.nanos % nanosPerMilli = 0) :
    (∀ later, answerFor voucher later .ledger = answerFor voucher later .memory) ↔
      voucher.expiresAt.isLeap = false := by
  constructor
  · intro hsame
    rw [← Bool.not_eq_true]
    intro hleap
    have hexpired : Ledger.answerRow (some (Row.ofVoucher voucher)) voucher.expiresAt = .ok none := by
      rw [← Voucher.filter_of_not_lt (Instant.lt_irrefl voucher.expiresAt)]
      exact hsame voucher.expiresAt
    obtain ⟨read, hread, hreached⟩ := (Ledger.answerRow_eq_none_iff _ _).1 hexpired
    obtain ⟨-, hcounted⟩ := Row.read_of_toVoucher hread hpart
    have hlater := Instant.lt_of_asCounted? hleap hcounted
    rw [← Instant.not_le] at hlater
    exact hlater (of_decide_eq_true hreached)
  · intro hleap later
    exact Ledger.answerRow_of_toVoucher later ((Row.toVoucher_eq_self_iff hnamed hpart).2 hleap)

end Store

/-- The answer hands the voucher out, with an expiry ahead of now: the one that it was issued
with, or the one that its count stands for. -/
def Voucher.IsHandedOut (voucher : Voucher) (now : Instant)
    (answer : Except Failure (Option Voucher)) : Prop :=
  ∃ expiry, now < expiry ∧ answer = .ok (some { voucher with expiresAt := expiry })

namespace Store

variable {voucher : Voucher}

theorem isHandedOut_memory_iff (voucher : Voucher) (now : Instant) :
    voucher.IsHandedOut now (answerFor voucher now .memory) ↔ now < voucher.expiresAt := by
  constructor
  · rintro ⟨expiry, -, hanswer⟩
    apply Decidable.byContradiction
    intro hreached
    rw [answerFor, Voucher.filter_of_not_lt hreached] at hanswer
    cases hanswer
  · intro hahead
    refine ⟨voucher.expiresAt, hahead, ?_⟩
    rw [answerFor, Voucher.filter_of_lt hahead]

theorem isHandedOut_ledger_iff (hnamed : voucher.zone.IsNamed)
    (hpart : voucher.expiresAt.nanos % nanosPerMilli = 0) (now : Instant) :
    voucher.IsHandedOut now (answerFor voucher now .ledger) ↔
      ∃ counted, voucher.expiresAt.asCounted? = some counted ∧ now < counted := by
  constructor
  · rintro ⟨expiry, hahead, hanswer⟩
    rw [answerFor] at hanswer
    obtain ⟨row, hrow, hread⟩ := Ledger.toVoucher_of_answerRow hanswer
    rw [Option.some.injEq] at hrow
    rw [← hrow] at hread
    exact ⟨expiry, (Row.read_of_toVoucher hread hpart).2, hahead⟩
  · rintro ⟨counted, hcounted, hahead⟩
    refine ⟨counted, hahead, ?_⟩
    have hread := Row.toVoucher_of_asCounted? hnamed hpart hcounted
    rw [answerFor, Ledger.answerRow_of_toVoucher now hread, Voucher.filter_of_lt hahead]

end Store

/-! ## Accepted requests -/

section Accepted

variable {request : Request} {now expiresAt : Instant} {draft : Draft}
variable (hexpiry : request.expiresAt = some expiresAt) (hcheck : request.check now = .ok draft)

include hexpiry hcheck

theorem Request.expiresAt_of_check : draft.expiresAt = expiresAt.ceilToMilli := by
  obtain ⟨data, asked, -, hasked, -, rfl⟩ := (check_eq_ok_iff _ _ _).1 hcheck
  rw [hexpiry, Option.some.injEq] at hasked
  rw [hasked]

theorem Request.rounds_of_check : expiresAt.Rounds draft.expiresAt := by
  rw [expiresAt_of_check hexpiry hcheck]
  exact expiresAt.rounds_ceilToMilli

theorem Request.isFinalLeap_of_check : draft.expiresAt.IsFinalLeap ↔ expiresAt.IsFinalLeap := by
  rw [expiresAt_of_check hexpiry hcheck, Instant.ceilToMilli_isFinalLeap_iff]

end Accepted

/-- Encoding a voucher loses something exactly if the expiry asked for is kept in a leap second.
Then it loses nothing but the expiry, which comes back later than it was, or not at all if the
leap second is the final one.  Memory hands back what it issued until that expires, and a ledger
does so exactly if encoding loses nothing. -/
theorem row_encoding_lossless_iff {request : Request} {now expiresAt : Instant} {draft : Draft}
    (code : String) (hnamed : request.zone.IsNamed)
    (hexpiry : request.expiresAt = some expiresAt) (hcheck : request.check now = .ok draft) :
    ((Row.ofVoucher (draft.withCode code)).toVoucher = .ok (draft.withCode code) ↔
      ¬ expiresAt.RoundsToLeap) ∧
    (∀ read, (Row.ofVoucher (draft.withCode code)).toVoucher = .ok read →
      read = { draft.withCode code with expiresAt := read.expiresAt } ∧
        draft.expiresAt ≤ read.expiresAt) ∧
    ((∃ fault, (Row.ofVoucher (draft.withCode code)).toVoucher = .error fault) ↔
      expiresAt.IsFinalLeap) ∧
    ∀ (store : Store) (issued : Voucher),
      (store.issue now request code).outcome = .ok issued →
      ((∀ later, ((store.issue now request code).store.redeem later (some code)
          request.zone).outcome =
          .ok ((some issued).filter fun kept => !kept.isExpiredAt later)) ↔
        (store.backend = .ledger → ¬ expiresAt.RoundsToLeap)) := by
  have hrounds := Request.rounds_of_check hexpiry hcheck
  have hzone : (draft.withCode code).zone.IsNamed := by
    rw [Request.zone_withCode hcheck]
    exact hnamed
  have hpart : (draft.withCode code).expiresAt.nanos % nanosPerMilli = 0 :=
    hrounds.nanos_mod_eq_zero
  have hleap : (draft.withCode code).expiresAt.isLeap = false ↔ ¬ expiresAt.RoundsToLeap := by
    rw [← Bool.not_eq_true]
    exact not_congr hrounds.isLeap_iff
  refine ⟨?lossless, ?read, ?lost, ?stores⟩
  case lossless => rw [Row.toVoucher_eq_self_iff hzone hpart, hleap]
  case read =>
    intro read hread
    obtain ⟨hsame, hcounted⟩ := Row.read_of_toVoucher hread hpart
    exact ⟨hsame, Instant.le_of_asCounted? hcounted⟩
  case lost =>
    simp only [Row.toVoucher_ofVoucher_eq_error_iff]
    rw [Voucher.exists_isUnreadable_iff, ← Request.isFinalLeap_of_check hexpiry hcheck,
      or_iff_left]
    · exact Iff.rfl
    · rw [Bool.not_eq_true]
      exact ((Zone.named?_eq_some_iff _ _).1 ((Zone.isNamed_iff _).1 hzone)).1
  case stores =>
    intro store issued hissued
    obtain ⟨other, hother, rfl, hredeem⟩ := Store.redeem_of_issued hissued
    rw [hcheck, Except.ok.injEq] at hother
    subst hother
    simp only [hredeem]
    rw [← hleap]
    cases store.backend with
    | memory =>
        simp only [reduceCtorEq, false_imp_iff, iff_true]
        exact fun later => rfl
    | ledger =>
        simp only [true_imp_iff]
        exact Store.answerFor_ledger_eq_memory_iff hzone hpart

/-- In the last millisecond of a leap second. -/
def Instant.leapEnd : Instant :=
  ⟨59, 1999500000, by decide, by decide, by decide⟩

/-- A quarter of a second into a leap second. -/
def Instant.leapQuarter : Instant :=
  ⟨59, 1250000000, by decide, by decide, by decide⟩

/-- A quarter of a second into the minute after it. -/
def Instant.minuteQuarter : Instant :=
  ⟨60, 250000000, by decide, by decide, by decide⟩

/-- An expiry in the last millisecond of a leap second is rounded to the next minute, which can
be kept. -/
theorem row_encoding_lossless_of_leapEnd :
    Zone.standard.IsNamed ∧ (Request.untilInstant .leapEnd).expiresAt = some .leapEnd ∧
      ∃ draft, (Request.untilInstant .leapEnd).check .epoch = .ok draft ∧
        draft.expiresAt.second = 60 ∧
        (Row.ofVoucher (draft.withCode "a")).toVoucher = .ok (draft.withCode "a") := by
  have hnamed : (Request.untilInstant .leapEnd).zone.IsNamed := ⟨"default", rfl⟩
  have hcheck : (Request.untilInstant .leapEnd).check .epoch =
      .ok ⟨Instant.leapEnd.ceilToMilli, "payload", none, .standard⟩ := rfl
  refine ⟨hnamed, rfl, _, hcheck, rfl, ?_⟩
  exact (row_encoding_lossless_iff "a" hnamed rfl hcheck).1.2 (by decide)

/-- A voucher until a quarter of a leap second comes back from its row with an expiry in the next
minute, and a ledger answers for it otherwise than memory. -/
theorem leap_second_lost_in_row :
    (∃ draft, (Request.untilInstant .leapQuarter).check .epoch = .ok draft ∧
      draft.expiresAt = .leapQuarter ∧
      (Row.ofVoucher (draft.withCode "a")).toVoucher =
        .ok { draft.withCode "a" with expiresAt := .minuteQuarter }) ∧
    Instant.minuteQuarter ≠ .leapQuarter ∧
    ((Store.fresh .ledger).transcript (issuedAndRedeemed .leapQuarter .standard))[1]?.map
        (fun entry => entry.outcome) =
      some (.ok (.redeemed (some ⟨"a", .minuteQuarter, "payload", none, .standard⟩))) ∧
    ((Store.fresh .memory).transcript (issuedAndRedeemed .leapQuarter .standard))[1]?.map
        (fun entry => entry.outcome) =
      some (.ok (.redeemed (some ⟨"a", .leapQuarter, "payload", none, .standard⟩))) :=
  ⟨⟨_, rfl, rfl, rfl⟩, by decide, rfl, rfl⟩

/-- An expiry ahead of now is accepted.  It is kept no earlier than it was asked for unless it
lies beyond the last whole millisecond of the range, and only if now lies beyond it too has the
voucher expired already.  Redeemed at once, the voucher is handed out by memory unless it has
expired, and by a ledger if it was not asked for until the final leap second either. -/
theorem expiries_stay_ahead_iff {request : Request} {now expiresAt : Instant} {data : String}
    (code : String) (hnamed : request.zone.IsNamed) (hdata : request.data = some data)
    (hexpiry : request.expiresAt = some expiresAt) (hahead : now < expiresAt) :
    ∃ draft, request.check now = .ok draft ∧
      (expiresAt ≤ draft.expiresAt ↔ ¬ expiresAt.IsBeyondMillis) ∧
      ((draft.withCode code).isExpiredAt now = true ↔
        expiresAt.IsBeyondMillis ∧ expiresAt.truncateToMilli ≤ now) ∧
      ∀ (store : Store) (issued : Voucher),
        (store.issue now request code).outcome = .ok issued →
        (issued.IsHandedOut now ((store.issue now request code).store.redeem now (some code)
            request.zone).outcome ↔
          ¬ (expiresAt.IsBeyondMillis ∧ expiresAt.truncateToMilli ≤ now) ∧
            (store.backend = .ledger → ¬ expiresAt.IsFinalLeap)) := by
  have hcheck : request.check now =
      .ok ⟨expiresAt.ceilToMilli, data, request.intent, request.zone⟩ :=
    (Request.check_eq_ok_iff _ _ _).2
      ⟨data, expiresAt, hdata, hexpiry, Instant.le_of_lt hahead, rfl⟩
  have hrounds := expiresAt.rounds_ceilToMilli
  refine ⟨_, hcheck, hrounds.le_iff, ?expired, ?stores⟩
  case expired =>
    rw [Voucher.isExpiredAt, decide_eq_true_iff]
    exact hrounds.le_now_iff hahead
  case stores =>
    intro store issued hissued
    obtain ⟨draft, hdraft, rfl, hredeem⟩ := Store.redeem_of_issued hissued
    rw [hcheck, Except.ok.injEq] at hdraft
    subst hdraft
    rw [hredeem now]
    cases store.backend with
    | memory =>
        rw [Store.isHandedOut_memory_iff, ← hrounds.le_now_iff hahead, Instant.not_le]
        simp only [reduceCtorEq, false_imp_iff, and_true]
        exact Iff.rfl
    | ledger =>
        rw [Store.isHandedOut_ledger_iff hnamed hrounds.nanos_mod_eq_zero]
        simp only [true_imp_iff]
        exact Instant.ahead_of_counted_iff hahead

/-- The last nanosecond before 1970. -/
def Instant.lastBeforeEpoch : Instant :=
  { latest with
    second := -1, second_ge := by decide, second_le := by decide }

/-- The nanosecond before it. -/
def Instant.nextToLastBeforeEpoch : Instant :=
  ⟨-1, 999999998, by decide, by decide, by decide⟩

/-- One nanosecond is enough, also where rounding up leads to the start of 1970. -/
theorem expiries_stay_ahead_of_lastBeforeEpoch :
    (Request.untilInstant .lastBeforeEpoch).zone.IsNamed ∧
      (Request.untilInstant .lastBeforeEpoch).data = some "payload" ∧
      (Request.untilInstant .lastBeforeEpoch).expiresAt = some .lastBeforeEpoch ∧
      Instant.nextToLastBeforeEpoch < .lastBeforeEpoch ∧
      ∀ backend, ∃ issued,
        ((Store.fresh backend).issue .nextToLastBeforeEpoch (.untilInstant .lastBeforeEpoch)
          "a").outcome = .ok issued ∧
        issued.expiresAt = .epoch ∧
        issued.IsHandedOut .nextToLastBeforeEpoch
          (((Store.fresh backend).issue .nextToLastBeforeEpoch (.untilInstant .lastBeforeEpoch)
            "a").store.redeem .nextToLastBeforeEpoch (some "a") .standard).outcome := by
  have hnamed : (Request.untilInstant .lastBeforeEpoch).zone.IsNamed := ⟨"default", rfl⟩
  have hahead : Instant.nextToLastBeforeEpoch < .lastBeforeEpoch := by decide
  obtain ⟨draft, hcheck, -, -, hstores⟩ := expiries_stay_ahead_iff "a" hnamed rfl rfl hahead
  have hdraft : draft.expiresAt = .epoch := by
    rw [Request.expiresAt_of_check rfl hcheck]
    decide
  refine ⟨hnamed, rfl, rfl, hahead, ?_⟩
  intro backend
  have hfree : ¬ (Store.fresh backend).Blocks .nextToLastBeforeEpoch ⟨.standard, "a"⟩ := by
    rintro ⟨resident, hresident, -⟩
    rw [Store.resident?_fresh] at hresident
    cases hresident
  obtain ⟨hissued, -⟩ := Store.issue_of_not_blocks (Store.isSound_fresh backend)
    (Request.isPlain_untilInstant rfl) hcheck hfree
  refine ⟨_, hissued, hdraft, (hstores _ _ hissued).2 ⟨?_, ?_⟩⟩
  · decide
  · rintro - ⟨hlatest, -⟩
    cases hlatest

/-- Half a millisecond before the range ends. -/
def Instant.nearLatest : Instant :=
  { latest with nanos := 999500000, nanos_lt := by decide }

/-- In the last millisecond of the range a voucher has expired as soon as it is issued, and a
ledger cannot hand out one that is issued until the final leap second. -/
theorem final_millisecond_expires_at_once :
    Instant.nearLatest < .latest ∧
    (∃ draft, (Request.untilInstant .latest).check .nearLatest = .ok draft ∧
      draft.expiresAt < .latest ∧ (draft.withCode "a").isExpiredAt .nearLatest = true) ∧
    (∀ backend, ((Store.fresh backend).transcript
        [⟨.nearLatest, .issue (.untilInstant .latest) "a"⟩,
          ⟨.nearLatest, .redeem (some "a") .standard⟩])[1]?.map (fun entry => entry.outcome) =
      some (.ok (.redeemed none))) ∧
    ((Store.fresh .ledger).transcript (issuedAndRedeemed .finalLeap .standard))[1]?.map
        (fun entry => entry.outcome) =
      some (.error (.dataAccess (.expiryOutOfRange 8210266876800000))) := by
  refine ⟨by decide, ⟨_, rfl, by decide, by decide⟩, ?_, rfl⟩
  intro backend
  cases backend <;> rfl

end OneTimeCode
