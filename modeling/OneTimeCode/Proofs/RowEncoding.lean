import OneTimeCode.Proofs.WholeMillis
import OneTimeCode.Store.Ledger
import OneTimeCode.Voucher.Draft

/-!
# Vouchers as rows

A row keeps less of an instant than a voucher does, and it keeps a zone as text.
Reading a row gives back exactly the voucher that was written, for every voucher
whose expiry is in whole milliseconds and whose zone has an accepted name.  What
passes the check of a request is such a voucher unless a leap second was asked
for.
-/

namespace OneTimeCode

/-- A zone that a caller gets by naming it. -/
def Zone.IsNamed (zone : Zone) : Prop :=
  ∃ id, Zone.named? id = some zone

theorem Zone.id_inj {left right : Zone} : left.id = right.id ↔ left = right := by
  cases left
  cases right
  simp

theorem Zone.isNamed_iff (zone : Zone) :
    zone.IsNamed ↔ Zone.named? zone.id = some zone := by
  constructor
  · rintro ⟨id, hnamed⟩
    obtain ⟨-, rfl⟩ := (Zone.named?_eq_some_iff _ _).1 hnamed
    exact hnamed
  · intro hnamed
    exact ⟨zone.id, hnamed⟩

/-- Nothing of the voucher is lost in a row. -/
structure Voucher.IsStorable (voucher : Voucher) : Prop where
  expiry_isWhole : voucher.expiresAt.IsWhole
  zone_isNamed : voucher.zone.IsNamed

theorem Voucher.isExpiredAt_eq_false_iff (voucher : Voucher) (now : Instant) :
    voucher.isExpiredAt now = false ↔ now < voucher.expiresAt := by
  rw [← Instant.not_le, Voucher.isExpiredAt, decide_eq_false_iff_not]

theorem Voucher.filter_of_lt {voucher : Voucher} {now : Instant}
    (hlt : now < voucher.expiresAt) :
    ((some voucher).filter fun kept => !kept.isExpiredAt now) = some voucher := by
  rw [← isExpiredAt_eq_false_iff] at hlt
  simp [Option.filter, hlt]

theorem Voucher.filter_of_not_lt {voucher : Voucher} {now : Instant}
    (hlt : ¬ now < voucher.expiresAt) :
    ((some voucher).filter fun kept => !kept.isExpiredAt now) = none := by
  rw [← isExpiredAt_eq_false_iff, Bool.not_eq_false] at hlt
  simp [Option.filter, hlt]

namespace Row

@[simp]
theorem key_ofVoucher (voucher : Voucher) : (ofVoucher voucher).key = voucher.key := rfl

/-- A row is read as a voucher exactly if it is what that voucher, storable
without loss, is written to. -/
theorem toVoucher_eq_ok_iff (row : Row) (voucher : Voucher) :
    row.toVoucher = .ok voucher ↔ voucher.IsStorable ∧ ofVoucher voucher = row := by
  constructor
  · intro hread
    unfold toVoucher at hread
    split at hread
    · cases hread
    · cases hread
    · next expiresAt zone hexpiry hzone =>
      cases hread
      obtain ⟨hwhole, hmillis⟩ := (Instant.ofMillis?_eq_some_iff _ _).1 hexpiry
      obtain ⟨-, hid⟩ := (Zone.named?_eq_some_iff _ _).1 hzone
      refine ⟨⟨hwhole, row.zone, hzone⟩, ?_⟩
      simp [ofVoucher, hmillis, hid]
  · rintro ⟨⟨hwhole, hnamed⟩, rfl⟩
    have hexpiry := Instant.ofMillis?_millis hwhole
    have hzone := (Zone.isNamed_iff _).1 hnamed
    simp [toVoucher, ofVoucher, hexpiry, hzone]

theorem toVoucher_ofVoucher {voucher : Voucher} (hstorable : voucher.IsStorable) :
    (ofVoucher voucher).toVoucher = .ok voucher :=
  (toVoucher_eq_ok_iff _ _).2 ⟨hstorable, rfl⟩

theorem key_eq_of_toVoucher {row : Row} {voucher : Voucher}
    (hread : row.toVoucher = .ok voucher) : row.key = voucher.key := by
  obtain ⟨-, rfl⟩ := (toVoucher_eq_ok_iff _ _).1 hread
  rfl

end Row

/-- Of a row that was taken, the voucher is handed out until it expires. -/
theorem Ledger.answerRow_of_toVoucher {row : Row} {voucher : Voucher} (now : Instant)
    (hread : row.toVoucher = .ok voucher) :
    answerRow (some row) now =
      .ok ((some voucher).filter fun kept => !kept.isExpiredAt now) := by
  cases hexpired : voucher.isExpiredAt now <;>
    simp [answerRow, hread, hexpired, Option.filter]

/-- A voucher that is handed out is the one written in the row. -/
theorem Ledger.toVoucher_of_answerRow {row : Option Row} {now : Instant} {voucher : Voucher}
    (hanswer : answerRow row now = .ok (some voucher)) :
    ∃ taken, row = some taken ∧ taken.toVoucher = .ok voucher := by
  unfold answerRow at hanswer
  split at hanswer
  · cases hanswer
  · next taken =>
    split at hanswer
    · cases hanswer
    · next read hread =>
      split at hanswer
      · cases hanswer
      · cases hanswer
        exact ⟨taken, rfl, hread⟩

/-! ## Expired rows -/

/-- The row of some voucher, of a leap second's too, but not one written by others. -/
def Row.IsWritten (row : Row) : Prop :=
  ∃ voucher, voucher.zone.IsNamed ∧ Row.ofVoucher voucher = row

/-- A row that was taken is discarded if its voucher has expired. -/
theorem Ledger.answerRow_eq_none_iff (row : Row) (now : Instant) :
    answerRow (some row) now = .ok none ↔
      ∃ voucher, row.toVoucher = .ok voucher ∧ voucher.isExpiredAt now = true := by
  cases hread : row.toVoucher with
  | error fault => simp [answerRow, hread]
  | ok voucher =>
      cases hexpired : voucher.isExpiredAt now <;> simp [answerRow, hread, hexpired]

/-- Whether a row has expired can be told from its count of milliseconds.  A row that
cannot be read lies beyond the range of instants and never expires. -/
theorem Row.IsWritten.isExpiredAt_iff {row : Row} (hwritten : row.IsWritten) {now : Instant}
    (hleap : now.isLeap = false) :
    (∃ voucher, row.toVoucher = .ok voucher ∧ voucher.isExpiredAt now = true) ↔
      row.expiresAt ≤ now.millis := by
  constructor
  · rintro ⟨voucher, hread, hexpired⟩
    obtain ⟨hstorable, rfl⟩ := (Row.toVoucher_eq_ok_iff _ _).1 hread
    exact (Instant.le_iff_millis_le hstorable.expiry_isWhole hleap).1
      (of_decide_eq_true hexpired)
  · intro hmillis
    obtain ⟨voucher, hnamed, rfl⟩ := hwritten
    have hearliest := Instant.earliest_le_millis voucher.expiresAt
    have hlatest := Instant.millis_lt_latest hleap
    have hsome : Instant.ofMillis? voucher.expiresAt.millis ≠ none := by
      rw [Ne, Instant.ofMillis?_eq_none_iff]
      change voucher.expiresAt.millis ≤ now.millis at hmillis
      omega
    obtain ⟨expiresAt, hexpiry⟩ := Option.ne_none_iff_exists'.1 hsome
    obtain ⟨hwhole, hcount⟩ := (Instant.ofMillis?_eq_some_iff _ _).1 hexpiry
    have hread : (Row.ofVoucher voucher).toVoucher =
        .ok { voucher with expiresAt := expiresAt } := by
      rw [Row.toVoucher_eq_ok_iff]
      exact ⟨⟨hwhole, hnamed⟩, by simp [Row.ofVoucher, hcount]⟩
    refine ⟨_, hread, decide_eq_true ?_⟩
    rw [Instant.le_iff_millis_le hwhole hleap, hcount]
    exact hmillis

/-- A sweep and a redeeming at one reading agree on which rows have expired. -/
theorem Row.IsWritten.answerRow_eq_none_iff {row : Row} (hwritten : row.IsWritten)
    {now : Instant} (hleap : now.isLeap = false) :
    Ledger.answerRow (some row) now = .ok none ↔ row.expiresAt ≤ now.millis := by
  rw [Ledger.answerRow_eq_none_iff, hwritten.isExpiredAt_iff hleap]

/-! ## Unreadable rows -/

theorem Zone.named?_eq_none_iff (id : String) : named? id = none ↔ Text.allBlank id = true := by
  rw [named?]
  split <;> simp_all

/-- Why a row cannot be read, whoever wrote it; a fault of the expiry counts first. -/
inductive Row.IsUnreadable (row : Row) : AccessFault → Prop
  | outOfRange
      (hexpiry : row.expiresAt < earliestSecond * 1000 ∨
        (latestSecond + 1) * 1000 ≤ row.expiresAt) :
      IsUnreadable row (.expiryOutOfRange row.expiresAt)
  | blankZone
      (hexpiry : earliestSecond * 1000 ≤ row.expiresAt ∧
        row.expiresAt < (latestSecond + 1) * 1000)
      (hzone : Text.allBlank row.zone = true) : IsUnreadable row .zoneBlank

theorem Row.toVoucher_eq_error_iff (row : Row) (fault : AccessFault) :
    row.toVoucher = .error fault ↔ row.IsUnreadable fault := by
  have hexpiry := Instant.ofMillis?_eq_none_iff row.expiresAt
  have hzone := Zone.named?_eq_none_iff row.zone
  unfold toVoucher
  constructor
  · intro herror
    split at herror
    · next hnone =>
      cases herror
      exact .outOfRange (hexpiry.1 hnone)
    · next expiresAt hsome hblank =>
      cases herror
      refine .blankZone ?_ (hzone.1 hblank)
      rw [hsome, iff_false_intro (Option.some_ne_none expiresAt), false_iff] at hexpiry
      omega
    · cases herror
  · intro hunreadable
    cases hunreadable with
    | outOfRange hrange => rw [hexpiry.2 hrange]
    | blankZone hrange hblank =>
        have hsome : Instant.ofMillis? row.expiresAt ≠ none := by
          rw [Ne, hexpiry]
          omega
        obtain ⟨expiresAt, hexpiresAt⟩ := Option.ne_none_iff_exists'.1 hsome
        rw [hexpiresAt, hzone.2 hblank]

/-- Why the row of a voucher cannot be read; a fault of the expiry counts first. -/
inductive Voucher.IsUnreadable (voucher : Voucher) : AccessFault → Prop
  | finalLeap (hexpiry : voucher.expiresAt.IsFinalLeap) :
      IsUnreadable voucher (.expiryOutOfRange voucher.expiresAt.millis)
  | blankZone (hexpiry : ¬ voucher.expiresAt.IsFinalLeap)
      (hzone : Text.allBlank voucher.zone.id = true) : IsUnreadable voucher .zoneBlank

/-- Of the vouchers, only those until the final leap second have a count out of range. -/
theorem Row.isUnreadable_ofVoucher_iff (voucher : Voucher) (fault : AccessFault) :
    (Row.ofVoucher voucher).IsUnreadable fault ↔ voucher.IsUnreadable fault := by
  have hexpiry : voucher.expiresAt.IsFinalLeap ↔
      voucher.expiresAt.millis < earliestSecond * 1000 ∨
        (latestSecond + 1) * 1000 ≤ voucher.expiresAt.millis := by
    rw [← Instant.ofMillis?_millis_eq_none_iff, Instant.ofMillis?_eq_none_iff]
  constructor
  · intro hunreadable
    cases hunreadable with
    | outOfRange hrange => exact .finalLeap (hexpiry.2 hrange)
    | blankZone hrange hzone =>
        refine .blankZone ?_ hzone
        rw [hexpiry]
        simp only [ofVoucher] at hrange
        omega
  · intro hunreadable
    cases hunreadable with
    | finalLeap hfinal => exact .outOfRange (hexpiry.1 hfinal)
    | blankZone hfinal hzone =>
        refine .blankZone ?_ hzone
        rw [hexpiry] at hfinal
        simp only [ofVoucher]
        omega

theorem Row.toVoucher_ofVoucher_eq_error_iff (voucher : Voucher) (fault : AccessFault) :
    (Row.ofVoucher voucher).toVoucher = .error fault ↔ voucher.IsUnreadable fault := by
  rw [toVoucher_eq_error_iff, isUnreadable_ofVoucher_iff]

/-! ## Requests -/

namespace Request

/-- The zone was named and no leap second is asked for. -/
structure IsPlain (request : Request) : Prop where
  zone_isNamed : request.zone.IsNamed
  expiry_not_leap : ∀ expiresAt, request.expiresAt = some expiresAt → expiresAt.isLeap = false

/-- A request passes with data and an expiry that does not lie before now. -/
theorem check_eq_ok_iff (request : Request) (now : Instant) (draft : Draft) :
    request.check now = .ok draft ↔
      ∃ data expiresAt, request.data = some data ∧ request.expiresAt = some expiresAt ∧
        now ≤ expiresAt ∧
        draft = ⟨expiresAt.ceilToMilli, data, request.intent, request.zone⟩ := by
  unfold check
  split
  · simp_all
  · simp_all
  · next data expiresAt hdata hexpiry =>
    have hle : now ≤ expiresAt ↔ ¬ expiresAt < now := by
      rw [← Instant.not_le, Classical.not_not]
    split
    · simp_all
    · simp_all [eq_comm]

theorem isStorable_withCode {request : Request} {now : Instant} {draft : Draft}
    (hplain : request.IsPlain) (hcheck : request.check now = .ok draft) (code : String) :
    (draft.withCode code).IsStorable := by
  obtain ⟨data, expiresAt, -, hexpiry, -, rfl⟩ := (check_eq_ok_iff _ _ _).1 hcheck
  exact ⟨Instant.ceilToMilli_isWhole (hplain.expiry_not_leap expiresAt hexpiry),
    hplain.zone_isNamed⟩

theorem key_withCode {request : Request} {now : Instant} {draft : Draft}
    (hcheck : request.check now = .ok draft) (code : String) :
    (draft.withCode code).key = ⟨request.zone, code⟩ := by
  obtain ⟨data, expiresAt, -, -, -, rfl⟩ := (check_eq_ok_iff _ _ _).1 hcheck
  rfl

theorem zone_withCode {request : Request} {now : Instant} {draft : Draft}
    (hcheck : request.check now = .ok draft) (code : String) :
    (draft.withCode code).zone = request.zone :=
  congrArg Key.zone (key_withCode hcheck code)

/-- A request for a voucher of the standard zone until the given instant. -/
def untilInstant (expiresAt : Instant) : Request :=
  ⟨some "payload", some expiresAt, none, Zone.standard⟩

theorem isPlain_untilInstant {expiresAt : Instant} (hleap : expiresAt.isLeap = false) :
    (untilInstant expiresAt).IsPlain := by
  refine ⟨⟨"default", rfl⟩, ?_⟩
  intro other hother
  cases hother
  exact hleap

end Request

end OneTimeCode
