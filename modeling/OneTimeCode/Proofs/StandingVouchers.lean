import OneTimeCode.Proofs.Journal
import OneTimeCode.Proofs.Residents

/-!
# Stores and the history of their calls

A voucher stands from its issuing until its key is issued anew or redeemed, its
intent is revoked in its zone, or a sweep reads a clock that has reached the
millisecond of its expiry.  What either kind of store answers is a function of
the vouchers that stand in the transcript so far, also when the clock has been
set back between calls.
-/

namespace OneTimeCode

/-- The voucher that an entry of a transcript issued. -/
def Entry.issued? (entry : Entry) : Option Voucher :=
  match entry.call, entry.outcome with
  | .issue _ _, .ok (.issued voucher) => some voucher
  | _, _ => none

/-- The call is one after which a voucher no longer stands. -/
def Entry.Ends (entry : Entry) (voucher : Voucher) : Prop :=
  match entry.call with
  | .issue _ _ => ∃ other, entry.issued? = some other ∧ other.key = voucher.key
  | .redeem code zone => code = some voucher.code ∧ zone = voucher.zone
  | .revoke intent zone => zone = voucher.zone ∧ voucher.intent = some intent
  | .sweep => voucher.expiresAt.millis ≤ entry.now.millis

/-- Issuing adds a voucher to what stands, later calls end it. -/
def standing : Effect Entry Voucher := ⟨Entry.issued?, Entry.Ends⟩

/-- The voucher issued last under a key still stands after these calls. -/
def StandsUnder (past : List Entry) (key : Key) (voucher : Voucher) : Prop :=
  voucher.key = key ∧ ∃ issue, standing.Stands past issue voucher

/-- A standing voucher is in the way of another one under its key: in memory until
it expires, in a ledger for as long as it stands. -/
def Obstructs (backend : Log.Backend) (past : List Entry) (now : Instant) (key : Key) :
    Prop :=
  ∃ resident, StandsUnder past key resident ∧
    (backend = .memory → now < resident.expiresAt)

/-- The redeeming at the second position answers the voucher issued at the first,
which is the last one issued under its key. -/
def AnsweredFrom (past : List Entry) (issue answer : Nat) : Prop :=
  ∃ voucher answering, standing.LastAdded Voucher.key past answer issue voucher ∧
    past[answer]? = some answering ∧
    answering.call = .redeem (some voucher.code) voucher.zone ∧
    answering.outcome = .ok (.redeemed (some voucher))

namespace Entry

theorem ends_of_issued {entry : Entry} {other voucher : Voucher}
    (hissued : entry.issued? = some other) (hkey : other.key = voucher.key) :
    entry.Ends voucher := by
  unfold Ends
  split
  · exact ⟨other, hissued, hkey⟩
  all_goals
    next hcall =>
    simp [issued?, hcall] at hissued

theorem ends_of_redeem {entry : Entry} {voucher : Voucher}
    (hcall : entry.call = .redeem (some voucher.code) voucher.zone) :
    entry.Ends voucher := by
  rw [Ends, hcall]
  exact ⟨rfl, rfl⟩

end Entry

namespace Store

/-- The voucher is held under its own key. -/
def Holds (store : Store) (voucher : Voucher) : Prop :=
  store.resident? voucher.key = some voucher

/-! ## One call -/

/-- A call leaves the store sound and changes what is held exactly as its entry in
the transcript says. -/
structure Follows (store : Store) (timed : TimedCall) : Prop where
  sound : (store.next timed).IsSound
  held : ∀ voucher, (store.next timed).Holds voucher ↔
    store.Holds voucher ∧ ¬ (store.entry timed).Ends voucher ∨
      (store.entry timed).issued? = some voucher

variable {store : Store}

/-- A refused call ends nothing and issues nothing. -/
theorem follows_of_refuse (hsound : store.IsSound) {timed : TimedCall}
    (hnext : store.next timed = store) (hissued : (store.entry timed).issued? = none)
    (hends : ∀ voucher, ¬ (store.entry timed).Ends voucher) : store.Follows timed := by
  refine ⟨by rw [hnext]; exact hsound, ?_⟩
  intro voucher
  simp [hnext, hissued, hends voucher]

theorem follows_issue_of_refuse (hsound : store.IsSound) {now : Instant}
    {request : Request} {code : String} {failure : Failure} {draws : Nat}
    (hissue : store.issue now request code = Reply.refuse store failure draws) :
    store.Follows ⟨now, .issue request code⟩ := by
  have houtcome : (store.entry ⟨now, .issue request code⟩).outcome = .error failure := by
    simp [entry, perform, Reply.answering, hissue, Except.map]
  have hissued : (store.entry ⟨now, .issue request code⟩).issued? = none := by
    simp [Entry.issued?, houtcome]
  apply follows_of_refuse hsound _ hissued
  · rintro voucher ⟨other, hother, -⟩
    rw [hissued] at hother
    cases hother
  · simp [next, perform, Reply.answering, hissue]

theorem follows_issue (hsound : store.IsSound) {now : Instant} {request : Request}
    (hplain : request.IsPlain) (code : String) :
    store.Follows ⟨now, .issue request code⟩ := by
  cases hcheck : request.check now with
  | error fault =>
      exact follows_issue_of_refuse hsound (store.issue_of_check_error hcheck code)
  | ok draft =>
      by_cases hblocks : store.Blocks now ⟨request.zone, code⟩
      · exact follows_issue_of_refuse hsound (issue_of_blocks hsound hcheck hblocks)
      · obtain ⟨houtcome, -, hsound_next, hresident⟩ :=
          issue_of_not_blocks hsound hplain hcheck hblocks
        have hissued : (store.entry ⟨now, .issue request code⟩).issued? =
            some (draft.withCode code) := by
          simp [Entry.issued?, entry, perform, Reply.answering, houtcome, Except.map]
        refine ⟨hsound_next, ?_⟩
        intro voucher
        have hends : (store.entry ⟨now, .issue request code⟩).Ends voucher ↔
            voucher.key = ⟨request.zone, code⟩ := by
          change (∃ other, _) ↔ _
          simp [hissued, Request.key_withCode hcheck code, eq_comm]
        rw [hends, hissued]
        change (store.issue now request code).store.resident? _ = _ ↔ _
        rw [hresident, Holds]
        by_cases hkey : voucher.key = ⟨request.zone, code⟩
        · simp [hkey]
        · have hother : draft.withCode code ≠ voucher := by
            rintro rfl
            exact hkey (Request.key_withCode hcheck code)
          simp [hkey, hother]

theorem follows_redeem (hsound : store.IsSound) (now : Instant) (code : Option String)
    (zone : Zone) : store.Follows ⟨now, .redeem code zone⟩ := by
  cases code with
  | none =>
      have hredeem := store.redeem_without_code now zone
      apply follows_of_refuse hsound
      · simp [next, perform, Reply.answering, hredeem]
      · rfl
      · intro voucher hends
        cases hends.1
  | some code =>
      obtain ⟨-, -, hsound_next, hresident⟩ := redeem_of_isSound hsound now code zone
      refine ⟨hsound_next, ?_⟩
      intro voucher
      have hissued : (store.entry ⟨now, .redeem (some code) zone⟩).issued? = none := rfl
      have hends : (store.entry ⟨now, .redeem (some code) zone⟩).Ends voucher ↔
          voucher.key = ⟨zone, code⟩ := by
        change some code = some voucher.code ∧ zone = voucher.zone ↔ _
        simp [Voucher.key, eq_comm, and_comm]
      rw [hends, hissued]
      change (store.redeem now (some code) zone).store.resident? _ = _ ↔ _
      rw [hresident, Holds]
      by_cases hkey : voucher.key = ⟨zone, code⟩ <;> simp [hkey]

theorem follows_revoke (hsound : store.IsSound) (now : Instant) (intent : String)
    (zone : Zone) : store.Follows ⟨now, .revoke intent zone⟩ := by
  obtain ⟨-, -, hsound_next, hresident⟩ := revoke_of_isSound hsound intent zone
  refine ⟨hsound_next, ?_⟩
  intro voucher
  have hissued : (store.entry ⟨now, .revoke intent zone⟩).issued? = none := rfl
  have hends : (store.entry ⟨now, .revoke intent zone⟩).Ends voucher ↔
      voucher.zone = zone ∧ voucher.intent = some intent := by
    change zone = voucher.zone ∧ _ ↔ _
    rw [eq_comm]
  rw [hends, hissued]
  change (store.revoke intent zone).store.resident? _ = _ ↔ _
  rw [hresident, Option.filter_eq_some_iff, Holds]
  simp only [Bool.not_eq_true', decide_eq_false_iff_not, reduceCtorEq, or_false]

/-- A sweep is a call of ledgers only. -/
theorem follows_sweep {table : Table} (hreadable : table.IsReadable) (now : Instant) :
    (ledger (.ready table)).Follows ⟨now, .sweep⟩ := by
  obtain ⟨hsound_next, hresident⟩ := sweep_of_isReadable hreadable now
  refine ⟨hsound_next, ?_⟩
  intro voucher
  have hissued : ((ledger (.ready table)).entry ⟨now, .sweep⟩).issued? = none := rfl
  have hends : ((ledger (.ready table)).entry ⟨now, .sweep⟩).Ends voucher ↔
      voucher.expiresAt.millis ≤ now.millis := Iff.rfl
  rw [hends, hissued]
  change ((ledger (.ready table)).sweep now).store.resident? _ = _ ↔ _
  rw [hresident, Option.filter_eq_some_iff, Holds, resident?_ready]
  simp only [Bool.not_eq_true', decide_eq_false_iff_not, reduceCtorEq, or_false]

theorem follows_of_isPlain (hsound : store.IsSound) {timed : TimedCall}
    (hplain : timed.call.IsPlain)
    (hswept : store.backend = .memory → timed.call ≠ .sweep) : store.Follows timed := by
  rcases timed with ⟨now, call⟩
  cases call with
  | issue request code => exact follows_issue hsound hplain code
  | redeem code zone => exact follows_redeem hsound now code zone
  | revoke intent zone => exact follows_revoke hsound now intent zone
  | sweep =>
      cases store with
      | memory kept => exact absurd rfl (hswept rfl)
      | ledger kept =>
          obtain ⟨table, rfl, hreadable⟩ := hsound
          exact follows_sweep hreadable now

/-- Only a redeeming answers a redeemed voucher. -/
theorem call_of_redeemed {now : Instant} {call : Call} {answer : Option Voucher}
    (houtcome : (store.perform now call).outcome = .ok (.redeemed answer)) :
    ∃ code zone, call = .redeem (some code) zone := by
  cases call with
  | issue request code =>
      rw [perform, Reply.answering] at houtcome
      cases hissue : (store.issue now request code).outcome <;>
        simp [hissue, Except.map] at houtcome
  | redeem code zone =>
      cases code with
      | none =>
          rw [perform, redeem_without_code] at houtcome
          simp [Reply.answering, Except.map] at houtcome
      | some code => exact ⟨code, zone, rfl⟩
  | revoke intent zone =>
      rw [perform, Reply.answering] at houtcome
      cases hrevoke : (store.revoke intent zone).outcome <;>
        simp [hrevoke, Except.map] at houtcome
  | sweep =>
      cases store with
      | memory kept => simp [perform, sweep] at houtcome
      | ledger kept =>
          rw [perform, sweep, Reply.answering] at houtcome
          cases hsweep : ((kept.sweep now).map ledger).outcome <;>
            simp [hsweep, Except.map] at houtcome

/-! ## Histories -/

theorem backend_fresh (backend : Log.Backend) : (fresh backend).backend = backend := by
  cases backend <;> rfl

theorem backend_put (store : Store) (now : Instant) (voucher : Voucher) :
    (store.put now voucher).store.backend = store.backend := by
  cases store <;> rfl

theorem backend_next (store : Store) (timed : TimedCall) :
    (store.next timed).backend = store.backend := by
  rcases timed with ⟨now, call⟩
  cases call with
  | issue request code =>
      rw [next, perform, Reply.answering]
      cases hcheck : request.check now with
      | error fault => rw [issue_of_check_error store hcheck, Reply.store_refuse]
      | ok draft =>
          rw [issue_of_check_ok store hcheck]
          exact backend_put ..
  | redeem code zone => cases store <;> rfl
  | revoke intent zone => cases store <;> rfl
  | sweep => cases store <;> rfl

theorem backend_after (store : Store) (calls : List TimedCall) :
    (store.after calls).backend = store.backend := by
  induction calls generalizing store with
  | nil => rfl
  | cons timed rest ih => rw [after_cons, ih, backend_next]

/-- What is held keeps to what stands, call by call. -/
theorem tracks_after {past : List Entry} (hsound : store.IsSound)
    (htracks : standing.Tracks past store.Holds) {calls : List TimedCall}
    (hplain : ∀ timed ∈ calls, timed.call.IsPlain)
    (hswept : store.backend = .memory → ∀ timed ∈ calls, timed.call ≠ .sweep) :
    (store.after calls).IsSound ∧
      standing.Tracks (past ++ store.transcript calls) (store.after calls).Holds := by
  induction calls generalizing store past with
  | nil => simpa [transcript] using ⟨hsound, htracks⟩
  | cons timed rest ih =>
      have hfollows : store.Follows timed := by
        apply follows_of_isPlain hsound (hplain timed List.mem_cons_self)
        intro hmemory
        exact hswept hmemory timed List.mem_cons_self
      have hnext := ih hfollows.sound (htracks.append_singleton hfollows.held)
        (fun later hlater => hplain later (List.mem_cons_of_mem _ hlater))
        (by
          intro hmemory later hlater
          rw [backend_next] at hmemory
          exact hswept hmemory later (List.mem_cons_of_mem _ hlater))
      simpa [transcript] using hnext

end Store

theorem standing_replaces : standing.Replaces Voucher.key := by
  intro entry added voucher hadds hkey
  exact Entry.ends_of_issued hadds hkey

/-- A redeeming answers what was issued at one position only. -/
theorem AnsweredFrom.issue_unique {past : List Entry} {first second answer : Nat}
    (hfirst : AnsweredFrom past first answer) (hsecond : AnsweredFrom past second answer) :
    first = second := by
  obtain ⟨voucher, answering, hlast, hanswering, -, houtcome⟩ := hfirst
  obtain ⟨voucher', answering', hlast', hanswering', -, houtcome'⟩ := hsecond
  rw [hanswering, Option.some.injEq] at hanswering'
  rw [hanswering', houtcome', Except.ok.injEq, Answer.redeemed.injEq, Option.some.injEq]
    at houtcome
  exact hlast.position_unique hlast' (by rw [houtcome])

section History

variable {backend : Log.Backend} {calls : List TimedCall}
variable (hplain : ∀ timed ∈ calls, timed.call.IsPlain)
variable (hswept : backend = .memory → ∀ timed ∈ calls, timed.call ≠ .sweep)

include hplain hswept

/-- After a history from the start, a store holds under a key what stands there. -/
theorem resident?_after_fresh :
    ((Store.fresh backend).after calls).IsSound ∧
      ∀ key voucher, ((Store.fresh backend).after calls).resident? key = some voucher ↔
        StandsUnder ((Store.fresh backend).transcript calls) key voucher := by
  have hempty : standing.Tracks [] (Store.fresh backend).Holds := by
    apply Effect.tracks_nil
    intro voucher
    rw [Store.Holds, Store.resident?_fresh]
    simp
  rw [← Store.backend_fresh backend] at hswept
  obtain ⟨hsound, htracks⟩ :=
    Store.tracks_after (Store.isSound_fresh backend) hempty hplain hswept
  rw [List.nil_append] at htracks
  refine ⟨hsound, ?_⟩
  intro key voucher
  rw [StandsUnder, ← htracks voucher, Store.Holds]
  constructor
  · intro hresident
    have hkey := hsound.key_eq_of_resident? hresident
    exact ⟨hkey, by rw [hkey, hresident]⟩
  · rintro ⟨rfl, hheld⟩
    exact hheld

/-- A redeeming answers the voucher that stands under its key and has not expired. -/
theorem redeem_after_fresh (now : Instant) (code : String) (zone : Zone) :
    ∃ answer : Option Voucher,
      (((Store.fresh backend).after calls).perform now (.redeem (some code) zone)).outcome =
          .ok (.redeemed answer) ∧
        ∀ voucher, answer = some voucher ↔
          StandsUnder ((Store.fresh backend).transcript calls) ⟨zone, code⟩ voucher ∧
            now < voucher.expiresAt := by
  obtain ⟨hsound, hresident⟩ := resident?_after_fresh hplain hswept
  obtain ⟨houtcome, -⟩ := Store.redeem_of_isSound hsound now code zone
  refine ⟨(((Store.fresh backend).after calls).resident? ⟨zone, code⟩).filter
    fun kept => !kept.isExpiredAt now, ?_, ?_⟩
  · simp only [Store.perform, Reply.answering, houtcome, Except.map]
  · intro voucher
    rw [Option.filter_eq_some_iff, hresident, Bool.not_eq_true',
      Voucher.isExpiredAt_eq_false_iff]

theorem blocks_after_fresh_iff (now : Instant) (key : Key) :
    ((Store.fresh backend).after calls).Blocks now key ↔
      Obstructs backend ((Store.fresh backend).transcript calls) now key := by
  obtain ⟨-, hresident⟩ := resident?_after_fresh hplain hswept
  rw [Store.Blocks, Obstructs, Store.backend_after, Store.backend_fresh]
  simp only [hresident, Voucher.isExpiredAt_eq_false_iff]

/-- An issuing that passes its check is refused exactly if a voucher is in its way,
and otherwise answers the voucher asked for. -/
theorem issue_after_fresh {now : Instant} {request : Request} {draft : Draft}
    (hrequest : request.IsPlain) (hcheck : request.check now = .ok draft) (code : String) :
    ((((Store.fresh backend).after calls).perform now (.issue request code)).outcome =
        .error .conflict ↔
      Obstructs backend ((Store.fresh backend).transcript calls) now
        ⟨request.zone, code⟩) ∧
    ((((Store.fresh backend).after calls).perform now (.issue request code)).outcome =
        .ok (.issued (draft.withCode code)) ↔
      ¬ Obstructs backend ((Store.fresh backend).transcript calls) now
        ⟨request.zone, code⟩) := by
  obtain ⟨hsound, -⟩ := resident?_after_fresh hplain hswept
  rw [← blocks_after_fresh_iff hplain hswept]
  by_cases hblocks : ((Store.fresh backend).after calls).Blocks now ⟨request.zone, code⟩
  · have hissue := Store.issue_of_blocks hsound hcheck hblocks
    simp [Store.perform, Reply.answering, hissue, Except.map, hblocks]
  · obtain ⟨houtcome, -⟩ := Store.issue_of_not_blocks hsound hrequest hcheck hblocks
    simp [Store.perform, Reply.answering, houtcome, Except.map, hblocks]

/-! ## Redeeming at most once -/

/-- What a redeeming answered was issued before it under its key, and nothing has
ended it between. -/
theorem stands_of_redeemed {answer : Nat} {answering : Entry} {voucher : Voucher}
    (hanswering : ((Store.fresh backend).transcript calls)[answer]? = some answering)
    (houtcome : answering.outcome = .ok (.redeemed (some voucher))) :
    answering.call = .redeem (some voucher.code) voucher.zone ∧
      ∃ issue, standing.Stands (((Store.fresh backend).transcript calls).take answer) issue
        voucher := by
  rw [Store.getElem?_transcript, Option.map_eq_some_iff] at hanswering
  obtain ⟨timed, -, rfl⟩ := hanswering
  obtain ⟨code, zone, hcall⟩ := Store.call_of_redeemed houtcome
  have hplain_take : ∀ earlier ∈ calls.take answer, earlier.call.IsPlain := by
    intro earlier hearlier
    exact hplain earlier (List.mem_of_mem_take hearlier)
  have hswept_take : backend = .memory →
      ∀ earlier ∈ calls.take answer, earlier.call ≠ .sweep := by
    intro hmemory earlier hearlier
    exact hswept hmemory earlier (List.mem_of_mem_take hearlier)
  obtain ⟨found, hfound, hstands⟩ :=
    redeem_after_fresh hplain_take hswept_take timed.now code zone
  rw [← hcall] at hfound
  simp only [Store.entry, hfound, Except.ok.injEq, Answer.redeemed.injEq] at houtcome
  obtain ⟨⟨hkey, issue, hissue⟩, -⟩ := (hstands voucher).1 houtcome
  rw [Store.take_transcript]
  refine ⟨?_, issue, hissue⟩
  cases hkey
  exact hcall

/-- Every voucher answered was issued in this history. -/
theorem exists_answeredFrom {answer : Nat} {answering : Entry} {voucher : Voucher}
    (hanswering : ((Store.fresh backend).transcript calls)[answer]? = some answering)
    (houtcome : answering.outcome = .ok (.redeemed (some voucher))) :
    ∃ issue, AnsweredFrom ((Store.fresh backend).transcript calls) issue answer := by
  obtain ⟨hcall, issue, hstands⟩ := stands_of_redeemed hplain hswept hanswering houtcome
  exact ⟨issue, voucher, answering, hstands.lastAdded standing_replaces, hanswering, hcall,
    houtcome⟩

/-- What a redeeming answers has not been answered by an earlier one. -/
theorem not_lt_of_answeredFrom {issue first second : Nat}
    (hfirst : AnsweredFrom ((Store.fresh backend).transcript calls) issue first)
    (hsecond : AnsweredFrom ((Store.fresh backend).transcript calls) issue second) :
    ¬ first < second := by
  intro hlt
  obtain ⟨voucher, earlier, hlast, hearlier, hcall, -⟩ := hfirst
  obtain ⟨voucher', answering, hlast', hanswering, -, houtcome⟩ := hsecond
  have hsame : voucher = voucher' := Effect.item_unique hlast.added hlast'.added
  obtain ⟨-, hstands⟩ := stands_of_redeemed hplain hswept hanswering houtcome
  -- The earlier redeeming lies between the issuing and the later one and ends the voucher.
  apply hlast'.not_ends standing_replaces hstands hlast.position_lt hlt hearlier
  rw [hsame] at hcall
  exact Entry.ends_of_redeem hcall

end History

/-- After every history from the start, each redeeming answers the voucher that stands
under its key until that expires; each issuing is refused exactly if a voucher is in its
way; and what was issued at one position is answered at most once. -/
theorem answers_follow_history {backend : Log.Backend} {calls : List TimedCall}
    (hplain : ∀ timed ∈ calls, timed.call.IsPlain)
    (hswept : backend = .memory → ∀ timed ∈ calls, timed.call ≠ .sweep) :
    (∀ now code zone, ∃ answer : Option Voucher,
      (((Store.fresh backend).after calls).perform now (.redeem (some code) zone)).outcome =
          .ok (.redeemed answer) ∧
        ∀ voucher, answer = some voucher ↔
          StandsUnder ((Store.fresh backend).transcript calls) ⟨zone, code⟩ voucher ∧
            now < voucher.expiresAt) ∧
    (∀ now request draft code, request.IsPlain → request.check now = .ok draft →
      ((((Store.fresh backend).after calls).perform now (.issue request code)).outcome =
          .error .conflict ↔
        Obstructs backend ((Store.fresh backend).transcript calls) now
          ⟨request.zone, code⟩) ∧
      ((((Store.fresh backend).after calls).perform now (.issue request code)).outcome =
          .ok (.issued (draft.withCode code)) ↔
        ¬ Obstructs backend ((Store.fresh backend).transcript calls) now
          ⟨request.zone, code⟩)) ∧
    (∀ answer answering voucher,
      ((Store.fresh backend).transcript calls)[answer]? = some answering →
      answering.outcome = .ok (.redeemed (some voucher)) →
      ∃ issue, AnsweredFrom ((Store.fresh backend).transcript calls) issue answer ∧
        ∀ other, AnsweredFrom ((Store.fresh backend).transcript calls) other answer →
          other = issue) ∧
    ∀ issue first second,
      AnsweredFrom ((Store.fresh backend).transcript calls) issue first →
      AnsweredFrom ((Store.fresh backend).transcript calls) issue second →
      first = second := by
  refine ⟨redeem_after_fresh hplain hswept, ?_, ?_, ?_⟩
  · intro now request draft code hrequest hcheck
    exact issue_after_fresh hplain hswept hrequest hcheck code
  · intro answer answering voucher hanswering houtcome
    obtain ⟨issue, hissue⟩ := exists_answeredFrom hplain hswept hanswering houtcome
    exact ⟨issue, hissue, fun other hother => hother.issue_unique hissue⟩
  · intro issue first second hfirst hsecond
    have hnot_lt := not_lt_of_answeredFrom hplain hswept hfirst hsecond
    have hnot_gt := not_lt_of_answeredFrom hplain hswept hsecond hfirst
    omega

/-- A code that is issued, refused, swept too early, redeemed twice and issued anew,
while the clock runs ahead and back. -/
def reissuedCode : List TimedCall :=
  [⟨.epoch, .issue (.untilInstant .inSecondOne) "a"⟩, ⟨.inSecondOne, .issue (.untilInstant .inSecondOne) "a"⟩,
    ⟨.inSecondOne, .sweep⟩, ⟨.epoch, .redeem (some "a") .standard⟩,
    ⟨.epoch, .redeem (some "a") .standard⟩, ⟨.epoch, .issue (.untilInstant .inSecondOne) "a"⟩]

theorem answers_follow_history_of_reissuedCode :
    (∀ timed ∈ reissuedCode, timed.call.IsPlain) ∧
      (∃ voucher, StandsUnder ((Store.fresh .ledger).transcript reissuedCode)
        ⟨.standard, "a"⟩ voucher) ∧
      Obstructs .ledger ((Store.fresh .ledger).transcript reissuedCode) .inSecondOne
        ⟨.standard, "a"⟩ ∧
      ∃ issue, AnsweredFrom ((Store.fresh .ledger).transcript reissuedCode) issue 3 := by
  have hrequest : (Request.untilInstant .inSecondOne).IsPlain := Request.isPlain_untilInstant rfl
  have hplain : ∀ timed ∈ reissuedCode, timed.call.IsPlain := by
    simp only [reissuedCode, List.forall_mem_cons]
    exact ⟨hrequest, hrequest, trivial, trivial, trivial, hrequest, List.forall_mem_nil _⟩
  have hswept : Log.Backend.ledger = .memory → ∀ timed ∈ reissuedCode, timed.call ≠ .sweep := by
    intro hmemory
    cases hmemory
  obtain ⟨hredeem, hissue, hanswered, -⟩ := answers_follow_history hplain hswept
  refine ⟨hplain, ?_, ?_, ?_⟩
  · obtain ⟨answer, hanswer, hstands⟩ := hredeem .epoch "a" .standard
    cases hanswer
    exact ⟨_, ((hstands _).1 rfl).1⟩
  · have hcheck : (Request.untilInstant .inSecondOne).check .inSecondOne = .ok _ := rfl
    exact (hissue .inSecondOne _ _ "a" hrequest hcheck).1.1 rfl
  · obtain ⟨issue, hissue, -⟩ := hanswered 3 _ _ rfl rfl
    exact ⟨issue, hissue⟩

end OneTimeCode
