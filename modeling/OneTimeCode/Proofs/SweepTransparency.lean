import OneTimeCode.Proofs.Residents

/-!
# Sweeps cannot be observed

A history is run with its sweeps and without them, on a clock that never runs
back.  The swept table lacks rows that have expired and no others, so neither an
issuing nor a redeeming can tell the two runs apart, unless a code is drawn whose
expired row only a sweep would have cleared away.
-/

namespace OneTimeCode

/-- The call clears expired rows away. -/
def Call.isSweep : Call → Bool
  | .sweep => true
  | _ => false

/-- The call hands a voucher out or takes one back. -/
def Call.isExchange : Call → Bool
  | .issue _ _ => true
  | .redeem _ _ => true
  | _ => false

/-- What is issued is issued in a zone that was named. -/
def Call.InNamedZone : Call → Prop
  | .issue request _ => request.zone.IsNamed
  | _ => True

def withoutSweeps (calls : List TimedCall) : List TimedCall :=
  calls.filter fun timed => !timed.call.isSweep

/-- What issuings and redeemings answered. -/
def exchanges (entries : List Entry) : List Entry :=
  entries.filter fun entry => entry.call.isExchange

theorem withoutSweeps_cons_of_isSweep {timed : TimedCall} (hsweep : timed.call.isSweep = true)
    (rest : List TimedCall) : withoutSweeps (timed :: rest) = withoutSweeps rest := by
  simp [withoutSweeps, hsweep]

theorem withoutSweeps_cons_of_not_isSweep {timed : TimedCall}
    (hcall : timed.call.isSweep = false) (rest : List TimedCall) :
    withoutSweeps (timed :: rest) = timed :: withoutSweeps rest := by
  simp [withoutSweeps, hcall]

/-- The clock never runs back and shows no leap second. -/
structure Steady (calls : List TimedCall) : Prop where
  not_leap : ∀ timed ∈ calls, timed.now.isLeap = false
  ordered : calls.Pairwise fun earlier later => earlier.now ≤ later.now

namespace Steady

theorem sublist {part calls : List TimedCall} (hsteady : Steady calls)
    (hsublist : part.Sublist calls) : Steady part where
  not_leap timed htimed := hsteady.not_leap timed (hsublist.subset htimed)
  ordered := hsteady.ordered.sublist hsublist

theorem head_le {timed : TimedCall} {rest : List TimedCall}
    (hsteady : Steady (timed :: rest)) {later : TimedCall} (hlater : later ∈ rest) :
    timed.now.millis ≤ later.now.millis := by
  apply Instant.millis_le_millis (hsteady.not_leap timed List.mem_cons_self)
  exact (List.pairwise_cons.1 hsteady.ordered).1 later hlater

end Steady

/-- The rows that have not expired by the millisecond of now. -/
def Table.live (table : Table) (now : Instant) : List Row :=
  table.items.filter fun row => decide (now.millis < row.expiresAt)

/-- The swept table lacks only rows that have expired by a count of milliseconds. -/
structure Lags (millis : Int) (swept unswept : Table) : Prop where
  sublist : swept.items.Sublist unswept.items
  missing : ∀ row ∈ unswept.items, row ∉ swept.items → row.expiresAt ≤ millis
  written : ∀ row ∈ unswept.items, row.IsWritten

namespace Lags

variable {millis : Int} {swept unswept : Table}

theorem refl {table : Table} (hwritten : ∀ row ∈ table.items, row.IsWritten)
    (millis : Int) : Lags millis table table where
  sublist := List.Sublist.refl _
  missing _ hrow hmissing := absurd hrow hmissing
  written := hwritten

theorem mono (hlags : Lags millis swept unswept) {later : Int} (hle : millis ≤ later) :
    Lags later swept unswept where
  sublist := hlags.sublist
  missing row hrow hmissing := Int.le_trans (hlags.missing row hrow hmissing) hle
  written := hlags.written

theorem mem_unswept (hlags : Lags millis swept unswept) {row : Row}
    (hrow : row ∈ swept.items) : row ∈ unswept.items :=
  hlags.sublist.subset hrow

/-- A key that is free in the unswept table is free in the swept one. -/
theorem find?_eq_none (hlags : Lags millis swept unswept) {key : Key}
    (hfree : unswept.find? key = none) : swept.find? key = none := by
  rw [Keyed.find?_eq_none_iff] at *
  intro row hrow
  exact hfree row (hlags.mem_unswept hrow)

/-- Under the key of a missing row the swept table has no other row. -/
theorem find?_of_not_mem (hlags : Lags millis swept unswept) {key : Key} {row : Row}
    (hfound : unswept.find? key = some row) (hmissing : row ∉ swept.items) :
    swept.find? key = none := by
  rw [Keyed.find?_eq_none_iff]
  intro other hother hkey
  have hfound_other : unswept.find? key = some other :=
    (Keyed.find?_eq_some_iff _ _ _).2 ⟨hlags.mem_unswept hother, hkey⟩
  rw [hfound, Option.some.injEq] at hfound_other
  rw [hfound_other] at hmissing
  exact hmissing hother

/-- What has not expired is in both tables, in the same order. -/
theorem live_eq (hlags : Lags millis swept unswept) {now : Instant}
    (hle : millis ≤ now.millis) : swept.live now = unswept.live now := by
  apply Keyed.filter_eq_of_sublist hlags.sublist unswept.nodup_items
  intro row hrow hlive
  have hlive := of_decide_eq_true hlive
  by_cases hswept : row ∈ swept.items
  · exact hswept
  · have hexpired := hlags.missing row hrow hswept
    omega

theorem keep (hlags : Lags millis swept unswept) (test : Row → Bool) :
    Lags millis (swept.keep test) (unswept.keep test) where
  sublist := hlags.sublist.filter test
  missing row hrow hmissing := by
    rw [Keyed.items_keep, List.mem_filter] at hrow hmissing
    apply hlags.missing row hrow.1
    intro hswept
    exact hmissing ⟨hswept, hrow.2⟩
  written row hrow := hlags.written row (List.mem_filter.1 hrow).1

theorem insert (hlags : Lags millis swept unswept) {row : Row} (hwritten : row.IsWritten)
    {sweptAfter unsweptAfter : Table} (hswept : swept.insert? row = some sweptAfter)
    (hunswept : unswept.insert? row = some unsweptAfter) :
    Lags millis sweptAfter unsweptAfter := by
  obtain ⟨-, hswept_items⟩ := (Keyed.insert?_eq_some_iff _ _ _).1 hswept
  obtain ⟨-, hunswept_items⟩ := (Keyed.insert?_eq_some_iff _ _ _).1 hunswept
  refine ⟨?_, ?_, ?_⟩
  · rw [hswept_items, hunswept_items]
    exact hlags.sublist.append (List.Sublist.refl _)
  · intro other hother hmissing
    rw [hswept_items, List.mem_append, not_or] at hmissing
    rw [hunswept_items, List.mem_append] at hother
    rcases hother with hold | hnew
    · exact hlags.missing other hold hmissing.1
    · exact absurd hnew hmissing.2
  · intro other hother
    rw [hunswept_items, List.mem_append, List.mem_singleton] at hother
    rcases hother with hold | rfl
    · exact hlags.written other hold
    · exact hwritten

/-- A sweep of one of the tables removes rows that have expired. -/
theorem sweep (hlags : Lags millis swept unswept) {later : Int} (hle : millis ≤ later) :
    Lags later (swept.deleteExpired later).2 unswept where
  sublist := List.filter_sublist.trans hlags.sublist
  missing row hrow hmissing := by
    by_cases hswept : row ∈ swept.items
    · by_cases hexpired : row.expiresAt ≤ later
      · exact hexpired
      · exact absurd (List.mem_filter.2 ⟨hswept, by simp [hexpired]⟩) hmissing
    · exact Int.le_trans (hlags.missing row hrow hswept) hle
  written := hlags.written

end Lags

namespace Store

variable {millis : Int} {swept unswept : Table}

/-! ## One call -/

/-- A call of both runs answers the same, unless it only counts rows, and the swept
table goes on to lack only expired rows. -/
structure Unobserved (swept unswept : Table) (timed : TimedCall) : Prop where
  lags : ∃ sweptAfter unsweptAfter,
    (ledger (.ready swept)).next timed = ledger (.ready sweptAfter) ∧
      (ledger (.ready unswept)).next timed = ledger (.ready unsweptAfter) ∧
      Lags timed.now.millis sweptAfter unsweptAfter
  entry_eq : timed.call.isExchange = true →
    (ledger (.ready swept)).entry timed = (ledger (.ready unswept)).entry timed

theorem unobserved_of_refuse {timed : TimedCall}
    (hlags : Lags timed.now.millis swept unswept) {failure : Failure} {draws : Nat}
    (hswept : (ledger (.ready swept)).perform timed.now timed.call =
      Reply.refuse (ledger (.ready swept)) failure draws)
    (hunswept : (ledger (.ready unswept)).perform timed.now timed.call =
      Reply.refuse (ledger (.ready unswept)) failure draws) :
    Unobserved swept unswept timed := by
  constructor
  · rw [next, next, hswept, hunswept]
    exact ⟨swept, unswept, rfl, rfl, hlags⟩
  · intro _
    apply entry_eq_of_perform <;>
      simp only [hswept, hunswept, Reply.outcome_refuse, Reply.draws_refuse]

/-- A row is in the way of an issuing in both tables, or it has expired and its code
is not drawn. -/
theorem mem_swept_of_not_drawsExpired {now : Instant}
    (hlags : Lags now.millis swept unswept) (hleap : now.isLeap = false)
    {request : Request} {draft : Draft} (hcheck : request.check now = .ok draft)
    {code : String} {row : Row}
    (hfound : unswept.find? ⟨request.zone, code⟩ = some row)
    (hfree : ¬ (ledger (.ready unswept)).DrawsExpired ⟨now, .issue request code⟩) :
    row ∈ swept.items := by
  apply Classical.byContradiction
  intro hmissing
  obtain ⟨hrow, -⟩ := (Keyed.find?_eq_some_iff _ _ _).1 hfound
  have hmillis := hlags.missing row hrow hmissing
  obtain ⟨resident, hread, hexpired⟩ :=
    ((hlags.written row hrow).isExpiredAt_iff hleap).2 hmillis
  have hresident := Table.resident?_of_find? hfound hread
  exact hfree ⟨request, code, draft, resident, rfl, hcheck, hresident, hexpired⟩

theorem unobserved_issue {now : Instant} (hlags : Lags now.millis swept unswept)
    (hleap : now.isLeap = false) {request : Request} (hnamed : request.zone.IsNamed)
    {code : String}
    (hfree : ¬ (ledger (.ready unswept)).DrawsExpired ⟨now, .issue request code⟩) :
    Unobserved swept unswept ⟨now, .issue request code⟩ := by
  cases hcheck : request.check now with
  | error fault =>
      apply unobserved_of_refuse hlags
      · rw [perform, issue_of_check_error _ hcheck, Reply.answering_refuse]
      · rw [perform, issue_of_check_error _ hcheck, Reply.answering_refuse]
  | ok draft =>
      cases hfound : unswept.find? ⟨request.zone, code⟩ with
      | none =>
          obtain ⟨sweptAfter, hswept_insert, hswept⟩ :=
            issue_ready_of_free hcheck (hlags.find?_eq_none hfound)
          obtain ⟨unsweptAfter, hunswept_insert, hunswept⟩ :=
            issue_ready_of_free hcheck hfound
          have hwritten : (Row.ofVoucher (draft.withCode code)).IsWritten := by
            obtain ⟨_, _, -, -, -, rfl⟩ := (Request.check_eq_ok_iff _ _ _).1 hcheck
            exact ⟨_, hnamed, rfl⟩
          constructor
          · simp only [next, perform, hswept, hunswept, Reply.answering]
            exact ⟨sweptAfter, unsweptAfter, rfl, rfl,
              hlags.insert hwritten hswept_insert hunswept_insert⟩
          · intro _
            apply entry_eq_of_perform <;>
              simp only [perform, hswept, hunswept, Reply.answering]
      | some row =>
          have hrow := mem_swept_of_not_drawsExpired hlags hleap hcheck hfound hfree
          have hswept_taken : swept.find? ⟨request.zone, code⟩ ≠ none := by
            rw [Keyed.find?_of_mem_of_find? hfound hrow]
            exact Option.some_ne_none row
          have hunswept_taken : unswept.find? ⟨request.zone, code⟩ ≠ none := by
            rw [hfound]
            exact Option.some_ne_none row
          apply unobserved_of_refuse hlags
          · rw [perform, issue_ready_of_taken hcheck hswept_taken, Reply.answering_refuse]
          · rw [perform, issue_ready_of_taken hcheck hunswept_taken, Reply.answering_refuse]

/-- What is answered for a missing row is what is answered for none. -/
theorem answerRow_find?_eq {now : Instant} (hlags : Lags now.millis swept unswept)
    (hleap : now.isLeap = false) (key : Key) :
    Ledger.answerRow (swept.find? key) now = Ledger.answerRow (unswept.find? key) now := by
  cases hfound : unswept.find? key with
  | none => rw [hlags.find?_eq_none hfound]
  | some row =>
      obtain ⟨hrow, -⟩ := (Keyed.find?_eq_some_iff _ _ _).1 hfound
      by_cases hswept : row ∈ swept.items
      · rw [Keyed.find?_of_mem_of_find? hfound hswept]
      · have hexpired := hlags.missing row hrow hswept
        rw [hlags.find?_of_not_mem hfound hswept,
          ((hlags.written row hrow).answerRow_eq_none_iff hleap).2 hexpired,
          Ledger.answerRow]

theorem unobserved_redeem {now : Instant} (hlags : Lags now.millis swept unswept)
    (hleap : now.isLeap = false) (code : Option String) (zone : Zone) :
    Unobserved swept unswept ⟨now, .redeem code zone⟩ := by
  cases code with
  | none =>
      apply unobserved_of_refuse hlags
      · rw [perform, redeem_without_code, Reply.answering_refuse]
      · rw [perform, redeem_without_code, Reply.answering_refuse]
  | some code =>
      refine ⟨⟨_, _, rfl, rfl, hlags.keep _⟩, ?_⟩
      intro _
      apply entry_eq_of_perform
      · have hanswer := answerRow_find?_eq hlags hleap ⟨zone, code⟩
        exact congrArg (Except.map Answer.redeemed) hanswer
      · rfl

theorem unobserved_of_lags {timed : TimedCall}
    (hlags : Lags timed.now.millis swept unswept) (hleap : timed.now.isLeap = false)
    (hnamed : timed.call.InNamedZone) (hunswept : timed.call.isSweep = false)
    (hfree : ¬ (ledger (.ready unswept)).DrawsExpired timed) :
    Unobserved swept unswept timed := by
  rcases timed with ⟨now, call⟩
  cases call with
  | issue request code => exact unobserved_issue hlags hleap hnamed hfree
  | redeem code zone => exact unobserved_redeem hlags hleap code zone
  | revoke intent zone =>
      refine ⟨⟨_, _, rfl, rfl, hlags.keep _⟩, ?_⟩
      intro hexchange
      cases hexchange
  | sweep => cases hunswept

/-! ## Histories -/

/-- Both runs answer the same, and at their end the swept table lacks only rows that
have expired by any count that no reading exceeds. -/
theorem lags_after {calls : List TimedCall} (hlags : Lags millis swept unswept)
    (hnamed : ∀ timed ∈ calls, timed.call.InNamedZone) (hsteady : Steady calls)
    (hmillis : ∀ timed ∈ calls, millis ≤ timed.now.millis)
    (hfree : (ledger (.ready unswept)).NeverDrawsExpired (withoutSweeps calls)) :
    exchanges ((ledger (.ready swept)).transcript calls) =
        exchanges ((ledger (.ready unswept)).transcript (withoutSweeps calls)) ∧
      ∃ sweptAfter unsweptAfter,
        (ledger (.ready swept)).after calls = ledger (.ready sweptAfter) ∧
        (ledger (.ready unswept)).after (withoutSweeps calls) =
          ledger (.ready unsweptAfter) ∧
        ∀ bound, millis ≤ bound → (∀ timed ∈ calls, timed.now.millis ≤ bound) →
          Lags bound sweptAfter unsweptAfter := by
  induction calls generalizing millis swept unswept with
  | nil => exact ⟨rfl, swept, unswept, rfl, rfl, fun bound hle _ => hlags.mono hle⟩
  | cons timed rest ih =>
      have hhead : millis ≤ timed.now.millis := hmillis timed List.mem_cons_self
      have hnamed_rest : ∀ later ∈ rest, later.call.InNamedZone :=
        fun later hlater => hnamed later (List.mem_cons_of_mem _ hlater)
      have hsteady_rest : Steady rest := hsteady.sublist (List.sublist_cons_self _ _)
      have hmillis_rest : ∀ later ∈ rest, timed.now.millis ≤ later.now.millis :=
        fun later hlater => hsteady.head_le hlater
      cases hsweep : timed.call.isSweep with
      | true =>
          -- Only the swept run makes this call.
          rw [withoutSweeps_cons_of_isSweep hsweep] at hfree ⊢
          rcases timed with ⟨now, call⟩
          cases call <;> cases hsweep
          obtain ⟨hexchanges, sweptAfter, unsweptAfter, hswept, hunswept, hbound⟩ :=
            ih (hlags.sweep hhead) hnamed_rest hsteady_rest hmillis_rest hfree
          refine ⟨hexchanges, sweptAfter, unsweptAfter, hswept, hunswept, ?_⟩
          intro bound _ hle
          exact hbound bound (hle _ List.mem_cons_self)
            (fun later hlater => hle later (List.mem_cons_of_mem _ hlater))
      | false =>
          -- Both runs make it, the swept one on fewer rows.
          rw [withoutSweeps_cons_of_not_isSweep hsweep] at hfree ⊢
          have hcall := unobserved_of_lags (hlags.mono hhead)
            (hsteady.not_leap timed List.mem_cons_self) (hnamed timed List.mem_cons_self)
            hsweep hfree.head
          obtain ⟨sweptNext, unsweptNext, hswept_next, hunswept_next, hlags_next⟩ :=
            hcall.lags
          have hfree_rest := hfree.tail
          rw [hunswept_next] at hfree_rest
          obtain ⟨hexchanges, sweptAfter, unsweptAfter, hswept, hunswept, hbound⟩ :=
            ih hlags_next hnamed_rest hsteady_rest hmillis_rest hfree_rest
          refine ⟨?_, sweptAfter, unsweptAfter, ?_, ?_, ?_⟩
          · rw [transcript, transcript, hswept_next, hunswept_next]
            rw [exchanges, exchanges, List.filter_cons, List.filter_cons]
            change (if timed.call.isExchange = true then _ :: exchanges _ else exchanges _) =
              if timed.call.isExchange = true then _ :: exchanges _ else exchanges _
            rw [hexchanges]
            by_cases hexchange : timed.call.isExchange = true
            · rw [if_pos hexchange, if_pos hexchange, hcall.entry_eq hexchange]
            · rw [if_neg hexchange, if_neg hexchange]
          · rw [after_cons, hswept_next, hswept]
          · rw [after_cons, hunswept_next, hunswept]
          · intro bound _ hle
            exact hbound bound (hle _ List.mem_cons_self)
              (fun later hlater => hle later (List.mem_cons_of_mem _ hlater))

/-- At every point of a history the swept table lacks rows that have expired only. -/
theorem lags_take {table : Table} {calls : List TimedCall}
    (hwritten : ∀ row ∈ table.items, row.IsWritten)
    (hnamed : ∀ timed ∈ calls, timed.call.InNamedZone) (hsteady : Steady calls)
    (hfree : (ledger (.ready table)).NeverDrawsExpired (withoutSweeps calls))
    (count : Nat) :
    ∃ sweptAfter unsweptAfter,
      (ledger (.ready table)).after (calls.take count) = ledger (.ready sweptAfter) ∧
      (ledger (.ready table)).after (withoutSweeps (calls.take count)) =
        ledger (.ready unsweptAfter) ∧
      Lags ((latestSecond + 1) * 1000) sweptAfter unsweptAfter ∧
      ∀ now, (∀ timed ∈ calls.take count, timed.now ≤ now) →
        Lags now.millis sweptAfter unsweptAfter := by
  have hleap : ∀ timed ∈ calls.take count, timed.now.isLeap = false :=
    fun timed htimed => hsteady.not_leap timed (List.mem_of_mem_take htimed)
  rw [← List.take_append_drop count calls, withoutSweeps, List.filter_append] at hfree
  obtain ⟨-, sweptAfter, unsweptAfter, hswept, hunswept, hlags⟩ :=
    lags_after (Lags.refl hwritten (earliestSecond * 1000))
      (fun timed htimed => hnamed timed (List.mem_of_mem_take htimed))
      (hsteady.sublist (List.take_sublist count calls))
      (fun timed _ => timed.now.earliest_le_millis) hfree.of_append
  refine ⟨sweptAfter, unsweptAfter, hswept, hunswept, ?_, ?_⟩
  · -- Every reading lies before the end of the range.
    apply hlags _ (by decide)
    intro timed htimed
    exact Int.le_of_lt (Instant.millis_lt_latest (hleap timed htimed))
  · intro now hnow
    apply hlags _ now.earliest_le_millis
    intro timed htimed
    exact Instant.millis_le_millis (hleap timed htimed) (hnow timed htimed)

/-- A sweep counts the rows it removes and leaves none that a redeeming at the same
reading would discard. -/
theorem sweep_of_isWritten {table : Table} (hwritten : ∀ row ∈ table.items, row.IsWritten)
    {now : Instant} (hleap : now.isLeap = false) :
    ∃ count remaining,
      (ledger (.ready table)).perform now .sweep =
        ⟨⟨.ok (.removed count), ledger (.ready remaining), []⟩, 0⟩ ∧
      count + remaining.size = table.size ∧ remaining.items.Sublist table.items ∧
      ∀ row ∈ remaining.items, Ledger.answerRow (some row) now ≠ .ok none := by
  refine ⟨_, (table.deleteExpired now.millis).2, rfl, ?_, List.filter_sublist, ?_⟩
  · have hsize := table.size_keep_add fun row => !decide (row.expiresAt ≤ now.millis)
    simp only [Bool.not_not] at hsize
    rw [Nat.add_comm]
    exact hsize
  · intro row hrow
    obtain ⟨hrow, hkept⟩ := List.mem_filter.1 hrow
    rw [Ne, (hwritten row hrow).answerRow_eq_none_iff hleap]
    simpa using hkept

end Store

/-- Sweeps at any positions of a history change no answer of an issuing or a redeeming
and no row that has not expired, provided that no code of an expired row is drawn. -/
theorem sweeps_unobservable {table : Table} {calls : List TimedCall}
    (hwritten : ∀ row ∈ table.items, row.IsWritten)
    (hnamed : ∀ timed ∈ calls, timed.call.InNamedZone) (hsteady : Steady calls)
    (hfree : (Store.ledger (.ready table)).NeverDrawsExpired (withoutSweeps calls)) :
    exchanges ((Store.ledger (.ready table)).transcript calls) =
      exchanges ((Store.ledger (.ready table)).transcript (withoutSweeps calls)) ∧
    (∀ count, ∃ swept unswept : Table,
      (Store.ledger (.ready table)).after (calls.take count) = .ledger (.ready swept) ∧
      (Store.ledger (.ready table)).after (withoutSweeps (calls.take count)) =
        .ledger (.ready unswept) ∧
      swept.items.Sublist unswept.items ∧
      ∀ now, (∀ timed ∈ calls.take count, timed.now ≤ now) →
        swept.live now = unswept.live now) ∧
    ∀ position now, calls[position]? = some ⟨now, .sweep⟩ →
      ∃ (before remaining : Table) (count : Nat),
        (Store.ledger (.ready table)).after (calls.take position) =
          .ledger (.ready before) ∧
        (Store.ledger (.ready before)).perform now .sweep =
          ⟨⟨.ok (.removed count), .ledger (.ready remaining), []⟩, 0⟩ ∧
        count + remaining.size = before.size ∧ remaining.items.Sublist before.items ∧
        ∀ row ∈ remaining.items, Ledger.answerRow (some row) now ≠ .ok none := by
  have hearliest : ∀ timed ∈ calls, earliestSecond * 1000 ≤ timed.now.millis :=
    fun timed _ => timed.now.earliest_le_millis
  have hexchanges :=
    (Store.lags_after (Lags.refl hwritten _) hnamed hsteady hearliest hfree).1
  refine ⟨hexchanges, ?_, ?_⟩
  · intro count
    obtain ⟨swept, unswept, hswept, hunswept, hlags, hlags_now⟩ :=
      Store.lags_take hwritten hnamed hsteady hfree count
    refine ⟨swept, unswept, hswept, hunswept, hlags.sublist, ?_⟩
    intro now hnow
    exact (hlags_now now hnow).live_eq (Int.le_refl _)
  · intro position now hsweep
    obtain ⟨before, unswept, hbefore, -, hlags, -⟩ :=
      Store.lags_take hwritten hnamed hsteady hfree position
    have hleap : now.isLeap = false :=
      hsteady.not_leap _ (List.mem_of_getElem? hsweep)
    have hwritten_before : ∀ row ∈ before.items, row.IsWritten :=
      fun row hrow => hlags.written row (hlags.mem_unswept hrow)
    obtain ⟨count, remaining, hperform⟩ := Store.sweep_of_isWritten hwritten_before hleap
    exact ⟨before, remaining, count, hbefore, hperform⟩

/-- Two codes, swept once before either has expired and once after both have. -/
def sweptCodes : List TimedCall :=
  [⟨.epoch, .issue (.untilInstant .inSecondOne) "a"⟩, ⟨.inSecondOne, .sweep⟩,
    ⟨.inSecondOne, .issue (.untilInstant .inSecondOne) "b"⟩, ⟨.latest, .sweep⟩,
    ⟨.latest, .redeem (some "a") .standard⟩]

theorem sweeps_unobservable_on_sweptCodes :
    Steady sweptCodes ∧ (Store.fresh .ledger).NeverDrawsExpired (withoutSweeps sweptCodes) ∧
      exchanges ((Store.fresh .ledger).transcript sweptCodes) =
        exchanges ((Store.fresh .ledger).transcript (withoutSweeps sweptCodes)) ∧
      ∃ remaining : Table, remaining.items.Sublist [] ∧
        ((Store.fresh .ledger).after (sweptCodes.take 3)).perform .latest .sweep =
          ⟨⟨.ok (.removed 2), .ledger (.ready remaining), []⟩, 0⟩ := by
  have hnamed : ∀ timed ∈ sweptCodes, timed.call.InNamedZone := by
    have hzone : Zone.standard.IsNamed := ⟨"default", rfl⟩
    simp only [sweptCodes, List.forall_mem_cons]
    exact ⟨hzone, trivial, hzone, trivial, trivial, List.forall_mem_nil _⟩
  have hsteady : Steady sweptCodes := ⟨by decide, by decide⟩
  have hfree : (Store.fresh .ledger).NeverDrawsExpired (withoutSweeps sweptCodes) := by
    intro position timed htimed
    rintro ⟨request, code, draft, resident, hcall, -, hresident, -⟩
    match position with
    | 0 => cases hresident
    | 1 =>
        cases htimed
        cases hcall
        cases hresident
    | 2 =>
        cases htimed
        cases hcall
    | position + 3 => cases htimed
  have hempty : ∀ row ∈ (Keyed.empty : Table).items, row.IsWritten := by
    intro row hrow
    cases hrow
  obtain ⟨hexchanges, -, hsweeps⟩ := sweeps_unobservable hempty hnamed hsteady hfree
  refine ⟨hsteady, hfree, hexchanges, ?_⟩
  obtain ⟨before, remaining, count, hbefore, hsweep, hcount, -, -⟩ := hsweeps 3 .latest rfl
  cases hbefore
  cases hsweep
  exact ⟨_, List.Sublist.refl _, rfl⟩

end OneTimeCode
