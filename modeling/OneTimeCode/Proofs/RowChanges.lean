import OneTimeCode.Proofs.Collections
import OneTimeCode.Proofs.Interleaving

/-!
# What steps do to the rows

A step of a call inserts one row, removes some or leaves the rows alone, and it
reports which: issuing reports the voucher of the row, redeeming the row that it
took, revoking and sweeping how many rows are gone.
-/

namespace OneTimeCode

/-- The rows of a ledger, none if statements cannot reach them. -/
def Ledger.contents : Ledger → List Row
  | .ready table => table.items
  | _ => []

/-- The call gets to this stage. -/
inductive Stage.Suits : Call → Stage → Prop
  | waiting (call : Call) : Suits call .waiting
  | inserting (request : Request) (code : String) (voucher : Voucher)
      (hkey : voucher.key = ⟨request.zone, code⟩) :
      Suits (.issue request code) (.inserting voucher)
  | answering (code : String) (zone : Zone) (row : Option Row) :
      Suits (.redeem (some code) zone) (.answering row)
  | sweeping (reading : Instant) : Suits .sweep (.sweeping reading)
  | finished (call : Call) : Suits call .finished

namespace Event

/-- The row that a successful issuing has inserted. -/
def inserted? (event : Event) : Option Row :=
  match event.call, event.report with
  | .issue _ _, .answered (.ok (.issued voucher)) => some (Row.ofVoucher voucher)
  | _, _ => none

/-- The row is there before the step and not after it. -/
def Removes (event : Event) (row : Row) : Prop :=
  row ∈ event.before.contents ∧ row ∉ event.after.contents

/-- How many rows a redeeming has taken out of the table, whatever it answers then. -/
def taken (event : Event) : Nat :=
  match event.report with
  | .took row => row.toList.length
  | _ => 0

/-- How many rows a revoking says it has removed. -/
def revoked (event : Event) : Nat :=
  match event.call, event.report with
  | .revoke _ _, .answered (.ok (.removed count)) => count
  | _, _ => 0

/-- How many rows a sweep says it has removed. -/
def swept (event : Event) : Nat :=
  match event.call, event.report with
  | .sweep, .answered (.ok (.removed count)) => count
  | _, _ => 0

/-- The numbers of all steps together. -/
def tally (count : Event → Nat) : List Event → Nat
  | [] => 0
  | event :: rest => count event + tally count rest

theorem tally_append_singleton (count : Event → Nat) (history : List Event) (event : Event) :
    tally count (history ++ [event]) = tally count history + count event := by
  induction history with
  | nil => exact Nat.add_comm (count event) 0
  | cons first rest ih => rw [List.cons_append, tally, tally, ih, Nat.add_assoc]

/-- What a step does to the rows is what it reports. -/
structure IsLawful (event : Event) : Prop where
  ready : ∀ table, event.before = .ready table → ∃ remaining, event.after = .ready remaining
  inserts : ∀ row, event.inserted? = some row →
    (∀ other ∈ event.before.contents, other.key ≠ row.key) ∧
      event.after.contents = event.before.contents ++ [row] ∧
      ∃ request code, event.call = .issue request code ∧ row.key = ⟨request.zone, code⟩
  keeps : event.inserted? = none → event.after.contents.Sublist event.before.contents
  takes : ∀ row, event.report = .took (some row) → event.Removes row ∧
    ∃ code zone, event.call = .redeem (some code) zone ∧ row.key = ⟨zone, code⟩
  balance : event.after.contents.length + event.taken + event.revoked + event.swept =
    event.before.contents.length + event.inserted?.toList.length

end Event

/-- A row is added by the issuing that inserts it and ended by what removes it. -/
def rowChanges : Effect Event Row where
  adds := Event.inserted?
  ends event row :=
    event.Removes row ∨ ∃ added, event.inserted? = some added ∧ added.key = row.key

/-! ## What one step does -/

/-- A report of nothing that concerns the table. -/
def Report.isIdle : Report → Bool
  | .began => true
  | .answered (.error _) => true
  | .answered (.ok (.redeemed _)) => true
  | _ => false

theorem Event.inserted?_eq_none {event : Event}
    (hreport : ∀ voucher, event.report ≠ .answered (.ok (.issued voucher))) :
    event.inserted? = none := by
  unfold inserted?
  split
  · next voucher _ hissued => exact absurd hissued (hreport voucher)
  · rfl

/-- A step that does not touch the table is lawful. -/
theorem Event.isLawful_of_isIdle {event : Event} (hidle : event.report.isIdle = true)
    (hsame : event.after = event.before) : event.IsLawful := by
  have hinserted : event.inserted? = none := by
    apply inserted?_eq_none
    intro voucher hreport
    rw [hreport] at hidle
    cases hidle
  have htaken : event.taken = 0 := by
    unfold taken
    split
    · next row hreport =>
      rw [hreport] at hidle
      cases hidle
    · rfl
  have hrevoked : event.revoked = 0 := by
    unfold revoked
    split
    · next count _ hreport =>
      rw [hreport] at hidle
      cases hidle
    · rfl
  have hswept : event.swept = 0 := by
    unfold swept
    split
    · next count _ hreport =>
      rw [hreport] at hidle
      cases hidle
    · rfl
  refine ⟨?ready, ?inserts, ?keeps, ?takes, ?balance⟩
  case ready =>
    intro table hready
    exact ⟨table, by rw [hsame, hready]⟩
  case inserts =>
    intro row hrow
    rw [hinserted] at hrow
    cases hrow
  case keeps =>
    intro _
    simpa only [hsame] using List.Sublist.refl _
  case takes =>
    intro row hreport
    rw [hreport] at hidle
    cases hidle
  case balance =>
    rw [hsame, hinserted, htaken, hrevoked, hswept, Option.toList_none, List.length_nil]

namespace Ledger

/-- A row is inserted into a table in which its key is free, or nothing changes. -/
theorem record_cases (ledger : Ledger) (voucher : Voucher) :
    (∃ failure, (ledger.record voucher).outcome = .error failure ∧
      (ledger.record voucher).store = ledger) ∨
    ∃ table result, ledger = .ready table ∧
      table.insert? (Row.ofVoucher voucher) = some result ∧
      (ledger.record voucher).outcome = .ok voucher ∧
      (ledger.record voucher).store = .ready result := by
  cases ledger with
  | closed => exact Or.inl ⟨_, rfl, rfl⟩
  | unmigrated => exact Or.inl ⟨_, rfl, rfl⟩
  | ready table =>
      cases hinsert : table.insert? (Row.ofVoucher voucher) with
      | none =>
          refine Or.inl ⟨.conflict, ?_, ?_⟩ <;>
            simp [record, insert, table?, hinsert, Conclusion.refuse]
      | some result =>
          refine Or.inr ⟨table, result, rfl, hinsert, ?_, ?_⟩ <;>
            simp [record, insert, table?, hinsert]

/-- The call counts the rows that it has removed, or nothing changes. -/
def Deletes (ledger : Ledger) (conclusion : Conclusion Ledger Nat) : Prop :=
  (∃ failure, conclusion.outcome = .error failure ∧ conclusion.store = ledger) ∨
    ∃ table remaining count, ledger = .ready table ∧ conclusion.outcome = .ok count ∧
      conclusion.store = .ready remaining ∧ remaining.items.Sublist table.items ∧
      remaining.size + count = table.size

theorem deletes_run (table : Table) (test : Row → Bool) :
    ((table.delete test).2).items.Sublist table.items ∧
      ((table.delete test).2).size + (table.delete test).1 = table.size := by
  refine ⟨List.filter_sublist, ?_⟩
  have hsize := table.size_keep_add fun row => !test row
  simp only [Bool.not_not] at hsize
  exact hsize

theorem deletes_revoke (ledger : Ledger) (intent : String) (zone : Zone) :
    ledger.Deletes (ledger.revoke intent zone) := by
  cases ledger with
  | ready table => exact Or.inr ⟨table, _, _, rfl, rfl, rfl, deletes_run table _⟩
  | _ => exact Or.inl ⟨_, rfl, rfl⟩

theorem deletes_sweep (ledger : Ledger) (reading : Instant) :
    ledger.Deletes (ledger.sweep reading) := by
  cases ledger with
  | ready table => exact Or.inr ⟨table, _, _, rfl, rfl, rfl, deletes_run table _⟩
  | _ => exact Or.inl ⟨_, rfl, rfl⟩

end Ledger

namespace Event

theorem isLawful_of_deletes {event : Event} {conclusion : Conclusion Ledger Nat}
    (hdeletes : event.before.Deletes conclusion) (hafter : event.after = conclusion.store)
    (hreport : event.report = .answered (conclusion.outcome.map .removed))
    (hcount : ∀ count, event.report = .answered (.ok (.removed count)) →
      event.revoked + event.swept = count) : event.IsLawful := by
  rcases hdeletes with ⟨failure, houtcome, hstore⟩ |
    ⟨table, remaining, count, hbefore, houtcome, hstore, hsublist, hsize⟩
  · rw [houtcome] at hreport
    exact isLawful_of_isIdle (by rw [hreport]; rfl) (hafter.trans hstore)
  · rw [houtcome] at hreport
    rw [hstore] at hafter
    have hcount := hcount count hreport
    have hinserted : event.inserted? = none := by
      apply inserted?_eq_none
      intro voucher hissued
      rw [hreport] at hissued
      cases hissued
    have htaken : event.taken = 0 := by
      rw [taken, hreport]
    refine ⟨?ready, ?inserts, ?keeps, ?takes, ?balance⟩
    case ready =>
      intro _ _
      exact ⟨remaining, hafter⟩
    case inserts =>
      intro row hrow
      rw [hinserted] at hrow
      cases hrow
    case keeps =>
      intro _
      rw [hbefore, hafter]
      exact hsublist
    case takes =>
      intro row htook
      rw [hreport] at htook
      cases htook
    case balance =>
      change remaining.items.length + count = table.items.length at hsize
      rw [hbefore, hafter, hinserted, htaken, Ledger.contents, Ledger.contents,
        Option.toList_none, List.length_nil]
      omega

/-- Inserting is lawful where the key of the row is free. -/
theorem isLawful_of_insert {event : Event} {request : Request} {code : String}
    {voucher : Voucher} {table result : Table} (hcall : event.call = .issue request code)
    (hkey : voucher.key = ⟨request.zone, code⟩)
    (hinsert : table.insert? (Row.ofVoucher voucher) = some result)
    (hreport : event.report = .answered (.ok (.issued voucher)))
    (hbefore : event.before = .ready table) (hafter : event.after = .ready result) :
    event.IsLawful := by
  obtain ⟨hfree, hitems⟩ := (Keyed.insert?_eq_some_iff _ _ _).1 hinsert
  have hinserted : event.inserted? = some (Row.ofVoucher voucher) := by
    rw [inserted?, hcall, hreport]
  have hcounts : event.taken + event.revoked + event.swept = 0 := by
    rw [taken, revoked, swept, hcall, hreport]
    rfl
  refine ⟨?ready, ?inserts, ?keeps, ?takes, ?balance⟩
  case ready =>
    intro _ _
    exact ⟨result, hafter⟩
  case inserts =>
    intro row hrow
    rw [hinserted, Option.some.injEq] at hrow
    subst hrow
    rw [hbefore, hafter]
    exact ⟨(Keyed.find?_eq_none_iff _ _).1 hfree, hitems, request, code, hcall, hkey⟩
  case keeps =>
    intro hnone
    rw [hinserted] at hnone
    cases hnone
  case takes =>
    intro row htook
    rw [hreport] at htook
    cases htook
  case balance =>
    rw [hinserted, hbefore, hafter, Ledger.contents, Ledger.contents, hitems,
      List.length_append, List.length_singleton, Option.toList_some, List.length_singleton]
    omega

/-- Taking is lawful: what is taken was under the key and is gone. -/
theorem isLawful_of_take {event : Event} {code : String} {zone : Zone} {table : Table}
    (hcall : event.call = .redeem (some code) zone)
    (hreport : event.report = .took (table.find? ⟨zone, code⟩))
    (hbefore : event.before = .ready table)
    (hafter : event.after = .ready (table.erase ⟨zone, code⟩)) : event.IsLawful := by
  have hinserted : event.inserted? = none := by
    rw [inserted?, hcall]
  have hcounts : event.taken = (table.find? ⟨zone, code⟩).toList.length ∧
      event.revoked + event.swept = 0 := by
    rw [taken, revoked, swept, hcall, hreport]
    exact ⟨rfl, rfl⟩
  refine ⟨?ready, ?inserts, ?keeps, ?takes, ?balance⟩
  case ready =>
    intro _ _
    exact ⟨_, hafter⟩
  case inserts =>
    intro row hrow
    rw [hinserted] at hrow
    cases hrow
  case keeps =>
    intro _
    rw [hbefore, hafter]
    exact List.filter_sublist
  case takes =>
    intro row htook
    rw [hreport, Report.took.injEq] at htook
    obtain ⟨hrow, hkey⟩ := (Keyed.find?_eq_some_iff _ _ _).1 htook
    refine ⟨?_, code, zone, hcall, hkey⟩
    rw [Removes, hbefore, hafter]
    exact ⟨hrow, fun hkept => ((Keyed.mem_items_erase_iff _ _ _).1 hkept).2 hkey⟩
  case balance =>
    have hsize := table.size_erase_add ⟨zone, code⟩
    rw [hinserted, hbefore, hafter, hcounts.1]
    change (table.erase ⟨zone, code⟩).size + _ + _ + _ = table.size + 0
    omega

theorem isLawful_of_start {event : Event}
    (hreport : event.report = (event.call.start event.now event.before).report)
    (hafter : event.after = (event.call.start event.now event.before).ledger) :
    event.IsLawful := by
  cases hcall : event.call with
  | issue request code =>
      rw [hcall, Call.start] at hreport hafter
      cases hcheck : request.check event.now with
      | error fault =>
          rw [hcheck] at hreport hafter
          exact isLawful_of_isIdle (by rw [hreport]; rfl) hafter
      | ok draft =>
          rw [hcheck] at hreport hafter
          exact isLawful_of_isIdle (by rw [hreport]; rfl) hafter
  | redeem code zone =>
      cases code with
      | none =>
          rw [hcall, Call.start] at hreport hafter
          exact isLawful_of_isIdle (by rw [hreport]; rfl) hafter
      | some code =>
          rw [hcall, Call.start] at hreport hafter
          cases hbefore : event.before with
          | ready table =>
              rw [hbefore] at hreport hafter
              exact isLawful_of_take hcall hreport hbefore hafter
          | _ =>
              rw [hbefore] at hreport hafter
              exact isLawful_of_isIdle (by rw [hreport]; rfl) (hafter.trans hbefore.symm)
  | revoke intent zone =>
      rw [hcall, Call.start] at hreport hafter
      apply isLawful_of_deletes (event.before.deletes_revoke intent zone) hafter hreport
      intro count hcount
      rw [revoked, swept, hcall, hcount]
      rfl
  | sweep =>
      rw [hcall, Call.start] at hreport hafter
      exact isLawful_of_isIdle (by rw [hreport]; rfl) hafter

/-- Every step of a call does to the rows what it reports. -/
theorem isLawful_of_resume? {event : Event} {stage : Stage} {progress : Progress}
    (hsuits : stage.Suits event.call)
    (hresumes : stage.resume? event.call event.now event.before = some progress)
    (hreport : event.report = progress.report) (hafter : event.after = progress.ledger) :
    event.IsLawful := by
  generalize hcall : event.call = call at hsuits hresumes
  cases hsuits with
  | waiting =>
      cases hresumes
      rw [← hcall] at hreport hafter
      exact isLawful_of_start hreport hafter
  | inserting request code voucher hkey =>
      cases hresumes
      rcases event.before.record_cases voucher with ⟨failure, houtcome, hstore⟩ |
        ⟨table, result, hbefore, hinsert, houtcome, hstore⟩
      · rw [Progress.ofConclusion, houtcome] at hreport
        exact isLawful_of_isIdle (by rw [hreport]; rfl) (hafter.trans hstore)
      · rw [Progress.ofConclusion, houtcome] at hreport
        exact isLawful_of_insert hcall hkey hinsert hreport hbefore (hafter.trans hstore)
  | answering code zone row =>
      cases hresumes
      refine isLawful_of_isIdle ?_ hafter
      rw [hreport]
      cases Ledger.answerRow row event.now <;> rfl
  | sweeping reading =>
      cases hresumes
      apply isLawful_of_deletes (event.before.deletes_sweep reading) hafter hreport
      intro count hcount
      rw [revoked, swept, hcall, hcount]
      exact Nat.zero_add count
  | finished => cases hresumes

end Event

theorem Stage.Suits.resume {call : Call} {stage : Stage} (hsuits : stage.Suits call)
    {now : Instant} {ledger : Ledger} {progress : Progress}
    (hresumes : stage.resume? call now ledger = some progress) :
    progress.stage.Suits call := by
  cases hsuits with
  | finished => cases hresumes
  | waiting =>
      cases hresumes
      cases call with
      | issue request code =>
          rw [Call.start]
          cases hcheck : request.check now with
          | error fault => exact Suits.finished _
          | ok draft => exact Suits.inserting _ _ _ (Request.key_withCode hcheck code)
      | redeem code zone =>
          cases code with
          | none => exact Suits.finished _
          | some code =>
              rw [Call.start]
              cases ledger.take ⟨zone, code⟩ with
              | error failure => exact Suits.finished _
              | ok taken => exact Suits.answering _ _ _
      | revoke intent zone => exact Suits.finished _
      | sweep => exact Suits.sweeping _
  | _ =>
      cases hresumes
      exact Suits.finished _

namespace Event

/-- A lawful step changes the rows as its event adds and ends them. -/
theorem IsLawful.mem_after_iff {event : Event} (hlawful : event.IsLawful) (row : Row) :
    row ∈ event.after.contents ↔
      row ∈ event.before.contents ∧ ¬ rowChanges.ends event row ∨
        rowChanges.adds event = some row := by
  change _ ↔ row ∈ event.before.contents ∧ ¬ (event.Removes row ∨ _) ∨
    event.inserted? = some row
  cases hinserted : event.inserted? with
  | none =>
      have hsubset := (hlawful.keeps hinserted).subset
      simp only [reduceCtorEq, false_and, exists_false, or_false, Removes, not_and,
        Classical.not_not]
      constructor
      · intro hafter
        exact ⟨hsubset hafter, fun _ => hafter⟩
      · rintro ⟨hbefore, hkept⟩
        exact hkept hbefore
  | some added =>
      obtain ⟨hfree, hcontents, -⟩ := hlawful.inserts added hinserted
      rw [hcontents, List.mem_append, List.mem_singleton, Option.some.injEq]
      constructor
      · rintro (hbefore | rfl)
        · refine Or.inl ⟨hbefore, ?_⟩
          rintro (⟨-, hgone⟩ | ⟨other, hother, hkey⟩)
          · rw [hcontents, List.mem_append] at hgone
            exact hgone (Or.inl hbefore)
          · cases hother
            exact hfree row hbefore hkey.symm
        · exact Or.inr rfl
      · rintro (⟨hbefore, -⟩ | rfl)
        · exact Or.inl hbefore
        · exact Or.inr rfl

/-- Issuing removes nothing. -/
theorem IsLawful.not_removes_of_issue {event : Event} (hlawful : event.IsLawful)
    {request : Request} {code : String} (hcall : event.call = .issue request code) (row : Row) :
    ¬ event.Removes row := by
  rintro ⟨hbefore, hgone⟩
  cases hinserted : event.inserted? with
  | some added =>
      obtain ⟨-, hcontents, -⟩ := hlawful.inserts added hinserted
      rw [hcontents, List.mem_append] at hgone
      exact hgone (Or.inl hbefore)
  | none =>
      have htaken : event.taken = 0 := by
        unfold taken
        split
        · next taken htook =>
          cases taken with
          | none => rfl
          | some row =>
              obtain ⟨-, code, zone, hredeem, -⟩ := hlawful.takes row htook
              rw [hcall] at hredeem
              cases hredeem
        · rfl
      have hcounts : event.revoked = 0 ∧ event.swept = 0 := by
        rw [revoked, swept, hcall]
        exact ⟨rfl, rfl⟩
      have hbalance := hlawful.balance
      rw [hinserted, htaken, hcounts.1, hcounts.2] at hbalance
      have hsame := (hlawful.keeps hinserted).eq_of_length hbalance
      rw [hsame] at hgone
      exact hgone hbefore

end Event

end OneTimeCode
