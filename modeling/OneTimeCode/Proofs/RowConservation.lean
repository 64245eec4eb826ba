import OneTimeCode.Proofs.RowChanges

/-!
# Rows are conserved

Whatever the order of the steps of calls on one ledger, each row that was inserted
is in the table or was removed by exactly one step.  Hence what one redeeming hands
out no other one does, and the rows inserted are those in the table, those taken,
those revoked and those swept away.
-/

namespace OneTimeCode

/-! ## Every row is accounted for -/

namespace Traffic

/-- The history accounts for the rows: each step was lawful, and what stands in it is
what the table has now and what it had before each step. -/
structure IsAccounted (traffic : Traffic) : Prop where
  ready : ∃ table, traffic.ledger = .ready table
  suits : ∀ caller call, traffic.calls[caller]? = some call →
    (traffic.stages caller).Suits call
  lawful : ∀ event ∈ traffic.history, event.IsLawful
  same_call : ∀ event ∈ traffic.history, traffic.calls[event.caller]? = some event.call
  tracks : rowChanges.Tracks traffic.history fun row => row ∈ traffic.ledger.contents
  tracked : ∀ (position : Nat) (event : Event), traffic.history[position]? = some event →
    rowChanges.Tracks (traffic.history.take position) fun row => row ∈ event.before.contents
  balance : (traffic.history.filterMap Event.inserted?).length =
    traffic.ledger.contents.length + Event.tally Event.taken traffic.history +
      Event.tally Event.revoked traffic.history + Event.tally Event.swept traffic.history

theorem isAccounted_start (calls : List Call) (now : Instant) :
    (start calls now).IsAccounted where
  ready := ⟨Keyed.empty, rfl⟩
  suits _ call _ := .waiting call
  lawful _ hevent := absurd hevent List.not_mem_nil
  same_call _ hevent := absurd hevent List.not_mem_nil
  tracks := Effect.tracks_nil fun _ => List.not_mem_nil
  tracked _ _ hevent := nomatch hevent
  balance := rfl

variable {traffic : Traffic} {caller : Nat} {call : Call} {progress : Progress}

theorem IsAccounted.isLawful_nextEvent (haccounted : traffic.IsAccounted)
    (hallows : traffic.Allows caller call progress) :
    (traffic.nextEvent caller call progress).IsLawful :=
  Event.isLawful_of_resume? (haccounted.suits caller call hallows.call_eq) hallows.resumes
    rfl rfl

theorem IsAccounted.advance (haccounted : traffic.IsAccounted)
    (hallows : traffic.Allows caller call progress) :
    (traffic.advance caller call progress).IsAccounted := by
  have hlawful := haccounted.isLawful_nextEvent hallows
  refine ⟨?ready, ?suits, ?lawful, ?same_call, ?tracks, ?tracked, ?balance⟩
  case ready =>
    obtain ⟨table, hready⟩ := haccounted.ready
    exact hlawful.ready table hready
  case suits =>
    intro other otherCall hother
    by_cases hcaller : other = caller
    · subst hcaller
      rw [stages_advance_self]
      have hsame : some otherCall = some call := hother.symm.trans hallows.call_eq
      cases hsame
      exact (haccounted.suits other call hother).resume hallows.resumes
    · rw [stages_advance_of_ne _ hcaller]
      exact haccounted.suits other otherCall hother
  case lawful =>
    intro event hevent
    rcases mem_history_advance_iff.1 hevent with hold | rfl
    · exact haccounted.lawful event hold
    · exact hlawful
  case same_call =>
    intro event hevent
    rcases mem_history_advance_iff.1 hevent with hold | rfl
    · exact haccounted.same_call event hold
    · exact hallows.call_eq
  case tracks =>
    exact haccounted.tracks.append_singleton hlawful.mem_after_iff
  case tracked =>
    intro position event hevent
    rw [history_advance] at hevent ⊢
    rcases getElem?_append_singleton_iff.1 hevent with hold | ⟨rfl, rfl⟩
    · obtain ⟨hlt, -⟩ := List.getElem?_eq_some_iff.1 hold
      rw [List.take_append_of_le_length (Nat.le_of_lt hlt)]
      exact haccounted.tracked position event hold
    · rw [List.take_left]
      exact haccounted.tracks
  case balance =>
    have hbefore := haccounted.balance
    have hstep := hlawful.balance
    rw [history_advance, List.filterMap_append, List.length_append]
    simp only [Event.tally_append_singleton]
    have hsingle : (List.filterMap Event.inserted? [traffic.nextEvent caller call progress]) =
        (traffic.nextEvent caller call progress).inserted?.toList := by
      cases hinserted : (traffic.nextEvent caller call progress).inserted? <;>
        simp [hinserted]
    rw [hsingle, hbefore]
    change progress.ledger.contents.length + _ + _ + _ =
      traffic.ledger.contents.length + _ at hstep
    change _ = progress.ledger.contents.length + _ + _ + _
    omega

/-- The history accounts for the rows in every run. -/
theorem isAccounted_run (calls : List Call) (now : Instant) (moves : List Move) :
    ((start calls now).run moves).IsAccounted := by
  apply run_induction
  · intro traffic reading haccounted
    exact ⟨haccounted.ready, haccounted.suits, haccounted.lawful, haccounted.same_call,
      haccounted.tracks, haccounted.tracked, haccounted.balance⟩
  · intro traffic caller call progress haccounted hallows
    exact haccounted.advance hallows
  · exact isAccounted_start calls now

end Traffic

/-! ## Removed once, handed out once -/

/-- The row that was inserted at the first position is removed at the second. -/
def RemovedAt (history : List Event) (insert removal : Nat) : Prop :=
  ∃ row event, rowChanges.LastAdded Row.key history removal insert row ∧
    history[removal]? = some event ∧ event.Removes row

/-- The row that was inserted at the first position is taken by the redeeming that at
the second one answers its voucher. -/
def HandedOutAt (history : List Event) (insert answer : Nat) : Prop :=
  ∃ (removal : Nat) (taking answering : Event) (row : Row) (voucher : Voucher),
    rowChanges.LastAdded Row.key history removal insert row ∧
    history[removal]? = some taking ∧ taking.report = .took (some row) ∧
    history[answer]? = some answering ∧ taking.caller = answering.caller ∧
    row.toVoucher = .ok voucher ∧
    answering.report = .answered (.ok (.redeemed (some voucher)))

theorem rowChanges_replaces : rowChanges.Replaces Row.key := by
  intro event added row hadds hkey
  exact Or.inr ⟨added, hadds, hkey⟩

namespace Traffic

variable {traffic : Traffic}

/-- A row that is removed was inserted before and has stood since. -/
theorem IsAccounted.stands_of_removes (haccounted : traffic.IsAccounted) {removal : Nat}
    {event : Event} {row : Row} (hevent : traffic.history[removal]? = some event)
    (hremoves : event.Removes row) :
    ∃ insert, rowChanges.Stands (traffic.history.take removal) insert row :=
  (haccounted.tracked removal event hevent row).1 hremoves.1

theorem IsAccounted.exists_removedAt (haccounted : traffic.IsAccounted) {removal : Nat}
    {event : Event} {row : Row} (hevent : traffic.history[removal]? = some event)
    (hremoves : event.Removes row) : ∃ insert, RemovedAt traffic.history insert removal := by
  obtain ⟨insert, hstands⟩ := haccounted.stands_of_removes hevent hremoves
  exact ⟨insert, row, event, hstands.lastAdded rowChanges_replaces, hevent, hremoves⟩

/-- What was removed once is not there for a second step to remove. -/
theorem IsAccounted.not_lt_of_removedAt (haccounted : traffic.IsAccounted)
    {insert first second : Nat} (hfirst : RemovedAt traffic.history insert first)
    (hsecond : RemovedAt traffic.history insert second) : ¬ first < second := by
  intro hlt
  obtain ⟨row, earlier, hlast, hearlier, hremoves⟩ := hfirst
  obtain ⟨row', later, hlast', hlater, hremoves'⟩ := hsecond
  have hsame : row = row' := Effect.item_unique hlast.added hlast'.added
  have hstands := haccounted.stands_of_removes hlater hremoves'
  apply hlast'.not_ends rowChanges_replaces hstands hlast.position_lt hlt hearlier
  rw [← hsame]
  exact Or.inl hremoves

theorem IsAccounted.removedAt_unique (haccounted : traffic.IsAccounted)
    {insert first second : Nat} (hfirst : RemovedAt traffic.history insert first)
    (hsecond : RemovedAt traffic.history insert second) : first = second := by
  have hnot_lt := haccounted.not_lt_of_removedAt hfirst hsecond
  have hnot_gt := haccounted.not_lt_of_removedAt hsecond hfirst
  omega

/-- Before a key is inserted again, the row that was inserted under it is removed. -/
theorem IsAccounted.removedAt_between (haccounted : traffic.IsAccounted)
    {earlier later : Nat} {first second : Event} {row again : Row} (hlt : earlier < later)
    (hfirst : traffic.history[earlier]? = some first) (hrow : first.inserted? = some row)
    (hsecond : traffic.history[later]? = some second)
    (hagain : second.inserted? = some again) (hkey : row.key = again.key) :
    ∃ removal, earlier < removal ∧ removal < later ∧
      RemovedAt traffic.history earlier removal := by
  -- A row that still stands is in the way of inserting its key.
  have hfree : ∀ position event other, traffic.history[position]? = some event →
      event.inserted? = some other →
      rowChanges.Stands (traffic.history.take position) earlier row →
      other.key ≠ row.key := by
    intro position event other hevent hother hstands hsame
    have hlawful := haccounted.lawful event (List.mem_of_getElem? hevent)
    have hheld := (haccounted.tracked position event hevent row).2 ⟨earlier, hstands⟩
    exact (hlawful.inserts other hother).1 row hheld hsame.symm
  have hlength := Nat.le_of_lt (List.getElem?_eq_some_iff.1 hsecond).1
  have hadded : ∃ event, traffic.history[earlier]? = some event ∧
      rowChanges.adds event = some row := ⟨first, hfirst, hrow⟩
  rcases Effect.stands_or_ended hadded hlt hlength with
    hstands | ⟨removal, event, hafter, hbefore, hevent, hstands, hends⟩
  · exact absurd hkey.symm (hfree later second again hsecond hagain hstands)
  · rcases hends with hremoves | ⟨other, hother, hsame⟩
    · exact ⟨removal, hafter, hbefore, row, event, hstands.lastAdded rowChanges_replaces,
        hevent, hremoves⟩
    · exact absurd hsame (hfree removal event other hevent hother hstands)

/-- What a redeeming answers, it has taken, and this was inserted under the key that it
was asked for. -/
theorem IsAccounted.exists_handedOutAt (haccounted : traffic.IsAccounted)
    (horderly : traffic.IsOrderly) {answer : Nat} {answering : Event} {voucher : Voucher}
    (hanswering : traffic.history[answer]? = some answering)
    (hreport : answering.report = .answered (.ok (.redeemed (some voucher)))) :
    answering.call = .redeem (some voucher.code) voucher.zone ∧
      ∃ insert, HandedOutAt traffic.history insert answer := by
  obtain ⟨removal, taking, row, -, htaking, hcaller, htook, hread⟩ :=
    horderly.answers answer answering voucher hanswering hreport
  have hlawful := haccounted.lawful taking (List.mem_of_getElem? htaking)
  obtain ⟨hremoves, code, zone, hcall, hkey⟩ := hlawful.takes row htook
  obtain ⟨insert, hstands⟩ := haccounted.stands_of_removes htaking hremoves
  constructor
  · have hasked := haccounted.same_call taking (List.mem_of_getElem? htaking)
    rw [hcaller, haccounted.same_call answering (List.mem_of_getElem? hanswering),
      Option.some.injEq] at hasked
    rw [hasked, hcall]
    rw [Row.key_eq_of_toVoucher hread] at hkey
    cases hkey
    rfl
  · exact ⟨insert, removal, taking, answering, row, voucher,
      hstands.lastAdded rowChanges_replaces, htaking, htook, hanswering, hcaller, hread,
      hreport⟩

/-- A redeeming answers what was inserted at one position only. -/
theorem IsOrderly.handedOutAt_insert_unique (horderly : traffic.IsOrderly)
    {first second answer : Nat} (hfirst : HandedOutAt traffic.history first answer)
    (hsecond : HandedOutAt traffic.history second answer) : first = second := by
  obtain ⟨removal, taking, answering, row, voucher, hlast, htaking, htook, hanswering,
    hcaller, -, -⟩ := hfirst
  obtain ⟨removal', taking', answering', row', voucher', hlast', htaking', htook',
    hanswering', hcaller', -, -⟩ := hsecond
  rw [hanswering, Option.some.injEq] at hanswering'
  obtain rfl : removal = removal' := by
    apply horderly.position_unique htaking htaking'
    · rw [hcaller, hcaller', hanswering']
    · rw [htook, htook']
      rfl
  rw [htaking, Option.some.injEq] at htaking'
  rw [htaking', htook', Report.took.injEq, Option.some.injEq] at htook
  exact hlast.position_unique hlast' (by rw [htook])

/-- What was inserted at one position is handed out at most once. -/
theorem IsAccounted.handedOutAt_answer_unique (haccounted : traffic.IsAccounted)
    (horderly : traffic.IsOrderly) {insert first second : Nat}
    (hfirst : HandedOutAt traffic.history insert first)
    (hsecond : HandedOutAt traffic.history insert second) : first = second := by
  obtain ⟨removal, taking, answering, row, voucher, hlast, htaking, htook, hanswering,
    hcaller, -, hreport⟩ := hfirst
  obtain ⟨removal', taking', answering', row', voucher', hlast', htaking', htook',
    hanswering', hcaller', -, hreport'⟩ := hsecond
  have hremoves := ((haccounted.lawful taking (List.mem_of_getElem? htaking)).takes row
    htook).1
  have hremoves' := ((haccounted.lawful taking' (List.mem_of_getElem? htaking')).takes row'
    htook').1
  obtain rfl : removal = removal' :=
    haccounted.removedAt_unique ⟨row, taking, hlast, htaking, hremoves⟩
      ⟨row', taking', hlast', htaking', hremoves'⟩
  rw [htaking, Option.some.injEq] at htaking'
  apply horderly.position_unique hanswering hanswering'
  · rw [← hcaller, ← hcaller', htaking']
  · rw [hreport, hreport']
    rfl

end Traffic

/-- No row is lost or handed out twice: what is removed was inserted before and is
removed once, and never by an issuing; a voucher that is answered was inserted under the
key asked for and is answered once; a key is free before it is inserted again; and the
rows inserted are those in the table, those taken, those revoked and those swept away. -/
structure Traffic.ConservesRows (traffic : Traffic) : Prop where
  removed_was_inserted : ∀ (removal : Nat) (event : Event) (row : Row),
    traffic.history[removal]? = some event → event.Removes row →
    (∀ request code, event.call ≠ .issue request code) ∧
      ∃ insert, RemovedAt traffic.history insert removal
  removed_once : ∀ insert first second, RemovedAt traffic.history insert first →
    RemovedAt traffic.history insert second → first = second
  answered_was_inserted : ∀ (answer : Nat) (answering : Event) (voucher : Voucher),
    traffic.history[answer]? = some answering →
    answering.report = .answered (.ok (.redeemed (some voucher))) →
    answering.call = .redeem (some voucher.code) voucher.zone ∧
      ∃ insert, HandedOutAt traffic.history insert answer ∧
        ∀ other, HandedOutAt traffic.history other answer → other = insert
  answered_once : ∀ insert first second, HandedOutAt traffic.history insert first →
    HandedOutAt traffic.history insert second → first = second
  removed_between : ∀ (earlier later : Nat) (first second : Event) (row again : Row),
    earlier < later → traffic.history[earlier]? = some first →
    first.inserted? = some row → traffic.history[later]? = some second →
    second.inserted? = some again → row.key = again.key →
    ∃ removal, earlier < removal ∧ removal < later ∧ RemovedAt traffic.history earlier removal
  balance : ∃ table, traffic.ledger = .ready table ∧
    (traffic.history.filterMap Event.inserted?).length =
      table.size + Event.tally Event.taken traffic.history +
        Event.tally Event.revoked traffic.history + Event.tally Event.swept traffic.history

/-- Rows are conserved however the steps of the calls come one after the other and
wherever the clock is set between them. -/
theorem conservesRows_run (calls : List Call) (now : Instant) (moves : List Move) :
    ((Traffic.start calls now).run moves).ConservesRows := by
  have haccounted := Traffic.isAccounted_run calls now moves
  have horderly := Traffic.isOrderly_run calls now moves
  refine ⟨?removed_was_inserted, ?removed_once, ?answered_was_inserted, ?answered_once,
    ?removed_between, ?balance⟩
  case removed_was_inserted =>
    intro removal event row hevent hremoves
    refine ⟨?_, haccounted.exists_removedAt hevent hremoves⟩
    intro request code hcall
    have hlawful := haccounted.lawful event (List.mem_of_getElem? hevent)
    exact hlawful.not_removes_of_issue hcall row hremoves
  case removed_once =>
    intro insert first second hfirst hsecond
    exact haccounted.removedAt_unique hfirst hsecond
  case answered_was_inserted =>
    intro answer answering voucher hanswering hreport
    obtain ⟨hcall, insert, hhanded⟩ :=
      haccounted.exists_handedOutAt horderly hanswering hreport
    refine ⟨hcall, insert, hhanded, ?_⟩
    intro other hother
    exact horderly.handedOutAt_insert_unique hother hhanded
  case answered_once =>
    intro insert first second hfirst hsecond
    exact haccounted.handedOutAt_answer_unique horderly hfirst hsecond
  case removed_between =>
    intro earlier later first second row again hlt hfirst hrow hsecond hagain hkey
    exact haccounted.removedAt_between hlt hfirst hrow hsecond hagain hkey
  case balance =>
    obtain ⟨table, hready⟩ := haccounted.ready
    have hbalance := haccounted.balance
    rw [hready] at hbalance
    exact ⟨table, hready, hbalance⟩

/-- A code that two redeemings are after; the second begins before the first has
answered, and answers before it. -/
def racedCalls : List Call :=
  [.issue (.untilInstant .inSecondOne) "a", .redeem (some "a") .standard,
    .redeem (some "a") .standard]

def racedMoves : List Move :=
  [.step 0, .step 0, .step 1, .step 2, .clock .inSecondOne, .step 2, .clock .epoch, .step 1]

theorem conservesRows_run_of_race :
    ∃ insert, HandedOutAt ((Traffic.start racedCalls .epoch).run racedMoves).history insert 5 ∧
      ∀ answer, HandedOutAt ((Traffic.start racedCalls .epoch).run racedMoves).history
        insert answer → answer = 5 := by
  have hconserves := conservesRows_run racedCalls .epoch racedMoves
  obtain ⟨-, insert, hhanded, -⟩ := hconserves.answered_was_inserted 5 _ _ rfl rfl
  refine ⟨insert, hhanded, ?_⟩
  intro answer hanswer
  exact hconserves.answered_once insert answer 5 hanswer hhanded

end OneTimeCode
