import OneTimeCode.Proofs.Courses
import Mathlib.Data.List.Forall2

/-!
# Redeeming one code at the same time

Several redeemings are after one code.  Each takes the row of the code with one step and
judges it with a later one, at a later reading of the clock.  Their answers are compared
with those of redeemings that find, judge and forget a voucher at one moment, which can
be any moment between the two steps.
-/

namespace OneTimeCode

/-- What redeemings answer one after the other if each of them finds the voucher, judges
it at its reading and forgets it at once. -/
def answersAtOnce (held : Option Voucher) : List Instant → List (Option Voucher)
  | [] => []
  | now :: rest =>
    (held.filter fun voucher => !voucher.isExpiredAt now) :: answersAtOnce none rest

theorem answersAtOnce_none (readings : List Instant) :
    answersAtOnce none readings = readings.map fun _ => none := by
  induction readings with
  | nil => rfl
  | cons now rest ih => rw [answersAtOnce, ih, List.map_cons, Option.filter_none]

/-- A voucher is handed out before it expires only. -/
theorem Ledger.lt_of_answerRow {row : Option Row} {now : Instant} {voucher : Voucher}
    (hanswer : answerRow row now = .ok (some voucher)) : now < voucher.expiresAt := by
  obtain ⟨taken, rfl, hread⟩ := toVoucher_of_answerRow hanswer
  rw [answerRow_of_toVoucher now hread, Except.ok.injEq, Option.filter_eq_some_iff] at hanswer
  rw [← Voucher.isExpiredAt_eq_false_iff]
  simpa using hanswer.2

/-- Only the first of several redeemings can get the voucher. -/
theorem forall₂_answersAtOnce_iff {α : Type} {relates : α → Option Voucher → Prop}
    (reading : α → Instant) (voucher : Voucher) (leader : α) (rest : List α) :
    List.Forall₂ relates (leader :: rest)
        (answersAtOnce (some voucher) ((leader :: rest).map reading)) ↔
      relates leader ((some voucher).filter fun kept => !kept.isExpiredAt (reading leader)) ∧
        ∀ other ∈ rest, relates other none := by
  rw [List.map_cons, answersAtOnce, answersAtOnce_none, List.forall₂_cons,
    List.forall₂_map_right_iff, List.forall₂_map_right_iff, List.forall₂_same]

/-- The moment at which a call has its effect, counted in moves from the start. -/
structure Turn where
  caller : Nat
  moment : Nat

/-- A redeeming has got an answer. -/
structure Event.Answers (event : Event) (caller : Nat) (answer : Option Voucher) : Prop where
  caller_eq : event.caller = caller
  report_eq : event.report = .answered (.ok (.redeemed answer))

theorem Ledger.answerRow_of_map {row : Option Row} {now : Instant} {answer : Option Voucher}
    (hmap : (answerRow row now).map Answer.redeemed = .ok (.redeemed answer)) :
    answerRow row now = .ok answer := by
  cases hanswer : answerRow row now with
  | error failure => simp [hanswer, Except.map] at hmap
  | ok given =>
      simp only [hanswer, Except.map, Except.ok.injEq, Answer.redeemed.injEq] at hmap
      rw [hmap]

namespace Traffic

/-- A later moment has no earlier reading. -/
def ClockAdvances (first : Traffic) (moves : List Move) : Prop :=
  ∀ earlier later, earlier ≤ later →
    (first.atMoment moves earlier).now ≤ (first.atMoment moves later).now

theorem now_step (traffic : Traffic) (caller : Nat) :
    (traffic.step caller).now = traffic.now := by
  rcases traffic.step_eq_self_or_advance caller with hself | ⟨call, progress, -, hadvance⟩
  · rw [hself]
  · rw [hadvance]
    rfl

/-- The clock advances if it is never set back. -/
theorem clockAdvances_of_clock_le {first : Traffic} {moves : List Move}
    (hclock : ∀ moment reading, moves[moment]? = some (.clock reading) →
      (first.atMoment moves moment).now ≤ reading) : first.ClockAdvances moves := by
  intro earlier later hle
  induction hle with
  | refl => exact Instant.le_refl _
  | @step moment _ ih =>
      refine Instant.le_trans ih ?_
      rw [Nat.succ_eq_add_one, atMoment_succ]
      cases hmove : moves[moment]? with
      | none => exact Instant.le_refl _
      | some next =>
          cases next with
          | clock reading => exact hclock moment reading hmove
          | step caller => exact (now_step _ caller).symm ▸ Instant.le_refl _

/-- All calls have answered. -/
def IsComplete (traffic : Traffic) : Prop :=
  ∀ caller < traffic.calls.length, traffic.stages caller = .finished

/-- Every call has one turn while it is under way, the turns come in the order of their
moments, and the answers given are those of calls that have their whole effect there. -/
structure IsExplainedBy (first : Traffic) (moves : List Move) (voucher : Voucher)
    (turns : List Turn) : Prop where
  callers_perm : (turns.map Turn.caller).Perm (List.range first.calls.length)
  ordered : turns.Pairwise fun earlier later => earlier.moment ≤ later.moment
  under_way : ∀ turn ∈ turns,
    ((first.atMoment moves turn.moment).stages turn.caller).IsUnderWay
  answers : List.Forall₂
    (fun turn answer => ∃ event ∈ (first.run moves).history, event.Answers turn.caller answer)
    turns
    (answersAtOnce (some voucher)
      (turns.map fun turn => (first.atMoment moves turn.moment).now))

/-- Redeemings are after one code and none of them has begun. -/
structure IsContest (first : Traffic) (key : Key) (row : Row) : Prop where
  contends : first.Contends key row
  waiting : ∀ caller, first.stages caller = .waiting
  isOrderly : first.IsOrderly

theorem isContest_redeemers {table : Table} {key : Key} {row : Row}
    (hheld : table.find? key = some row) (count : Nat) (now : Instant) :
    (redeemers count key table now).IsContest key row where
  contends := contends_redeemers hheld count now
  waiting _ := rfl
  isOrderly := isOrderly_of_idle (fun _ => rfl) rfl

section Contests

variable {first : Traffic} {moves : List Move} {key : Key} {row : Row} {event : Event}

theorem IsContest.caller_lt (hcontest : first.IsContest key row)
    (hevent : event ∈ (first.run moves).history) : event.caller < first.calls.length :=
  hcontest.contends.caller_lt (hcontest.isOrderly.run moves) hevent

/-- An answer is that of a course which ends at its reading. -/
theorem IsContest.exists_isCourse (hcontest : first.IsContest key row)
    (hevent : event ∈ (first.run moves).history) {outcome : Except Failure Answer}
    (hreport : event.report = .answered outcome) :
    ∃ began ended taken, first.IsCourse moves key event.caller began ended taken ∧
      event.now = (first.atMoment moves ended).now ∧
      outcome = (Ledger.answerRow taken event.now).map .redeemed := by
  have horderly := hcontest.isOrderly.run moves
  have hanswer : event.report.isAnswer = true := by
    rw [hreport]
    rfl
  obtain ⟨began, ended, taken, hcourse⟩ :=
    hcontest.contends.exists_isCourse (hcontest.waiting event.caller)
      (horderly.finishes event hevent hanswer)
  obtain ⟨hnow, hjudged⟩ := hcourse.report_eq horderly hevent rfl hanswer
  rw [hreport, Report.answered.injEq] at hjudged
  exact ⟨began, ended, taken, hcourse, hnow, hjudged⟩

end Contests

/-! ## What an explanation says -/

section Explanations

variable {first : Traffic} {moves : List Move} {key : Key} {row : Row} {caller : Nat}
  {voucher : Voucher} {turns : List Turn}

theorem IsExplainedBy.exists_turn (hexplained : first.IsExplainedBy moves voucher turns)
    (hcaller : caller < first.calls.length) : ∃ turn ∈ turns, turn.caller = caller := by
  rw [← List.mem_map, hexplained.callers_perm.mem_iff, List.mem_range]
  exact hcaller

/-- The first turn gets the voucher if it has not expired, and the others get none. -/
theorem IsExplainedBy.exists_leader (hexplained : first.IsExplainedBy moves voucher turns)
    {turn : Turn} (hturn : turn ∈ turns) :
    ∃ leader ∈ turns, leader.moment ≤ turn.moment ∧
      (∃ event ∈ (first.run moves).history, event.Answers leader.caller
        ((some voucher).filter fun kept =>
          !kept.isExpiredAt (first.atMoment moves leader.moment).now)) ∧
      (turn = leader ∨ ∃ event ∈ (first.run moves).history, event.Answers turn.caller none) := by
  cases turns with
  | nil => cases hturn
  | cons leader rest =>
      obtain ⟨hleader, hrest⟩ := (forall₂_answersAtOnce_iff _ _ _ _).1 hexplained.answers
      refine ⟨leader, List.mem_cons_self, ?_, hleader, ?_⟩
      · rcases List.mem_cons.1 hturn with rfl | hother
        · exact Nat.le_refl _
        · exact (List.pairwise_cons.1 hexplained.ordered).1 turn hother
      · rcases List.mem_cons.1 hturn with rfl | hother
        · exact Or.inl rfl
        · exact Or.inr (hrest turn hother)

theorem IsExplainedBy.outcome_cases (hexplained : first.IsExplainedBy moves voucher turns)
    (hcontest : first.IsContest key row) {event : Event}
    (hevent : event ∈ (first.run moves).history) {outcome : Except Failure Answer}
    (hreport : event.report = .answered outcome) :
    outcome = .ok (.redeemed none) ∨ outcome = .ok (.redeemed (some voucher)) := by
  have hanswered : ∀ answer,
      (∃ other ∈ (first.run moves).history, other.Answers event.caller answer) →
      outcome = .ok (.redeemed answer) := by
    rintro answer ⟨other, hother, hcaller, hanswers⟩
    obtain rfl : other = event := by
      apply (hcontest.isOrderly.run moves).answers_unique hother hevent hcaller
      · rw [hanswers]
        rfl
      · rw [hreport]
        rfl
    rwa [hreport, Report.answered.injEq] at hanswers
  obtain ⟨turn, hturn, hcaller⟩ := hexplained.exists_turn (hcontest.caller_lt hevent)
  obtain ⟨leader, -, -, hleader, rfl | hnone⟩ := hexplained.exists_leader hturn
  · rw [hcaller] at hleader
    rw [hanswered _ hleader]
    by_cases hbefore : (first.atMoment moves turn.moment).now < voucher.expiresAt
    · exact Or.inr (by rw [Voucher.filter_of_lt hbefore])
    · exact Or.inl (by rw [Voucher.filter_of_not_lt hbefore])
  · rw [hcaller] at hnone
    exact Or.inl (hanswered _ hnone)

/-- An answer of none before the expiry is explained by another call only that gets the
voucher. -/
theorem IsExplainedBy.exists_handedOut (hexplained : first.IsExplainedBy moves voucher turns)
    (hcontest : first.IsContest key row) (hclock : first.ClockAdvances moves) {event : Event}
    (hevent : event ∈ (first.run moves).history)
    (hreport : event.report = .answered (.ok (.redeemed none)))
    (hbefore : event.now < voucher.expiresAt) :
    ∃ other ∈ (first.run moves).history,
      other.report = .answered (.ok (.redeemed (some voucher))) := by
  obtain ⟨turn, hturn, hcaller⟩ := hexplained.exists_turn (hcontest.caller_lt hevent)
  obtain ⟨began, ended, taken, hcourse, hnow, -⟩ := hcontest.exists_isCourse hevent hreport
  have hunderWay := hexplained.under_way turn hturn
  rw [hcaller] at hunderWay
  obtain ⟨leader, -, hfirst, ⟨other, hother, hanswers⟩, -⟩ := hexplained.exists_leader hturn
  have hreading : (first.atMoment moves leader.moment).now < voucher.expiresAt := by
    apply Instant.lt_of_le_of_lt _ hbefore
    rw [hnow]
    exact hclock _ _ (Nat.le_trans hfirst (hcourse.moment_le_ended hunderWay))
  refine ⟨other, hother, ?_⟩
  rw [hanswers.report_eq, Voucher.filter_of_lt hreading]

/-! ## Finding an explanation -/

theorem exists_order_of_moments (count : Nat) (moment : Nat → Nat) :
    ∃ order : List Nat, order.Perm (List.range count) ∧
      order.Pairwise fun left right => moment left ≤ moment right := by
  refine ⟨(List.range count).mergeSort fun left right => decide (moment left ≤ moment right),
    List.mergeSort_perm _ _, ?_⟩
  refine (List.pairwise_mergeSort ?trans ?total _).imp of_decide_eq_true
  case trans =>
    intro left middle right hleft hright
    exact decide_eq_true (Nat.le_trans (of_decide_eq_true hleft) (of_decide_eq_true hright))
  case total =>
    intro left right
    rw [Bool.or_eq_true, decide_eq_true_iff, decide_eq_true_iff]
    exact Nat.le_total _ _

/-- Each call can have its turn at a moment of its own if the first of them gets the
voucher unless it has expired and the others get none. -/
theorem exists_isExplainedBy (moment : Nat → Nat)
    (hunderWay : ∀ caller < first.calls.length,
      ((first.atMoment moves (moment caller)).stages caller).IsUnderWay)
    (hanswers : ∀ leader < first.calls.length,
      (∀ other < first.calls.length, moment leader ≤ moment other) →
      (∃ event ∈ (first.run moves).history, event.Answers leader
        ((some voucher).filter fun kept =>
          !kept.isExpiredAt (first.atMoment moves (moment leader)).now)) ∧
      ∀ other < first.calls.length, other ≠ leader →
        ∃ event ∈ (first.run moves).history, event.Answers other none) :
    ∃ turns, first.IsExplainedBy moves voucher turns := by
  obtain ⟨order, hperm, hsorted⟩ := exists_order_of_moments first.calls.length moment
  have hmem : ∀ caller, caller ∈ order ↔ caller < first.calls.length := by
    intro caller
    rw [hperm.mem_iff, List.mem_range]
  refine ⟨order.map fun caller => ⟨caller, moment caller⟩, ?_, ?_, ?_, ?_⟩
  · rw [List.map_map]
    exact (List.map_id order).symm ▸ hperm
  · exact List.pairwise_map.2 hsorted
  · intro turn hturn
    obtain ⟨caller, hcaller, rfl⟩ := List.mem_map.1 hturn
    exact hunderWay caller ((hmem caller).1 hcaller)
  · cases order with
    | nil => exact List.Forall₂.nil
    | cons leader rest =>
        have hnodup := hperm.nodup_iff.2 List.nodup_range
        rw [List.nodup_cons] at hnodup
        obtain ⟨hleast, -⟩ := List.pairwise_cons.1 hsorted
        obtain ⟨hleader, hothers⟩ := hanswers leader ((hmem leader).1 List.mem_cons_self) (by
          intro other hother
          rcases List.mem_cons.1 ((hmem other).2 hother) with rfl | hrest
          · exact Nat.le_refl _
          · exact hleast other hrest)
        rw [List.map_cons, forall₂_answersAtOnce_iff]
        refine ⟨hleader, ?_⟩
        intro turn hturn
        obtain ⟨other, hother, rfl⟩ := List.mem_map.1 hturn
        refine hothers other ((hmem other).1 (List.mem_cons_of_mem _ hother)) ?_
        rintro rfl
        exact hnodup.1 hother

/-- Where no call gets the voucher, each can have its turn just before it answers. -/
theorem exists_isExplainedBy_of_none
    (hcourses : ∀ caller < first.calls.length, ∃ began ended taken,
      first.IsCourse moves key caller began ended taken)
    (hnone : ∀ event ∈ (first.run moves).history, ∀ outcome,
      event.report = .answered outcome → outcome = .ok (.redeemed none))
    (hexpired : ∀ event ∈ (first.run moves).history,
      event.report = .answered (.ok (.redeemed none)) → ¬ event.now < voucher.expiresAt) :
    ∃ turns, first.IsExplainedBy moves voucher turns := by
  choose! began ended taken hcourse using hcourses
  have hanswers : ∀ caller < first.calls.length, ∃ event ∈ (first.run moves).history,
      event.now = (first.atMoment moves (ended caller)).now ∧ event.Answers caller none := by
    intro caller hcaller
    obtain ⟨event, hevent, hsame, hnow, hreport⟩ := (hcourse caller hcaller).answered
    refine ⟨event, hevent, hnow, hsame, ?_⟩
    rw [hreport, hnone event hevent _ hreport]
  apply exists_isExplainedBy ended
  · intro caller hcaller
    rw [(hcourse caller hcaller).judges]
    rfl
  · intro leader hleader _
    constructor
    · obtain ⟨event, hevent, hnow, hnothing⟩ := hanswers leader hleader
      have hlate := hexpired event hevent hnothing.report_eq
      rw [hnow] at hlate
      rw [Voucher.filter_of_not_lt hlate]
      exact ⟨event, hevent, hnothing⟩
    · intro other hother _
      obtain ⟨event, hevent, -, hnothing⟩ := hanswers other hother
      exact ⟨event, hevent, hnothing⟩

/-- Where a call gets the voucher, each can have its turn just after it begins. -/
theorem exists_isExplainedBy_of_handedOut (hcontest : first.IsContest key row)
    (hclock : first.ClockAdvances moves)
    (hcourses : ∀ caller < first.calls.length, ∃ began ended taken,
      first.IsCourse moves key caller began ended taken)
    {event : Event} (hevent : event ∈ (first.run moves).history)
    (hreport : event.report = .answered (.ok (.redeemed (some voucher)))) :
    ∃ turns, first.IsExplainedBy moves voucher turns := by
  choose! began ended taken hcourse using hcourses
  apply exists_isExplainedBy fun caller => began caller + 1
  · intro caller hcaller
    rw [(hcourse caller hcaller).took]
    rfl
  · intro leader hleader hleast
    have hothers : ∀ other < first.calls.length, other ≠ leader → taken other = none := by
      intro other hother
      exact hcontest.contends.taken_eq_none_of_first (hcourse leader hleader) (hcourse other hother)
        (Nat.le_of_succ_le_succ (hleast other hother))
    constructor
    · have hcaller := hcontest.caller_lt hevent
      obtain ⟨hnow, hjudged⟩ := (hcourse event.caller hcaller).report_eq
        (hcontest.isOrderly.run moves) hevent rfl (by rw [hreport]; rfl)
      rw [hreport, Report.answered.injEq] at hjudged
      have hanswer := Ledger.answerRow_of_map hjudged.symm
      have hsame : event.caller = leader := by
        by_contra hne
        rw [hothers event.caller hcaller hne] at hanswer
        cases hanswer
      have hbefore : (first.atMoment moves (began leader + 1)).now < voucher.expiresAt := by
        apply Instant.lt_of_le_of_lt _ (Ledger.lt_of_answerRow hanswer)
        rw [hnow, hsame]
        exact hclock _ _ (hcourse leader hleader).began_lt
      rw [Voucher.filter_of_lt hbefore]
      exact ⟨event, hevent, hsame, hreport⟩
    · intro other hother hne
      obtain ⟨answered, hmem, hsame, -, hjudged⟩ := (hcourse other hother).answered
      rw [hothers other hother hne] at hjudged
      exact ⟨answered, hmem, hsame, hjudged⟩

end Explanations

/-! ## Which answers have an explanation -/

/-- No call has answered anything but the voucher and none. -/
def AnswersOnly (traffic : Traffic) (voucher : Voucher) : Prop :=
  ∀ event ∈ traffic.history, ∀ outcome, event.report = .answered outcome →
    outcome = .ok (.redeemed none) ∨ outcome = .ok (.redeemed (some voucher))

/-- A call has answered the voucher. -/
def HandsOut (traffic : Traffic) (voucher : Voucher) : Prop :=
  ∃ event ∈ traffic.history, event.report = .answered (.ok (.redeemed (some voucher)))

/-- A call has answered none although the voucher had not expired. -/
def MissesEarly (traffic : Traffic) (voucher : Voucher) : Prop :=
  ∃ event ∈ traffic.history, event.report = .answered (.ok (.redeemed none)) ∧
    event.now < voucher.expiresAt

variable {first : Traffic} {moves : List Move} {key : Key} {row : Row} {voucher : Voucher}

theorem IsContest.answersOnly (hcontest : first.IsContest key (Row.ofVoucher voucher))
    (hstorable : voucher.IsStorable) : (first.run moves).AnswersOnly voucher := by
  intro event hevent outcome hreport
  obtain ⟨began, ended, taken, hcourse, -, rfl⟩ := hcontest.exists_isCourse hevent hreport
  rcases hcontest.contends.taken_cases hcourse with rfl | rfl
  · exact Or.inl rfl
  · rw [Ledger.answerRow_of_toVoucher event.now (Row.toVoucher_ofVoucher hstorable)]
    by_cases hbefore : event.now < voucher.expiresAt
    · exact Or.inr (by rw [Voucher.filter_of_lt hbefore]; rfl)
    · exact Or.inl (by rw [Voucher.filter_of_not_lt hbefore]; rfl)

theorem IsContest.isExplained_iff (hcontest : first.IsContest key row)
    (hclock : first.ClockAdvances moves) (hcomplete : (first.run moves).IsComplete) :
    (∃ turns, first.IsExplainedBy moves voucher turns) ↔
      (first.run moves).AnswersOnly voucher ∧
        ((first.run moves).MissesEarly voucher → (first.run moves).HandsOut voucher) := by
  constructor
  · rintro ⟨turns, hexplained⟩
    refine ⟨fun event hevent outcome => hexplained.outcome_cases hcontest hevent, ?_⟩
    rintro ⟨event, hevent, hreport, hbefore⟩
    exact hexplained.exists_handedOut hcontest hclock hevent hreport hbefore
  · rintro ⟨honly, hmisses⟩
    have hcourses : ∀ caller < first.calls.length, ∃ began ended taken,
        first.IsCourse moves key caller began ended taken := by
      intro caller hcaller
      rw [← calls_run first moves] at hcaller
      exact hcontest.contends.exists_isCourse (hcontest.waiting caller)
        (hcomplete caller hcaller)
    by_cases hhandsOut : (first.run moves).HandsOut voucher
    · obtain ⟨event, hevent, hreport⟩ := hhandsOut
      exact exists_isExplainedBy_of_handedOut hcontest hclock hcourses hevent hreport
    · apply exists_isExplainedBy_of_none hcourses
      · intro event hevent outcome hreport
        apply (honly event hevent outcome hreport).resolve_right
        rintro rfl
        exact hhandsOut ⟨event, hevent, hreport⟩
      · intro event hevent hreport hbefore
        exact hhandsOut (hmisses ⟨event, hevent, hreport, hbefore⟩)

end Traffic

/-- Redeemings of a storable voucher answer the voucher or none.  Their answers are
explained by one moment for each of them exactly if they answer nothing else and, where
one answers none before the expiry, another answers the voucher. -/
theorem redeemings_explained_iff {count : Nat} {voucher : Voucher} {table : Table}
    {now : Instant} {moves : List Move}
    (hheld : table.find? voucher.key = some (Row.ofVoucher voucher))
    (hclock : (Traffic.redeemers count voucher.key table now).ClockAdvances moves)
    (hcomplete : ((Traffic.redeemers count voucher.key table now).run moves).IsComplete) :
    (voucher.IsStorable →
      ((Traffic.redeemers count voucher.key table now).run moves).AnswersOnly voucher) ∧
    ((∃ turns, (Traffic.redeemers count voucher.key table now).IsExplainedBy moves voucher
        turns) ↔
      ((Traffic.redeemers count voucher.key table now).run moves).AnswersOnly voucher ∧
        (((Traffic.redeemers count voucher.key table now).run moves).MissesEarly voucher →
          ((Traffic.redeemers count voucher.key table now).run moves).HandsOut voucher)) := by
  have hcontest := Traffic.isContest_redeemers hheld count now
  exact ⟨hcontest.answersOnly, hcontest.isExplained_iff hclock hcomplete⟩

/-- A voucher until one second into 1970, of the zone given. -/
def shortVoucher (zone : Zone) : Voucher :=
  ⟨"a", Instant.inSecondOne.truncateToMilli, "payload", none, zone⟩

/-- Two redeemings of the one voucher that there is. -/
def twoRedeemers (zone : Zone) : Traffic :=
  .redeemers 2 (shortVoucher zone).key
    (Keyed.empty.replace (Row.ofVoucher (shortVoucher zone))) .epoch

/-- The second redeeming is over before the first one judges what it has taken, and the
voucher expires in between. -/
def lateMoves : List Move :=
  [.step 0, .step 1, .step 1, .clock .inSecondOne, .step 0]

/-- The first redeeming is over before the voucher expires. -/
def timelyMoves : List Move :=
  [.step 0, .step 1, .step 0, .clock .inSecondOne, .step 1]

theorem clockAdvances_of_one_turn (zone : Zone) (one two three four : Nat) :
    (twoRedeemers zone).ClockAdvances
      [.step one, .step two, .step three, .clock .inSecondOne, .step four] := by
  apply Traffic.clockAdvances_of_clock_le
  intro moment reading hmove
  match moment, hmove with
  | 3, rfl =>
    change ((((twoRedeemers zone).step one).step two).step three).now ≤ .inSecondOne
    rw [Traffic.now_step, Traffic.now_step, Traffic.now_step]
    change Instant.epoch ≤ .inSecondOne
    decide
  | later + 4, hmove => cases later <;> cases hmove

theorem isComplete_of_two {zone : Zone} {moves : List Move}
    (hfirst : ((twoRedeemers zone).run moves).stages 0 = .finished)
    (hsecond : ((twoRedeemers zone).run moves).stages 1 = .finished) :
    ((twoRedeemers zone).run moves).IsComplete := by
  intro caller hcaller
  rw [Traffic.calls_run] at hcaller
  match caller, hcaller with
  | 0, _ => exact hfirst
  | 1, _ => exact hsecond

theorem redeemings_explained_of_timelyMoves :
    ∃ turns, (twoRedeemers .standard).IsExplainedBy timelyMoves (shortVoucher .standard)
      turns := by
  have hstorable : (shortVoucher .standard).IsStorable := ⟨⟨rfl, rfl⟩, "default", rfl⟩
  obtain ⟨honly, hiff⟩ := redeemings_explained_iff (Keyed.find?_replace_self _ _)
    (clockAdvances_of_one_turn .standard 0 1 0 1) (isComplete_of_two rfl rfl)
  refine hiff.2 ⟨honly hstorable, fun _ => ?_⟩
  exact ⟨_, List.mem_of_getElem? (show _[2]? = some _ from rfl), rfl⟩

/-- A run without an explanation, although the clock is not set back and every call
answers. -/
structure IsUnexplained (zone : Zone) (moves : List Move) : Prop where
  clock : (twoRedeemers zone).ClockAdvances moves
  complete : ((twoRedeemers zone).run moves).IsComplete
  unexplained : ∀ turns, ¬ (twoRedeemers zone).IsExplainedBy moves (shortVoucher zone) turns

/-- A voucher that expires while it is being redeemed is lost although another redeeming
has answered none before the expiry.  A voucher of a blank zone is always lost, with an
answer that is neither the voucher nor none. -/
theorem redeemings_unexplained :
    ((shortVoucher .standard).IsStorable ∧ IsUnexplained .standard lateMoves ∧
      ((twoRedeemers .standard).run lateMoves).MissesEarly (shortVoucher .standard) ∧
      ¬ ((twoRedeemers .standard).run lateMoves).HandsOut (shortVoucher .standard)) ∧
    IsUnexplained ⟨" "⟩ timelyMoves := by
  have hcontest (zone : Zone) : (twoRedeemers zone).IsContest (shortVoucher zone).key
      (Row.ofVoucher (shortVoucher zone)) :=
    Traffic.isContest_redeemers
      (Keyed.find?_replace_self Keyed.empty (Row.ofVoucher (shortVoucher zone))) 2 .epoch
  have hmissed : ((twoRedeemers .standard).run lateMoves).MissesEarly
      (shortVoucher .standard) :=
    ⟨_, List.mem_of_getElem? (show _[2]? = some _ from rfl), rfl, by decide⟩
  have hlost : ¬ ((twoRedeemers .standard).run lateMoves).HandsOut
      (shortVoucher .standard) := by
    rintro ⟨event, hevent, hreport⟩
    have hreports : ((twoRedeemers .standard).run lateMoves).history.map Event.report =
        [.took _, .took _, .answered (.ok (.redeemed none)),
          .answered (.ok (.redeemed none))] := rfl
    have hmem := List.mem_map_of_mem (f := Event.report) hevent
    rw [hreports, hreport] at hmem
    simp at hmem
  refine ⟨⟨⟨⟨rfl, rfl⟩, "default", rfl⟩, ?late, hmissed, hlost⟩, ?blank⟩
  case late =>
    have hclock : (twoRedeemers .standard).ClockAdvances lateMoves :=
      clockAdvances_of_one_turn .standard 0 1 1 0
    refine ⟨hclock, isComplete_of_two rfl rfl, ?_⟩
    intro turns hexplained
    obtain ⟨event, hevent, hreport, hbefore⟩ := hmissed
    exact hlost (hexplained.exists_handedOut (hcontest _) hclock hevent hreport hbefore)
  case blank =>
    refine ⟨clockAdvances_of_one_turn _ 0 1 0 1, isComplete_of_two rfl rfl, ?_⟩
    intro turns hexplained
    have hfailed : ((twoRedeemers ⟨" "⟩).run timelyMoves).history[2]? = some _ := rfl
    rcases hexplained.outcome_cases (hcontest _) (List.mem_of_getElem? hfailed) rfl with
      houtcome | houtcome <;> cases houtcome

end OneTimeCode
