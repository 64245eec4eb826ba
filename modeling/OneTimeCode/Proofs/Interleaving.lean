import OneTimeCode.Proofs.CallHistory
import OneTimeCode.Proofs.Journal

/-!
# Calls at the same time

Several calls are under way on one ledger.  Each is cut into steps where it gives
way to others: issuing checks its request and then inserts, redeeming takes the row
and then looks at it, sweeping reads the clock and then deletes.  Steps of different
calls come in any order, and between two steps the clock can be set to anything.
-/

namespace OneTimeCode

/-- How far a call has come, with what it has found out so far. -/
inductive Stage
  | waiting
  | inserting (voucher : Voucher)
  | answering (row : Option Row)
  | sweeping (reading : Instant)
  | finished

/-- What a step of a call has done. -/
inductive Report
  | began
  | took (row : Option Row)
  | answered (outcome : Except Failure Answer)

/-- A step leaves a call at its next stage and the ledger as it is then. -/
structure Progress where
  stage : Stage
  report : Report
  ledger : Ledger

/-- The last step of a call. -/
def Progress.ofConclusion {α : Type} (wrap : α → Answer) (conclusion : Conclusion Ledger α) :
    Progress :=
  ⟨.finished, .answered (conclusion.outcome.map wrap), conclusion.store⟩

/-- The first step of a call. -/
def Call.start (call : Call) (now : Instant) (ledger : Ledger) : Progress :=
  match call with
  | .issue request code =>
    match request.check now with
    | .error fault => ⟨.finished, .answered (.error (.invalidArgument fault)), ledger⟩
    | .ok draft => ⟨.inserting (draft.withCode code), .began, ledger⟩
  | .redeem none _ => ⟨.finished, .answered (.error (.invalidArgument .codeMissing)), ledger⟩
  | .redeem (some code) zone =>
    match ledger.take ⟨zone, code⟩ with
    | .error failure => ⟨.finished, .answered (.error failure), ledger⟩
    | .ok (row, remaining) => ⟨.answering row, .took row, remaining⟩
  | .revoke intent zone => .ofConclusion .removed (ledger.revoke intent zone)
  | .sweep => ⟨.sweeping now, .began, ledger⟩

/-- The next step of a call that is at some stage. -/
def Stage.resume? (stage : Stage) (call : Call) (now : Instant) (ledger : Ledger) :
    Option Progress :=
  match stage with
  | .waiting => some (call.start now ledger)
  | .inserting voucher => some (.ofConclusion .issued (ledger.record voucher))
  | .answering row =>
    some ⟨.finished, .answered ((Ledger.answerRow row now).map .redeemed), ledger⟩
  | .sweeping reading => some (.ofConclusion .removed (ledger.sweep reading))
  | .finished => none

/-- A step that was made, by which call, at which reading, and the ledger around it. -/
structure Event where
  caller : Nat
  call : Call
  now : Instant
  report : Report
  before : Ledger
  after : Ledger

/-- Calls that are under way, and the steps they have made so far. -/
structure Traffic where
  calls : List Call
  stages : Nat → Stage
  now : Instant
  ledger : Ledger
  history : List Event

/-- What can happen next: the clock shows something else, or a call makes a step. -/
inductive Move
  | clock (reading : Instant)
  | step (caller : Nat)

namespace Traffic

/-- No call has made a step and no row has been inserted. -/
def start (calls : List Call) (now : Instant) : Traffic :=
  ⟨calls, fun _ => .waiting, now, .ready .empty, []⟩

def setClock (traffic : Traffic) (reading : Instant) : Traffic :=
  { traffic with now := reading }

def advance (traffic : Traffic) (caller : Nat) (call : Call) (progress : Progress) : Traffic :=
  { traffic with
    stages := fun other => if other = caller then progress.stage else traffic.stages other
    ledger := progress.ledger
    history := traffic.history ++
      [⟨caller, call, traffic.now, progress.report, traffic.ledger, progress.ledger⟩] }

/-- A call makes its next step, if there is such a call and it is not finished. -/
def step (traffic : Traffic) (caller : Nat) : Traffic :=
  match traffic.calls[caller]? with
  | none => traffic
  | some call =>
    match (traffic.stages caller).resume? call traffic.now traffic.ledger with
    | none => traffic
    | some progress => traffic.advance caller call progress

def move (traffic : Traffic) : Move → Traffic
  | .clock reading => traffic.setClock reading
  | .step caller => traffic.step caller

def run (traffic : Traffic) (moves : List Move) : Traffic :=
  moves.foldl move traffic

/-- The call can make this step. -/
structure Allows (traffic : Traffic) (caller : Nat) (call : Call) (progress : Progress) :
    Prop where
  call_eq : traffic.calls[caller]? = some call
  resumes : (traffic.stages caller).resume? call traffic.now traffic.ledger = some progress

theorem step_eq_self_or_advance (traffic : Traffic) (caller : Nat) :
    traffic.step caller = traffic ∨
      ∃ call progress, traffic.Allows caller call progress ∧
        traffic.step caller = traffic.advance caller call progress := by
  cases hcall : traffic.calls[caller]? with
  | none => exact Or.inl (by simp [step, hcall])
  | some call =>
      cases hresume : (traffic.stages caller).resume? call traffic.now traffic.ledger with
      | none => exact Or.inl (by simp [step, hcall, hresume])
      | some progress =>
          refine Or.inr ⟨call, progress, ⟨hcall, hresume⟩, ?_⟩
          simp [step, hcall, hresume]

/-- What holds at the start and is kept by the clock and by every step holds after
every run. -/
theorem run_induction {motive : Traffic → Prop}
    (hclock : ∀ traffic reading, motive traffic → motive (traffic.setClock reading))
    (hadvance : ∀ traffic caller call progress, motive traffic →
      traffic.Allows caller call progress → motive (traffic.advance caller call progress))
    {traffic : Traffic} (hstart : motive traffic) (moves : List Move) :
    motive (traffic.run moves) := by
  induction moves generalizing traffic with
  | nil => exact hstart
  | cons next rest ih =>
      apply ih
      cases next with
      | clock reading => exact hclock traffic reading hstart
      | step caller =>
          rcases traffic.step_eq_self_or_advance caller with
            hself | ⟨call, progress, hallows, hadvanced⟩
          · rw [move, hself]
            exact hstart
          · rw [move, hadvanced]
            exact hadvance traffic caller call progress hstart hallows

end Traffic

/-! ## The steps of one call -/

def Report.isAnswer : Report → Bool
  | .answered _ => true
  | _ => false

/-- A step never leads back to the start, it answers exactly if it is the last one, and
what it took is kept for the answer. -/
structure Progress.IsRegular (progress : Progress) : Prop where
  started : progress.stage ≠ .waiting
  finished_iff : progress.stage = .finished ↔ progress.report.isAnswer = true
  took : ∀ row, progress.stage = .answering row → progress.report = .took row

theorem Progress.isRegular_of_answered {progress : Progress}
    {outcome : Except Failure Answer} (hstage : progress.stage = .finished)
    (hreport : progress.report = .answered outcome) : progress.IsRegular := by
  refine ⟨?_, ?_, ?_⟩
  · rw [hstage]
    exact Stage.noConfusion
  · rw [hstage, hreport]
    exact ⟨fun _ => rfl, fun _ => rfl⟩
  · intro row hrow
    rw [hstage] at hrow
    cases hrow

/-- What the last step of a call answers is what the store has concluded. -/
theorem Progress.outcome_of_ofConclusion {α : Type} {wrap : α → Answer}
    {conclusion : Conclusion Ledger α} {answer : Answer}
    (hreport : (ofConclusion wrap conclusion).report = .answered (.ok answer)) :
    ∃ value, conclusion.outcome = .ok value ∧ wrap value = answer := by
  rw [ofConclusion, Report.answered.injEq] at hreport
  cases houtcome : conclusion.outcome with
  | error failure =>
      rw [houtcome] at hreport
      cases hreport
  | ok value =>
      rw [houtcome] at hreport
      cases hreport
      exact ⟨value, rfl, rfl⟩

theorem Call.isRegular_start (call : Call) (now : Instant) (ledger : Ledger) :
    (call.start now ledger).IsRegular := by
  cases call with
  | issue request code =>
      rw [start]
      cases request.check now with
      | error fault => exact Progress.isRegular_of_answered rfl rfl
      | ok draft => exact ⟨nofun, by simp [Report.isAnswer], nofun⟩
  | redeem code zone =>
      cases code with
      | none => exact Progress.isRegular_of_answered rfl rfl
      | some code =>
          rw [start]
          cases ledger.take ⟨zone, code⟩ with
          | error failure => exact Progress.isRegular_of_answered rfl rfl
          | ok taken =>
              refine ⟨nofun, by simp [Report.isAnswer], ?_⟩
              intro row hrow
              cases hrow
              rfl
  | revoke intent zone => exact Progress.isRegular_of_answered rfl rfl
  | sweep => exact ⟨nofun, by simp [start, Report.isAnswer], nofun⟩

namespace Stage

variable {stage : Stage} {call : Call} {now : Instant} {ledger : Ledger} {progress : Progress}

theorem isRegular_of_resume? (hresumes : stage.resume? call now ledger = some progress) :
    progress.IsRegular := by
  cases stage with
  | waiting =>
      cases hresumes
      exact call.isRegular_start now ledger
  | finished => cases hresumes
  | _ =>
      cases hresumes
      exact Progress.isRegular_of_answered rfl rfl

/-- The second step of a call is its last. -/
theorem isAnswer_of_resume? (hresumes : stage.resume? call now ledger = some progress)
    (hstarted : stage ≠ .waiting) : progress.report.isAnswer = true := by
  cases stage with
  | waiting => exact absurd rfl hstarted
  | finished => cases hresumes
  | _ =>
      cases hresumes
      rfl

theorem ne_finished_of_resume? (hresumes : stage.resume? call now ledger = some progress) :
    stage ≠ .finished := by
  rintro rfl
  cases hresumes

/-- A voucher is answered for the row that was taken before. -/
theorem answering_of_resume? {voucher : Voucher}
    (hresumes : stage.resume? call now ledger = some progress)
    (hreport : progress.report = .answered (.ok (.redeemed (some voucher)))) :
    ∃ row, stage = .answering (some row) ∧ row.toVoucher = .ok voucher := by
  cases stage with
  | waiting =>
      exfalso
      cases hresumes
      cases call with
      | issue request code =>
          rw [Call.start] at hreport
          cases hcheck : request.check now <;> simp [hcheck] at hreport
      | redeem code zone =>
          cases code with
          | none => simp [Call.start] at hreport
          | some code =>
              rw [Call.start] at hreport
              cases htake : ledger.take ⟨zone, code⟩ <;> simp [htake] at hreport
      | revoke intent zone =>
          obtain ⟨count, -, hanswer⟩ := Progress.outcome_of_ofConclusion hreport
          cases hanswer
      | sweep => cases hreport
  | inserting inserted =>
      cases hresumes
      obtain ⟨issued, -, hanswer⟩ := Progress.outcome_of_ofConclusion hreport
      cases hanswer
  | answering row =>
      cases hresumes
      simp only [Report.answered.injEq] at hreport
      cases hanswer : Ledger.answerRow row now with
      | error failure => simp [hanswer, Except.map] at hreport
      | ok answer =>
          simp only [hanswer, Except.map, Except.ok.injEq, Answer.redeemed.injEq] at hreport
          subst hreport
          obtain ⟨taken, rfl, hread⟩ := Ledger.toVoucher_of_answerRow hanswer
          exact ⟨taken, rfl, hread⟩
  | sweeping reading =>
      cases hresumes
      obtain ⟨count, -, hanswer⟩ := Progress.outcome_of_ofConclusion hreport
      cases hanswer
  | finished => cases hresumes

end Stage

/-- A call that no other one interrupts does what the store does at once: it answers
with its first step or, at the same reading, with its second. -/
theorem Call.perform_eq_steps (call : Call) (now : Instant) (ledger : Ledger) :
    ∃ last : Progress,
      (call.start now ledger = last ∨
        (call.start now ledger).stage.resume? call now (call.start now ledger).ledger =
          some last) ∧
      last.stage = .finished ∧
      last.report = .answered ((Store.ledger ledger).perform now call).outcome ∧
      ((Store.ledger ledger).perform now call).store = .ledger last.ledger := by
  cases call with
  | issue request code =>
      cases hcheck : request.check now with
      | error fault =>
          refine ⟨_, Or.inl rfl, ?_⟩
          simp [start, hcheck, Store.perform, Store.issue_of_check_error _ hcheck, Reply.refuse,
            Conclusion.refuse, Reply.answering, Except.map]
      | ok draft =>
          refine ⟨.ofConclusion .issued (ledger.record (draft.withCode code)), Or.inr ?_, ?_⟩
          · simp [start, hcheck, Stage.resume?]
          · simp [Progress.ofConclusion, Store.perform, Store.issue_of_check_ok _ hcheck,
              Store.put, Conclusion.map, Reply.answering]
  | redeem code zone =>
      cases code with
      | none => exact ⟨_, Or.inl rfl, rfl, rfl, rfl⟩
      | some code =>
          cases htake : ledger.take ⟨zone, code⟩ with
          | error failure =>
              refine ⟨_, Or.inl rfl, ?_⟩
              simp [start, htake, Store.perform, Store.redeem, Ledger.redeem, Conclusion.refuse,
                Conclusion.map, Reply.answering, Except.map]
          | ok taken =>
              refine ⟨⟨.finished, .answered ((Ledger.answerRow taken.1 now).map .redeemed),
                taken.2⟩, Or.inr ?_, ?_⟩
              · simp [start, htake, Stage.resume?]
              · simp [htake, Store.perform, Store.redeem, Ledger.redeem, Conclusion.map,
                  Reply.answering]
  | revoke intent zone => exact ⟨_, Or.inl rfl, rfl, rfl, rfl⟩
  | sweep => exact ⟨_, Or.inr rfl, rfl, rfl, rfl⟩

namespace Traffic

/-- The steps that each call has made fit the stage it has reached: there is none
before it starts, at most one comes before the answer, and none comes after. -/
structure IsOrderly (traffic : Traffic) : Prop where
  waits : ∀ event ∈ traffic.history, traffic.stages event.caller ≠ .waiting
  finishes : ∀ event ∈ traffic.history, event.report.isAnswer = true →
    traffic.stages event.caller = .finished
  took : ∀ caller row, traffic.stages caller = .answering row →
    ∃ (position : Nat) (taking : Event), traffic.history[position]? = some taking ∧
      taking.caller = caller ∧ taking.report = .took row
  ordered : ∀ (earlier later : Nat) (first second : Event), earlier < later →
    traffic.history[earlier]? = some first → traffic.history[later]? = some second →
    first.caller = second.caller →
    first.report.isAnswer = false ∧ second.report.isAnswer = true
  answers : ∀ (position : Nat) (answering : Event) (voucher : Voucher),
    traffic.history[position]? = some answering →
    answering.report = .answered (.ok (.redeemed (some voucher))) →
    ∃ (earlier : Nat) (taking : Event) (row : Row), earlier < position ∧
      traffic.history[earlier]? = some taking ∧ taking.caller = answering.caller ∧
      taking.report = .took (some row) ∧ row.toVoucher = .ok voucher

variable {traffic : Traffic} {caller : Nat} {call : Call} {progress : Progress}

theorem stages_advance_self (traffic : Traffic) (caller : Nat) (call : Call)
    (progress : Progress) :
    (traffic.advance caller call progress).stages caller = progress.stage :=
  if_pos rfl

theorem stages_advance_of_ne (traffic : Traffic) {caller other : Nat} (hne : other ≠ caller)
    (call : Call) (progress : Progress) :
    (traffic.advance caller call progress).stages other = traffic.stages other :=
  if_neg hne

/-- The step that is made. -/
def nextEvent (traffic : Traffic) (caller : Nat) (call : Call) (progress : Progress) : Event :=
  ⟨caller, call, traffic.now, progress.report, traffic.ledger, progress.ledger⟩

theorem history_advance (traffic : Traffic) (caller : Nat) (call : Call)
    (progress : Progress) :
    (traffic.advance caller call progress).history =
      traffic.history ++ [traffic.nextEvent caller call progress] := rfl

theorem mem_history_advance_iff {event : Event} :
    event ∈ (traffic.advance caller call progress).history ↔
      event ∈ traffic.history ∨ event = traffic.nextEvent caller call progress := by
  rw [history_advance, List.mem_append, List.mem_singleton]

/-- Only the calls that have not answered can make a step. -/
theorem IsOrderly.not_isAnswer (horderly : traffic.IsOrderly)
    (hallows : traffic.Allows caller call progress) {event : Event}
    (hevent : event ∈ traffic.history) (hcaller : event.caller = caller) :
    event.report.isAnswer = false := by
  rw [← Bool.not_eq_true]
  intro hanswer
  have hfinished := horderly.finishes event hevent hanswer
  rw [hcaller] at hfinished
  exact Stage.ne_finished_of_resume? hallows.resumes hfinished

theorem isOrderly_of_idle (hwaiting : ∀ caller, traffic.stages caller = .waiting)
    (hhistory : traffic.history = []) : traffic.IsOrderly where
  waits _ hevent := by simp [hhistory] at hevent
  finishes _ hevent := by simp [hhistory] at hevent
  took caller _ hstage := by simp [hwaiting caller] at hstage
  ordered _ _ _ _ _ hfirst := by simp [hhistory] at hfirst
  answers _ _ _ hanswering := by simp [hhistory] at hanswering

theorem IsOrderly.advance (horderly : traffic.IsOrderly)
    (hallows : traffic.Allows caller call progress) :
    (traffic.advance caller call progress).IsOrderly := by
  have hregular := Stage.isRegular_of_resume? hallows.resumes
  refine ⟨?waits, ?finishes, ?took, ?ordered, ?answers⟩
  case waits =>
    intro event hevent
    by_cases hcaller : event.caller = caller
    · rw [hcaller, stages_advance_self]
      exact hregular.started
    · rw [stages_advance_of_ne _ hcaller]
      rcases mem_history_advance_iff.1 hevent with hold | rfl
      · exact horderly.waits event hold
      · exact absurd rfl hcaller
  case finishes =>
    intro event hevent hanswer
    rcases mem_history_advance_iff.1 hevent with hold | rfl
    · by_cases hcaller : event.caller = caller
      · rw [horderly.not_isAnswer hallows hold hcaller] at hanswer
        cases hanswer
      · rw [stages_advance_of_ne _ hcaller]
        exact horderly.finishes event hold hanswer
    · rw [nextEvent, stages_advance_self]
      exact hregular.finished_iff.2 hanswer
  case took =>
    intro other row hstage
    by_cases hcaller : other = caller
    · rw [hcaller, stages_advance_self] at hstage
      refine ⟨traffic.history.length, traffic.nextEvent caller call progress, ?_, ?_, ?_⟩
      · exact getElem?_append_singleton_iff.2 (Or.inr ⟨rfl, rfl⟩)
      · exact hcaller.symm
      · exact hregular.took row hstage
    · rw [stages_advance_of_ne _ hcaller] at hstage
      obtain ⟨position, taking, htaking, hsame, hreport⟩ := horderly.took other row hstage
      exact ⟨position, taking, getElem?_append_singleton_iff.2 (Or.inl htaking), hsame,
        hreport⟩
  case ordered =>
    intro earlier later first second hlt hfirst hsecond hsame
    rcases getElem?_append_singleton_iff.1 hsecond with hsecond | ⟨rfl, rfl⟩
    · rcases getElem?_append_singleton_iff.1 hfirst with hfirst | ⟨rfl, -⟩
      · exact horderly.ordered earlier later first second hlt hfirst hsecond hsame
      · obtain ⟨hbound, -⟩ := List.getElem?_eq_some_iff.1 hsecond
        omega
    · -- The caller has made a step before, so the new one is its second.
      rcases getElem?_append_singleton_iff.1 hfirst with hfirst | ⟨rfl, -⟩
      · have hmem := List.mem_of_getElem? hfirst
        have hstarted := horderly.waits first hmem
        rw [hsame] at hstarted
        exact ⟨horderly.not_isAnswer hallows hmem hsame,
          Stage.isAnswer_of_resume? hallows.resumes hstarted⟩
      · omega
  case answers =>
    intro position answering voucher hanswering hreport
    rcases getElem?_append_singleton_iff.1 hanswering with hold | ⟨rfl, rfl⟩
    · obtain ⟨earlier, taking, row, hlt, htaking, hrest⟩ :=
        horderly.answers position answering voucher hold hreport
      exact ⟨earlier, taking, row, hlt, getElem?_append_singleton_iff.2 (Or.inl htaking),
        hrest⟩
    · obtain ⟨row, hstage, hread⟩ := Stage.answering_of_resume? hallows.resumes hreport
      obtain ⟨earlier, taking, htaking, hcaller, htook⟩ := horderly.took caller _ hstage
      obtain ⟨hlt, -⟩ := List.getElem?_eq_some_iff.1 htaking
      exact ⟨earlier, taking, row, hlt, getElem?_append_singleton_iff.2 (Or.inl htaking),
        hcaller, htook, hread⟩

/-- A call answers at most once, and it makes at most one step before. -/
theorem IsOrderly.position_unique (horderly : traffic.IsOrderly) {first second : Nat}
    {event other : Event} (hevent : traffic.history[first]? = some event)
    (hother : traffic.history[second]? = some other) (hcaller : event.caller = other.caller)
    (hkind : event.report.isAnswer = other.report.isAnswer) : first = second := by
  rcases Nat.lt_trichotomy first second with hlt | heq | hgt
  · obtain ⟨hfirst, hsecond⟩ := horderly.ordered _ _ _ _ hlt hevent hother hcaller
    rw [hfirst, hsecond] at hkind
    cases hkind
  · exact heq
  · obtain ⟨hsecond, hfirst⟩ := horderly.ordered _ _ _ _ hgt hother hevent hcaller.symm
    rw [hfirst, hsecond] at hkind
    cases hkind

/-- Every call keeps to its steps in every run. -/
theorem IsOrderly.run (horderly : traffic.IsOrderly) (moves : List Move) :
    (traffic.run moves).IsOrderly := by
  apply run_induction
  · intro traffic reading horderly
    exact ⟨horderly.waits, horderly.finishes, horderly.took, horderly.ordered,
      horderly.answers⟩
  · intro traffic caller call progress horderly hallows
    exact horderly.advance hallows
  · exact horderly

theorem isOrderly_run (calls : List Call) (now : Instant) (moves : List Move) :
    ((start calls now).run moves).IsOrderly :=
  (isOrderly_of_idle (fun _ => rfl) rfl).run moves

end Traffic

end OneTimeCode
