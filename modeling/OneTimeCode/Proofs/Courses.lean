import OneTimeCode.Proofs.RowChanges

/-!
# The courses of redeemings

Redeemings of one code are under way on one ledger.  Each takes the row of the code with
one step and judges what it has taken with a later one.  A moment of a run is what there
is after some of its moves; every redeeming that has answered has made its two steps at
two of these moments, and only the first to begin has taken the row.
-/

namespace OneTimeCode

/-- How far a call has come: it waits, is under way or has finished. -/
def Stage.rank : Stage → Nat
  | .waiting => 0
  | .finished => 2
  | _ => 1

theorem Stage.rank_pos_iff (stage : Stage) : 0 < stage.rank ↔ stage ≠ .waiting := by
  cases stage <;> simp [rank]

theorem Stage.rank_lt_two_iff (stage : Stage) : stage.rank < 2 ↔ stage ≠ .finished := by
  cases stage <;> simp [rank]

/-- The call has made a step and has not answered. -/
def Stage.IsUnderWay (stage : Stage) : Prop :=
  stage.rank = 1

namespace Traffic

/-- What there is after the first moves of a run. -/
def atMoment (first : Traffic) (moves : List Move) (moment : Nat) : Traffic :=
  first.run (moves.take moment)

/-! ## The moments of a run -/

section Moments

variable {traffic first : Traffic} {moves : List Move} {caller moment : Nat}

theorem atMoment_of_length_le (hlength : moves.length ≤ moment) :
    first.atMoment moves moment = first.run moves := by
  rw [atMoment, List.take_of_length_le hlength]

theorem run_append (first : Traffic) (moves more : List Move) :
    first.run (moves ++ more) = (first.run moves).run more :=
  List.foldl_append

theorem atMoment_succ (first : Traffic) (moves : List Move) (moment : Nat) :
    first.atMoment moves (moment + 1) =
      (first.atMoment moves moment).run moves[moment]?.toList := by
  rw [atMoment, List.take_add_one, run_append, atMoment]

/-- Nothing is taken back from a history. -/
theorem mem_history_run {event : Event} (hevent : event ∈ traffic.history)
    (moves : List Move) : event ∈ (traffic.run moves).history := by
  apply run_induction (motive := fun later => event ∈ later.history)
  · intro later reading hkept
    exact hkept
  · intro later caller call progress hkept _
    exact mem_history_advance_iff.2 (Or.inl hkept)
  · exact hevent

theorem mem_history_of_atMoment (moment : Nat) {event : Event}
    (hevent : event ∈ (first.atMoment moves moment).history) :
    event ∈ (first.run moves).history := by
  have hkept := mem_history_run hevent (moves.drop moment)
  rwa [atMoment, ← run_append, List.take_append_drop] at hkept

/-- Only a step of its own brings a call to another stage. -/
theorem exists_allows_of_stages_ne
    (hne : (first.atMoment moves (moment + 1)).stages caller ≠
      (first.atMoment moves moment).stages caller) :
    moves[moment]? = some (.step caller) ∧ ∃ call progress,
      (first.atMoment moves moment).Allows caller call progress ∧
      first.atMoment moves (moment + 1) =
        (first.atMoment moves moment).advance caller call progress := by
  rw [atMoment_succ] at hne ⊢
  cases hmove : moves[moment]? with
  | none => simp [hmove, run] at hne
  | some next =>
      rw [hmove] at hne
      cases next with
      | clock reading => exact absurd rfl hne
      | step mover =>
          change ((first.atMoment moves moment).step mover).stages caller ≠ _ at hne
          change _ ∧ ∃ call progress, _ ∧ (first.atMoment moves moment).step mover = _
          rcases (first.atMoment moves moment).step_eq_self_or_advance mover with
            hself | ⟨call, progress, hallows, hadvance⟩
          · rw [hself] at hne
            exact absurd rfl hne
          · rw [hadvance] at hne
            by_cases hsame : caller = mover
            · subst hsame
              exact ⟨rfl, call, progress, hallows, hadvance⟩
            · exact absurd (stages_advance_of_ne _ hsame call progress) hne

/-- No call goes back to a stage before. -/
theorem rank_le_rank (first : Traffic) (moves : List Move) (caller : Nat)
    {earlier later : Nat} (hle : earlier ≤ later) :
    ((first.atMoment moves earlier).stages caller).rank ≤
      ((first.atMoment moves later).stages caller).rank := by
  induction hle with
  | refl => exact Nat.le_refl _
  | @step moment _ ih =>
      refine Nat.le_trans ih ?_
      by_cases hsame : (first.atMoment moves (moment + 1)).stages caller =
          (first.atMoment moves moment).stages caller
      · exact Nat.le_of_eq (congrArg Stage.rank hsame.symm)
      · obtain ⟨-, call, progress, hallows, hadvance⟩ := exists_allows_of_stages_ne hsame
        have hstarted := (Stage.isRegular_of_resume? hallows.resumes).started
        have hunfinished := Stage.ne_finished_of_resume? hallows.resumes
        rw [← Stage.rank_pos_iff] at hstarted
        rw [← Stage.rank_lt_two_iff] at hunfinished
        rw [hadvance, stages_advance_self]
        omega

/-- The last of some moments at which the call is at a stage. -/
theorem exists_last_moment {stage : Stage} {last : Nat}
    (hstage : (first.atMoment moves moment).stages caller = stage) (hle : moment ≤ last)
    (hlast : (first.atMoment moves last).stages caller ≠ stage) :
    ∃ turning, moment ≤ turning ∧ (first.atMoment moves turning).stages caller = stage ∧
      (first.atMoment moves (turning + 1)).stages caller ≠ stage := by
  induction hle with
  | refl => exact absurd hstage hlast
  | @step previous hle ih =>
      by_cases hprevious : (first.atMoment moves previous).stages caller = stage
      · exact ⟨previous, hle, hprevious, hlast⟩
      · exact ih hprevious

end Moments

/-! ## The steps of redeemings -/

/-- Redeemings of one code, as many as given, before the first of them begins. -/
def redeemers (count : Nat) (key : Key) (table : Table) (now : Instant) : Traffic :=
  ⟨List.replicate count (.redeem (some key.code) key.zone), fun _ => .waiting, now,
    .ready table, []⟩

/-- The calls redeem one code, and its row is there exactly as long as none of them has
begun. -/
structure Contends (traffic : Traffic) (key : Key) (row : Row) : Prop where
  call_eq : ∀ call ∈ traffic.calls, call = .redeem (some key.code) key.zone
  begun_lt : ∀ caller, traffic.stages caller ≠ .waiting → caller < traffic.calls.length
  suits : ∀ caller, (traffic.stages caller).Suits (.redeem (some key.code) key.zone)
  held : ∃ table, traffic.ledger = .ready table ∧
    ((∀ caller, traffic.stages caller = .waiting) ∧ table.find? key = some row ∨
      (∃ caller, traffic.stages caller ≠ .waiting) ∧ table.find? key = none)

variable {traffic : Traffic} {key : Key} {row : Row} {caller : Nat} {call : Call}
  {progress : Progress}

theorem contends_redeemers {table : Table} (hheld : table.find? key = some row)
    (count : Nat) (now : Instant) : (redeemers count key table now).Contends key row where
  call_eq _ hcall := List.eq_of_mem_replicate hcall
  begun_lt _ hbegun := absurd rfl hbegun
  suits _ := .waiting _
  held := ⟨table, rfl, Or.inl ⟨fun _ => rfl, hheld⟩⟩

/-- A redeeming takes what is under its key and then judges what it has taken. -/
theorem Contends.progress_cases (hcontends : traffic.Contends key row)
    (hallows : traffic.Allows caller call progress) :
    (∃ table, traffic.ledger = .ready table ∧ traffic.stages caller = .waiting ∧
      progress = ⟨.answering (table.find? key), .took (table.find? key),
        .ready (table.erase key)⟩) ∨
    ∃ taken, traffic.stages caller = .answering taken ∧
      progress = ⟨.finished,
        .answered ((Ledger.answerRow taken traffic.now).map .redeemed), traffic.ledger⟩ := by
  obtain ⟨hcall, hresumes⟩ := hallows
  obtain rfl := hcontends.call_eq call (List.mem_of_getElem? hcall)
  have hsuits := hcontends.suits caller
  cases hstage : traffic.stages caller with
  | waiting =>
      obtain ⟨table, hready, -⟩ := hcontends.held
      rw [hstage, hready] at hresumes
      cases hresumes
      exact Or.inl ⟨table, hready, rfl, rfl⟩
  | answering taken =>
      rw [hstage] at hresumes
      cases hresumes
      exact Or.inr ⟨taken, rfl, rfl⟩
  | finished =>
      rw [hstage] at hresumes
      cases hresumes
  | _ =>
      rw [hstage] at hsuits
      cases hsuits

theorem Contends.advance (hcontends : traffic.Contends key row)
    (hallows : traffic.Allows caller call progress) :
    (traffic.advance caller call progress).Contends key row := by
  have hstarted := (Stage.isRegular_of_resume? hallows.resumes).started
  have hcaller : caller < traffic.calls.length :=
    (List.getElem?_eq_some_iff.1 hallows.call_eq).1
  refine ⟨hcontends.call_eq, ?begun_lt, ?suits, ?held⟩
  case begun_lt =>
    intro other hother
    by_cases hsame : other = caller
    · rw [hsame]
      exact hcaller
    · rw [stages_advance_of_ne _ hsame] at hother
      exact hcontends.begun_lt other hother
  case suits =>
    intro other
    by_cases hsame : other = caller
    · have hcall := hcontends.call_eq call (List.mem_of_getElem? hallows.call_eq)
      rw [hsame, stages_advance_self]
      exact (hcontends.suits caller).resume (hcall ▸ hallows.resumes)
    · rw [stages_advance_of_ne _ hsame]
      exact hcontends.suits other
  case held =>
    have hbegun : ∃ other, (traffic.advance caller call progress).stages other ≠ .waiting :=
      ⟨caller, by rwa [stages_advance_self]⟩
    rcases hcontends.progress_cases hallows with
      ⟨table, -, -, rfl⟩ | ⟨taken, hstage, rfl⟩
    · exact ⟨_, rfl, Or.inr ⟨hbegun, table.find?_erase_self key⟩⟩
    · obtain ⟨table, hready, ⟨hwaiting, -⟩ | ⟨-, hgone⟩⟩ := hcontends.held
      · simp [hwaiting caller] at hstage
      · exact ⟨table, hready, Or.inr ⟨hbegun, hgone⟩⟩

theorem Contends.run (hcontends : traffic.Contends key row) (moves : List Move) :
    (traffic.run moves).Contends key row := by
  apply run_induction (motive := fun later => later.Contends key row)
  · intro later reading hcontends
    exact ⟨hcontends.call_eq, hcontends.begun_lt, hcontends.suits, hcontends.held⟩
  · intro later caller call progress hcontends hallows
    exact hcontends.advance hallows
  · exact hcontends

/-- A redeeming takes a row with one move and judges it with a later one. -/
structure IsCourse (first : Traffic) (moves : List Move) (key : Key)
    (caller began ended : Nat) (taken : Option Row) : Prop where
  move_eq : moves[began]? = some (.step caller)
  waited : (first.atMoment moves began).stages caller = .waiting
  took : (first.atMoment moves (began + 1)).stages caller = .answering taken
  found : ∃ table, (first.atMoment moves began).ledger = .ready table ∧
    taken = table.find? key
  began_lt : began < ended
  judges : (first.atMoment moves ended).stages caller = .answering taken
  finished : (first.atMoment moves (ended + 1)).stages caller = .finished
  answered : ∃ event ∈ (first.run moves).history, event.caller = caller ∧
    event.now = (first.atMoment moves ended).now ∧
    event.report = .answered ((Ledger.answerRow taken event.now).map .redeemed)

section Courses

variable {first : Traffic} {moves : List Move}

theorem Contends.took_of_begins (hcontends : first.Contends key row) {began : Nat}
    (hwaits : (first.atMoment moves began).stages caller = .waiting)
    (hbegins : (first.atMoment moves (began + 1)).stages caller ≠ .waiting) :
    moves[began]? = some (.step caller) ∧ ∃ table,
      (first.atMoment moves began).ledger = .ready table ∧
      (first.atMoment moves (began + 1)).stages caller = .answering (table.find? key) := by
  have hthere : (first.atMoment moves began).Contends key row := hcontends.run _
  obtain ⟨hmove, call, progress, hallows, hadvance⟩ :=
    exists_allows_of_stages_ne (by rwa [hwaits])
  refine ⟨hmove, ?_⟩
  rcases hthere.progress_cases hallows with ⟨table, hready, -, rfl⟩ | ⟨taken, hstage, -⟩
  · refine ⟨table, hready, ?_⟩
    rw [hadvance, stages_advance_self]
  · simp [hwaits] at hstage

theorem Contends.answered_of_ends (hcontends : first.Contends key row) {ended : Nat}
    {taken : Option Row}
    (hjudges : (first.atMoment moves ended).stages caller = .answering taken)
    (hends : (first.atMoment moves (ended + 1)).stages caller ≠ .answering taken) :
    (first.atMoment moves (ended + 1)).stages caller = .finished ∧
      ∃ event ∈ (first.run moves).history, event.caller = caller ∧
        event.now = (first.atMoment moves ended).now ∧
        event.report = .answered ((Ledger.answerRow taken event.now).map .redeemed) := by
  have hthere : (first.atMoment moves ended).Contends key row := hcontends.run _
  obtain ⟨-, call, progress, hallows, hadvance⟩ :=
    exists_allows_of_stages_ne (by rwa [hjudges])
  rcases hthere.progress_cases hallows with ⟨-, -, hstage, -⟩ | ⟨judged, hstage, hprogress⟩
  · simp [hjudges] at hstage
  · rw [hjudges, Stage.answering.injEq] at hstage
    subst hstage
    constructor
    · rw [hadvance, stages_advance_self, hprogress]
    · refine ⟨(first.atMoment moves ended).nextEvent caller call progress,
        mem_history_of_atMoment (ended + 1) ?_, rfl, rfl, ?_⟩
      · rw [hadvance]
        exact mem_history_advance_iff.2 (Or.inr rfl)
      · rw [nextEvent, hprogress]

/-- Every redeeming that has finished has made both steps. -/
theorem Contends.exists_isCourse (hcontends : first.Contends key row)
    (hwaiting : first.stages caller = .waiting)
    (hfinished : (first.run moves).stages caller = .finished) :
    ∃ began ended taken, first.IsCourse moves key caller began ended taken := by
  have hstart : (first.atMoment moves 0).stages caller = .waiting := hwaiting
  have hend : (first.atMoment moves moves.length).stages caller = .finished := by
    rw [atMoment_of_length_le (Nat.le_refl _), hfinished]
  obtain ⟨began, -, hwaits, hbegins⟩ :=
    exists_last_moment hstart (Nat.zero_le moves.length) (by simp [hend])
  obtain ⟨hmove, table, hready, htook⟩ := hcontends.took_of_begins hwaits hbegins
  have hlast : began + 1 ≤ moves.length := (List.getElem?_eq_some_iff.1 hmove).1
  obtain ⟨ended, hle, hjudges, hends⟩ := exists_last_moment htook hlast (by simp [hend])
  obtain ⟨hdone, hanswered⟩ := hcontends.answered_of_ends hjudges hends
  exact ⟨began, ended, _, hmove, hwaits, htook, ⟨table, hready, rfl⟩, hle, hjudges, hdone,
    hanswered⟩

/-- The only row that a redeeming can take is the one that was there at the start. -/
theorem Contends.taken_cases (hcontends : first.Contends key row) {began ended : Nat}
    {taken : Option Row} (hcourse : first.IsCourse moves key caller began ended taken) :
    taken = none ∨ taken = some row := by
  obtain ⟨table, hready, rfl⟩ := hcourse.found
  have hthere : (first.atMoment moves began).Contends key row := hcontends.run _
  obtain ⟨table', hready', hheld⟩ := hthere.held
  rw [hready, Ledger.ready.injEq] at hready'
  rw [hready']
  rcases hheld with ⟨-, hfound⟩ | ⟨-, hgone⟩
  · exact Or.inr hfound
  · exact Or.inl hgone

/-- A redeeming that begins after another takes nothing. -/
theorem Contends.taken_eq_none (hcontends : first.Contends key row) {began ended other : Nat}
    {taken : Option Row} (hcourse : first.IsCourse moves key caller began ended taken)
    (hbegun : (first.atMoment moves began).stages other ≠ .waiting) : taken = none := by
  obtain ⟨table, hready, rfl⟩ := hcourse.found
  have hthere : (first.atMoment moves began).Contends key row := hcontends.run _
  obtain ⟨table', hready', ⟨hwaiting, -⟩ | ⟨-, hfound⟩⟩ := hthere.held
  · exact absurd (hwaiting other) hbegun
  · rw [hready, Ledger.ready.injEq] at hready'
    rw [hready', hfound]

/-- The answer of a call is the last thing that it does. -/
theorem IsCourse.moment_le_ended {began ended : Nat} {taken : Option Row}
    (hcourse : first.IsCourse moves key caller began ended taken) {moment : Nat}
    (hunderWay : ((first.atMoment moves moment).stages caller).IsUnderWay) :
    moment ≤ ended := by
  apply Nat.le_of_not_lt
  intro hlater
  have hrank := rank_le_rank first moves caller hlater
  rw [Nat.succ_eq_add_one, hcourse.finished, hunderWay] at hrank
  simp [Stage.rank] at hrank

/-- A call has begun at every later moment. -/
theorem IsCourse.begun {began ended : Nat} {taken : Option Row}
    (hcourse : first.IsCourse moves key caller began ended taken) {moment : Nat}
    (hlt : began < moment) : (first.atMoment moves moment).stages caller ≠ .waiting := by
  have hrank := rank_le_rank first moves caller hlt
  rw [Nat.succ_eq_add_one, hcourse.took] at hrank
  rw [← Stage.rank_pos_iff]
  exact Nat.lt_of_lt_of_le Nat.one_pos hrank

/-- The first redeeming to begin leaves nothing to the others. -/
theorem Contends.taken_eq_none_of_first (hcontends : first.Contends key row)
    {leader began ended began' ended' : Nat} {taken taken' : Option Row}
    (hleader : first.IsCourse moves key leader began ended taken)
    (hother : first.IsCourse moves key caller began' ended' taken')
    (hle : began ≤ began') (hne : caller ≠ leader) : taken' = none := by
  have hlt : began < began' := by
    apply Nat.lt_of_le_of_ne hle
    intro hsame
    have hmove := hother.move_eq
    rw [← hsame, hleader.move_eq] at hmove
    cases hmove
    exact hne rfl
  exact hcontends.taken_eq_none hother (hleader.begun hlt)

/-- A call answers once. -/
theorem IsOrderly.answers_unique {event other : Event} (horderly : traffic.IsOrderly)
    (hevent : event ∈ traffic.history) (hother : other ∈ traffic.history)
    (hcaller : event.caller = other.caller) (hanswer : event.report.isAnswer = true)
    (hanswer' : other.report.isAnswer = true) : event = other := by
  obtain ⟨first, hfirst⟩ := List.mem_iff_getElem?.1 hevent
  obtain ⟨second, hsecond⟩ := List.mem_iff_getElem?.1 hother
  obtain rfl := horderly.position_unique hfirst hsecond hcaller (by rw [hanswer, hanswer'])
  rwa [hfirst, Option.some.injEq] at hsecond

/-- A redeeming answers for what it has taken. -/
theorem IsCourse.report_eq (horderly : (first.run moves).IsOrderly) {began ended : Nat}
    {taken : Option Row} (hcourse : first.IsCourse moves key caller began ended taken)
    {event : Event} (hevent : event ∈ (first.run moves).history)
    (hcaller : event.caller = caller) (hanswer : event.report.isAnswer = true) :
    event.now = (first.atMoment moves ended).now ∧
      event.report = .answered ((Ledger.answerRow taken event.now).map .redeemed) := by
  obtain ⟨answered, hmem, hsame, hnow, hreport⟩ := hcourse.answered
  obtain rfl : event = answered := by
    apply horderly.answers_unique hevent hmem
    · rw [hcaller, hsame]
    · exact hanswer
    · rw [hreport]
      rfl
  exact ⟨hnow, hreport⟩

theorem calls_run (traffic : Traffic) (moves : List Move) :
    (traffic.run moves).calls = traffic.calls := by
  apply run_induction (motive := fun later => later.calls = traffic.calls)
  · intro later reading hcalls
    exact hcalls
  · intro later caller call progress hcalls _
    exact hcalls
  · rfl

theorem Contends.caller_lt (hcontends : first.Contends key row)
    (horderly : (first.run moves).IsOrderly) {event : Event}
    (hevent : event ∈ (first.run moves).history) : event.caller < first.calls.length := by
  have hlt := (hcontends.run moves).begun_lt event.caller (horderly.waits event hevent)
  rwa [calls_run] at hlt

end Courses

end Traffic

end OneTimeCode
