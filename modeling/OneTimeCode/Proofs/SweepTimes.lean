import OneTimeCode.Proofs.SchedulerTurns

/-!
# When sweeps begin and when a run ends

From one sweep to the next at least an interval passes, less the tolerance, and no more
than an interval unless the first of them takes longer.  A run goes on through sweeps of
every outcome: it misses no tick that comes before shutdown, and it ends at shutdown, or at
the end of the sweep that shutdown falls into.
-/

namespace OneTimeCode.Scheduler

/-- A tick that is not early puts the next one off by an interval, less how late it was if
that is tolerated. -/
theorem nextDue_bounds (interval : Interval) {due taken : Nat} (hdue : due ≤ taken) :
    taken + interval.millis ≤ nextDue interval due taken + tolerance ∧
      nextDue interval due taken ≤ taken + interval.millis := by
  unfold nextDue
  split <;> omega

theorem nextDue_of_prompt (interval : Interval) (due : Nat) :
    nextDue interval due due = due + interval.millis := by
  unfold nextDue
  split <;> rfl

namespace State

theorem due_le_tickAt (state : State) : state.due ≤ state.tickAt :=
  Nat.le_max_right _ _

theorem now_next_le_tickAt (interval : Interval) (state : State) (took : Nat) :
    state.tickAt + took ≤ (state.next interval took).tickAt :=
  Nat.le_max_left _ _

/-- How far apart two ticks are that follow each other. -/
theorem tickAt_next_bounds (interval : Interval) (state : State) (took : Nat) :
    state.tickAt + max (interval.millis - tolerance) took ≤
        (state.next interval took).tickAt ∧
      (state.next interval took).tickAt ≤ state.tickAt + max interval.millis took := by
  obtain ⟨hearliest, hlatest⟩ := nextDue_bounds interval state.due_le_tickAt
  have htick : (state.next interval took).tickAt =
      max (state.tickAt + took) (nextDue interval state.due state.tickAt) := rfl
  omega

end State

/-- Ticks come in the order of their turns. -/
theorem tickAt_stateFrom_le (interval : Interval) (state : State) (sweeps : List Sweep)
    {earlier turn : Nat} (hle : earlier ≤ turn) :
    (stateFrom interval state sweeps earlier).tickAt ≤
      (stateFrom interval state sweeps turn).tickAt := by
  induction hle with
  | refl => exact Nat.le_refl _
  | step _ ih =>
      apply Nat.le_trans ih
      exact Nat.le_trans (Nat.le_add_right _ _) (State.now_next_le_tickAt _ _ _)

/-- As long as no sweep takes longer than the interval, every tick is due at a multiple of
it and is waited for. -/
theorem stateFrom_initial_of_took_le (interval : Interval) (sweeps : List Sweep) {turn : Nat}
    (htook : ∀ earlier < turn, (sweepAt sweeps earlier).took ≤ interval.millis) :
    (stateFrom interval .initial sweeps turn).due = turn * interval.millis ∧
      (stateFrom interval .initial sweeps turn).now ≤ turn * interval.millis := by
  induction turn with
  | zero => exact ⟨(Nat.zero_mul _).symm, Nat.zero_le _⟩
  | succ turn ih =>
      obtain ⟨hdue, hnow⟩ := ih fun earlier hearlier => htook earlier (Nat.lt_succ_of_lt hearlier)
      have htick : (stateFrom interval .initial sweeps turn).tickAt = turn * interval.millis := by
        rw [State.tickAt, hdue, Nat.max_eq_right hnow]
      have htaken := htook turn (Nat.lt_succ_self turn)
      rw [stateFrom, State.next, htick, hdue, nextDue_of_prompt, Nat.succ_mul]
      exact ⟨rfl, Nat.add_le_add_left htaken _⟩

/-- The first sweep of a run begins at once.  From the beginning of each sweep to that of
the next one at least the interval passes, less the tolerance, and at least the duration of
the sweep, and at most the longer of interval and duration.  Until a sweep takes longer than
the interval, sweeps begin at its multiples. -/
theorem sweeps_spaced (interval : Interval) (shutdownAt : Nat) (ties : Nat → Signal)
    (sweeps : List Sweep) :
    (∀ turn start sweep,
      (run interval shutdownAt ties sweeps).sweeps[turn]? = some (start, sweep) →
      sweep = sweepAt sweeps turn) ∧
    (∀ start sweep,
      (run interval shutdownAt ties sweeps).sweeps[0]? = some (start, sweep) → start = 0) ∧
    (∀ turn start sweep following later,
      (run interval shutdownAt ties sweeps).sweeps[turn]? = some (start, sweep) →
      (run interval shutdownAt ties sweeps).sweeps[turn + 1]? = some (following, later) →
      start + max (interval.millis - tolerance) sweep.took ≤ following ∧
        following ≤ start + max interval.millis sweep.took) ∧
    ∀ turn start sweep,
      (run interval shutdownAt ties sweeps).sweeps[turn]? = some (start, sweep) →
      (∀ earlier < turn, (sweepAt sweeps earlier).took ≤ interval.millis) →
      start = turn * interval.millis := by
  have hturns := hasTurns_run interval shutdownAt ties sweeps
  refine ⟨?sweeps, ?first, ?spaced, ?multiples⟩
  case sweeps =>
    intro turn start sweep hsweep
    obtain ⟨-, -, rfl⟩ := (hturns.getElem?_eq_some_iff _ _ _).1 hsweep
    rfl
  case first =>
    intro start sweep hsweep
    obtain ⟨-, rfl, -⟩ := (hturns.getElem?_eq_some_iff _ _ _).1 hsweep
    rfl
  case spaced =>
    intro turn start sweep following later hsweep hlater
    obtain ⟨-, rfl, rfl⟩ := (hturns.getElem?_eq_some_iff _ _ _).1 hsweep
    obtain ⟨-, rfl, -⟩ := (hturns.getElem?_eq_some_iff _ _ _).1 hlater
    exact State.tickAt_next_bounds _ _ _
  case multiples =>
    intro turn start sweep hsweep htook
    obtain ⟨-, rfl, -⟩ := (hturns.getElem?_eq_some_iff _ _ _).1 hsweep
    obtain ⟨hdue, hnow⟩ := stateFrom_initial_of_took_le interval sweeps htook
    rw [State.tickAt, hdue, Nat.max_eq_right hnow]

/-- A short sweep, one that takes longer than an interval of ten, and one more. -/
def overrunningSweeps : List Sweep :=
  [⟨3, .ok 1⟩, ⟨25, .ok 0⟩, ⟨4, .ok 2⟩]

theorem sweeps_spaced_of_overrunningSweeps :
    (run ⟨10, by decide⟩ 100 (fun _ => .tick) overrunningSweeps).sweeps[1]? =
        some (10, ⟨25, .ok 0⟩) ∧
      (run ⟨10, by decide⟩ 100 (fun _ => .tick) overrunningSweeps).sweeps[2]? =
        some (35, ⟨4, .ok 2⟩) ∧
      10 + max (10 - tolerance) 25 ≤ 35 ∧ 35 ≤ 10 + max 10 25 := by
  obtain ⟨-, -, hspaced, -⟩ :=
    sweeps_spaced ⟨10, by decide⟩ 100 (fun _ => .tick) overrunningSweeps
  exact ⟨rfl, rfl, hspaced 1 _ _ _ _ rfl rfl⟩

/-! ## The end of a run -/

/-- When the last sweep of a run is over; a run without sweeps has nothing to wait for. -/
def Run.lastEnd (run : Run) : Nat :=
  (run.sweeps.getLast?.map fun entry => entry.1 + entry.2.took).getD 0

namespace Run.HasTurns

variable {interval : Interval} {shutdownAt : Nat} {ties : Nat → Signal}
  {sweeps : List Sweep} {run : Run} {count : Nat}
variable (hturns : run.HasTurns interval shutdownAt ties .initial sweeps count)

include hturns

/-- The last turn begins when the last sweep is over. -/
theorem lastEnd_eq : run.lastEnd = (stateFrom interval .initial sweeps count).now := by
  rw [lastEnd, hturns.sweeps_eq]
  cases count with
  | zero => rfl
  | succ count =>
      rw [List.range_succ, List.map_append, List.map_singleton, List.getLast?_concat]
      rfl

/-- The tick of a turn before shutdown is not missed. -/
theorem lt_count_of_tickAt_lt {turn : Nat} (hturn : turn ≤ count)
    (hbefore : (stateFrom interval .initial sweeps turn).tickAt < shutdownAt) :
    turn < count := by
  apply Nat.lt_of_le_of_ne hturn
  rintro rfl
  have hstop := hturns.stops
  rw [State.signal_eq_tick_iff.2 (Or.inl hbefore)] at hstop
  cases hstop

/-- No sweep is cut short by the end of the run. -/
theorem end_le_stoppedAt {turn : Nat} (hturn : turn < count) :
    (stateFrom interval .initial sweeps turn).tickAt + (sweepAt sweeps turn).took ≤
      run.stoppedAt := by
  cases count with
  | zero => exact absurd hturn (Nat.not_lt_zero turn)
  | succ last =>
      rw [hturns.stoppedAt_eq]
      apply Nat.le_trans _ (Nat.le_max_left _ _)
      rcases Nat.lt_succ_iff_lt_or_eq.1 hturn with hlt | rfl
      · calc (stateFrom interval .initial sweeps turn).tickAt + (sweepAt sweeps turn).took
            ≤ (stateFrom interval .initial sweeps (turn + 1)).tickAt :=
              State.now_next_le_tickAt _ _ _
          _ ≤ (stateFrom interval .initial sweeps last).tickAt :=
              tickAt_stateFrom_le _ _ _ hlt
          _ ≤ (stateFrom interval .initial sweeps (last + 1)).now :=
              Nat.le_add_right _ _
      · exact Nat.le_refl _

end Run.HasTurns

/-- A run attends to ticks until it attends to shutdown, once, and it stops at shutdown or
at the end of its last sweep, whichever is later.  A tick that can be attended to before
shutdown runs its sweep to the end.  How sweeps come out changes no time. -/
theorem runs_until_shutdown (interval : Interval) (shutdownAt : Nat) (ties : Nat → Signal)
    (sweeps : List Sweep) :
    (∀ turn ≤ (run interval shutdownAt ties sweeps).sweeps.length,
      (stateFrom interval .initial sweeps turn).signal shutdownAt (ties turn) = .shutdown ↔
        turn = (run interval shutdownAt ties sweeps).sweeps.length) ∧
    (run interval shutdownAt ties sweeps).stoppedAt =
      max shutdownAt (run interval shutdownAt ties sweeps).lastEnd ∧
    (∀ turn ≤ (run interval shutdownAt ties sweeps).sweeps.length,
      (stateFrom interval .initial sweeps turn).tickAt < shutdownAt →
      (run interval shutdownAt ties sweeps).sweeps[turn]? =
          some ((stateFrom interval .initial sweeps turn).tickAt, sweepAt sweeps turn) ∧
        (stateFrom interval .initial sweeps turn).tickAt + (sweepAt sweeps turn).took ≤
          (run interval shutdownAt ties sweeps).stoppedAt ∧
        ∀ following later,
          (run interval shutdownAt ties sweeps).sweeps[turn + 1]? = some (following, later) →
          (stateFrom interval .initial sweeps turn).tickAt + (sweepAt sweeps turn).took ≤
            following) ∧
    ∀ others : List Sweep, others.map Sweep.took = sweeps.map Sweep.took →
      (run interval shutdownAt ties others).sweeps.map Prod.fst =
          (run interval shutdownAt ties sweeps).sweeps.map Prod.fst ∧
        (run interval shutdownAt ties others).stoppedAt =
          (run interval shutdownAt ties sweeps).stoppedAt := by
  have hturns := hasTurns_run interval shutdownAt ties sweeps
  refine ⟨?stops, ?stoppedAt, ?ticks, ?outcomes⟩
  case stops =>
    intro turn hturn
    constructor
    · intro hstop
      apply Nat.le_antisymm hturn
      apply Nat.le_of_not_lt
      intro hlt
      rw [hturns.ticks turn hlt] at hstop
      cases hstop
    · intro hlast
      rw [hlast]
      exact hturns.stops
  case stoppedAt =>
    rw [hturns.stoppedAt_eq, hturns.lastEnd_eq, Nat.max_comm]
  case ticks =>
    intro turn hturn hbefore
    have hlt := hturns.lt_count_of_tickAt_lt hturn hbefore
    refine ⟨(hturns.getElem?_eq_some_iff _ _ _).2 ⟨hlt, rfl, rfl⟩,
      hturns.end_le_stoppedAt hlt, ?_⟩
    intro following later hlater
    obtain ⟨-, rfl, -⟩ := (hturns.getElem?_eq_some_iff _ _ _).1 hlater
    exact State.now_next_le_tickAt _ _ _
  case outcomes =>
    intro others htook
    have hothers := hasTurns_run interval shutdownAt ties others
    have hstates := stateFrom_congr interval .initial htook
    have hcount := hturns.count_congr hothers htook
    constructor
    · rw [hothers.starts_eq, hturns.starts_eq, hcount]
      simp only [hstates]
    · rw [hothers.stoppedAt_eq, hturns.stoppedAt_eq, hcount, hstates]

theorem runs_until_shutdown_within_sweep :
    (run ⟨10, by decide⟩ 20 (fun _ => .shutdown) overrunningSweeps).sweeps[1]? =
        some (10, ⟨25, .ok 0⟩) ∧
      (run ⟨10, by decide⟩ 20 (fun _ => .shutdown) overrunningSweeps).stoppedAt = 35 := by
  obtain ⟨-, hstoppedAt, hticks, -⟩ :=
    runs_until_shutdown ⟨10, by decide⟩ 20 (fun _ => .shutdown) overrunningSweeps
  obtain ⟨hsweep, -⟩ := hticks 1 (by decide) (by decide)
  exact ⟨hsweep, hstoppedAt⟩

end OneTimeCode.Scheduler
