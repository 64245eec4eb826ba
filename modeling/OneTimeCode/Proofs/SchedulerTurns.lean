import OneTimeCode.Scheduler
import Mathlib.Order.Nat

/-!
# The turns of a scheduler

A run takes finitely many turns.  Each of them but the last attends to a tick and sweeps,
and the last one attends to shutdown.  As long as ticks are attended to, the time before a
turn and the time at which its tick is due depend on the durations of the sweeps before it
and on nothing else.
-/

namespace OneTimeCode.Scheduler

/-- The sweep of a turn.  Those beyond the ones given find nothing at once. -/
def sweepAt (sweeps : List Sweep) (turn : Nat) : Sweep :=
  sweeps[turn]?.getD Sweep.idle

theorem sweepAt_tail (sweeps : List Sweep) (turn : Nat) :
    sweepAt sweeps.tail turn = sweepAt sweeps (turn + 1) := by
  rw [sweepAt, sweepAt, List.getElem?_tail]

/-- Sweeps of the same durations take the same time on every turn. -/
theorem took_sweepAt_congr {sweeps others : List Sweep}
    (htook : others.map Sweep.took = sweeps.map Sweep.took) (turn : Nat) :
    (sweepAt others turn).took = (sweepAt sweeps turn).took := by
  have hturn : others[turn]?.map Sweep.took = sweeps[turn]?.map Sweep.took := by
    rw [← List.getElem?_map, htook, List.getElem?_map]
  rw [sweepAt, sweepAt, ← Option.getD_map Sweep.took, hturn, Option.getD_map]

namespace State

/-- The time at which the next tick is due and no sweep is running. -/
def tickAt (state : State) : Nat :=
  max state.now state.due

/-- The state after a sweep that began with the tick. -/
def next (interval : Interval) (state : State) (took : Nat) : State :=
  ⟨state.tickAt + took, nextDue interval state.due state.tickAt⟩

variable {state : State} {shutdownAt : Nat} {tie : Signal}

/-- A tick is attended to if it comes before shutdown, and on a tie that it wins. -/
theorem signal_eq_tick_iff :
    state.signal shutdownAt tie = .tick ↔
      state.tickAt < shutdownAt ∨ state.due ≤ max state.now shutdownAt ∧ tie = .tick := by
  unfold signal wake tickAt
  split
  · split
    · next hdue =>
      constructor
      · intro htie
        exact Or.inr ⟨by omega, htie⟩
      · rintro (hbefore | ⟨-, htie⟩)
        · omega
        · exact htie
    · simp only [reduceCtorEq, false_iff]
      omega
  · simp only [true_iff]
    omega

theorem wake_of_tick (htick : state.signal shutdownAt tie = .tick) :
    state.wake shutdownAt = state.tickAt := by
  have hdue := due_le_wake_of_signal_eq_tick htick
  unfold wake tickAt at *
  omega

theorem wake_of_shutdown (hstop : state.signal shutdownAt tie = .shutdown) :
    state.wake shutdownAt = max state.now shutdownAt := by
  have hnot : ¬ state.tickAt < shutdownAt := by
    intro hbefore
    rw [signal_eq_tick_iff.2 (Or.inl hbefore)] at hstop
    cases hstop
  unfold wake tickAt at *
  omega

theorem afterSweep_of_tick (htick : state.signal shutdownAt tie = .tick)
    (interval : Interval) (sweep : Sweep) :
    state.afterSweep interval shutdownAt sweep = state.next interval sweep.took := by
  rw [afterSweep, next, wake_of_tick htick]

end State

/-- The state before a turn, if every turn since the given state has gone to a tick. -/
def stateFrom (interval : Interval) (state : State) (sweeps : List Sweep) : Nat → State
  | 0 => state
  | turn + 1 =>
    (stateFrom interval state sweeps turn).next interval (sweepAt sweeps turn).took

theorem stateFrom_tail (interval : Interval) (state : State) (sweeps : List Sweep)
    (turn : Nat) :
    stateFrom interval (state.next interval (sweepAt sweeps 0).took) sweeps.tail turn =
      stateFrom interval state sweeps (turn + 1) := by
  induction turn with
  | zero => rfl
  | succ turn ih =>
      rw [stateFrom, ih, sweepAt_tail]
      rfl

theorem stateFrom_congr (interval : Interval) (state : State) {sweeps others : List Sweep}
    (htook : others.map Sweep.took = sweeps.map Sweep.took) (turn : Nat) :
    stateFrom interval state others turn = stateFrom interval state sweeps turn := by
  induction turn with
  | zero => rfl
  | succ turn ih => rw [stateFrom, stateFrom, ih, took_sweepAt_congr htook]

/-- The run attends to a tick on each of `count` turns and then to shutdown. -/
structure Run.HasTurns (interval : Interval) (shutdownAt : Nat) (ties : Nat → Signal)
    (state : State) (sweeps : List Sweep) (run : Run) (count : Nat) : Prop where
  ticks : ∀ turn < count,
    (stateFrom interval state sweeps turn).signal shutdownAt (ties turn) = .tick
  stops : (stateFrom interval state sweeps count).signal shutdownAt (ties count) = .shutdown
  sweeps_eq : run.sweeps = (List.range count).map fun turn =>
    ((stateFrom interval state sweeps turn).tickAt, sweepAt sweeps turn)
  stoppedAt_eq : run.stoppedAt = max (stateFrom interval state sweeps count).now shutdownAt

section Turns

variable {interval : Interval} {shutdownAt : Nat} {ties : Nat → Signal} {state : State}
  {sweeps : List Sweep} {run : Run} {count : Nat}

theorem Run.hasTurns_zero (hstop : state.signal shutdownAt (ties 0) = .shutdown) :
    Run.HasTurns interval shutdownAt ties state sweeps ⟨[], state.wake shutdownAt⟩ 0 where
  ticks turn hturn := absurd hturn (Nat.not_lt_zero turn)
  stops := hstop
  sweeps_eq := rfl
  stoppedAt_eq := State.wake_of_shutdown hstop

/-- A tick before a run that has its turns is one turn more. -/
theorem Run.HasTurns.begin (htick : state.signal shutdownAt (ties 0) = .tick)
    (hrest : run.HasTurns interval shutdownAt (fun turn => ties (turn + 1))
      (state.afterSweep interval shutdownAt (sweepAt sweeps 0)) sweeps.tail count) :
    (Run.begin (state.wake shutdownAt) (sweepAt sweeps 0) run).HasTurns interval shutdownAt
      ties state sweeps (count + 1) := by
  rw [State.afterSweep_of_tick htick] at hrest
  refine ⟨?ticks, ?stops, ?sweeps_eq, ?stoppedAt_eq⟩
  case ticks =>
    intro turn hturn
    cases turn with
    | zero => exact htick
    | succ turn =>
        rw [← stateFrom_tail]
        exact hrest.ticks turn (Nat.lt_of_succ_lt_succ hturn)
  case stops =>
    rw [← stateFrom_tail]
    exact hrest.stops
  case sweeps_eq =>
    rw [Run.begin, hrest.sweeps_eq, State.wake_of_tick htick, List.range_succ_eq_map,
      List.map_cons, List.map_map]
    simp only [stateFrom_tail, sweepAt_tail]
    rfl
  case stoppedAt_eq =>
    rw [← stateFrom_tail]
    exact hrest.stoppedAt_eq

theorem Run.HasTurns.length_sweeps
    (hturns : run.HasTurns interval shutdownAt ties state sweeps count) :
    run.sweeps.length = count := by
  rw [hturns.sweeps_eq, List.length_map, List.length_range]

/-- A run that begins at some state has its turns.  Where sweeps are still to come the
induction is on them; after the last of them it is on the turns of the idle run. -/
theorem exists_hasTurns_runFrom (turn : Nat) :
    ∃ count, (runFrom interval shutdownAt ties turn state sweeps).HasTurns interval
      shutdownAt (fun later => ties (turn + later)) state sweeps count := by
  induction sweeps generalizing turn state with
  | nil =>
      rw [runFrom]
      induction turn, state using runIdle.induct interval shutdownAt ties with
      | case1 turn state hstop =>
          rw [runIdle]
          split
          · exact ⟨0, Run.hasTurns_zero hstop⟩
          · next htick =>
            rw [hstop] at htick
            cases htick
      | case2 turn state htick ih =>
          rw [runIdle]
          split
          · next hstop =>
            rw [hstop] at htick
            cases htick
          · obtain ⟨count, hrest⟩ := ih
            simp only [Nat.add_right_comm turn 1] at hrest
            exact ⟨count + 1, hrest.begin htick⟩
  | cons sweep rest ih =>
      rw [runFrom]
      split
      · next hstop => exact ⟨0, Run.hasTurns_zero hstop⟩
      · next htick =>
        obtain ⟨count, hrest⟩ := ih (turn + 1)
        simp only [Nat.add_right_comm turn 1] at hrest
        exact ⟨count + 1, hrest.begin htick⟩

/-- A run from the start has as many turns as it has sweeps. -/
theorem hasTurns_run (interval : Interval) (shutdownAt : Nat) (ties : Nat → Signal)
    (sweeps : List Sweep) :
    (Scheduler.run interval shutdownAt ties sweeps).HasTurns interval shutdownAt ties .initial
      sweeps (Scheduler.run interval shutdownAt ties sweeps).sweeps.length := by
  obtain ⟨count, hturns⟩ : ∃ count,
      (runFrom interval shutdownAt ties 0 .initial sweeps).HasTurns interval shutdownAt
        (fun later => ties (0 + later)) .initial sweeps count :=
    exists_hasTurns_runFrom 0
  simp only [Nat.zero_add] at hturns
  rw [Scheduler.run, hturns.length_sweeps]
  exact hturns

namespace Run.HasTurns

variable (hturns : run.HasTurns interval shutdownAt ties state sweeps count)

include hturns

/-- Sweeps begin with the ticks of their turns. -/
theorem starts_eq : run.sweeps.map Prod.fst =
    (List.range count).map fun turn => (stateFrom interval state sweeps turn).tickAt := by
  rw [hturns.sweeps_eq, List.map_map]
  rfl

/-- What a run has as the sweep of a turn, if it comes to that turn. -/
theorem getElem?_eq_some_iff (turn start : Nat) (sweep : Sweep) :
    run.sweeps[turn]? = some (start, sweep) ↔
      turn < count ∧ start = (stateFrom interval state sweeps turn).tickAt ∧
        sweep = sweepAt sweeps turn := by
  rw [hturns.sweeps_eq, List.getElem?_map]
  by_cases hturn : turn < count
  · rw [List.getElem?_range hturn, Option.map_some, Option.some.injEq, Prod.mk.injEq]
    simp only [hturn, true_and, eq_comm]
  · rw [List.getElem?_eq_none (by rw [List.length_range]; omega), Option.map_none]
    simp [hturn]

/-- A run sweeps on a turn if that turn and all before it have gone to ticks. -/
theorem lt_count_iff (turn : Nat) :
    turn < count ↔ ∀ earlier ≤ turn,
      (stateFrom interval state sweeps earlier).signal shutdownAt (ties earlier) = .tick := by
  constructor
  · intro hturn earlier hearlier
    exact hturns.ticks earlier (Nat.lt_of_le_of_lt hearlier hturn)
  · intro hticks
    apply Nat.lt_of_not_le
    intro hcount
    have htick := hticks count hcount
    rw [hturns.stops] at htick
    cases htick

/-- How many turns there are depends on durations only. -/
theorem count_congr {others : List Sweep} {otherRun : Run} {otherCount : Nat}
    (hothers : otherRun.HasTurns interval shutdownAt ties state others otherCount)
    (htook : others.map Sweep.took = sweeps.map Sweep.took) : otherCount = count := by
  apply eq_of_forall_lt_iff
  intro turn
  rw [hothers.lt_count_iff, hturns.lt_count_iff]
  simp only [stateFrom_congr interval state htook]

end Run.HasTurns

end Turns

end OneTimeCode.Scheduler
