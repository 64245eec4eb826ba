import OneTimeCode.Failure
import OneTimeCode.Log.Event
import OneTimeCode.Time.Clock

/-!
# The sweep scheduler

A scheduler sweeps at once and then once an interval, until it is told to stop.
Sweeps run one after the other.  A tick that is late by more than a tolerance
delays those after it, so that they are not made up for in a burst.

Times are milliseconds since the scheduler was started.  The millisecond is the
granularity of the timers that it sleeps on, and nothing finer is told apart here.
-/

namespace OneTimeCode

/-- A sweep that is going to take some time and to come out in some way.  The time
is in the granularity of the timers, the millisecond. -/
structure Sweep where
  took : Nat
  outcome : Except Failure Nat

namespace Sweep

/-- A sweep that finds nothing and takes no time. -/
def idle : Sweep := ⟨0, .ok 0⟩

/-- What is logged at the end of a sweep. -/
def event : Except Failure Nat → Log.SweepEvent
  | .ok 0 => .nothingRemoved
  | .ok count => .removed count
  | .error failure => .failed failure

end Sweep

namespace Scheduler

/-- How late a tick may be taken without delaying those after it: five milliseconds,
in the granularity of the timers. -/
def tolerance : Nat := 5

/-- When the next tick is due, after one that was due before has been taken. -/
def nextDue (interval : Interval) (due taken : Nat) : Nat :=
  if due + tolerance < taken then taken + interval.millis else due + interval.millis

/-- What a scheduler attends to when it is not sweeping. -/
inductive Signal
  | tick
  | shutdown
deriving DecidableEq, Repr

/-- Between two sweeps: the time, and when the next tick is due. -/
structure State where
  now : Nat
  due : Nat
deriving DecidableEq, Repr

def State.initial : State := ⟨0, 0⟩

/-- The scheduler sleeps until the tick is due or shutdown has been asked for. -/
def State.wake (state : State) (shutdownAt : Nat) : Nat :=
  max state.now (min state.due shutdownAt)

/-- The signal attended to on waking.  When both are there, `tie` decides. -/
def State.signal (state : State) (shutdownAt : Nat) (tie : Signal) : Signal :=
  if shutdownAt ≤ state.wake shutdownAt then
    if state.due ≤ state.wake shutdownAt then tie else .shutdown
  else
    .tick

/-- The state after a sweep that began on waking. -/
def State.afterSweep (interval : Interval) (state : State) (shutdownAt : Nat)
    (sweep : Sweep) : State :=
  let start := state.wake shutdownAt
  ⟨start + sweep.took, nextDue interval state.due start⟩

/-- The sweeps of a run with the times at which they began, and the time at which
the run ended. -/
structure Run where
  sweeps : List (Nat × Sweep)
  stoppedAt : Nat

def Run.begin (start : Nat) (sweep : Sweep) (rest : Run) : Run :=
  ⟨(start, sweep) :: rest.sweeps, rest.stoppedAt⟩

/-- Sweeps that follow each other without a wait, from some time on. -/
def runSingly (start : Nat) : List Sweep → Run
  | [] => ⟨[], start⟩
  | sweep :: rest => Run.begin start sweep (runSingly (start + sweep.took) rest)

theorem lt_nextDue (interval : Interval) (due taken : Nat) :
    due < nextDue interval due taken := by
  have := interval.positive
  unfold nextDue
  split <;> omega

theorem due_le_wake_of_signal_eq_tick {state : State} {shutdownAt : Nat} {tie : Signal}
    (h : state.signal shutdownAt tie = .tick) : state.due ≤ state.wake shutdownAt := by
  unfold State.signal at h
  unfold State.wake at *
  split at h
  · split at h
    · assumption
    · cases h
  · omega

/-- Continues a run when all sweeps find nothing at once.  It ends because every
tick taken makes the next one due later, until only shutdown is left. -/
def runIdle (interval : Interval) (shutdownAt : Nat) (ties : Nat → Signal)
    (turn : Nat) (state : State) : Run :=
  match h : state.signal shutdownAt (ties turn) with
  | .shutdown => ⟨[], state.wake shutdownAt⟩
  | .tick =>
    Run.begin (state.wake shutdownAt) Sweep.idle
      (runIdle interval shutdownAt ties (turn + 1)
        (state.afterSweep interval shutdownAt Sweep.idle))
termination_by max state.now shutdownAt + 1 - state.due
decreasing_by
  have hdue := due_le_wake_of_signal_eq_tick h
  have hnext := lt_nextDue interval state.due (state.wake shutdownAt)
  simp only [State.afterSweep, Sweep.idle]
  unfold State.wake at *
  omega

/-- Continues a run with the given sweeps to come.  `ties` decides on each turn
what to attend to when tick and shutdown are both there. -/
def runFrom (interval : Interval) (shutdownAt : Nat) (ties : Nat → Signal)
    (turn : Nat) (state : State) : List Sweep → Run
  | [] => runIdle interval shutdownAt ties turn state
  | sweep :: rest =>
    match state.signal shutdownAt (ties turn) with
    | .shutdown => ⟨[], state.wake shutdownAt⟩
    | .tick =>
      Run.begin (state.wake shutdownAt) sweep
        (runFrom interval shutdownAt ties (turn + 1)
          (state.afterSweep interval shutdownAt sweep) rest)

/-- A run from the start until shutdown; sweeps beyond those given find nothing at
once. -/
def run (interval : Interval) (shutdownAt : Nat) (ties : Nat → Signal)
    (sweeps : List Sweep) : Run :=
  runFrom interval shutdownAt ties 0 State.initial sweeps

/-- A run at an interval of some milliseconds.  It cannot begin if these are none. -/
def runEvery (millis shutdownAt : Nat) (ties : Nat → Signal) (sweeps : List Sweep) :
    Except Abort Run :=
  match Interval.ofMillis? millis with
  | none => .error (.failed Interval.zeroMessage)
  | some interval => .ok (run interval shutdownAt ties sweeps)

/-- What the sweeps of a run log. -/
def Run.sweepEvents (run : Run) : List Log.SweepEvent :=
  run.sweeps.map fun entry => Sweep.event entry.2.outcome

/-- What a run logs. -/
def Run.events (interval : Interval) (run : Run) : List Log.SweepEvent :=
  .started interval.seconds :: run.sweepEvents ++ [.stopped]

end Scheduler

end OneTimeCode
