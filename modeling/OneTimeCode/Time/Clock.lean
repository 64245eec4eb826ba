import OneTimeCode.Time.Instant

/-!
# Clocks and lengths of time

A manual clock shows a count of milliseconds that is set and moved by hand.  The
count has 64 bits and wraps around.
-/

namespace OneTimeCode

/-- The largest magnitude of a span, in milliseconds. -/
def longestSpanMillis : Nat := 0x7fffffffffffffff

/-- A length of time, forwards or backwards. -/
structure Span where
  nanos : Int
  bounded : nanos.natAbs ≤ longestSpanMillis * nanosPerMilli
deriving DecidableEq, Repr

namespace Span

/-- The span of some seconds, rounded down, and the nanoseconds beyond them. -/
def of? (seconds : Int) (nanos : Nat) : Option Span :=
  let total := seconds * nanosPerSecond + nanos
  if h : nanos < nanosPerSecond ∧ total.natAbs ≤ longestSpanMillis * nanosPerMilli then
    some ⟨total, h.2⟩
  else
    none

/-- The milliseconds of a span that are over, whichever way it runs. -/
def wholeMillis (span : Span) : Int :=
  span.nanos.tdiv nanosPerMilli

end Span

/-- The time between two sweeps, in milliseconds, the granularity of timers. -/
structure Interval where
  millis : Nat
  positive : 0 < millis
deriving DecidableEq, Repr

namespace Interval

def ofMillis? (millis : Nat) : Option Interval :=
  if h : 0 < millis then some ⟨millis, h⟩ else none

/-- What is reported where an interval is zero. -/
def zeroMessage : String := "`period` must be non-zero."

/-- The whole seconds of an interval. -/
def seconds (interval : Interval) : Nat :=
  interval.millis / 1000

end Interval

/-- A clock that stands still until it is set or advanced. -/
structure ManualClock where
  millis : Int64
deriving DecidableEq, Repr

namespace ManualClock

/-- A clock that shows the millisecond an instant lies in. -/
def showing (instant : Instant) : ManualClock :=
  ⟨Int64.ofInt instant.millis⟩

def advance (clock : ManualClock) (span : Span) : ManualClock :=
  ⟨clock.millis + Int64.ofInt span.wholeMillis⟩

/-- The instant shown.  Outside the range of instants, on either side, it is the
latest one. -/
def now (clock : ManualClock) : Instant :=
  (Instant.ofMillis? clock.millis.toInt).getD Instant.latest

end ManualClock

end OneTimeCode
