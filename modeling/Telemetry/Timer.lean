import Telemetry.Histogram
import Telemetry.Meter

/-!
# Timers

A timer is a histogram of durations in nanoseconds together with a meter of their number. A duration
too long for a word counts as the largest one.

A `Lap` measures a duration: it remembers when it began. The time since then is recorded once, when
the lap is stopped or, if it never is, when it is let go.
-/

namespace Telemetry

/-- Durations and the rate at which they come. -/
structure Timer where
  meter : Meter := {}
  histogram : Histogram := {}
  deriving Inhabited

namespace Timer

/-- The timer with a duration recorded. -/
def update (t : Timer) (d : Span) (now : Span) : Timer where
  histogram := t.histogram.update d.word
  meter := t.meter.mark 1 now

/-- The number of durations. -/
def count (t : Timer) : UInt64 :=
  t.histogram.count

/-- The rates, and the timer after they were read. -/
def readRates (t : Timer) (now : Span) : PerSecond × Timer :=
  ((t.meter.read now).1, { t with meter := (t.meter.read now).2 })

/-- A reading of the durations, and the timer after it. -/
def read (t : Timer) : Reading × Timer :=
  (t.histogram.read.1, { t with histogram := t.histogram.read.2 })

/-- The timer with a reading given back. -/
def restore (t : Timer) (r : Reading) : Timer :=
  { t with histogram := t.histogram.restore r }

end Timer

end Telemetry
