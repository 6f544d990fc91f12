import Telemetry.TimeUnit

/-!
# Units of a report

Rates are measured per second and durations in nanoseconds. A `Converter` scales them to the units
that a report is to show. Each scaling is one multiplication by a factor computed once, so equal
inputs give equal bits.
-/

namespace Telemetry

/-- The units in which rates and durations are shown. -/
structure Converter where
  rateUnit : TimeUnit := .seconds
  durationUnit : TimeUnit := .milliseconds
  deriving DecidableEq, Repr, Inhabited

namespace Converter

/-- The number of rate units' worth of events for one event per second. -/
def rateFactor (c : Converter) : Float :=
  c.rateUnit.nanos.toFloat / 1000000000.0

/-- The number of duration units in one nanosecond. -/
def durationFactor (c : Converter) : Float :=
  1.0 / c.durationUnit.nanos.toFloat

/-- A rate per second, in the rate unit. -/
def rate (c : Converter) (perSecond : Float) : Float :=
  perSecond * c.rateFactor

/-- A number of nanoseconds, in the duration unit. -/
def duration (c : Converter) (nanos : Float) : Float :=
  nanos * c.durationFactor

end Converter

end Telemetry
