import Telemetry.Double
import Telemetry.Hdr.Basic
import Telemetry.Samples

/-!
# What can be asked of recorded values

Both kinds of readings, counts in bins and sorted samples, answer the same questions: how many
values there are, the extremes, the mean, the spread and the quantiles. A reading without values
answers zero throughout.

A `Summary` holds the answers that go into a report, each multiplied by a scale.
-/

namespace Telemetry

/-- Recorded values that statistics can be read from. -/
class Distribution (α : Type) where
  /-- The number of values. -/
  len : α → Nat
  minValue : α → Nat
  maxValue : α → Nat
  mean : α → Float
  stdDev : α → Float
  /-- The value below which a fraction of the values lies. -/
  value : α → Float → Float

instance : Distribution Hdr where
  len h := h.len
  minValue h := h.minValue
  maxValue h := if h.isEmpty then 0 else h.maxValue
  mean h := if h.isEmpty then 0.0 else h.mean
  stdDev h := if h.isEmpty then 0.0 else h.stdDev
  value h q := if h.isEmpty then 0.0 else wordFloat (h.valueAt q)

instance : Distribution Samples where
  len s := s.len
  minValue s := s.minValue
  maxValue s := s.maxValue
  mean s := s.mean
  stdDev s := s.stdDev
  value s q := wordFloat (s.valueAt q)

/-- The statistics of a reading that a report shows. -/
structure Summary where
  min : Double := {}
  max : Double := {}
  mean : Double := {}
  std : Double := {}
  median : Double := {}
  p75 : Double := {}
  p95 : Double := {}
  p98 : Double := {}
  p99 : Double := {}
  p999 : Double := {}
  deriving DecidableEq, Repr, Inhabited

/-- The statistics of a reading, each multiplied by a scale. -/
def Summary.of {α : Type} [Distribution α] (values : α) (scale : Float) : Summary :=
  let scaled (x : Float) : Double := .ofFloat (x * scale)
  let quantile (q : Float) : Double := scaled (Distribution.value values q)
  { min := scaled (wordFloat (Distribution.minValue values))
    max := scaled (wordFloat (Distribution.maxValue values))
    mean := scaled (Distribution.mean values)
    std := scaled (Distribution.stdDev values)
    median := quantile 0.5
    p75 := quantile 0.75
    p95 := quantile 0.95
    p98 := quantile 0.98
    p99 := quantile 0.99
    p999 := quantile 0.999 }

end Telemetry
