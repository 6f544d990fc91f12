import Telemetry.Reservoir.Basic

/-!
# Histograms

A histogram counts the values it is given and keeps them in a reservoir. The count is of updates, so
neither reading the reservoir nor giving a reading back changes it. It wraps around like every
count.
-/

namespace Telemetry

/-- A reservoir and the number of values it was given. -/
structure Histogram where
  count : UInt64 := 0
  reservoir : Reservoir := default
  deriving Inhabited

namespace Histogram

/-- The histogram with a value taken in. -/
def update (h : Histogram) (v : UInt64) : Histogram :=
  ⟨h.count + 1, h.reservoir.update v⟩

/-- A reading of the reservoir, and the histogram after it. -/
def read (h : Histogram) : Reading × Histogram :=
  (h.reservoir.read.1, { h with reservoir := h.reservoir.read.2 })

/-- The histogram with a reading given back. -/
def restore (h : Histogram) (r : Reading) : Histogram :=
  { h with reservoir := h.reservoir.restore r }

end Histogram

end Telemetry
