import Telemetry.Reservoir.Binned
import Telemetry.Reservoir.Window

/-!
# Reservoirs and their readings

A reservoir takes in values and is read from time to time. There are two kinds: those that count
values in bins, and windows over the most recent values. Reading the first kind starts its count
since the last reading afresh, and a reading can be given back; reading a window changes nothing,
and neither does giving anything back to it.
-/

namespace Telemetry

/-- What a reservoir shows when it is read. -/
inductive Reading where
  /-- The values of a window. -/
  | sampled (values : Samples)
  /-- Counts over the whole life and since the last reading. -/
  | binned (total sinceLast : Hdr)

/-- Where the values of a histogram or timer are kept. -/
inductive Reservoir where
  | binned (r : BinnedReservoir)
  | window (w : Window)

namespace Reservoir

instance : Inhabited Reservoir := ⟨binned default⟩

/-- The reservoir with a value taken in. -/
def update : Reservoir → UInt64 → Reservoir
  | binned r, v => binned (r.update v)
  | window w, v => window (w.update v)

/-- A reading, and the reservoir after it. -/
def read : Reservoir → Reading × Reservoir
  | binned r => (.binned r.read.1.1 r.read.1.2, binned r.read.2)
  | window w => (.sampled w.read, window w)

/-- The reservoir with a reading given back, so that the next one covers it. -/
def restore : Reservoir → Reading → Reservoir
  | binned r, .binned _ sinceLast => binned (r.restore sinceLast)
  | r, _ => r

end Reservoir

end Telemetry
