import Telemetry.Counter
import Telemetry.Gauge
import Telemetry.Queue
import Telemetry.Timer

/-!
# The state of all metrics

A metric may be known under several names, and a reporter may hold on to metrics that no name leads
to any more. So the state of metrics is kept apart from their names: a `Store` has a cell for each
metric, and an `MetricId` says which. Two names for one metric lead to one id.

Cells that were never written hold the default metric. That makes the laws of reading and writing
unconditional (`Cells.get_set`).
-/

namespace Telemetry

/-- Values by number; all but finitely many are the default one. -/
structure Cells (α : Type) where
  written : Array α := #[]

namespace Cells

variable {α : Type} [Inhabited α]

instance : Inhabited (Cells α) := ⟨{}⟩

/-- The value with a number. -/
def get (c : Cells α) (i : Nat) : α :=
  c.written.getD i default

/-- The cells with one value replaced. -/
def set (c : Cells α) (i : Nat) (a : α) : Cells α :=
  if i < c.written.size then ⟨c.written.setIfInBounds i a⟩
  else ⟨(c.written ++ Array.replicate (i - c.written.size) default).push a⟩

/-- The number of the first cell that was never written. -/
def fresh (c : Cells α) : Nat :=
  c.written.size

theorem get_eq (c : Cells α) (i : Nat) : c.get i = (c.written[i]?).getD default := by
  simp [get]

/-- **What one write does to every reading.** -/
theorem get_set (c : Cells α) (i j : Nat) (a : α) :
    (c.set i a).get j = if j = i then a else c.get j := by
  simp only [get_eq, set]
  split
  · next h =>
    simp only [Array.getElem?_setIfInBounds]
    by_cases hij : i = j
    · subst hij; simp [h]
    · simp [hij, Ne.symm hij]
  · next h =>
    simp only [Array.getElem?_push, Array.size_append, Array.size_replicate]
    have hsize : c.written.size + (i - c.written.size) = i := by omega
    rw [hsize]
    by_cases hij : j = i
    · simp [hij]
    · simp only [if_neg hij, Array.getElem?_append, Array.getElem?_replicate]
      split
      · rfl
      · next hj =>
        rw [Array.getElem?_eq_none (by omega)]
        split <;> rfl

end Cells

/-- The number of a metric among those of its type. -/
structure MetricId (α : Type) where
  index : Nat

namespace MetricId

variable {α : Type}

theorem ext {a b : MetricId α} (h : a.index = b.index) : a = b := by
  cases a
  cases b
  simpa using h

instance : DecidableEq (MetricId α) := fun a b ↦
  if h : a.index = b.index then .isTrue (ext h) else .isFalse fun hab ↦ h (hab ▸ rfl)

instance : Inhabited (MetricId α) := ⟨⟨0⟩⟩

end MetricId

/-- The state of all metrics. -/
structure Store where
  gauges : Cells Gauge := {}
  counters : Cells Counter := {}
  meters : Cells Meter := {}
  histograms : Cells Histogram := {}
  timers : Cells Timer := {}

namespace Store

instance : Inhabited Store := ⟨{}⟩

/-- A gauge of the store. -/
def gauge (s : Store) (id : MetricId Gauge) : Gauge :=
  s.gauges.get id.index

/-- The store with a gauge replaced. -/
def setGauge (s : Store) (id : MetricId Gauge) (g : Gauge) : Store :=
  { s with gauges := s.gauges.set id.index g }

/-- The store with a new gauge, and its id. -/
def newGauge (s : Store) (g : Gauge) : MetricId Gauge × Store :=
  (⟨s.gauges.fresh⟩, s.setGauge ⟨s.gauges.fresh⟩ g)

/-- A counter of the store. -/
def counter (s : Store) (id : MetricId Counter) : Counter :=
  s.counters.get id.index

/-- The store with a counter replaced. -/
def setCounter (s : Store) (id : MetricId Counter) (c : Counter) : Store :=
  { s with counters := s.counters.set id.index c }

/-- The store with a new counter, and its id. -/
def newCounter (s : Store) (c : Counter) : MetricId Counter × Store :=
  (⟨s.counters.fresh⟩, s.setCounter ⟨s.counters.fresh⟩ c)

/-- A meter of the store. -/
def meter (s : Store) (id : MetricId Meter) : Meter :=
  s.meters.get id.index

/-- The store with a meter replaced. -/
def setMeter (s : Store) (id : MetricId Meter) (m : Meter) : Store :=
  { s with meters := s.meters.set id.index m }

/-- The store with a new meter, and its id. -/
def newMeter (s : Store) (m : Meter) : MetricId Meter × Store :=
  (⟨s.meters.fresh⟩, s.setMeter ⟨s.meters.fresh⟩ m)

/-- A histogram of the store. -/
def histogram (s : Store) (id : MetricId Histogram) : Histogram :=
  s.histograms.get id.index

/-- The store with a histogram replaced. -/
def setHistogram (s : Store) (id : MetricId Histogram) (h : Histogram) : Store :=
  { s with histograms := s.histograms.set id.index h }

/-- The store with a new histogram, and its id. -/
def newHistogram (s : Store) (h : Histogram) : MetricId Histogram × Store :=
  (⟨s.histograms.fresh⟩, s.setHistogram ⟨s.histograms.fresh⟩ h)

/-- A timer of the store. -/
def timer (s : Store) (id : MetricId Timer) : Timer :=
  s.timers.get id.index

/-- The store with a timer replaced. -/
def setTimer (s : Store) (id : MetricId Timer) (t : Timer) : Store :=
  { s with timers := s.timers.set id.index t }

/-- The store with a new timer, and its id. -/
def newTimer (s : Store) (t : Timer) : MetricId Timer × Store :=
  (⟨s.timers.fresh⟩, s.setTimer ⟨s.timers.fresh⟩ t)

end Store

end Telemetry
