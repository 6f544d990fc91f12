import Mathlib.Tactic
import Telemetry.Draft

/-!
# Which cells an operation touches

Writing one cell of a store leaves all others as they are, and cells of another kind are not even
looked at, so that their laws hold by computation. What remains to be said is said here:

* for each kind, what a write does to every read of that kind (`Store.histogram_setHistogram` and
  the like);
* for histograms and timers taken together, which histogram a source stands for (`Source.held`) and
  what reading it and giving back to it do to all of them (`Source.held_read`,
  `Source.held_restoreAll`).

**Readings of one source.** A list of readings mixes those of several sources. `Source.readings`
picks those of one, in the order in which they were taken, and giving back the whole list does to a
source what giving back its own readings does.
-/

namespace Telemetry

namespace MetricId

variable {α : Type} {a b : MetricId α}

/-- Metrics of one kind are told apart by their indices. -/
theorem index_inj : a.index = b.index ↔ a = b :=
  ⟨ext, congrArg index⟩

theorem meter_ne_counter (m : MetricId Meter) (id : MetricId Counter) :
    Handle.meter m ≠ .counter id := by
  simp

end MetricId

namespace Store

variable (s : Store)

/-- A gauge is what it was last set to, and setting it changes no other. -/
theorem gauge_setGauge (i j : MetricId Gauge) (g : Gauge) :
    (s.setGauge i g).gauge j = if j = i then g else s.gauge j := by
  simp only [gauge, setGauge, Cells.get_set, MetricId.index_inj]

theorem counter_setCounter (i j : MetricId Counter) (c : Counter) :
    (s.setCounter i c).counter j = if j = i then c else s.counter j := by
  simp only [counter, setCounter, Cells.get_set, MetricId.index_inj]

theorem meter_setMeter (i j : MetricId Meter) (m : Meter) :
    (s.setMeter i m).meter j = if j = i then m else s.meter j := by
  simp only [meter, setMeter, Cells.get_set, MetricId.index_inj]

theorem histogram_setHistogram (i j : MetricId Histogram) (h : Histogram) :
    (s.setHistogram i h).histogram j = if j = i then h else s.histogram j := by
  simp only [histogram, setHistogram, Cells.get_set, MetricId.index_inj]

theorem timer_setTimer (i j : MetricId Timer) (t : Timer) :
    (s.setTimer i t).timer j = if j = i then t else s.timer j := by
  simp only [timer, setTimer, Cells.get_set, MetricId.index_inj]

end Store

namespace Source

variable (s : Store) (x y : Source)

/-- The source as any metric. -/
def handle : Source → Handle
  | histogram id => .histogram id
  | timer id => .timer id

/-- The histogram behind a source: itself, or that of a timer. -/
def held (s : Store) : Source → Histogram
  | histogram id => s.histogram id
  | timer id => (s.timer id).histogram

theorem handle_ne_counter (id : MetricId Counter) : x.handle ≠ .counter id := by
  cases x <;> simp [handle]

theorem count_eq : x.count s = (x.held s).count := by
  cases x <;> rfl

theorem reading_eq : (x.read s).1 = (x.held s).reservoir.read.1 := by
  cases x <;> rfl

/-- Setting a histogram changes what this source holds, and no other. -/
theorem held_setHistogram (id : MetricId Histogram) (h : Histogram) :
    x.held (s.setHistogram id h) = if x = histogram id then h else x.held s := by
  cases x with
  | histogram j => simp only [held, Store.histogram_setHistogram, histogram.injEq]
  | timer j => rfl

/-- Setting a timer changes what this source holds, and no other. -/
theorem held_setTimer (id : MetricId Timer) (t : Timer) :
    x.held (s.setTimer id t) = if x = timer id then t.histogram else x.held s := by
  cases x with
  | histogram j => rfl
  | timer j =>
    simp only [held, Store.timer_setTimer, timer.injEq]
    split <;> rfl

@[simp] theorem held_setGauge (id : MetricId Gauge) (g : Gauge) :
    x.held (s.setGauge id g) = x.held s := by
  cases x <;> rfl

@[simp] theorem held_setCounter (id : MetricId Counter) (c : Counter) :
    x.held (s.setCounter id c) = x.held s := by
  cases x <;> rfl

@[simp] theorem held_setMeter (id : MetricId Meter) (m : Meter) :
    x.held (s.setMeter id m) = x.held s := by
  cases x <;> rfl

/-- **Reading a source changes that source alone.** -/
theorem held_read : x.held (y.read s).2 = if x = y then (x.held s).read.2 else x.held s := by
  cases y with
  | histogram id =>
    show x.held (s.setHistogram id (s.histogram id).read.2) = _
    rw [held_setHistogram]
    split
    · next h =>
      rw [h]
      rfl
    · rfl
  | timer id =>
    show x.held (s.setTimer id (s.timer id).read.2) = _
    rw [held_setTimer]
    split
    · next h =>
      rw [h]
      rfl
    · rfl

/-- Giving a reading back to a source changes no other. -/
theorem held_restore (r : Reading) :
    x.held (y.restore s r) = if x = y then (x.held s).restore r else x.held s := by
  cases y with
  | histogram id =>
    rw [restore, held_setHistogram]
    split
    · next h =>
      rw [h]
      rfl
    · rfl
  | timer id =>
    rw [restore, held_setTimer]
    split
    · next h =>
      rw [h]
      rfl
    · rfl

/-- The readings of one source in a list, in the order of the list. -/
def readings (taken : List (Source × Reading)) : List Reading :=
  (taken.filter fun t ↦ t.1 = x).map (·.2)

@[simp] theorem readings_nil : x.readings [] = [] := rfl

/-- Of several readings, those of a source are picked out in their order. -/
theorem readings_cons (r : Reading) (taken : List (Source × Reading)) :
    x.readings ((y, r) :: taken) = if y = x then r :: x.readings taken else x.readings taken := by
  by_cases h : y = x <;> simp [readings, h]

/-- **Giving back a list gives each source its own readings.** -/
theorem held_restoreAll (taken : List (Source × Reading)) :
    x.held (restoreAll taken s) = (x.readings taken).foldl Histogram.restore (x.held s) := by
  induction taken generalizing s with
  | nil => rfl
  | cons t taken ih =>
    obtain ⟨y, r⟩ := t
    have hcons : restoreAll ((y, r) :: taken) s = restoreAll taken (y.restore s r) := rfl
    rw [hcons, ih, held_restore, readings_cons]
    by_cases h : x = y
    · rw [if_pos h, if_pos h.symm, List.foldl_cons]
    · rw [if_neg h, if_neg (Ne.symm h)]

end Source

namespace Histogram

/-- Giving readings back concerns the reservoir alone. -/
theorem foldl_restore (rs : List Reading) (h : Histogram) :
    rs.foldl Histogram.restore h = ⟨h.count, rs.foldl Reservoir.restore h.reservoir⟩ := by
  induction rs generalizing h with
  | nil => rfl
  | cons r rs ih => exact ih (h.restore r)

/-- Values counted, in words, and taken in. -/
theorem foldl_update (vs : List UInt64) (h : Histogram) :
    vs.foldl Histogram.update h =
      ⟨h.count + .ofNat vs.length, vs.foldl Reservoir.update h.reservoir⟩ := by
  induction vs generalizing h with
  | nil => simp
  | cons v vs ih =>
    rw [List.foldl_cons, ih, List.foldl_cons, List.length_cons]
    simp only [update, mk.injEq, and_true]
    rw [Nat.add_comm vs.length 1, UInt64.ofNat_add, ← UInt64.add_assoc]
    rfl

end Histogram

end Telemetry
