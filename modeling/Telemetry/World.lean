import Telemetry.Registry

/-!
# Clock, metrics and names together

A `World` is what the operations of a program on its metrics change: the reading of the clock, the
state of the metrics and their names.

Asking for a counter, meter, histogram or timer by name gives the metric of that name, which is made
first if the name is free. Meters and timers begin at the time when they are made.

The clock counts from zero and does not go back. The time of day is the clock plus a fixed amount.
-/

namespace Telemetry

/-- The reading of the clock, all metrics and their names. -/
structure World where
  now : Span := {}
  /-- The nanoseconds since the epoch when the clock read zero. -/
  epoch : Int := 0
  store : Store := {}
  registry : Registry := {}
  deriving Inhabited

namespace World

/-- The world some time later. -/
def advance (w : World) (d : Span) : World :=
  { w with now := w.now + d }

/-- The world with the time of day set, in nanoseconds since the epoch. -/
def setTimeOfDay (w : World) (nanos : Int) : World :=
  { w with epoch := nanos - w.now.nanos }

/-- The time of day in whole milliseconds since the epoch. -/
def millis (w : World) : Int64 :=
  Int64.ofInt ((w.epoch + w.now.nanos).fdiv 1000000)

/-- The world with a metric under a new name. -/
def register (w : World) (name : String) (h : Handle) : Except RegistryError World :=
  (w.registry.register name h).map fun registry ↦ { w with registry }

/-- The world with a metric of the store put under a name that is known to be free. -/
def adopt (w : World) (name : String) (h : Handle) (store : Store) : World :=
  { w with store, registry := ⟨w.registry.names.insert name h⟩ }

/-- The counter of a name. -/
def counter (w : World) (name : String) : Except RegistryError (MetricId Counter × World) :=
  match w.registry.find? name with
  | some (.counter id) => .ok (id, w)
  | some h => .error (.kindMismatch name h.kind)
  | none =>
    let (id, store) := w.store.newCounter {}
    .ok (id, w.adopt name (.counter id) store)

/-- The meter of a name. -/
def meter (w : World) (name : String) : Except RegistryError (MetricId Meter × World) :=
  match w.registry.find? name with
  | some (.meter id) => .ok (id, w)
  | some h => .error (.kindMismatch name h.kind)
  | none =>
    let (id, store) := w.store.newMeter { start := w.now }
    .ok (id, w.adopt name (.meter id) store)

/-- The histogram of a name. -/
def histogram (w : World) (name : String) : Except RegistryError (MetricId Histogram × World) :=
  match w.registry.find? name with
  | some (.histogram id) => .ok (id, w)
  | some h => .error (.kindMismatch name h.kind)
  | none =>
    let (id, store) := w.store.newHistogram {}
    .ok (id, w.adopt name (.histogram id) store)

/-- The timer of a name. -/
def timer (w : World) (name : String) : Except RegistryError (MetricId Timer × World) :=
  match w.registry.find? name with
  | some (.timer id) => .ok (id, w)
  | some h => .error (.kindMismatch name h.kind)
  | none =>
    let (id, store) := w.store.newTimer { meter := { start := w.now } }
    .ok (id, w.adopt name (.timer id) store)

/-- A new gauge under a new name. -/
def gauge (w : World) (name : String) (g : Gauge) : Except RegistryError (MetricId Gauge × World) :=
  let (id, store) := w.store.newGauge g
  ({ w with store }.register name (.gauge id)).map fun w ↦ (id, w)

/-- The world with a counter changed. -/
def updateCounter (w : World) (id : MetricId Counter) (f : Counter → Counter) : World :=
  { w with store := w.store.setCounter id (f (w.store.counter id)) }

/-- The world with events counted by a meter. -/
def mark (w : World) (id : MetricId Meter) (n : UInt64) : World :=
  { w with store := w.store.setMeter id ((w.store.meter id).mark n w.now) }

/-- The world with a value taken in by a histogram. -/
def updateHistogram (w : World) (id : MetricId Histogram) (v : UInt64) : World :=
  { w with store := w.store.setHistogram id ((w.store.histogram id).update v) }

/-- The world with a duration recorded by a timer. -/
def updateTimer (w : World) (id : MetricId Timer) (d : Span) : World :=
  { w with store := w.store.setTimer id ((w.store.timer id).update d w.now) }

end World

/-- A duration being measured: the timer that is to record it, when it began, and whether it has
been recorded. -/
structure Lap where
  timer : MetricId Timer
  start : Span
  recorded : Bool := false

namespace Lap

/-- Begins to measure. -/
def begin (w : World) (timer : MetricId Timer) : Lap where
  timer := timer
  start := w.now

/-- The time since the lap began, the lap, and the world in which the time is recorded: now, unless
it was recorded before. -/
def record (l : Lap) (w : World) : Span × Lap × World :=
  let d := w.now - l.start
  if l.recorded then (d, l, w) else (d, { l with recorded := true }, w.updateTimer l.timer d)

/-- The world after a lap was let go. -/
def drop (l : Lap) (w : World) : World :=
  (l.record w).2.2

/-- Ends the measurement and lets the lap go: the duration, and the world afterwards. -/
def stop (l : Lap) (w : World) : Span × World :=
  let (d, l, w) := l.record w
  (d, l.drop w)

end Lap

end Telemetry
