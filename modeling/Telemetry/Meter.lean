import Telemetry.Span

/-!
# Meters

A meter counts events and estimates how many there are per second, as moving averages over one, five
and fifteen minutes and as the mean over its whole life.

The moving averages change on a grid of five seconds. Each of them keeps the events that it has not
folded in yet. Whoever touches the meter first lets it catch up with the grid (`Meter.catchUp`): the
averages tick once for every grid point passed, the first tick folds in the events kept and the
others fold in none.

A meter touched just one interval after its last grid point does not catch up yet. After a longer
time it catches up with all grid points up to now, also with one that is reached just now.
-/

namespace Telemetry

/-- An exponentially weighted average of events per second. -/
structure MovingRate where
  /-- The weight of the latest interval. -/
  weight : Float
  /-- The events since the last interval that was folded in. -/
  pending : UInt64 := 0
  /-- The average so far; there is none before the first interval. -/
  average : Option Float := none

namespace MovingRate

/-- The distance between two grid points in nanoseconds. -/
def interval : Nat :=
  5000000000

/-- The distance between two grid points in seconds. -/
def intervalSeconds : Float :=
  5.0

/-- The average over a number of minutes, before any interval. -/
def overMinutes (minutes : Float) : MovingRate where
  weight := 1.0 - Float.exp (-intervalSeconds / 60.0 / minutes)

/-- The average after an interval with a number of events. -/
def fold (r : MovingRate) (events : UInt64) : MovingRate :=
  let latest := events.toFloat / intervalSeconds
  { r with
    average := some (match r.average with
      | none => latest
      | some average => average + r.weight * (latest - average)) }

/-- The average with `n` events more to be folded in. -/
def add (r : MovingRate) (n : UInt64) : MovingRate :=
  { r with pending := r.pending + n }

/-- The average after an interval with the events kept for it. -/
def tick (r : MovingRate) : MovingRate :=
  { r.fold r.pending with pending := 0 }

/-- The average, zero before the first interval. -/
def rate (r : MovingRate) : Float :=
  r.average.getD 0.0

end MovingRate

/-- Rates in events per second. -/
structure PerSecond where
  m1 : Float
  m5 : Float
  m15 : Float
  mean : Float

/-- The time that a moving average looks back on. -/
inductive Horizon where
  | oneMinute
  | fiveMinutes
  | fifteenMinutes
  deriving DecidableEq, Repr

/-- A count of events and estimates of their rate. -/
structure Meter where
  /-- The reading of the clock when the meter was made. -/
  start : Span := {}
  count : UInt64 := 0
  /-- The last grid point that was caught up with, in nanoseconds since the start. -/
  lastTick : Nat := 0
  m1 : MovingRate := .overMinutes 1.0
  m5 : MovingRate := .overMinutes 5.0
  m15 : MovingRate := .overMinutes 15.0

namespace Meter

instance : Inhabited Meter := ⟨{}⟩

/-- The nanoseconds since the start, as far as a word can tell. -/
def elapsed (m : Meter) (now : Span) : Nat :=
  min (now - m.start).nanos maxWord

/-- The moving average over a horizon. -/
def average (m : Meter) : Horizon → MovingRate
  | .oneMinute => m.m1
  | .fiveMinutes => m.m5
  | .fifteenMinutes => m.m15

/-- The meter after one more interval. -/
def tick (m : Meter) : Meter :=
  { m with m1 := m.m1.tick, m5 := m.m5.tick, m15 := m.m15.tick }

/-- The meter after a number of intervals. -/
def ticks : Nat → Meter → Meter
  | 0, m => m
  | n + 1, m => ticks n m.tick

/-- The meter after all intervals that have ended by now. -/
def catchUp (m : Meter) (now : Span) : Meter :=
  let age := m.elapsed now - m.lastTick
  if age ≤ MovingRate.interval then m
  else
    { ticks (age / MovingRate.interval) m with
      lastTick := m.elapsed now - age % MovingRate.interval }

/-- The meter with `n` events more. -/
def mark (m : Meter) (n : UInt64) (now : Span) : Meter :=
  let m := m.catchUp now
  { m with count := m.count + n, m1 := m.m1.add n, m5 := m.m5.add n, m15 := m.m15.add n }

/-- The moving average over a horizon, and the meter caught up. -/
def rate (m : Meter) (h : Horizon) (now : Span) : Float × Meter :=
  let m := m.catchUp now
  ((m.average h).rate, m)

/-- The events per second over the whole life; zero before any event and before any time. -/
def meanRate (m : Meter) (now : Span) : Float :=
  if m.count = 0 then 0.0
  else
    let seconds := (now - m.start).toSeconds
    if seconds ≤ 0.0 then 0.0 else m.count.toFloat / seconds

/-- All rates at one time, and the meter caught up. -/
def read (m : Meter) (now : Span) : PerSecond × Meter :=
  let m := m.catchUp now
  (⟨m.m1.rate, m.m5.rate, m.m15.rate, m.meanRate now⟩, m)

end Meter

end Telemetry
