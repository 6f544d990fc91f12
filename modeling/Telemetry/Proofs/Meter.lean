import Mathlib.Tactic
import Telemetry.Timer

/-!
# Meters that catch up

Reading a meter changes it, because it lets the meter catch up with the grid points passed. This
shows neither in the count (`count_catchUp`) nor in what later readings at the same time show:
having caught up twice is having caught up once (`catchUp_catchUp`), since what is left of the age
is less than an interval.
-/

namespace Telemetry.Meter

/-- Ticking counts nothing. -/
theorem count_ticks (n : Nat) (m : Meter) : (ticks n m).count = m.count := by
  induction n generalizing m with
  | zero => rfl
  | succ n ih => exact ih m.tick

/-- Ticking does not make a meter younger. -/
theorem start_ticks (n : Nat) (m : Meter) : (ticks n m).start = m.start := by
  induction n generalizing m with
  | zero => rfl
  | succ n ih => exact ih m.tick

/-- Catching up counts nothing. -/
@[simp] theorem count_catchUp (m : Meter) (now : Span) : (m.catchUp now).count = m.count := by
  unfold catchUp
  dsimp only
  split
  · rfl
  · exact count_ticks _ m

@[simp] theorem start_catchUp (m : Meter) (now : Span) : (m.catchUp now).start = m.start := by
  unfold catchUp
  dsimp only
  split
  · rfl
  · exact start_ticks _ m

/-- Marking counts what it marks, and catching up before it adds nothing. -/
@[simp] theorem count_mark (m : Meter) (n : UInt64) (now : Span) :
    (m.mark n now).count = m.count + n :=
  congrArg (· + n) (m.count_catchUp now)

/-- A meter within an interval of its last grid point has caught up. -/
theorem catchUp_of_le {m : Meter} {now : Span}
    (h : m.elapsed now - m.lastTick ≤ MovingRate.interval) : m.catchUp now = m :=
  if_pos h

/-- After a meter has caught up, less than an interval has passed since its last grid point. -/
theorem lastTick_catchUp_le (m : Meter) (now : Span) :
    m.elapsed now - (m.catchUp now).lastTick ≤ MovingRate.interval := by
  by_cases h : m.elapsed now - m.lastTick ≤ MovingRate.interval
  · rwa [catchUp_of_le h]
  · have hlast : (m.catchUp now).lastTick =
        m.elapsed now - (m.elapsed now - m.lastTick) % MovingRate.interval := by
      rw [catchUp]
      exact congrArg lastTick (if_neg h)
    have hmod := Nat.mod_lt (m.elapsed now - m.lastTick) (show 0 < MovingRate.interval by decide)
    omega

/-- **A meter that has caught up stays as it is** until time moves on. -/
@[simp] theorem catchUp_catchUp (m : Meter) (now : Span) :
    (m.catchUp now).catchUp now = m.catchUp now := by
  refine catchUp_of_le ?_
  have helapsed : (m.catchUp now).elapsed now = m.elapsed now := by
    rw [elapsed, start_catchUp]
    rfl
  rw [helapsed]
  exact m.lastTick_catchUp_le now

/-- What a meter shows, and what it is afterwards, depends on the meter caught up. -/
theorem read_eq_of_catchUp_eq {m m' : Meter} {now : Span} (h : m.catchUp now = m'.catchUp now) :
    m.read now = m'.read now := by
  simp only [read, h]

/-- All rates at one time are the three averages read in turn. -/
theorem read_eq_rates (m : Meter) (now : Span) :
    m.read now =
      let (m1, m) := m.rate .oneMinute now
      let (m5, m) := m.rate .fiveMinutes now
      let (m15, m) := m.rate .fifteenMinutes now
      (⟨m1, m5, m15, m.meanRate now⟩, m) := by
  simp only [rate, read, catchUp_catchUp, average]

end Telemetry.Meter
