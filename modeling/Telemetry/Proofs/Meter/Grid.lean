import Mathlib
import Telemetry.Proofs.Meter

/-!
# The grid of a meter

A meter is touched from time to time: events are marked, or the average over a horizon is read
(`Meter.Touch`). Every touch lets it catch up first, so the averages tick in bursts. What they have
folded in is said here for touches in any number at times that do not go back (`Meter.Orderly`).

**What a touch does.** It catches up with `due` intervals, which moves the last grid point by as many
intervals (`lastTick_catchUp`) and lets each average tick as often (`average_catchUp`).

**What the averages fold in.** `folded` collects the numbers as each average folds them, in a run.
`dated` notes beside each touch how many intervals the meter had caught up with then. The number
folded by a tick is the sum of all events dated with the ticks before it, and what is dated with all
ticks so far is what is still kept (`Booked`). So no event is folded twice, and none is lost. The
average is the one that these numbers have by a recursion of their own (`MovingRate.weighted`).

A touch between two grid points is dated with the grid points before it. One on a grid point may be
dated with that point or without it (`dated_bounds`).
-/

namespace Telemetry

namespace MovingRate

/-- The average after a number of intervals. -/
def ticks : Nat → MovingRate → MovingRate
  | 0, r => r
  | n + 1, r => ticks n r.tick

/-- The numbers that these intervals fold in. -/
def foldsIn : Nat → MovingRate → List UInt64
  | 0, _ => []
  | n + 1, r => r.pending :: foldsIn n r.tick

/-- The first interval folds in what was kept, and the others nothing. -/
theorem foldsIn_eq (n : Nat) (r : MovingRate) :
    foldsIn n r = (List.range n).map fun k ↦ if k = 0 then r.pending else 0 := by
  induction n generalizing r with
  | zero => rfl
  | succ n ih =>
    have hlater : foldsIn n r.tick = (List.range n).map fun _ ↦ 0 :=
      (ih r.tick).trans (List.map_congr_left fun k _ ↦ ite_self 0)
    rw [foldsIn, hlater, List.range_succ_eq_map, List.map_cons, List.map_map]
    rfl

/-- A tick leaves nothing to be folded in later. -/
theorem pending_ticks (n : Nat) (r : MovingRate) :
    (r.ticks n).pending = if n = 0 then r.pending else 0 := by
  induction n generalizing r with
  | zero => rfl
  | succ n ih =>
    rw [ticks, ih, if_neg n.succ_ne_zero]
    split <;> rfl

/-- What is folded in and what is kept make up what was kept before. -/
theorem sum_foldsIn_add_pending (n : Nat) (r : MovingRate) :
    (foldsIn n r).sum + (r.ticks n).pending = r.pending := by
  induction n generalizing r with
  | zero => exact UInt64.zero_add _
  | succ n ih =>
    rw [foldsIn, List.sum_cons, ticks, UInt64.add_assoc, ih]
    exact UInt64.add_zero _

/-- The average with another number of events kept for the next interval. -/
def keeping (r : MovingRate) (n : UInt64) : MovingRate :=
  { r with pending := n }

/-- What is kept for later does not matter to what is folded in. -/
theorem foldl_fold_keeping (xs : List UInt64) (r : MovingRate) (n : UInt64) :
    xs.foldl fold (r.keeping n) = (xs.foldl fold r).keeping n := by
  induction xs generalizing r with
  | nil => rfl
  | cons x xs ih => exact ih (r.fold x)

/-- Averages that differ in what they keep are the same once both keep the same. -/
theorem foldl_fold_of_keeping (xs : List UInt64) {r s : MovingRate} {n : UInt64} (k : UInt64)
    (h : r = s.keeping n) : (xs.foldl fold r).keeping k = (xs.foldl fold s).keeping k := by
  rw [h, foldl_fold_keeping]
  rfl

/-- The weighted average of the events per second in some intervals, the latest interval first. It
stands between that of the earlier intervals and the latest one, as far from the former as the
weight says. -/
def weighted (weight : Float) : List UInt64 → Option Float
  | [] => none
  | events :: earlier =>
    let latest := events.toFloat / intervalSeconds
    match weighted weight earlier with
    | none => some latest
    | some average => some (average + weight * (latest - average))

/-- **Folding numbers in gives their weighted average.** -/
theorem foldl_fold_eq (xs : List UInt64) {r : MovingRate} (hr : r.average = none) :
    xs.foldl fold r = { r with average := weighted r.weight xs.reverse } := by
  induction xs using List.reverseRecOn with
  | nil => exact congrArg (MovingRate.mk r.weight r.pending) hr
  | append_singleton xs x ih =>
    rw [List.foldl_append, ih, List.reverse_append, List.foldl_cons, List.foldl_nil, fold,
      List.reverse_singleton, List.singleton_append, weighted]
    cases weighted r.weight xs.reverse <;> rfl

/-- **Ticking is folding in these numbers.** -/
theorem ticks_eq (n : Nat) (r : MovingRate) :
    r.ticks n = ((foldsIn n r).foldl fold r).keeping (r.ticks n).pending := by
  induction n generalizing r with
  | zero => rfl
  | succ n ih =>
    calc r.tick.ticks n
        = ((foldsIn n r.tick).foldl fold r.tick).keeping (r.tick.ticks n).pending := ih r.tick
      _ = ((foldsIn n r.tick).foldl fold (r.fold r.pending)).keeping (r.tick.ticks n).pending :=
        foldl_fold_of_keeping _ _ (n := 0) rfl

theorem add_zero (r : MovingRate) : r.add 0 = r := by
  rw [add, UInt64.add_zero]

end MovingRate

namespace Meter

open MovingRate (interval foldsIn)

/-! ### Touches -/

/-- What is done with a meter. -/
inductive Use where
  | mark (n : UInt64)
  | rate (h : Horizon)

/-- Something done with a meter at a reading of the clock. -/
structure Touch where
  time : Span
  use : Use

/-- The reading of a rate. -/
def Touch.read (now : Span) (h : Horizon) : Touch :=
  ⟨now, .rate h⟩

/-- The number of events that a touch marks. -/
def Touch.marked (x : Touch) : UInt64 :=
  match x.use with
  | .mark n => n
  | .rate _ => 0

/-- A new meter. -/
def begun (start : Span) : Meter where
  start := start

/-- The meter after a touch. -/
def step (m : Meter) (x : Touch) : Meter :=
  match x.use with
  | .mark n => m.mark n x.time
  | .rate h => (m.rate h x.time).2

/-- The meter after some touches. -/
def run (m : Meter) (touches : List Touch) : Meter :=
  touches.foldl step m

/-- The number of intervals that a meter catches up with at a time. -/
def due (m : Meter) (now : Span) : Nat :=
  let age := m.elapsed now - m.lastTick
  if age ≤ interval then 0 else age / interval

/-- The number of grid points that were caught up with. -/
def passed (m : Meter) : Nat :=
  m.lastTick / interval

/-- The numbers that the average over a horizon folds in during some touches. -/
def folded (h : Horizon) (m : Meter) : List Touch → List UInt64
  | [] => []
  | x :: xs => foldsIn (m.due x.time) (m.average h) ++ folded h (m.step x) xs

/-- Some touches, with the number of grid points caught up with by then. -/
def dated (m : Meter) : List Touch → List (Touch × Nat)
  | [] => []
  | x :: xs => (x, (m.step x).passed) :: dated (m.step x) xs

/-- The number of events marked after so many grid points. -/
def markedAt (m : Meter) (touches : List Touch) (k : Nat) : UInt64 :=
  ((m.dated touches).map fun d ↦ if d.2 = k then d.1.marked else 0).sum

variable {m : Meter} {now : Span} {x : Touch} {touches : List Touch} {h : Horizon}

theorem run_concat (m : Meter) (touches : List Touch) (x : Touch) :
    m.run (touches ++ [x]) = (m.run touches).step x := by
  rw [run, List.foldl_append]
  rfl

/-- One touch more folds in what is due by then. -/
theorem folded_concat (h : Horizon) (m : Meter) (touches : List Touch) (x : Touch) :
    m.folded h (touches ++ [x]) =
      m.folded h touches ++ foldsIn ((m.run touches).due x.time) ((m.run touches).average h) := by
  induction touches generalizing m with
  | nil => simp [folded, run]
  | cons y touches ih =>
    rw [List.cons_append, folded, ih, folded, List.append_assoc]
    rfl

/-- One touch more is dated with the grid points caught up with by then. -/
theorem dated_concat (m : Meter) (touches : List Touch) (x : Touch) :
    m.dated (touches ++ [x]) = m.dated touches ++ [(x, (m.run (touches ++ [x])).passed)] := by
  induction touches generalizing m with
  | nil => rfl
  | cons y touches ih =>
    rw [List.cons_append, dated, ih]
    rfl

theorem map_fst_dated (m : Meter) (touches : List Touch) :
    (m.dated touches).map (·.1) = touches := by
  induction touches generalizing m with
  | nil => rfl
  | cons x touches ih => exact congrArg (x :: ·) (ih (m.step x))

/-- One touch more adds its events to those marked at its own date. -/
theorem markedAt_concat (m : Meter) (touches : List Touch) (x : Touch) (k : Nat) :
    m.markedAt (touches ++ [x]) k =
      m.markedAt touches k + if (m.run (touches ++ [x])).passed = k then x.marked else 0 := by
  rw [markedAt, dated_concat, List.map_append, List.sum_append]
  simp [markedAt]

/-! ### What a touch does -/

/-- A meter ticks by letting each average tick. -/
theorem average_ticks (n : Nat) (m : Meter) (h : Horizon) :
    (ticks n m).average h = (m.average h).ticks n := by
  induction n generalizing m with
  | zero => rfl
  | succ n ih =>
    rw [ticks, ih]
    cases h <;> rfl

/-- **Catching up lets each average tick as often as is due.** -/
theorem average_catchUp (m : Meter) (now : Span) (h : Horizon) :
    (m.catchUp now).average h = (m.average h).ticks (m.due now) := by
  unfold catchUp due
  dsimp only
  split
  · rfl
  · rw [← average_ticks]
    cases h <;> rfl

/-- The last grid point moves by whole intervals. -/
theorem lastTick_catchUp (hle : m.lastTick ≤ m.elapsed now) :
    (m.catchUp now).lastTick = m.lastTick + m.due now * interval := by
  unfold catchUp due
  dsimp only
  split
  · omega
  · have hage := Nat.div_add_mod' (m.elapsed now - m.lastTick) interval
    show m.elapsed now - (m.elapsed now - m.lastTick) % interval = _
    omega

/-- A touch lets an average catch up, and then adds what it marks. -/
theorem average_step (m : Meter) (x : Touch) (h : Horizon) :
    (m.step x).average h = ((m.average h).ticks (m.due x.time)).add x.marked := by
  obtain ⟨now, n | h'⟩ := x
  · rw [← average_catchUp]
    cases h <;> rfl
  · show (m.catchUp now).average h = _
    rw [average_catchUp]
    exact (MovingRate.add_zero _).symm

theorem lastTick_step (m : Meter) (x : Touch) :
    (m.step x).lastTick = (m.catchUp x.time).lastTick := by
  obtain ⟨now, n | h⟩ := x <;> rfl

/-- A touch counts what it marks. -/
theorem count_step (m : Meter) (x : Touch) : (m.step x).count = m.count + x.marked := by
  obtain ⟨now, n | h⟩ := x
  · exact m.count_mark n now
  · exact (m.count_catchUp now).trans (UInt64.add_zero _).symm

theorem start_step (m : Meter) (x : Touch) : (m.step x).start = m.start := by
  obtain ⟨now, n | h⟩ := x <;> exact m.start_catchUp now

theorem start_run (m : Meter) (touches : List Touch) : (m.run touches).start = m.start := by
  induction touches generalizing m with
  | nil => rfl
  | cons x touches ih => exact (ih (m.step x)).trans (m.start_step x)

/-- The time since the start does not depend on touches. -/
theorem elapsed_run (m : Meter) (touches : List Touch) (now : Span) :
    (m.run touches).elapsed now = m.elapsed now := by
  rw [elapsed, start_run, elapsed]

/-- **What an average has folded in** in a run of any touches. -/
theorem average_run (m : Meter) (touches : List Touch) (h : Horizon) :
    (m.run touches).average h =
      ((m.folded h touches).foldl MovingRate.fold (m.average h)).keeping
        ((m.run touches).average h).pending := by
  induction touches using List.reverseRecOn with
  | nil => rfl
  | append_singleton touches x ih =>
    generalize hold : (m.run touches).average h = old at ih
    have hnew : (m.run (touches ++ [x])).average h =
        (old.ticks ((m.run touches).due x.time)).add x.marked := by
      rw [run_concat, average_step, hold]
    rw [folded_concat, List.foldl_append, hold, hnew]
    generalize (m.run touches).due x.time = n
    calc (old.ticks n).add x.marked
        = ((foldsIn n old).foldl MovingRate.fold old).keeping ((old.ticks n).pending + x.marked) :=
          congrArg (·.add x.marked) (MovingRate.ticks_eq n old)
      _ = _ := MovingRate.foldl_fold_of_keeping _ _ ih

/-- **No event is lost or folded in twice** in a run of any touches. -/
theorem sum_folded_add_pending (m : Meter) (touches : List Touch) (h : Horizon) :
    (m.folded h touches).sum + ((m.run touches).average h).pending + m.count =
      (m.average h).pending + (m.run touches).count := by
  induction touches using List.reverseRecOn with
  | nil => simp [folded, run]
  | append_singleton touches x ih =>
    have hfold := MovingRate.sum_foldsIn_add_pending ((m.run touches).due x.time)
      ((m.run touches).average h)
    rw [folded_concat, List.sum_append, run_concat, count_step, average_step]
    show _ + (_ + x.marked) + m.count = _
    rw [← hfold] at ih
    grind

/-- The count is the sum of all marks. -/
theorem count_run (m : Meter) (touches : List Touch) :
    (m.run touches).count = m.count + (touches.map Touch.marked).sum := by
  induction touches generalizing m with
  | nil => exact (UInt64.add_zero _).symm
  | cons x touches ih => rw [run, List.foldl_cons, ← run, ih, count_step, List.map_cons,
      List.sum_cons, UInt64.add_assoc]

/-! ### Times that do not go back -/

/-- Touches at times that do not go back. -/
def Orderly (touches : List Touch) : Prop :=
  touches.Pairwise fun x y ↦ x.time.nanos ≤ y.time.nanos

instance (touches : List Touch) : Decidable (Orderly touches) :=
  inferInstanceAs (Decidable (touches.Pairwise _))

/-- One touch more must not be earlier than the others. -/
theorem orderly_concat :
    Orderly (touches ++ [x]) ↔
      Orderly touches ∧ ∀ y ∈ touches, y.time.nanos ≤ x.time.nanos := by
  simp [Orderly, List.pairwise_append]

/-- Time does not go back since the start either. -/
theorem elapsed_mono (m : Meter) {a b : Span} (h : a.nanos ≤ b.nanos) :
    m.elapsed a ≤ m.elapsed b := by
  have hsub : (a - m.start).nanos ≤ (b - m.start).nanos := Nat.sub_le_sub_right h _
  exact min_le_min_right _ hsub

/-- The last grid point that a meter has caught up with is the last one before a time, or the time
itself. -/
structure OnGrid (m : Meter) (now : Span) : Prop where
  dvd : interval ∣ m.lastTick
  le : m.lastTick ≤ m.elapsed now
  near : m.elapsed now - m.lastTick ≤ interval

/-- A touch puts a meter on its grid, if no grid point so far lies ahead. -/
theorem onGrid_step (hdvd : interval ∣ m.lastTick) (hle : m.lastTick ≤ m.elapsed x.time) :
    (m.step x).OnGrid x.time := by
  have hlast := lastTick_step m x
  have helapsed : (m.step x).elapsed x.time = m.elapsed x.time := by
    rw [elapsed, start_step, elapsed]
  refine ⟨?_, ?_, ?_⟩
  · rw [hlast, lastTick_catchUp hle]
    exact (Nat.dvd_add_right hdvd).mpr (Nat.dvd_mul_left _ _)
  · rw [hlast, helapsed, lastTick_catchUp hle, due]
    split
    · omega
    · have := Nat.div_mul_le_self (m.elapsed x.time - m.lastTick) interval
      omega
  · rw [hlast, helapsed]
    exact m.lastTick_catchUp_le x.time

/-- The grid points that were caught up with: those before the time, and maybe the time itself. -/
theorem OnGrid.passed_bounds (hm : m.OnGrid now) :
    (m.elapsed now - 1) / interval ≤ m.passed ∧ m.passed ≤ m.elapsed now / interval := by
  obtain ⟨⟨k, hk⟩, hle, hnear⟩ := hm
  simp only [passed, interval] at *
  omega

/-- A touch passes the grid points that are due. -/
theorem passed_step (hle : m.lastTick ≤ m.elapsed x.time) :
    (m.step x).passed = m.passed + m.due x.time := by
  rw [passed, lastTick_step, lastTick_catchUp hle, passed,
    Nat.add_mul_div_right _ _ (show 0 < interval by decide)]

section Fresh

variable {start : Span}

/-- No grid point lies ahead of a time to come, and each is a multiple of the interval. -/
theorem lastTick_run (hsorted : Orderly touches) :
    interval ∣ ((begun start).run touches).lastTick ∧
      ∀ now : Span, (∀ y ∈ touches, y.time.nanos ≤ now.nanos) →
        ((begun start).run touches).lastTick ≤ ((begun start).run touches).elapsed now := by
  induction touches using List.reverseRecOn with
  | nil => exact ⟨Nat.dvd_zero _, fun _ _ ↦ Nat.zero_le _⟩
  | append_singleton touches x ih =>
    obtain ⟨hsorted, hx⟩ := orderly_concat.mp hsorted
    obtain ⟨hdvd, hle⟩ := ih hsorted
    have hgrid := onGrid_step hdvd (hle x.time hx)
    rw [run_concat]
    exact ⟨hgrid.dvd, fun now hnow ↦
      hgrid.le.trans (elapsed_mono _ (hnow x (by simp)))⟩

/-- No touch meets a grid point ahead of it. -/
theorem lastTick_run_le (start : Span) (hsorted : Orderly (touches ++ [x])) :
    ((begun start).run touches).lastTick ≤ ((begun start).run touches).elapsed x.time := by
  obtain ⟨hsorted, hx⟩ := orderly_concat.mp hsorted
  exact (lastTick_run hsorted).2 x.time hx

/-- **Every touch leaves the meter on its grid.** -/
theorem onGrid_run (start : Span) (hsorted : Orderly (touches ++ [x])) :
    ((begun start).run (touches ++ [x])).OnGrid x.time := by
  rw [run_concat]
  exact onGrid_step (lastTick_run (orderly_concat.mp hsorted).1).1 (lastTick_run_le start hsorted)

/-- No grid point is caught up with in the first interval, its end included. -/
theorem lastTick_run_eq_zero
    (hearly : ∀ y ∈ touches, (begun start).elapsed y.time ≤ interval) :
    ((begun start).run touches).lastTick = 0 := by
  induction touches using List.reverseRecOn with
  | nil => rfl
  | append_singleton touches x ih =>
    have hlast := ih fun y hy ↦ hearly y (by simp [hy])
    rw [run_concat, lastTick_step, catchUp_of_le, hlast]
    rw [hlast, elapsed_run]
    exact hearly x (by simp)

/-! ### What is folded in when -/

/-- **Each tick folds in the events dated with the ticks before it**, and what is dated with all
ticks so far is kept. -/
structure Booked (start : Span) (h : Horizon) (touches : List Touch) : Prop where
  folded : (begun start).folded h touches =
    (List.range ((begun start).run touches).passed).map ((begun start).markedAt touches)
  kept : ∀ k, (begun start).markedAt touches (((begun start).run touches).passed + k) =
    if k = 0 then (((begun start).run touches).average h).pending else 0

/-- Before any touch nothing is folded in and nothing is kept. -/
theorem booked_nil (start : Span) (h : Horizon) : Booked start h [] where
  folded := (congrArg (List.map _) (congrArg List.range (Nat.zero_div _))).symm
  kept k := by cases h <;> exact (ite_self 0).symm

/-- **One touch more keeps the books.** If it catches up with `n` grid points, the first of these
folds in what was kept, which is all that is dated with the grid points so far, and the others
nothing; what the touch marks is dated with the last of them, and kept. -/
theorem Booked.concat (hsorted : Orderly (touches ++ [x])) (hbooked : Booked start h touches) :
    Booked start h (touches ++ [x]) := by
  have hpassed := passed_step (lastTick_run_le start hsorted)
  have hmarked := markedAt_concat (begun start) touches x
  rw [run_concat, hpassed] at hmarked
  generalize hdue : ((begun start).run touches).due x.time = n at *
  have hbefore : ∀ k < ((begun start).run touches).passed + n,
      (begun start).markedAt (touches ++ [x]) k = (begun start).markedAt touches k := fun k hk ↦ by
    rw [hmarked, if_neg hk.ne', UInt64.add_zero]
  constructor
  · rw [folded_concat, hbooked.folded, MovingRate.foldsIn_eq, run_concat, hpassed, hdue,
      List.range_add, List.map_append, List.map_map]
    congr 1
    · exact List.map_congr_left fun k hk ↦
        (hbefore k (Nat.lt_add_right n (List.mem_range.mp hk))).symm
    · refine List.map_congr_left fun k hk ↦ ?_
      rw [Function.comp_apply, hbefore _ (Nat.add_lt_add_left (List.mem_range.mp hk) _),
        hbooked.kept]
  · intro k
    have hpending : (((begun start).run (touches ++ [x])).average h).pending =
        (if n = 0 then (((begun start).run touches).average h).pending else 0) + x.marked := by
      rw [run_concat, average_step, hdue, ← MovingRate.pending_ticks]
      rfl
    have hkept := hbooked.kept (n + k)
    rw [hpending, run_concat, hpassed, hmarked, Nat.add_assoc, hkept]
    by_cases hk : k = 0
    · simp [hk]
    · simp [hk]

/-- **The books are kept in any run.** -/
theorem booked (start : Span) (h : Horizon) (hsorted : Orderly touches) :
    Booked start h touches := by
  induction touches using List.reverseRecOn with
  | nil => exact booked_nil start h
  | append_singleton touches x ih => exact (ih (orderly_concat.mp hsorted).1).concat hsorted

/-! ### When a touch is dated -/

/-- A property of the dates in a history is one of its last date, in every history. -/
theorem forall_dated {P : Touch × Nat → Prop}
    (hlast : ∀ before x, Orderly (before ++ [x]) →
      P (x, ((begun start).run (before ++ [x])).passed))
    (hsorted : Orderly touches) : ∀ d ∈ (begun start).dated touches, P d := by
  induction touches using List.reverseRecOn with
  | nil => exact fun d hd ↦ absurd hd List.not_mem_nil
  | append_singleton touches x ih =>
    rw [dated_concat]
    intro d hd
    obtain hd | hd := List.mem_append.mp hd
    · exact ih (orderly_concat.mp hsorted).1 d hd
    · rw [List.mem_singleton.mp hd]
      exact hlast touches x hsorted

/-- A touch is dated with the grid points before it, and maybe with the one that it stands on. -/
theorem dated_bounds (start : Span) (hsorted : Orderly touches) :
    ∀ d ∈ (begun start).dated touches,
      ((begun start).elapsed d.1.time - 1) / interval ≤ d.2 ∧
        d.2 ≤ (begun start).elapsed d.1.time / interval := by
  refine forall_dated (fun before x hsorted ↦ ?_) hsorted
  have hbounds := (onGrid_run start hsorted).passed_bounds
  rwa [elapsed_run] at hbounds

/-- A touch in the first interval is dated with no grid point, also at its end. -/
theorem dated_early (hsorted : Orderly touches) :
    ∀ d ∈ (begun start).dated touches,
      (begun start).elapsed d.1.time ≤ interval → d.2 = 0 := by
  refine forall_dated (fun before x hsorted hx ↦ ?_) hsorted
  have hbefore := (orderly_concat.mp hsorted).2
  have hall : ∀ y ∈ before ++ [x], (begun start).elapsed y.time ≤ interval := fun y hy ↦ by
    obtain hy | hy := List.mem_append.mp hy
    · exact (elapsed_mono _ (hbefore y hy)).trans hx
    · rwa [List.mem_singleton.mp hy]
  rw [passed, lastTick_run_eq_zero hall, Nat.zero_div]

/-- No touch is dated with grid points to come. -/
theorem dated_le (hsorted : Orderly touches) :
    ∀ d ∈ (begun start).dated touches, d.2 ≤ ((begun start).run touches).passed := by
  induction touches using List.reverseRecOn with
  | nil => exact fun d hd ↦ absurd hd List.not_mem_nil
  | append_singleton touches x ih =>
    have hpassed := passed_step (lastTick_run_le start hsorted)
    rw [dated_concat, run_concat, hpassed]
    intro d hd
    obtain hd | hd := List.mem_append.mp hd
    · exact (ih (orderly_concat.mp hsorted).1 d hd).trans (Nat.le_add_right _ _)
    · rw [List.mem_singleton.mp hd]

/-! ### The whole history -/

/-- **The grid of a meter.** `fresh` is the meter as it was made, `old` the one before the last of
some touches and `m` the one after it, `now` the time since the start. -/
structure Grid (fresh old m : Meter) (touches : List Touch) (now : Nat) : Prop where
  /-- The number of intervals and the new grid point are differences of numbers, smaller from
  larger. -/
  no_underflow : old.lastTick ≤ now ∧ (now - old.lastTick) % interval ≤ now
  dvd : interval ∣ m.lastTick
  le : m.lastTick ≤ now
  near : now - m.lastTick ≤ interval
  ticked : ∀ h, (fresh.folded h touches).length = m.lastTick / interval
  /-- What an average folds in does not depend on its horizon. -/
  folded : ∀ h, fresh.folded h touches = (List.range m.passed).map (fresh.markedAt touches)
  /-- The numbers folded in make an average with its own weight, and the events dated with all ticks
  so far are kept for the next one. -/
  average : ∀ h, m.average h =
    { weight := (fresh.average h).weight
      pending := fresh.markedAt touches m.passed
      average := MovingRate.weighted (fresh.average h).weight (fresh.folded h touches).reverse }
  conserved : ∀ h, (fresh.folded h touches).sum + (m.average h).pending = m.count
  counted : m.count = (touches.map Touch.marked).sum
  off_grid : ¬ interval ∣ now → m.lastTick / interval = now / interval
  /-- The touch dated `d` is folded in with tick `d + 1`, or kept. -/
  dated : ∀ d ∈ fresh.dated touches, d.2 ≤ m.passed ∧
    (¬ interval ∣ fresh.elapsed d.1.time → d.2 = fresh.elapsed d.1.time / interval)

/-- Between two grid points there is one number of grid points before. -/
theorem eq_div_of_bounds {t d : Nat} (hd : (t - 1) / interval ≤ d ∧ d ≤ t / interval)
    (ht : ¬ interval ∣ t) : d = t / interval := by
  simp only [interval] at *
  omega

/-- **A meter stays on its grid** in every history, and its averages fold in every mark once. -/
theorem grid_run (start : Span) (before : List Touch) (x : Touch)
    (hsorted : Orderly (before ++ [x])) :
    Grid (begun start) ((begun start).run before) ((begun start).run (before ++ [x]))
      (before ++ [x]) ((begun start).elapsed x.time) := by
  have hgrid := onGrid_run start hsorted
  have hbounds := hgrid.passed_bounds
  have hbooked (h) := booked start h hsorted
  have hdated := dated_bounds start hsorted
  obtain ⟨hdvd, hle, hnear⟩ := hgrid
  rw [elapsed_run] at hle hnear hbounds
  have hold := lastTick_run_le start hsorted
  rw [elapsed_run] at hold
  exact
    { no_underflow := ⟨hold, (Nat.mod_le _ _).trans (Nat.sub_le _ _)⟩
      dvd := hdvd
      le := hle
      near := hnear
      ticked := fun h ↦ by rw [(hbooked h).folded, List.length_map, List.length_range, passed]
      folded := fun h ↦ (hbooked h).folded
      average := fun h ↦ by
        have hkept := (hbooked h).kept 0
        have hfresh : ((begun start).average h).average = none := by cases h <;> rfl
        rw [Nat.add_zero, if_pos rfl] at hkept
        rw [average_run, MovingRate.foldl_fold_eq _ hfresh, hkept]
        rfl
      conserved := fun h ↦ by
        have hsum := sum_folded_add_pending (begun start) (before ++ [x]) h
        have hfresh : ((begun start).average h).pending = 0 := by cases h <;> rfl
        rw [hfresh, UInt64.zero_add] at hsum
        exact (UInt64.add_zero _).symm.trans hsum
      counted := (count_run _ _).trans (UInt64.zero_add _)
      off_grid := eq_div_of_bounds hbounds
      dated := fun d hd ↦ ⟨dated_le hsorted d hd, eq_div_of_bounds (hdated d hd)⟩ }

/-- Marks of 5 at 1 s and of 3 at 10 s, with a reading at 7 s between them. -/
def sample : List Touch :=
  [⟨.ofSeconds 1, .mark 5⟩, .read (.ofSeconds 7) .oneMinute, ⟨.ofSeconds 10, .mark 3⟩]

/-- The second mark stands on a grid point. The reading before it has seen to it that the meter comes
from the grid point right before, so the mark is folded in with the interval that ends there. -/
theorem grid_run_small :
    let late := Touch.read (.ofSeconds 23) .fiveMinutes
    Orderly (sample ++ [late]) ∧
      (begun {}).folded .oneMinute (sample ++ [late]) = [5, 3, 0, 0] ∧
      Grid (begun {}) ((begun {}).run sample) ((begun {}).run (sample ++ [late])) (sample ++ [late])
        ((begun {}).elapsed late.time) :=
  have hsorted : Orderly (sample ++ [.read (.ofSeconds 23) .fiveMinutes]) := by decide
  ⟨hsorted, by decide +kernel, grid_run {} sample _ hsorted⟩

end Fresh

end Meter

end Telemetry
