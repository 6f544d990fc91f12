import Telemetry.Proofs.Histogram
import Telemetry.Proofs.Meter
import Telemetry.Proofs.Store
import Telemetry.World

/-!
# What a timer counts

A timer records durations, given outright or measured by laps. Any number of laps may run at a time,
and they end in any order, stopped or let go (`Timer.Request`, `Timer.Session`).

**Laps.** Stopping a lap records the time since it began and then lets the lap go. To let a lap go
records the time too, but not again (`Lap.drop_of_recorded`), so that both ways come to the same
(`Lap.stop_eq_drop`).

**The account.** Beside the timer runs an account without any metric: when the laps began that run,
and when those began and ended that are over (`Timer.Account`). `Session.Keeps` says that the timer
agrees with it. Every request keeps it so (`Session.Keeps.step`), and what the timer tells is read
off the account (`counts_agree`).
-/

namespace Telemetry

namespace Lap

/-- A lap that was recorded is let go without a trace. -/
theorem drop_of_recorded {l : Lap} (h : l.recorded = true) (w : World) : l.drop w = w := by
  rw [drop, record, if_pos h]

/-- A lap that still runs records the time since it began when it is let go. -/
theorem drop_of_running {l : Lap} (h : l.recorded = false) (w : World) :
    l.drop w = w.updateTimer l.timer (w.now - l.start) := by
  rw [drop, record, if_neg (Bool.eq_false_iff.mp h)]

/-- After it was recorded a lap counts as recorded. -/
theorem recorded_record (l : Lap) (w : World) : (l.record w).2.1.recorded = true := by
  rw [record]
  split
  · assumption
  · rfl

/-- **A lap is recorded once**, whether it is stopped or let go. -/
theorem stop_eq_drop (l : Lap) (w : World) : (l.stop w).2 = l.drop w :=
  drop_of_recorded (l.recorded_record w) _

end Lap

namespace Timer

open Reservoir (Design)

/-! ### A timer in use -/

/-- What is done with a timer and its laps, or some time that passes. -/
inductive Request where
  | wait (d : Span)
  | update (d : Span)
  | read
  /-- A reading is given back, of this timer or from elsewhere. -/
  | restore (r : Reading)
  | rates
  | begin
  /-- The lap at a place among those that run is stopped. -/
  | stop (k : Nat)
  /-- The lap at a place among those that run is let go. -/
  | drop (k : Nat)

/-- A world, a timer in it, and the laps of the timer that run. -/
structure Session where
  world : World
  id : MetricId Timer
  laps : List Lap := []

namespace Session

/-- The timer as it is now. -/
def timer (s : Session) : Timer :=
  s.world.store.timer s.id

/-- The session with the timer replaced. -/
def put (s : Session) (t : Timer) : Session :=
  { s with world := { s.world with store := s.world.store.setTimer s.id t } }

/-- A new timer in a world. -/
def start (w : World) (d : Design) : Session :=
  let (id, store) := w.store.newTimer
    { meter := { start := w.now }, histogram := .ofDesign d }
  { world := { w with store }, id }

/-- The session after a lap has ended, which does something to the world. -/
def finish (s : Session) (k : Nat) (done : Lap → World) : Session :=
  match s.laps[k]? with
  | none => s
  | some l => { s with world := done l, laps := s.laps.eraseIdx k }

/-- The session after a request. -/
def step (s : Session) : Request → Session
  | .wait d => { s with world := s.world.advance d }
  | .update d => { s with world := s.world.updateTimer s.id d }
  | .read => s.put s.timer.read.2
  | .restore r => s.put (s.timer.restore r)
  | .rates => s.put (s.timer.readRates s.world.now).2
  | .begin => { s with laps := s.laps ++ [.begin s.world s.id] }
  | .stop k => s.finish k fun l ↦ (l.stop s.world).2
  | .drop k => s.finish k fun l ↦ l.drop s.world

/-- The session after some requests. -/
def run (s : Session) (requests : List Request) : Session :=
  requests.foldl step s

end Session

/-- What has been asked of a timer, without the timer. -/
structure Account where
  /-- The reading of the clock. -/
  now : Span
  /-- When the laps began, of all that there were. -/
  begun : List Span := []
  /-- When the laps began that run. -/
  running : List Span := []
  /-- When the laps began and ended that are over. -/
  finished : List (Span × Span) := []
  /-- The durations given outright. -/
  direct : List Span := []
  /-- All durations, in the order in which they came. -/
  samples : List Span := []

namespace Account

/-- The account of a new timer. -/
def start (w : World) : Account where
  now := w.now

/-- The account after a lap has ended. -/
def finish (a : Account) (k : Nat) : Account :=
  match a.running[k]? with
  | none => a
  | some t =>
    { a with
      running := a.running.eraseIdx k
      finished := a.finished ++ [(t, a.now)]
      samples := a.samples ++ [a.now - t] }

/-- The account after a request. -/
def step (a : Account) : Request → Account
  | .wait d => { a with now := a.now + d }
  | .update d => { a with direct := a.direct ++ [d], samples := a.samples ++ [d] }
  | .begin => { a with begun := a.begun ++ [a.now], running := a.running ++ [a.now] }
  | .stop k | .drop k => a.finish k
  | .read | .restore _ | .rates => a

/-- The account after some requests. -/
def run (a : Account) (requests : List Request) : Account :=
  requests.foldl step a

/-- One more of the whole may be one more of its first part. -/
theorem perm_concat_left {all first rest : List Span} (h : all.Perm (first ++ rest)) (t : Span) :
    (all ++ [t]).Perm (first ++ [t] ++ rest) := by
  refine (h.append_right [t]).trans ?_
  rw [List.append_assoc, List.append_assoc]
  exact List.perm_append_comm.append_left _

/-- Every lap runs or is over, and those that are over have brought one duration each. -/
structure Balanced (a : Account) : Prop where
  laps : a.begun.Perm (a.running ++ a.finished.map (·.1))
  samples : a.samples.Perm (a.direct ++ a.finished.map fun lap ↦ lap.2 - lap.1)

/-- A lap that ends goes over from those that run to those that are over, and brings its duration.
-/
theorem Balanced.finish {a : Account} (h : a.Balanced) (k : Nat) : (a.finish k).Balanced := by
  unfold Account.finish
  cases hk : a.running[k]? with
  | none => exact h
  | some t =>
    obtain ⟨hlt, rfl⟩ := List.getElem?_eq_some_iff.mp hk
    have hrunning : a.running.Perm (a.running.eraseIdx k ++ [a.running[k]]) :=
      (List.getElem_cons_eraseIdx_perm hlt).symm.trans (List.perm_append_singleton _ _).symm
    constructor
    · refine h.laps.trans ((hrunning.append_right _).trans ?_)
      rw [List.map_append, List.append_assoc]
      exact List.perm_append_comm.append_left _
    · rw [List.map_append, ← List.append_assoc]
      exact h.samples.append_right _

/-- No request upsets the balance. -/
theorem Balanced.step {a : Account} (h : a.Balanced) (x : Request) : (a.step x).Balanced := by
  cases x with
  | wait d => exact ⟨h.laps, h.samples⟩
  | update d => exact ⟨h.laps, perm_concat_left h.samples d⟩
  | read => exact h
  | restore r => exact h
  | rates => exact h
  | begin => exact ⟨perm_concat_left h.laps a.now, h.samples⟩
  | stop k => exact h.finish k
  | drop k => exact h.finish k

theorem Balanced.run {a : Account} (h : a.Balanced) (requests : List Request) :
    (a.run requests).Balanced :=
  List.foldlRecOn requests _ h fun _ ha x _ ↦ ha.step x

end Account

namespace Session

variable {d : Design} {s : Session} {a : Account}

@[simp] theorem timer_put (s : Session) (t : Timer) : (s.put t).timer = t := by
  rw [timer, put, Store.timer_setTimer, if_pos rfl]

/-- A session agrees with an account. -/
structure Keeps (d : Design) (a : Account) (s : Session) : Prop where
  now : s.world.now = a.now
  laps : s.laps = a.running.map fun t ↦ { timer := s.id, start := t }
  histogram : s.timer.histogram.Keeps d (a.samples.map Span.word)
  meter : s.timer.meter.count = s.timer.histogram.count

/-- A session keeps its account from the start. -/
theorem keeps_start (w : World) (d : Design) : (start w d).Keeps d (.start w) := by
  have htimer : (start w d).timer =
      { meter := { start := w.now }, histogram := .ofDesign d } := by
    rw [timer, start]
    exact (w.store.timer_setTimer _ _ _).trans (if_pos rfl)
  refine ⟨rfl, rfl, ?_, ?_⟩
  · rw [htimer]
    exact Histogram.keeps_ofDesign d
  · rw [htimer]
    rfl

/-- A duration is recorded by both parts of the timer. -/
theorem Keeps.update (h : s.Keeps d a) (v : Span) :
    ({ s with world := s.world.updateTimer s.id v } : Session).Keeps d
      { a with samples := a.samples ++ [v] } := by
  have htimer : ({ s with world := s.world.updateTimer s.id v } : Session).timer =
      s.timer.update v s.world.now := s.timer_put _
  refine ⟨h.now, h.laps, ?_, ?_⟩
  · rw [htimer, List.map_append]
    exact h.histogram.update v.word
  · rw [htimer]
    exact (s.timer.meter.count_mark 1 s.world.now).trans (congrArg (· + 1) h.meter)

/-- A lap that ends records the time since it began. -/
theorem Keeps.drop (h : s.Keeps d a) (k : Nat) : (s.step (.drop k)).Keeps d (a.finish k) := by
  have hlap : s.laps[k]? = (a.running[k]?).map fun t ↦ { timer := s.id, start := t } := by
    rw [h.laps, List.getElem?_map]
  rw [step, Session.finish, hlap, Account.finish]
  cases a.running[k]? with
  | none => exact h
  | some t =>
    have hdrop : ({ timer := s.id, start := t } : Lap).drop s.world =
        s.world.updateTimer s.id (a.now - t) := by
      rw [Lap.drop_of_running rfl, h.now]
    have hended := h.update (a.now - t)
    dsimp only [Option.map_some]
    rw [hdrop]
    refine ⟨hended.now, ?_, hended.histogram, hended.meter⟩
    exact (congrArg (·.eraseIdx k) h.laps).trans (List.eraseIdx_map _ _ _)

/-- The timer may be replaced by one that has the same counts and holds the same. -/
theorem Keeps.put (h : s.Keeps d a) {t : Timer} (ht : t.histogram.Keeps d (a.samples.map Span.word))
    (hmeter : t.meter.count = t.histogram.count) : (s.put t).Keeps d a where
  now := h.now
  laps := h.laps
  histogram := by rwa [timer_put]
  meter := by rwa [timer_put]

/-- **Every request keeps the timer and the account together.** -/
theorem Keeps.step (h : s.Keeps d a) (x : Request) : (s.step x).Keeps d (a.step x) := by
  cases x with
  | wait v => exact ⟨congrArg (· + v) h.now, h.laps, h.histogram, h.meter⟩
  | update v =>
    have hupdated := h.update v
    exact ⟨hupdated.now, hupdated.laps, hupdated.histogram, hupdated.meter⟩
  | read => exact h.put h.histogram.read h.meter
  | restore r => exact h.put (h.histogram.restore r) h.meter
  | rates => exact h.put h.histogram ((s.timer.meter.count_catchUp s.world.now).trans h.meter)
  | begin =>
    refine ⟨h.now, ?_, h.histogram, h.meter⟩
    show s.laps ++ [⟨s.id, s.world.now, false⟩] = (a.running ++ [a.now]).map _
    rw [h.laps, h.now, List.map_append]
    rfl
  | stop k =>
    have hsame : s.step (.stop k) = s.step (.drop k) :=
      congrArg (s.finish k) (funext fun l ↦ l.stop_eq_drop s.world)
    rw [hsame]
    exact h.drop k
  | drop k => exact h.drop k

/-- **A session keeps its account** whatever is asked of it. -/
theorem Keeps.run (h : s.Keeps d a) (requests : List Request) :
    (s.run requests).Keeps d (a.run requests) := by
  induction requests generalizing s a with
  | nil => exact h
  | cons x requests ih => exact ih (h.step x)

end Session

/-! ### What a timer tells -/

/-- What a timer says of what it was asked. -/
structure Tells (d : Design) (a : Account) (t : Timer) : Prop where
  count : t.count.toNat = a.direct.length + a.finished.length
  meter : t.meter.count = t.count
  /-- What is said of any histogram, with the durations as words. -/
  histogram : t.histogram.Tells d (a.samples.map Span.word)
  /-- One duration for each lap that is over, and none for those that run. -/
  samples : a.samples.Perm (a.direct ++ a.finished.map fun lap ↦ lap.2 - lap.1)
  laps : a.begun.Perm (a.running ++ a.finished.map (·.1))
  restore : ∀ r, (t.restore r).count = t.count ∧ (t.restore r).meter = t.meter

/-- **Counts agree with reservoirs.** Whatever is done with a new histogram or timer, as long as
fewer values come in than there are words, it has counted as many values as its reservoir, and for a
timer these are the durations given outright and one for each lap that is over. -/
theorem counts_agree (d : Design) :
    (∀ steps : List Histogram.Step, (steps.filterMap Histogram.Step.value?).length ≤ maxWord →
      ((Histogram.ofDesign d).run steps).Tells d (steps.filterMap Histogram.Step.value?)) ∧
    ∀ (w : World) (requests : List Request),
      ((Account.start w).run requests).samples.length ≤ maxWord →
        ((Session.start w d).run requests).timer.Tells d ((Account.start w).run requests) := by
  refine ⟨fun steps hroom ↦ ?_, fun w requests hroom ↦ ?_⟩
  · exact ((Histogram.keeps_ofDesign d).run steps).tells hroom
  · have hkeeps := (Session.keeps_start w d).run requests
    have hbalanced : ((Account.start w).run requests).Balanced :=
      Account.Balanced.run ⟨.nil, .nil⟩ requests
    have htells := hkeeps.histogram.tells (by rwa [List.length_map])
    have hsamples := hbalanced.samples.length_eq
    rw [List.length_append, List.length_map] at hsamples
    exact
      { count := htells.count.trans ((List.length_map _).trans hsamples)
        meter := hkeeps.meter
        histogram := htells
        samples := hbalanced.samples
        laps := hbalanced.laps
        restore := fun r ↦ ⟨rfl, rfl⟩ }

/-- Two laps that run at the same time, the first stopped and the second let go, and a duration given
outright between them. What is given back in the end is of another kind. -/
theorem counts_agree_small :
    let requests : List Request :=
      [.begin, .wait ⟨5⟩, .begin, .update ⟨7⟩, .wait ⟨1⟩, .stop 0, .read, .drop 0,
        .restore (default : Reservoir).read.1]
    ((Account.start {}).run requests).samples = [⟨7⟩, ⟨6⟩, ⟨1⟩] ∧
      ((Session.start {} (.window 2)).run requests).timer.Tells (.window 2)
        ((Account.start {}).run requests) :=
  ⟨by decide, (counts_agree (.window 2)).2 {} _ (by decide)⟩

end Timer

end Telemetry
