import Mathlib
import Telemetry.Proofs.Reservoir.Sound
import Telemetry.Proofs.Writes

/-!
# Runs of a reporter

A `System` is a reporter and the world that it reports on. What happens to it is a list of events,
in any order: a program acts on the world (`Action`), the reporter ticks, or its filter is set.
`System.run` is the system after the events.

**What is observed of a run** is collected from its steps (`System.collect`): the reports that were
acknowledged, with the metrics they were about (`System.acknowledged`), and the values that a source
was fed (`System.fed`), those that the reporter feeds its own metrics included.

**Assumptions about a run** hold at each of its steps (`System.Along`). Events are legal if what
they bring along was made by the operations on reservoirs, and a system is reachable if legal events
lead to it from an empty world. All its reservoirs are sound (`System.Reachable.sound`). The least
that shows anything is `System.small`, a reporter on one counter and one histogram.
-/

namespace Telemetry

/-- What a new metric is like. -/
inductive Blueprint where
  | gauge (g : Gauge)
  | counter
  | meter
  | histogram (ρ : Reservoir)
  | timer (ρ : Reservoir)

/-- A new metric of the world, which begins now. -/
def World.fresh (w : World) : Blueprint → Cell
  | .gauge g => .gauge (w.store.newGauge g).1 g
  | .counter => .counter (w.store.newCounter {}).1 {}
  | .meter => .meter (w.store.newMeter { start := w.now }).1 { start := w.now }
  | .histogram ρ => .histogram (w.store.newHistogram { reservoir := ρ }).1 { reservoir := ρ }
  | .timer ρ =>
    let t : Timer := { meter := { start := w.now }, histogram := { reservoir := ρ } }
    .timer (w.store.newTimer t).1 t

/-- The store with a value queued by a recorder of a reservoir. -/
def Source.record (s : Store) (v : UInt64) : Source → Store
  | histogram id =>
    let h := s.histogram id
    s.setHistogram id { h with reservoir := h.reservoir.record v }
  | timer id =>
    let t := s.timer id
    let h := t.histogram
    s.setTimer id { t with histogram := { h with reservoir := h.reservoir.record v } }

/-- What a program does. -/
inductive Action where
  | advance (d : Span)
  | setTimeOfDay (nanos : Int)
  /-- A new metric, under no name yet. -/
  | make (b : Blueprint)
  | register (name : String) (h : Handle)
  | registerSet (group : String) (entries : List (String × Handle))
  | remove (name : String)
  /-- Asks for the metric of a name, which is made if the name is free; gauges are not made so. -/
  | get (k : Kind) (name : String)
  | setGauge (id : MetricId Gauge) (g : Gauge)
  | updateCounter (id : MetricId Counter) (f : Counter → Counter)
  | mark (id : MetricId Meter) (n : UInt64)
  | updateHistogram (id : MetricId Histogram) (v : UInt64)
  | updateTimer (id : MetricId Timer) (d : Span)
  | record (x : Source) (v : UInt64)
  /-- Reads a reservoir. -/
  | take (x : Source)
  /-- Gives a reading to a reservoir. -/
  | give (x : Source) (r : Reading)

namespace Action

/-- The world after a request that may have failed. -/
def orSame {ε α : Type} (w : World) : Except ε (α × World) → World
  | .ok (_, w') => w'
  | .error _ => w

/-- The world after an action. An action that fails changes nothing. -/
def run (w : World) : Action → World
  | advance d => w.advance d
  | setTimeOfDay nanos => w.setTimeOfDay nanos
  | make b => { w with store := w.store.put (w.fresh b) }
  | register name h => orSame w ((w.register name h).map fun w ↦ ((), w))
  | registerSet group entries => { w with registry := (w.registry.registerSet group entries).1 }
  | remove name => { w with registry := (w.registry.remove name).2 }
  | get .gauge _ => w
  | get .counter name => orSame w (w.counter name)
  | get .meter name => orSame w (w.meter name)
  | get .histogram name => orSame w (w.histogram name)
  | get .timer name => orSame w (w.timer name)
  | setGauge id g => { w with store := w.store.setGauge id g }
  | updateCounter id f => w.updateCounter id f
  | mark id n => w.mark id n
  | updateHistogram id v => w.updateHistogram id v
  | updateTimer id d => w.updateTimer id d
  | record x v => { w with store := x.record w.store v }
  | take x => { w with store := (x.read w.store).2 }
  | give x r => { w with store := x.restore w.store r }

/-- The values that an action feeds to a source. -/
def feeds (x : Source) : Action → List UInt64
  | updateHistogram id v => if x = .histogram id then [v] else []
  | updateTimer id d => if x = .timer id then [d.word] else []
  | _ => []

/-- The action neither records into the reservoir of a source, nor reads it, nor gives to it. -/
def Spares (x : Source) : Action → Prop
  | record y _ | take y | give y _ => y ≠ x
  | _ => True

/-- What the action brings along was made by the operations on reservoirs. -/
def Legal : Action → Prop
  | make (.histogram ρ) | make (.timer ρ) => ρ.Made
  | give _ r => ∃ ρ : Reservoir, ρ.Made ∧ r = ρ.read.1
  | _ => True

end Action

/-- A reporter and what it reports on. -/
structure System where
  reporter : Reporter
  world : World

/-- What happens to a system. -/
inductive Event where
  | act (a : Action)
  | tick (t : Tick)
  | setFilter (f : Filter)

namespace System

/-- What becomes of a tick. -/
def outcome (s : System) (t : Tick) : Outcome :=
  (s.reporter.tick t s.world).1

/-- The system after an event. -/
def step (s : System) : Event → System
  | .act a => { s with world := a.run s.world }
  | .tick t => ⟨(s.reporter.tick t s.world).2.1, (s.reporter.tick t s.world).2.2⟩
  | .setFilter f => { s with reporter := { s.reporter with filter := some f } }

/-- The system after some events. -/
def run (s : System) (events : List Event) : System :=
  events.foldl step s

/-- What is seen of the steps of a run, one after the other. -/
def collect {α : Type} (f : System → Event → List α) (s : System) : List Event → List α
  | [] => []
  | e :: events => f s e ++ collect f (s.step e) events

/-- Something holds at each step of a run. -/
def Along (P : System → Event → Prop) (s : System) (events : List Event) : Prop :=
  ∀ before e after, events = before ++ e :: after → P (s.run before) e

variable {s : System} {events : List Event} {e : Event}

@[simp] theorem run_nil (s : System) : s.run [] = s := rfl

theorem run_concat (s : System) (events : List Event) (e : Event) :
    s.run (events ++ [e]) = (s.run events).step e := by
  rw [run, List.foldl_append]
  rfl

theorem run_append (s : System) (before events : List Event) :
    s.run (before ++ events) = (s.run before).run events :=
  List.foldl_append

/-- One event more adds what it brings in the state before it. -/
theorem collect_concat {α : Type} (f : System → Event → List α) (s : System) (events : List Event)
    (e : Event) : s.collect f (events ++ [e]) = s.collect f events ++ f (s.run events) e := by
  induction events generalizing s with
  | nil => simp [collect]
  | cons e' events ih =>
    rw [List.cons_append, collect, ih, collect, List.append_assoc]
    rfl

theorem along_nil (P : System → Event → Prop) (s : System) : s.Along P [] := by
  intro before e after h
  simp at h

/-- What holds along a run holds along its beginning and at its last step. -/
theorem along_concat {P : System → Event → Prop} :
    s.Along P (events ++ [e]) ↔ s.Along P events ∧ P (s.run events) e := by
  constructor
  · intro h
    refine ⟨fun before e' after hsplit ↦ h before e' (after ++ [e]) ?_, h events e [] rfl⟩
    rw [hsplit, List.append_assoc, List.cons_append]
  · rintro ⟨h, he⟩ before e' after hsplit
    rcases List.eq_nil_or_concat after with rfl | ⟨after, e'', rfl⟩
    · obtain ⟨rfl, rfl⟩ := List.append_inj' hsplit rfl |>.imp id List.singleton_inj.1
      exact he
    · rw [List.concat_eq_append, ← List.cons_append, ← List.append_assoc] at hsplit
      exact h before e' after (List.append_inj' hsplit rfl).1

/-- What holds along a run holds of its first event and along the rest. -/
theorem along_cons {P : System → Event → Prop} :
    s.Along P (e :: events) ↔ P s e ∧ (s.step e).Along P events := by
  constructor
  · intro h
    exact ⟨h [] e events rfl, fun before e' after hsplit ↦ h (e :: before) e' after (by simp [hsplit])⟩
  · rintro ⟨he, h⟩ before e' after hsplit
    cases before with
    | nil =>
      obtain ⟨rfl, rfl⟩ := List.cons.inj hsplit
      exact he
    | cons e'' before =>
      obtain ⟨rfl, rfl⟩ := List.cons.inj hsplit
      exact h before e' after rfl

/-! ### What is observed -/

/-- The report that an event brought to the collector, if it was acknowledged, and the metrics that
it was about. -/
def deliveries (s : System) : Event → List (Catalogue × Report)
  | .tick t =>
    match (s.outcome t).result, (s.outcome t).report with
    | .ok _, some report => [(s.reporter.subject t s.world, report)]
    | _, _ => []
  | _ => []

/-- The values that an event feeds to a source. -/
def feeds (x : Source) (s : System) : Event → List UInt64
  | .act a => a.feeds x
  | .tick t => s.reporter.fed t.elapsed (s.outcome t) x
  | .setFilter _ => []

/-- The reports acknowledged in a run. -/
def acknowledged (s : System) (events : List Event) : List (Catalogue × Report) :=
  s.collect deliveries events

/-- The values that a source was fed in a run. -/
def fed (s : System) (x : Source) (events : List Event) : List UInt64 :=
  s.collect (feeds x) events

end System

namespace Event

/-- Only the reporter reads the reservoir of a source and gives to it, and nobody records into
it. -/
def Spares (x : Source) (_ : System) : Event → Prop
  | act a => a.Spares x
  | _ => True

/-- What the event brings along was made by the operations on reservoirs. -/
def Legal : Event → Prop
  | act a => a.Legal
  | _ => True

end Event

/-! ### Reachable systems -/

/-- Legal actions lead to the world from an empty one. -/
inductive World.Reachable : World → Prop where
  | empty : Reachable {}
  | act {w : World} (h : Reachable w) {a : Action} (ha : a.Legal) : Reachable (a.run w)

/-- Legal events lead to the system, whose reporter was created in a reachable world. -/
inductive System.Reachable : System → Prop where
  | create {settings : Settings} {w w' : World} {r : Reporter} (h : w.Reachable)
      (hr : Reporter.create settings w = .ok (r, w')) : Reachable ⟨r, w'⟩
  | step {s : System} (h : Reachable s) {e : Event} (he : e.Legal) : Reachable (s.step e)

/-- **Legal events lead from one reachable system to another.** -/
theorem System.Reachable.run {s : System} (h : s.Reachable) {events : List Event}
    (hlegal : ∀ e ∈ events, e.Legal) : (s.run events).Reachable := by
  induction events generalizing s with
  | nil => exact h
  | cons e events ih =>
    exact ih (h.step (hlegal e List.mem_cons_self)) fun e' he' ↦
      hlegal e' (List.mem_cons_of_mem _ he')

/-! ### A small system -/

/-- A counter and a histogram, both fresh. -/
def World.small : World :=
  (Action.get .histogram "h").run ((Action.get .counter "c").run {})

/-- Settings with as little as is needed, by which unchanged metrics are left out or not. -/
def Settings.small (skip : Bool) : Settings where
  url := some { scheme := "http", authority := some { host := .domain "h" }, path := .segments [""] }
  host := "h"
  skipUnchanged := skip

/-- A new reporter in the small world. -/
def System.small (skip : Bool) : System where
  reporter :=
    { presentation := (Settings.small skip).presentation
      transport := ⟨{ scheme := "http", authority := some { host := .domain "h" },
                      path := .segments [""] }, none, false⟩
      ledger := .new skip
      stats := (Stats.create {} World.small.store).1 }
  world := { World.small with store := (Stats.create {} World.small.store).2 }

theorem System.create_small (skip : Bool) : Reporter.create (Settings.small skip) World.small =
    .ok ((System.small skip).reporter, (System.small skip).world) :=
  rfl

theorem System.small_reachable (skip : Bool) : (System.small skip).Reachable :=
  have hcounter : ((Action.get .counter "c").run {}).Reachable :=
    World.Reachable.empty.act (a := .get .counter "c") trivial
  .create (hcounter.act (a := .get .histogram "h") trivial) (System.create_small skip)

theorem System.small_isIn (skip : Bool) :
    (Source.histogram ⟨0⟩).handle.In (System.small skip).world.store :=
  Nat.zero_lt_two

theorem System.small_countsBy (skip : Bool) :
    ((Source.histogram ⟨0⟩).held (System.small skip).world.store).reservoir.CountsBy
      BinnedReservoir.defaultLayout :=
  ⟨rfl, rfl, fun _ ↦ Nat.zero_le _⟩

end Telemetry
