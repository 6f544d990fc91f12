import Mathlib
import Telemetry.Proofs.Draft.Walk
import Telemetry.Proofs.Reporter

/-!
# A tick writes to its own metrics and those it is about

A write puts a `Cell`, a metric and what it is to be, into the store, and all other cells stay as
they are (`Store.cell_put`).

A store has a size for each kind, the number of the next new metric of that kind. Metrics of the
store have numbers below it (`Handle.In`), and writing to them does not change it.

`Store.Writes P` relates a store to what it is after any writes to metrics of a set `P`. All steps
of a tick are such writes, to the metrics of the catalogue and those of the reporter
(`Reporter.Ticks.writes`). So no tick takes a metric away (`Store.Writes.size_le`), and one that is
about metrics of the store leaves its sizes as they are (`Store.Writes.size_eq`).
-/

namespace Telemetry

namespace Cells

variable {α : Type} [Inhabited α]

/-- Setting a cell takes up the indices as far as that cell. -/
theorem fresh_set (c : Cells α) (i : Nat) (a : α) : (c.set i a).fresh = max c.fresh (i + 1) := by
  unfold set fresh
  split
  · next h =>
    rw [Array.size_setIfInBounds]
    omega
  · next h =>
    rw [Array.size_push, Array.size_append, Array.size_replicate]
    omega

end Cells

namespace Handle

/-- The number of a metric among those of its kind. -/
def index : Handle → Nat
  | gauge id => id.index
  | counter id => id.index
  | meter id => id.index
  | histogram id => id.index
  | timer id => id.index

end Handle

/-- A metric and what it is to be. -/
inductive Cell where
  | gauge (id : MetricId Gauge) (g : Gauge)
  | counter (id : MetricId Counter) (c : Counter)
  | meter (id : MetricId Meter) (m : Meter)
  | histogram (id : MetricId Histogram) (h : Histogram)
  | timer (id : MetricId Timer) (t : Timer)

/-- The metric of a cell. -/
def Cell.handle : Cell → Handle
  | gauge id _ => .gauge id
  | counter id _ => .counter id
  | meter id _ => .meter id
  | histogram id _ => .histogram id
  | timer id _ => .timer id

namespace Store

/-- The store with a cell written. -/
def put (s : Store) : Cell → Store
  | .gauge id g => s.setGauge id g
  | .counter id c => s.setCounter id c
  | .meter id m => s.setMeter id m
  | .histogram id h => s.setHistogram id h
  | .timer id t => s.setTimer id t

/-- A metric of the store, and what it is. -/
def cell (s : Store) : Handle → Cell
  | .gauge id => .gauge id (s.gauge id)
  | .counter id => .counter id (s.counter id)
  | .meter id => .meter id (s.meter id)
  | .histogram id => .histogram id (s.histogram id)
  | .timer id => .timer id (s.timer id)

/-- **What one write does to every metric.** -/
theorem cell_put (s : Store) (c : Cell) (h : Handle) :
    (s.put c).cell h = if h = c.handle then c else s.cell h := by
  cases c with
  | gauge id g =>
    cases h with
    | gauge j =>
      simp only [put, cell, gauge_setGauge, Cell.handle, Handle.gauge.injEq]
      split <;> simp_all
    | _ => rfl
  | counter id c =>
    cases h with
    | counter j =>
      simp only [put, cell, counter_setCounter, Cell.handle, Handle.counter.injEq]
      split <;> simp_all
    | _ => rfl
  | meter id m =>
    cases h with
    | meter j =>
      simp only [put, cell, meter_setMeter, Cell.handle, Handle.meter.injEq]
      split <;> simp_all
    | _ => rfl
  | histogram id a =>
    cases h with
    | histogram j =>
      simp only [put, cell, histogram_setHistogram, Cell.handle, Handle.histogram.injEq]
      split <;> simp_all
    | _ => rfl
  | timer id t =>
    cases h with
    | timer j =>
      simp only [put, cell, timer_setTimer, Cell.handle, Handle.timer.injEq]
      split <;> simp_all
    | _ => rfl

/-- The number of the next new metric of a kind. -/
def size (s : Store) : Kind → Nat
  | .gauge => s.gauges.fresh
  | .counter => s.counters.fresh
  | .meter => s.meters.fresh
  | .histogram => s.histograms.fresh
  | .timer => s.timers.fresh

/-- Putting a metric into the store makes room for it among those of its kind. -/
theorem size_put (s : Store) (c : Cell) (k : Kind) :
    (s.put c).size k =
      if k = c.handle.kind then max (s.size k) (c.handle.index + 1) else s.size k := by
  cases c <;> cases k <;> first | exact Cells.fresh_set _ _ _ | rfl

end Store

/-- The count of a metric. Gauges have none. -/
def Store.count (s : Store) : Handle → Option UInt64
  | .gauge _ => none
  | .counter id => some (s.counter id).count
  | .meter id => some (s.meter id).count
  | .histogram id => some (s.histogram id).count
  | .timer id => some (s.timer id).count

/-- The count in a cell. -/
def Cell.count : Cell → Option UInt64
  | gauge _ _ => none
  | counter _ c => some c.count
  | meter _ m => some m.count
  | histogram _ h => some h.count
  | timer _ t => some t.count

theorem Store.count_cell (s : Store) (h : Handle) : (s.cell h).count = s.count h := by
  cases h <;> rfl

/-- Putting a metric into the store changes its count and no other. -/
theorem Store.count_put (s : Store) (c : Cell) (h : Handle) :
    (s.put c).count h = if h = c.handle then c.count else s.count h := by
  rw [← count_cell, ← count_cell, cell_put]
  split <;> rfl

/-- The metric is one of the store. -/
def Handle.In (s : Store) (h : Handle) : Prop :=
  h.index < s.size h.kind

/-- One store comes from another by writing to metrics of a set. -/
inductive Store.Writes (P : Handle → Prop) (s : Store) : Store → Prop where
  | refl : Writes P s s
  | put {s' : Store} (h : Writes P s s') {c : Cell} (hc : P c.handle) : Writes P s (s'.put c)

namespace Store.Writes

variable {P : Handle → Prop} {s s' s'' : Store}

/-- One after the other, two changes write to what either writes to. -/
theorem trans (h₁ : s.Writes P s') (h₂ : s'.Writes P s'') : s.Writes P s'' := by
  induction h₂ with
  | refl => exact h₁
  | put _ hc ih => exact ih.put hc

/-- Putting one metric into the store writes to that metric. -/
theorem one {c : Cell} (hc : P c.handle) : s.Writes P (s.put c) :=
  .put .refl hc

/-- **Writing takes no metric away.** -/
theorem size_le (h : s.Writes P s') (k : Kind) : s.size k ≤ s'.size k := by
  induction h with
  | refl => exact le_rfl
  | put _ hc ih =>
    rw [size_put]
    split
    · exact ih.trans (Nat.le_max_left _ _)
    · exact ih

theorem isIn {x : Handle} (h : s.Writes P s') (hx : x.In s) : x.In s' :=
  Nat.lt_of_lt_of_le hx (h.size_le x.kind)

/-- **Writing to metrics of the store makes none.** -/
theorem size_eq (h : s.Writes P s') (hP : ∀ x, P x → x.In s) (k : Kind) : s'.size k = s.size k := by
  induction h with
  | refl => rfl
  | @put s' _ c hc ih =>
    rw [size_put]
    split
    · next hk =>
      have hlt := hP _ hc
      rw [Handle.In, ← hk, ← ih] at hlt
      rw [← ih]
      exact Nat.max_eq_left hlt
    · exact ih

/-- **What is not of the set stays as it was.** -/
theorem cell_eq {x : Handle} (h : s.Writes P s') (hx : ¬P x) : s'.cell x = s.cell x := by
  induction h with
  | refl => rfl
  | @put s' _ c hc ih =>
    rw [cell_put, if_neg, ih]
    rintro rfl
    exact hx hc

end Store.Writes

/-! ### Ticks -/

namespace Catalogue

/-- The metrics of a catalogue, whatever their names. -/
def handles (c : Catalogue) : List Handle :=
  c.gauges.map (fun e ↦ .gauge e.2) ++ c.counters.map (fun e ↦ .counter e.2) ++
    c.meters.map (fun e ↦ .meter e.2) ++ (Presentation.sources c).map fun e ↦ e.2.handle

variable {c : Catalogue} {P : Handle → Prop}

/-- Something holds of all metrics of a catalogue if it does so kind by kind. -/
theorem forall_handles : (∀ h ∈ c.handles, P h) ↔
    (∀ e ∈ c.gauges, P (.gauge e.2)) ∧ (∀ e ∈ c.counters, P (.counter e.2)) ∧
      (∀ e ∈ c.meters, P (.meter e.2)) ∧ ∀ e ∈ Presentation.sources c, P e.2.handle := by
  simp only [handles, List.forall_mem_append, List.forall_mem_map, and_assoc]

end Catalogue

/-- The metrics that a reporter keeps about itself. -/
def Stats.Owns (t : Stats) (h : Handle) : Prop :=
  h ∈ t.set.map (·.2)

/-- The metrics that a reporter counts in are five. -/
theorem Stats.forall_owns {t : Stats} {P : Handle → Prop} :
    (∀ h, t.Owns h → P h) ↔ P (.timer t.reports) ∧ P (.meter t.failedReports) ∧
      P (.histogram t.reportSize) ∧ P (.counter t.skippedUnchanged) ∧ P (.gauge t.reportCount) := by
  simp [Stats.Owns, Stats.set]

/-- The metrics of a new reporter are in the store. -/
theorem Stats.isIn_create (now : Span) (s : Store) (h : Handle)
    (hh : (Stats.create now s).1.Owns h) : h.In (Stats.create now s).2 := by
  have hset : ∀ {α : Type} [Inhabited α] (c : Cells α) (a : α),
      c.fresh < (c.set c.fresh a).fresh := by
    intro α _ c a
    rw [Cells.fresh_set]
    omega
  revert h
  rw [Stats.forall_owns]
  exact ⟨hset _ _, hset _ _, hset _ _, hset _ _, hset _ _⟩

namespace Presentation

variable {P : Handle → Prop} (p : Presentation) (e : Setting) (s : Store)

/-- Leaving a metric out writes to the counter of metrics left out. -/
theorem writes_skip (he : P (.counter e.skipped)) : s.Writes P (e.skip s) :=
  .one (c := .counter e.skipped _) he

/-- Reading a source writes to it. -/
theorem writes_read {x : Source} (hx : P x.handle) : s.Writes P (x.read s).2 := by
  cases x with
  | histogram id => exact .one (c := .histogram id _) hx
  | timer id => exact .one (c := .timer id _) hx

/-- Giving a reading back writes to the source that it is of. -/
theorem writes_restore {x : Source} (hx : P x.handle) (r : Reading) :
    s.Writes P (x.restore s r) := by
  cases x with
  | histogram id => exact .one (c := .histogram id _) hx
  | timer id => exact .one (c := .timer id _) hx

/-- Making a record writes to the source that it is about, since its meter catches up. -/
theorem writes_record {x : Source} (hx : P x.handle) (now : Span) (name : String) (count : UInt64)
    (d : Digest) : s.Writes P (p.record now name count d s x).2 := by
  cases x with
  | histogram id => exact .refl
  | timer id => exact .one (c := .timer id _) hx

/-- A walk over counters writes to the counter of metrics left out. -/
theorem writes_walkCounters {l : List (String × MetricId Counter)} (he : P (.counter e.skipped)) :
    s.Writes P (walkCounters e s l).store := by
  fun_induction walkCounters e s l with
  | case1 s => exact .refl
  | case2 s name id rest count hsame ih => exact (writes_skip e s he).trans ih
  | case3 s name id rest count hchanged ih => exact ih

/-- A walk over meters writes to these besides. -/
theorem writes_walkMeters {l : List (String × MetricId Meter)} (he : P (.counter e.skipped))
    (hl : ∀ x ∈ l, P (.meter x.2)) : s.Writes P (walkMeters p e s l).store := by
  fun_induction walkMeters p e s l with
  | case1 s => exact .refl
  | case2 s name id rest count hsame ih =>
    exact (writes_skip e s he).trans (ih fun x hx ↦ hl x (List.mem_cons_of_mem _ hx))
  | case3 s name id rest count hchanged rates m hread ih =>
    have hid := hl (name, id) List.mem_cons_self
    exact (Store.Writes.one (c := .meter id m) hid).trans
      (ih fun x hx ↦ hl x (List.mem_cons_of_mem _ hx))

/-- A walk over sources writes to them, and takes readings of them only. -/
theorem writes_walkSources {l : List (String × Source)} (he : P (.counter e.skipped))
    (hl : ∀ x ∈ l, P x.2.handle) :
    s.Writes P (walkSources p e s l).walk.store ∧
      ∀ t ∈ (walkSources p e s l).taken, P t.1.handle := by
  fun_induction walkSources p e s l with
  | case1 s => exact ⟨.refl, fun t ht ↦ absurd ht List.not_mem_nil⟩
  | case2 s name x rest count hsame ih =>
    obtain ⟨hstore, htaken⟩ := ih fun y hy ↦ hl y (List.mem_cons_of_mem _ hy)
    exact ⟨(writes_skip e s he).trans hstore, htaken⟩
  | case3 s name x rest count hchanged reading s₁ hread cause hdigest =>
    have hx := hl (name, x) List.mem_cons_self
    have hs₁ : s₁ = (x.read s).2 := (congrArg Prod.snd hread).symm
    rw [hs₁]
    refine ⟨writes_read s hx, fun t ht ↦ ?_⟩
    rw [List.mem_singleton.1 ht]
    exact hx
  | case4 s name x rest count hchanged reading s₁ hread d hdigest record s₂ hrecord w ih =>
    have hx := hl (name, x) List.mem_cons_self
    have hs₁ : s₁ = (x.read s).2 := (congrArg Prod.snd hread).symm
    have hs₂ : s₂ = (p.record e.now name count d s₁ x).2 := (congrArg Prod.snd hrecord).symm
    obtain ⟨hstore, htaken⟩ := ih fun y hy ↦ hl y (List.mem_cons_of_mem _ hy)
    have hhere : s.Writes P s₂ := by
      rw [hs₂, hs₁]
      exact (writes_read s hx).trans (writes_record p _ hx e.now name count d)
    refine ⟨hhere.trans hstore, fun t ht ↦ ?_⟩
    rcases List.mem_cons.1 ht with rfl | ht
    · exact hx
    · exact htaken t ht

/-- Giving readings back writes to the sources that they are of. -/
theorem writes_restoreAll {taken : List (Source × Reading)} (ht : ∀ t ∈ taken, P t.1.handle) :
    s.Writes P (restoreAll taken s) := by
  induction taken generalizing s with
  | nil => exact .refl
  | cons t taken ih =>
    exact (writes_restore s (ht t List.mem_cons_self) t.2).trans
      (ih _ fun u hu ↦ ht u (List.mem_cons_of_mem _ hu))

/-- **The walks of a draft write to the metrics that it is about**, and take readings of these only,
the counter of metrics left out aside. -/
theorem writes_survey {c : Catalogue} (he : P (.counter e.skipped)) (hc : ∀ h ∈ c.handles, P h) :
    s.Writes P (p.survey e c s).walk.store ∧ ∀ t ∈ (p.survey e c s).taken, P t.1.handle := by
  obtain ⟨-, -, hmeters, hsources⟩ := Catalogue.forall_handles.1 hc
  have h₁ := writes_walkCounters (l := c.counters) e s he
  have h₂ := writes_walkMeters p e (walkCounters e s c.counters).store he hmeters
  obtain ⟨h₃, htaken⟩ := writes_walkSources p e
    (walkMeters p e (walkCounters e s c.counters).store c.meters).store he hsources
  exact ⟨(h₁.trans h₂).trans h₃, htaken⟩

end Presentation

namespace Reporter

variable (r : Reporter) {t : Tick} {w : World}

/-- Sending writes to metrics of the reporter. -/
theorem writes_posted {P : Handle → Prop} (hown : ∀ h, r.stats.Owns h → P h)
    (now elapsed : Span) (d : Draft) (s : Store) : s.Writes P (r.posted now elapsed d s) := by
  obtain ⟨hreports, -, hsize, -, hcount⟩ := Stats.forall_owns.1 hown
  exact ((Store.Writes.one (c := .gauge _ _) hcount).put (c := .histogram _ _) hsize).put
    (c := .timer _ _) hreports

/-- Nothing else shows that something was sent. -/
theorem kept_posted {P : Handle → Prop} (hown : ∀ h, r.stats.Owns h → P h)
    (now elapsed : Span) (d : Draft) (s : Store) : s.Kept P now (r.posted now elapsed d s) := by
  obtain ⟨hreports, -, hsize, -, hcount⟩ := Stats.forall_owns.1 hown
  exact ((Store.Kept.setGauge s hcount _).trans (.setHistogram _ fun h ↦ absurd hsize h)).trans
    (.setTimer _ fun h ↦ absurd hreports h)

/-- **A tick writes to the metrics that it is about and to those of the reporter.** -/
theorem Ticks.writes {r : Reporter} {P : Handle → Prop} {result : Outcome × Reporter × World}
    (h : r.Ticks t w result) (hown : ∀ h, r.stats.Owns h → P h)
    (hsubject : ∀ h ∈ (r.subject t w).handles, P h) : w.store.Writes P result.2.2.store := by
  obtain ⟨-, hfailed, -, hskipped, -⟩ := Stats.forall_owns.1 hown
  obtain ⟨hwalk, htaken⟩ :=
    r.presentation.writes_survey (r.setting w) w.store hskipped hsubject
  have hfail : ∀ s : Store, s.Writes P (r.fail w.now s) := fun s ↦ .one (c := .meter _ _) hfailed
  cases h with
  | stopped => exact (hwalk.trans (Presentation.writes_restoreAll _ htaken)).trans (hfail _)
  | @refused d _ _ hstopped hd hreply =>
    have hposted := r.writes_posted hown w.now t.elapsed d (r.survey t w).walk.store
    exact ((hwalk.trans hposted).trans (Presentation.writes_restoreAll _ htaken)).trans (hfail _)
  | delivered => exact hwalk.trans (r.writes_posted hown w.now _ _ _)

/-- **Reservoirs aside, a tick changes only the metrics of the reporter**, but for meters that catch
up. -/
theorem Ticks.kept {r : Reporter} {P : Handle → Prop} {result : Outcome × Reporter × World}
    (h : r.Ticks t w result) (hown : ∀ h, r.stats.Owns h → P h) :
    w.store.Kept P w.now result.2.2.store := by
  obtain ⟨-, hfailed, -, hskipped, -⟩ := Stats.forall_owns.1 hown
  have hwalk := r.presentation.survey_kept (r.setting w) (r.subject t w) w.store hskipped
  have hfail : ∀ s : Store, s.Kept P w.now (r.fail w.now s) := fun s ↦
    .setMeter s fun h ↦ absurd hfailed h
  cases h with
  | stopped => exact (hwalk.trans (.restoreAll _ _)).trans (hfail _)
  | refused =>
    exact ((hwalk.trans (r.kept_posted hown w.now _ _ _)).trans (.restoreAll _ _)).trans (hfail _)
  | delivered => exact hwalk.trans (r.kept_posted hown w.now _ _ _)

end Reporter

end Telemetry
