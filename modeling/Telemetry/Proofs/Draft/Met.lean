import Mathlib
import Telemetry.Proofs.Draft.Outcome

/-!
# How far a walk comes

A walk asks for the counts of metrics in the order of a catalogue and ends at the first reading that
has no digest. What it met until then (`Presentation.met`) is all that a report asks for if the
draft was made (`met_of_made`), and otherwise a part of it, up to the metric that is named in the
error (`met_of_stopped`).

**Each metric that was met unchanged has been counted** (`skips_survey`), also in a walk that was
stopped later.
-/

namespace Telemetry

namespace Presentation

/-- Whether a count is the one last delivered under its name. -/
def Setting.same (e : Setting) (v : String × UInt64) : Bool :=
  e.ledger.unchanged v.1 v.2

/-- The counts of sources as a walk meets them, up to the first that has no digest. -/
def sourcesMet (p : Presentation) (e : Setting) (s : Store) :
    List (String × Source) → List (String × UInt64)
  | [] => []
  | (name, x) :: rest =>
    let count := x.count s
    if e.ledger.unchanged name count then (name, count) :: sourcesMet p e (e.skip s) rest
    else
      match (x.read s).1.digest p.mode (p.scale x) with
      | .error _ => [(name, count)]
      | .ok digest =>
        (name, count) :: sourcesMet p e (p.record e.now name count digest (x.read s).2 x).2 rest

/-- The counts that the walks of a draft meet. -/
def met (p : Presentation) (e : Setting) (c : Catalogue) (s : Store) : List (String × UInt64) :=
  countersSeen e s c.counters ++ metersSeen s c.meters ++
    sourcesMet p e (walkMeters p e (walkCounters e s c.counters).store c.meters).store (sources c)

variable (p : Presentation) (e : Setting) (s : Store)

/-! ### Metrics left out -/

/-- The number of metrics left out. -/
def Setting.skips (e : Setting) (s : Store) : UInt64 :=
  (s.counter e.skipped).count

/-- Leaving a metric out adds one to the number of those left out. -/
@[simp] theorem skips_skip : e.skips (e.skip s) = e.skips s + 1 := by
  rw [Setting.skips, Setting.skip, Store.counter_setCounter, if_pos rfl]
  rfl

theorem skips_of_kept {now : Span} {s s' : Store} (h : s.Kept (fun _ ↦ False) now s') :
    e.skips s' = e.skips s :=
  congrArg Counter.count (h.counter e.skipped not_false)

/-- An unchanged count at the head of a list is one more left out. -/
theorem countP_same {e : Setting} {v : String × UInt64} {l : List (String × UInt64)} {a : UInt64}
    (hv : e.ledger.unchanged v.1 v.2 = true) :
    a + .ofNat ((v :: l).countP e.same) = a + 1 + .ofNat (l.countP e.same) := by
  have hv : e.same v = true := hv
  rw [List.countP_cons_of_pos hv, UInt64.ofNat_add, UInt64.add_assoc, UInt64.add_comm 1]
  rfl

/-- A changed count is not left out. -/
theorem countP_changed {e : Setting} {v : String × UInt64} {l : List (String × UInt64)}
    (hv : ¬ e.ledger.unchanged v.1 v.2 = true) : (v :: l).countP e.same = l.countP e.same :=
  List.countP_cons_of_neg hv

/-- A walk over counters counts those that it leaves out. -/
theorem skips_walkCounters (l : List (String × MetricId Counter)) :
    e.skips (walkCounters e s l).store =
      e.skips s + .ofNat ((countersSeen e s l).countP e.same) := by
  fun_induction walkCounters e s l with
  | case1 s => exact (UInt64.add_zero _).symm
  | case2 s name id rest count hsame ih =>
    rw [ih, skips_skip, countersSeen, if_pos hsame, countP_same hsame]
  | case3 s name id rest count hchanged ih =>
    rw [countersSeen, if_neg hchanged, countP_changed hchanged]
    exact ih

/-- A walk over meters counts those that it leaves out. -/
theorem skips_walkMeters (l : List (String × MetricId Meter)) :
    e.skips (walkMeters p e s l).store = e.skips s + .ofNat ((metersSeen s l).countP e.same) := by
  fun_induction walkMeters p e s l with
  | case1 s => exact (UInt64.add_zero _).symm
  | case2 s name id rest count hsame ih =>
    rw [ih, skips_skip, metersSeen_skip, metersSeen, metersSeen, List.map_cons, countP_same hsame]
  | case3 s name id rest count hchanged rates m hread ih =>
    have hkept : s.Kept (fun _ ↦ False) e.now (s.setMeter id m) := .readMeter s hread
    rw [metersSeen_of_kept hkept fun _ _ ↦ not_false, skips_of_kept e hkept] at ih
    rw [metersSeen, List.map_cons, countP_changed hchanged]
    exact ih

/-- A walk over sources counts those that it leaves out as far as it gets. -/
theorem skips_walkSources (l : List (String × Source)) :
    e.skips (walkSources p e s l).walk.store =
      e.skips s + .ofNat ((sourcesMet p e s l).countP e.same) := by
  fun_induction sourcesMet p e s l with
  | case1 s => exact (UInt64.add_zero _).symm
  | case2 s name x rest count hsame ih =>
    rw [walkSources_cons, if_pos hsame, ih, skips_skip, countP_same hsame]
  | case3 s name x rest count hchanged cause hdigest =>
    have hkept : s.Kept (fun _ ↦ False) e.now (x.read s).2 := .read x s
    rw [walkSources_cons, if_neg hchanged, hdigest, countP_changed hchanged]
    exact (skips_of_kept e hkept).trans (UInt64.add_zero _).symm
  | case4 s name x rest count hchanged d hdigest ih =>
    rw [walkSources_cons, if_neg hchanged, hdigest, countP_changed hchanged]
    rw [skips_of_kept e (kept_recorded p e s name count d x)] at ih
    exact ih

/-! ### How far a walk comes -/

/-- The counts of sources. -/
def sourcesSeen (s : Store) (l : List (String × Source)) : List (String × UInt64) :=
  l.map fun x ↦ (x.1, x.2.count s)

/-- Sources are seen with the same counts in a store that keeps them. -/
theorem sourcesSeen_of_kept {P : Handle → Prop} {now : Span} {s s' : Store} (h : s.Kept P now s')
    {l : List (String × Source)} (hl : ∀ x ∈ l, ¬P x.2.handle) :
    sourcesSeen s' l = sourcesSeen s l :=
  List.map_congr_left fun x hx ↦ by rw [h.count x.2 (hl x hx)]

/-- A walk meets the sources in turn, all of them or the first ones. -/
theorem prefix_sourcesMet (l : List (String × Source)) :
    sourcesMet p e s l <+: sourcesSeen s l := by
  fun_induction sourcesMet p e s l with
  | case1 s => exact List.prefix_refl _
  | case2 s name x rest count hsame ih => exact List.cons_prefix_cons.2 ⟨rfl, ih⟩
  | case3 s name x rest count hchanged cause hdigest =>
    exact List.cons_prefix_cons.2 ⟨rfl, List.nil_prefix⟩
  | case4 s name x rest count hchanged d hdigest ih =>
    rw [sourcesSeen_of_kept (kept_recorded p e s name count d x) fun _ _ ↦ not_false] at ih
    exact List.cons_prefix_cons.2 ⟨rfl, ih⟩

/-- If nothing stops it, it meets all of them. -/
theorem sourcesMet_of_made {l : List (String × Source)} (h : (walkSources p e s l).stopped = none) :
    sourcesMet p e s l = sourcesSeen s l := by
  fun_induction sourcesMet p e s l with
  | case1 s => rfl
  | case2 s name x rest count hsame ih =>
    rw [walkSources_cons, if_pos hsame] at h
    exact congrArg _ (ih h)
  | case3 s name x rest count hchanged cause hdigest =>
    rw [walkSources_cons, if_neg hchanged, hdigest] at h
    cases h
  | case4 s name x rest count hchanged d hdigest ih =>
    rw [walkSources_cons, if_neg hchanged, hdigest] at h
    rw [sourcesSeen_of_kept (kept_recorded p e s name count d x) fun _ _ ↦ not_false] at ih
    exact congrArg _ (ih h)

/-- Otherwise the last one that it meets has changed, and stops it. Sources left out do not. -/
theorem sourcesMet_of_stopped {l : List (String × Source)} {name : String} {cause : DigestError}
    (h : (walkSources p e s l).stopped = some (.digest name cause)) :
    ∃ before count, sourcesMet p e s l = before ++ [(name, count)] ∧
      e.same (name, count) = false := by
  fun_induction sourcesMet p e s l with
  | case1 s => cases h
  | case2 s name x rest count hsame ih =>
    rw [walkSources_cons, if_pos hsame] at h
    obtain ⟨before, last, hmet, hlast⟩ := ih h
    exact ⟨_ :: before, last, congrArg _ hmet, hlast⟩
  | case3 s name x rest count hchanged cause hdigest =>
    rw [walkSources_cons, if_neg hchanged, hdigest] at h
    cases h
    exact ⟨[], count, rfl, Bool.eq_false_of_not_eq_true hchanged⟩
  | case4 s name x rest count hchanged d hdigest ih =>
    rw [walkSources_cons, if_neg hchanged, hdigest] at h
    obtain ⟨before, last, hmet, hlast⟩ := ih h
    exact ⟨_ :: before, last, congrArg _ hmet, hlast⟩

/-! ### Drafts -/

variable (c : Catalogue)

/-- The walk over counters moves none but that of metrics left out, and no other metric. -/
theorem walkCounters_kept_skipped :
    s.Kept (· = .counter e.skipped) e.now (walkCounters e s c.counters).store :=
  walkCounters_kept (P := (· = .counter e.skipped)) e s rfl _

/-- Behind the walks over counters and meters everything is as it was, the counter of metrics left
out aside. -/
theorem walkMeters_kept_skipped :
    s.Kept (· = .counter e.skipped) e.now
      (walkMeters p e (walkCounters e s c.counters).store c.meters).store :=
  (walkCounters_kept_skipped e s c).trans
    (walkMeters_kept (P := (· = .counter e.skipped)) p e _ rfl _)

/-- **Each metric that was met unchanged has been counted.** -/
theorem skips_survey :
    e.skips (p.survey e c s).walk.store = e.skips s + .ofNat ((p.met e c s).countP e.same) := by
  have hkept := walkCounters_kept_skipped e s c
  have hmeters := metersSeen_of_kept (l := c.meters) hkept fun m _ ↦ m.2.meter_ne_counter _
  rw [survey, skips_walkSources, skips_walkMeters, skips_walkCounters, hmeters, met,
    List.countP_append, List.countP_append, UInt64.ofNat_add, UInt64.ofNat_add]
  simp only [UInt64.add_assoc]

/-- What a draft sees is what the three walks see in turn. -/
theorem seen_eq :
    seen e s c = countersSeen e s c.counters ++ metersSeen s c.meters ++
      sourcesSeen (walkMeters p e (walkCounters e s c.counters).store c.meters).store
        (sources c) := by
  rw [seen, seen_sources, sourcesSeen_of_kept (walkMeters_kept_skipped p e s c) fun x _ ↦
    x.2.handle_ne_counter _]
  rfl

/-- What is met is what a report asks for first. -/
theorem prefix_met : p.met e c s <+: seen e s c := by
  rw [seen_eq p, met]
  exact (List.prefix_append_right_inj _).2 (prefix_sourcesMet p e _ _)

/-- If a draft is made, all of it has been met. -/
theorem met_of_made (h : (p.survey e c s).stopped = none) : p.met e c s = seen e s c := by
  rw [seen_eq p, met, sourcesMet_of_made p e _ h]

/-- If the walk is stopped, then by the last metric that it met. -/
theorem met_of_stopped {name : String} {cause : DigestError}
    (h : (p.survey e c s).stopped = some (.digest name cause)) :
    ∃ before count, p.met e c s = before ++ [(name, count)] ∧ e.same (name, count) = false := by
  obtain ⟨before, count, hmet, hchanged⟩ := sourcesMet_of_stopped p e _ h
  exact ⟨_, count, by rw [met, hmet, ← List.append_assoc], hchanged⟩

end Presentation

end Telemetry
