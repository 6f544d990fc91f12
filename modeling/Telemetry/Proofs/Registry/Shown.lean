import Mathlib
import Telemetry.Proofs.Catalogue

/-!
# What a catalogue shows

A catalogue has a list of metrics for each kind (`Catalogue.part`). It shows some names and the
metrics to which they lead (`Catalogue.Shows`) if each name stands in the list of the kind of its
metric, in no other, and the lists ascend strictly.

**Names are shown in one way only** (`Catalogue.Shows.unique`): a catalogue does not tell in which
order names came to the registry. What a filter lets through is a part of the catalogue of all
metrics (`Registry.catalogueWhere_eq`).
-/

namespace Telemetry

namespace Catalogue

/-- The metrics of a kind, under their names. -/
def part (c : Catalogue) : Kind → List (String × Handle)
  | .gauge => c.gauges.map (Prod.map id .gauge)
  | .counter => c.counters.map (Prod.map id .counter)
  | .meter => c.meters.map (Prod.map id .meter)
  | .histogram => c.histograms.map (Prod.map id .histogram)
  | .timer => c.timers.map (Prod.map id .timer)

/-- The metrics that a filter accepts. -/
def filter (f : Filter) (c : Catalogue) : Catalogue where
  gauges := c.gauges.filter fun e ↦ f e.1 (.gauge e.2)
  counters := c.counters.filter fun e ↦ f e.1 (.counter e.2)
  meters := c.meters.filter fun e ↦ f e.1 (.meter e.2)
  histograms := c.histograms.filter fun e ↦ f e.1 (.histogram e.2)
  timers := c.timers.filter fun e ↦ f e.1 (.timer e.2)

/-- A catalogue is its five lists. -/
theorem ext_part {c c' : Catalogue} (h : ∀ k, c.part k = c'.part k) : c = c' := by
  have hmap {α : Type} {mk : MetricId α → Handle} (hmk : Function.Injective mk)
      {l l' : List (String × MetricId α)}
      (hl : l.map (Prod.map id mk) = l'.map (Prod.map id mk)) : l = l' :=
    List.map_injective_iff.2 (Function.injective_id.prodMap hmk) hl
  have hg := hmap (fun _ _ ↦ Handle.gauge.inj) (h .gauge)
  have hc := hmap (fun _ _ ↦ Handle.counter.inj) (h .counter)
  have hm := hmap (fun _ _ ↦ Handle.meter.inj) (h .meter)
  have hh := hmap (fun _ _ ↦ Handle.histogram.inj) (h .histogram)
  have ht := hmap (fun _ _ ↦ Handle.timer.inj) (h .timer)
  cases c
  cases c'
  simp_all

theorem part_filter (f : Filter) (c : Catalogue) (k : Kind) :
    (c.filter f).part k = (c.part k).filter fun e ↦ f e.1 e.2 := by
  cases k <;> simp only [part, filter, List.filter_map] <;> rfl

/-- Entries picked by their kind. -/
theorem map_select {α : Type} {pick : Handle → Option (MetricId α)} {mk : MetricId α → Handle}
    {k : Kind} (hmk : ∀ h id, pick h = some id → mk id = h) (hk : ∀ h, (pick h).isSome ↔ h.kind = k)
    (entries : List (String × Handle)) :
    (select pick entries).map (Prod.map id mk) = entries.filter fun e ↦ e.2.kind = k := by
  rw [select, List.map_filterMap, ← List.filterMap_eq_filter]
  refine List.filterMap_congr fun e _ ↦ ?_
  cases hpick : pick e.2 with
  | none =>
    have hne : ¬ e.2.kind = k := fun h ↦ by simpa [hpick] using (hk e.2).2 h
    simp [Option.guard, hne]
  | some id =>
    have heq : e.2.kind = k := (hk e.2).1 (by simp [hpick])
    simp [Option.guard, heq, hmk e.2 id hpick]

/-- Each list of a catalogue of entries has those of its kind, in their order. -/
theorem part_ofEntries (entries : List (String × Handle)) (k : Kind) :
    (ofEntries entries).part k = entries.filter fun e ↦ e.2.kind = k := by
  cases k <;> refine map_select (by rintro ⟨⟩ _ ⟨⟩; rfl) (fun h ↦ ?_) entries <;> cases h <;>
    simp [Handle.gauge?, Handle.counter?, Handle.meter?, Handle.histogram?, Handle.timer?,
      Handle.kind]

theorem len_eq (c : Catalogue) :
    c.len = (c.part .gauge).length + (c.part .counter).length + (c.part .meter).length +
      (c.part .histogram).length + (c.part .timer).length := by
  simp [len, part]

/-- The catalogue has as many metrics as there are entries. -/
theorem len_ofEntries (entries : List (String × Handle)) :
    (ofEntries entries).len = entries.length := by
  rw [len_eq]
  simp only [part_ofEntries]
  induction entries with
  | nil => rfl
  | cons e entries ih =>
    rw [List.length_cons, ← ih]
    cases hk : e.2.kind <;> simp [hk] <;> omega

/-- **What a catalogue shows.** Each name stands in the list of the kind of its metric only, and in
the order of names. -/
structure Shows (c : Catalogue) (m : String → Option Handle) : Prop where
  mem_part_iff : ∀ k name h, (name, h) ∈ c.part k ↔ m name = some h ∧ h.kind = k
  ascending : ∀ k, (c.part k).Pairwise fun a b ↦ Name.bytes a.1 < Name.bytes b.1

/-- **Names are shown in one way only.** -/
theorem Shows.unique {c c' : Catalogue} {m : String → Option Handle} (h : c.Shows m)
    (h' : c'.Shows m) : c = c' := by
  -- `Name.bytes` ascending is a strict order, so a list is determined by what stands in it
  have : Std.Antisymm fun a b : String × Handle ↦ Name.bytes a.1 < Name.bytes b.1 :=
    ⟨fun _ _ hab hba ↦ absurd hba (List.lt_asymm hab)⟩
  have : Std.Irrefl fun a b : String × Handle ↦ Name.bytes a.1 < Name.bytes b.1 :=
    ⟨fun _ ↦ List.lt_irrefl _⟩
  refine ext_part fun k ↦ (h.ascending k).eq_of_mem_iff (h'.ascending k) fun e ↦ ?_
  rw [h.mem_part_iff k e.1 e.2, h'.mem_part_iff k e.1 e.2]

end Catalogue

namespace Registry

/-- **The catalogue of a registry shows all of its metrics**, under their names and in their order.
-/
theorem shows_catalogue (r : Registry) : r.catalogue.Shows r.find? where
  mem_part_iff k name h := by
    rw [catalogue, Catalogue.part_ofEntries, List.mem_filter, find?,
      Std.ExtTreeMap.mem_toList_iff_getElem?_eq_some, decide_eq_true_iff]
  ascending k := by
    rw [catalogue, Catalogue.part_ofEntries]
    exact (Std.ExtTreeMap.ordered_keys_toList.imp Name.order_eq_lt.1).filter _

theorem len_catalogue (r : Registry) : r.catalogue.len = r.len :=
  (Catalogue.len_ofEntries _).trans Std.ExtTreeMap.length_toList

/-- **A filter lets a part of the catalogue through.** -/
theorem catalogueWhere_eq (r : Registry) (f : Filter) :
    r.catalogueWhere f = r.catalogue.filter f := by
  refine Catalogue.ext_part fun k ↦ ?_
  rw [Catalogue.part_filter, catalogue, catalogueWhere, Catalogue.part_ofEntries,
    Catalogue.part_ofEntries, List.filter_filter, List.filter_filter]
  exact List.filter_congr fun e _ ↦ Bool.and_comm _ _

end Registry

end Telemetry
