import Mathlib
import Telemetry.Proofs.Draft.Met
import Telemetry.Proofs.Registry.Shown

/-!
# Reporting on what a filter accepts

The catalogue of a registry behind a filter is that of any registry which holds just the metrics that
the filter accepts (`Registry.catalogueWhere_eq_catalogue`). A draft is made from a catalogue, so it
cannot tell the two apart.

What is rejected stays outside of it, and a name and a metric are rejected in two ways. A name is, if
it leads to nothing that the filter accepts: then it is not in the catalogue, and a draft neither
meets it nor has a record, a count or an error about it. A metric is, if no accepted name leads to
it, so that it stays within reach under an accepted alias: then a draft does not write to it, unless
it is the counter of metrics left out (`Presentation.FilteredDraft`).
-/

namespace Telemetry

namespace Registry

variable {r : Registry} {f : Filter}

/-- The name leads to no metric that the filter accepts. -/
def RejectsName (r : Registry) (f : Filter) (name : String) : Prop :=
  ∀ h, r.find? name = some h → f name h = false

/-- No name that the filter accepts leads to the metric. -/
def RejectsMetric (r : Registry) (f : Filter) (h : Handle) : Prop :=
  ∀ name, r.find? name = some h → f name h = false

/-- The registry holds just the metrics of another one that the filter accepts. -/
def HoldsAccepted (r' r : Registry) (f : Filter) : Prop :=
  ∀ name, r'.find? name = (r.find? name).filter (f name)

/-- **Behind a filter, a registry looks like one without the metrics that it rejects.** -/
theorem catalogueWhere_eq_catalogue {r' : Registry} (h : r'.HoldsAccepted r f) :
    r.catalogueWhere f = r'.catalogue := by
  have hfilter : r' = ⟨r.names.filter f⟩ :=
    ext_find? fun name ↦ (h name).trans (find?_filter r f name).symm
  rw [catalogueWhere, catalogue, hfilter, Std.ExtTreeMap.toList_filter]

/-- **A filter shows the metrics that it accepts**, under their names. -/
theorem shows_catalogueWhere (r : Registry) (f : Filter) :
    (r.catalogueWhere f).Shows fun name ↦ (r.find? name).filter (f name) := by
  have hfind := find?_filter r f
  rw [catalogueWhere_eq_catalogue hfind, ← funext hfind]
  exact shows_catalogue _

end Registry

namespace Catalogue

variable {c : Catalogue} {m : String → Option Handle}

/-- The metrics of a catalogue under their names. -/
def entries (c : Catalogue) : List (String × Handle) :=
  c.gauges.map (fun e ↦ (e.1, .gauge e.2)) ++ c.counters.map (fun e ↦ (e.1, .counter e.2)) ++
    c.meters.map (fun e ↦ (e.1, .meter e.2)) ++
    (Presentation.sources c).map fun e ↦ (e.1, e.2.handle)

theorem handles_eq (c : Catalogue) : c.handles = c.entries.map (·.2) := by
  simp only [entries, List.map_append, List.map_map]
  rfl

/-- The names of all metrics, also of those without a count. -/
def allNames (c : Catalogue) : List String :=
  c.gauges.map (·.1) ++ c.countedNames

theorem allNames_eq (c : Catalogue) : c.allNames = c.entries.map (·.1) := by
  simp only [allNames, countedNames, entries, List.map_append, List.map_map, ← List.append_assoc]
  rfl

/-- The names that a catalogue shows lead to its metrics. -/
theorem Shows.eq_of_mem_entries (hc : c.Shows m) {e : String × Handle} (he : e ∈ c.entries) :
    m e.1 = some e.2 := by
  have hpart : ∀ k, e ∈ c.part k → m e.1 = some e.2 := fun k hk ↦ ((hc.mem_part_iff k _ _).1 hk).1
  simp only [entries, Presentation.sources, List.map_append, List.map_map, List.mem_append] at he
  rcases he with ((he | he) | he) | he | he
  · exact hpart .gauge he
  · exact hpart .counter he
  · exact hpart .meter he
  · exact hpart .histogram he
  · exact hpart .timer he

end Catalogue

namespace Registry

variable {r : Registry} {f : Filter}

/-- What stands in a filtered catalogue is in the registry, and the filter accepts it. -/
theorem accepted_of_mem_entries {e : String × Handle} (he : e ∈ (r.catalogueWhere f).entries) :
    r.find? e.1 = some e.2 ∧ f e.1 e.2 = true :=
  Option.filter_eq_some_iff.1 ((r.shows_catalogueWhere f).eq_of_mem_entries he)

/-- A metric that is rejected under all its names does not stand in a filtered catalogue. -/
theorem RejectsMetric.not_mem {h : Handle} (hh : r.RejectsMetric f h) :
    h ∉ (r.catalogueWhere f).handles := by
  intro hmem
  rw [Catalogue.handles_eq] at hmem
  obtain ⟨e, he, rfl⟩ := List.mem_map.1 hmem
  obtain ⟨hfind, haccept⟩ := accepted_of_mem_entries he
  exact Bool.false_ne_true ((hh e.1 hfind).symm.trans haccept)

/-- A name whose metric is rejected does not stand in a filtered catalogue. -/
theorem RejectsName.not_mem {name : String} (hname : r.RejectsName f name) :
    name ∉ (r.catalogueWhere f).allNames := by
  intro hmem
  rw [Catalogue.allNames_eq] at hmem
  obtain ⟨e, he, rfl⟩ := List.mem_map.1 hmem
  obtain ⟨hfind, haccept⟩ := accepted_of_mem_entries he
  exact Bool.false_ne_true ((hname e.2 hfind).symm.trans haccept)

end Registry

/-- The names of all records. -/
def Report.allNames (r : Report) : List String :=
  r.gauges.map (·.name) ++ r.counts.map (·.1)

namespace Presentation

variable {p : Presentation} {e : Setting} {c : Catalogue} {s : Store} {name : String}

/-- Records have names of the catalogue. -/
theorem Drafted.names_subset {d : Draft} (hd : p.Drafted e c s d) :
    d.report.allNames ⊆ c.allNames := by
  rw [Report.allNames, Catalogue.allNames, hd.gauges, hd.counts, ← names_seen e s c, gaugeRecords,
    List.map_map]
  exact List.append_subset.2 ⟨List.subset_append_left _ _,
    List.subset_append_of_subset_right _ (List.map_subset _ (List.filter_subset_self _))⟩

/-- The counts that are staged have names of the report. -/
theorem Drafted.staged_subset {d : Draft} (hd : p.Drafted e c s d) :
    d.staged.entries.map (·.1) ⊆ d.report.allNames := by
  rw [hd.staged]
  split
  · exact List.subset_append_right _ _
  · exact List.nil_subset _

/-- What is met is in the catalogue. -/
theorem names_met_subset : (p.met e c s).map (·.1) ⊆ c.allNames := by
  have hseen := List.map_subset (·.1) (prefix_met p e s c).subset
  rw [names_seen] at hseen
  exact List.subset_append_of_subset_right _ hseen

/-- **What a draft leaves alone that is made behind a filter.** -/
structure FilteredDraft (p : Presentation) (e : Setting) (r : Registry) (f : Filter) (s : Store)
    (result : Except DraftError Draft × Store) : Prop where
  /-- Rejected metrics are as they were, but for the counter of metrics left out. -/
  untouched : ∀ h, r.RejectsMetric f h → h ≠ .counter e.skipped → result.2.cell h = s.cell h
  /-- That counts metrics that were met. -/
  skipped : e.skips result.2 =
    e.skips s + .ofNat ((p.met e (r.catalogueWhere f) s).countP e.same)
  /-- No rejected name was met. -/
  unmet : ∀ name, r.RejectsName f name → name ∉ (p.met e (r.catalogueWhere f) s).map (·.1)
  /-- No record has a rejected name, and no count is staged for one. -/
  unreported : ∀ d, result.1 = .ok d → ∀ name, r.RejectsName f name →
    name ∉ d.report.allNames ∧ name ∉ d.staged.entries.map (·.1)
  /-- No error is about a rejected name. -/
  unblamed : ∀ name cause, result.1 = .error (.digest name cause) → ¬r.RejectsName f name

/-- **What a filter rejects is left alone**, whether the draft is made or not. -/
theorem filteredDraft (p : Presentation) (e : Setting) (r : Registry) (f : Filter) (s : Store)
    (timestamp : Int64) (status : Option String) (alerts : List Alert) :
    p.FilteredDraft e r f s (p.draft e timestamp status alerts (r.catalogueWhere f) s) := by
  let P (h : Handle) : Prop := h = .counter e.skipped ∨ h ∈ (r.catalogueWhere f).handles
  have hrejects : ∀ h, r.RejectsMetric f h → h ≠ .counter e.skipped → ¬P h := by
    rintro h hh hne (rfl | hmem)
    · exact hne rfl
    · exact hh.not_mem hmem
  obtain ⟨hwalk, htaken⟩ := writes_survey (P := P) p e s (c := r.catalogueWhere f) (.inl rfl)
    fun h hh ↦ .inr hh
  have hskips := skips_survey p e s (r.catalogueWhere f)
  have hunmet : ∀ name, r.RejectsName f name →
      name ∉ (p.met e (r.catalogueWhere f) s).map (·.1) := fun name hname hmem ↦
    hname.not_mem (names_met_subset hmem)
  obtain ⟨cause, hstopped, hdraft⟩ | ⟨d, hstopped, hdraft, hd⟩ :=
    p.draft_cases e (r.catalogueWhere f) s timestamp status alerts
  · rw [hdraft]
    have hrestored : s.Writes P _ := hwalk.trans (writes_restoreAll _ htaken)
    refine ⟨fun h hh hne ↦ hrestored.cell_eq (hrejects h hh hne), ?_, hunmet, nofun, ?_⟩
    · let walked := p.survey e (r.catalogueWhere f) s
      have hkept : walked.walk.store.Kept (fun _ ↦ False) e.now
          (restoreAll walked.taken walked.walk.store) := .restoreAll _ _
      exact (skips_of_kept e hkept).trans hskips
    · intro name cause hcause hname
      obtain rfl := Except.error.inj hcause
      obtain ⟨before, count, hmet, -⟩ := met_of_stopped p e s _ hstopped
      refine hunmet name hname ?_
      rw [hmet, List.map_append]
      exact List.mem_append_right _ List.mem_cons_self
  · rw [hdraft]
    refine ⟨fun h hh hne ↦ hwalk.cell_eq (hrejects h hh hne), hskips, hunmet, ?_, nofun⟩
    intro d' hd' name hname
    obtain rfl := Except.ok.inj hd'
    have hnone : name ∉ d.report.allNames := fun hmem ↦ hname.not_mem (hd.names_subset hmem)
    exact ⟨hnone, fun hmem ↦ hnone (hd.staged_subset hmem)⟩

end Presentation

end Telemetry
