import Mathlib
import Telemetry.Proofs.Digest
import Telemetry.Proofs.Draft.Met
import Telemetry.Proofs.Registry.Shown
import Telemetry.Proofs.Run.Delivery

/-!
# What a report consists of

A draft on the metrics of a registry that was made comes to this (`Presentation.Structured`). Its
report has all gauges, and of the other metrics just those whose counts the ledger does not know, in
the order of names. The metrics of the registry are the records of the report and those that were
counted as left out meanwhile. One count is staged for each record but those of gauges, in the order
in which they were read, if the ledger is switched on.

**The reservoirs behind records of histograms and timers are those that were read**
(`Presentation.held_of_draft`): a reservoir that no record refers to is as it was, waiting values
included, and one that a record refers to has nothing pending, under however many names it was
reported.

A ledger is only asked in all this. It is not among the results of a draft.
-/

namespace Telemetry

/-- The metrics of a registry that a filter accepts, if there is one. -/
def Registry.chosen (r : Registry) : Option Filter → Catalogue
  | some f => r.catalogueWhere f
  | none => r.catalogue

namespace Report

/-- The report without its records. -/
def bare (r : Report) : Report :=
  { r with gauges := [], counters := [], meters := [], histograms := [], timers := [] }

/-- The number of records. -/
def size (r : Report) : Nat :=
  r.gauges.length + r.counters.length + r.meters.length + r.histograms.length + r.timers.length

/-- The names of the records of a kind, in the order of the report. -/
def names (r : Report) : Kind → List String
  | .gauge => r.gauges.map (·.name)
  | .counter => r.counters.map (·.name)
  | .meter => r.meters.map (·.name)
  | .histogram => r.histograms.map (·.name)
  | .timer => r.timers.map (·.name)

/-- Gauges have records but no counts. -/
theorem size_eq (r : Report) : r.size = r.gauges.length + r.counts.length := by
  simp only [size, counts, sourceRecords, List.length_append, List.length_map]
  omega

end Report

namespace Catalogue

variable {c : Catalogue}

/-- The names of metrics of a kind. -/
def names (c : Catalogue) (k : Kind) : List String :=
  (c.part k).map (·.1)

/-- The names of each kind ascend. -/
def Ascending (c : Catalogue) : Prop :=
  ∀ k, (c.names k).Pairwise fun a b ↦ Name.bytes a < Name.bytes b

/-- **The names in a registry ascend**, whatever the filter. -/
theorem ascending_chosen (r : Registry) (f : Option Filter) : (r.chosen f).Ascending := by
  intro k
  rw [names, List.pairwise_map]
  cases f with
  | none => exact r.shows_catalogue.ascending k
  | some f =>
    rw [Registry.chosen, r.catalogueWhere_eq, part_filter]
    exact (r.shows_catalogue.ascending k).filter _

/-- Names of one kind are distinct, whatever is chosen. -/
theorem keyed_chosen (r : Registry) (f : Option Filter) : (r.chosen f).Keyed := by
  cases f with
  | none => exact keyed_ofEntries (Name.Map.nodup_names _ (List.Sublist.refl _))
  | some f => exact keyed_ofEntries (Name.Map.nodup_names _ List.filter_sublist)

end Catalogue

namespace Presentation

/-- What a draft comes to that was made. -/
structure Structured (p : Presentation) (e : Setting) (timestamp : Int64) (status : Option String)
    (alerts : List Alert) (c : Catalogue) (s : Store) (d : Draft) (s' : Store) : Prop where
  /-- Records aside, the report is what the settings and the occasion make it. -/
  bare : d.report.bare = p.frame timestamp status alerts
  /-- All alerts are in it, in their order, if its form has them. -/
  alerts : d.report.alerts = if p.schema.isExtended then alerts else []
  gauges : d.report.gauges = gaugeRecords s c.gauges
  counters : d.report.counters.map (fun x ↦ (x.name, x.count)) =
    (countersSeen e s c.counters).filter e.changed
  meters : d.report.meters.map (fun x ↦ (x.name, x.count)) =
    (metersSeen s c.meters).filter e.changed
  histograms : d.report.histograms.map (fun x ↦ (x.name, x.count)) =
    (histogramsSeen s c.histograms).filter e.changed
  timers : d.report.timers.map (fun x ↦ (x.name, x.count)) =
    (timersSeen s c.timers).filter e.changed
  /-- The records of each kind are in the order of names, and no name stands twice. -/
  ascending : ∀ k, (d.report.names k).Pairwise fun a b ↦ Name.bytes a < Name.bytes b
  metricCount : d.metricCount = c.len
  /-- Each metric has a record or was counted as left out. -/
  accounted : ∃ n, d.metricCount = d.report.size + n ∧ e.skips s' = e.skips s + .ofNat n
  staged : d.staged.entries = if e.ledger.isEnabled then d.report.counts else []
  /-- Reservoirs were read just if records refer to them. -/
  held : ∀ x : Source,
    x.held s' = if d.report.recordsOf c x = [] then x.held s else (x.held s).read.2

variable {p : Presentation} {e : Setting} {c : Catalogue} {s s' : Store} {d : Draft}
  {timestamp : Int64} {status : Option String} {alerts : List Alert}

/-! ### The order of records -/

/-- Counts that are picked from those of a list are in the order of the list. -/
theorem ascending_of_filter {α β : Type} {l : List (String × α)} {records : List β}
    {f : β → String × UInt64} {seen : List (String × UInt64)} {q : String × UInt64 → Bool}
    (hl : (l.map (·.1)).Pairwise fun a b ↦ Name.bytes a < Name.bytes b)
    (hseen : seen.map (·.1) = l.map (·.1)) (hrecords : records.map f = seen.filter q) :
    (records.map fun x ↦ (f x).1).Pairwise fun a b ↦ Name.bytes a < Name.bytes b := by
  have hnames : records.map (fun x ↦ (f x).1) = (seen.filter q).map (·.1) := by
    rw [← hrecords, List.map_map]
    rfl
  rw [hnames]
  exact (hseen ▸ hl).sublist (List.filter_sublist.map _)

/-- The records of each kind are in the order of names. -/
theorem Drafted.ascending (hd : p.Drafted e c s d) (hc : c.Ascending) (k : Kind) :
    (d.report.names k).Pairwise fun a b ↦ Name.bytes a < Name.bytes b := by
  have hk := hc k
  cases k with
  | gauge =>
    have hgauges : d.report.gauges.map (·.name) = c.names .gauge := by
      rw [hd.gauges, gaugeRecords, Catalogue.names, Catalogue.part, List.map_map, List.map_map]
      rfl
    rw [Report.names, hgauges]
    exact hk
  | counter =>
    refine ascending_of_filter (l := c.counters) ?_ (names_countersSeen e s _) hd.counters
    simpa [Catalogue.names, Catalogue.part, Function.comp_def] using hk
  | meter =>
    refine ascending_of_filter (l := c.meters) ?_ (by simp [metersSeen]) hd.meters
    simpa [Catalogue.names, Catalogue.part, Function.comp_def] using hk
  | histogram =>
    refine ascending_of_filter (l := c.histograms) ?_ (by simp [histogramsSeen]) hd.histograms
    simpa [Catalogue.names, Catalogue.part, Function.comp_def] using hk
  | timer =>
    refine ascending_of_filter (l := c.timers) ?_ (by simp [timersSeen]) hd.timers
    simpa [Catalogue.names, Catalogue.part, Function.comp_def] using hk

/-! ### The number of metrics -/

/-- All metrics are seen, with their counts if they have any. -/
theorem length_seen (e : Setting) (s : Store) (c : Catalogue) :
    c.gauges.length + (seen e s c).length = c.len := by
  simp only [seen, metersSeen, histogramsSeen, timersSeen, List.length_append, List.length_map,
    length_countersSeen, Catalogue.len]
  omega

/-- **Each metric has a record, or its count is the one last delivered.** -/
theorem Drafted.size_add (hd : p.Drafted e c s d) :
    d.report.size + (seen e s c).countP e.same = c.len := by
  have hgauges : d.report.gauges.length = c.gauges.length := by
    rw [hd.gauges, gaugeRecords, List.length_map]
  have hsame : (seen e s c).countP e.same = (seen e s c).countP fun v ↦ !e.changed v :=
    List.countP_congr fun v _ ↦ by simp [Setting.same, Setting.changed]
  have hlength := List.length_eq_countP_add_countP e.changed (l := seen e s c)
  rw [d.report.size_eq, hd.counts, ← length_seen e s c, hgauges, hsame,
    ← List.countP_eq_length_filter]
  simp only [Bool.decide_eq_false, Bool.not_eq_true] at hlength ⊢
  omega

/-! ### Reservoirs -/

/-- **The reservoirs behind the records of a report are those that were read.** -/
theorem held_of_draft (hc : c.Keyed)
    (h : p.draft e timestamp status alerts c s = (.ok d, s')) (x : Source) :
    x.held s' = if d.report.recordsOf c x = [] then x.held s else (x.held s).read.2 := by
  obtain ⟨-, rfl, hd⟩ := drafted_of_ok h
  have hheld := p.held_survey e c s x
  have hreads := p.survey_reads e c s x
  rw [← hd.taken] at hreads
  obtain ⟨hnone, hreservoir⟩ | ⟨hsome, hreservoir⟩ := hreads.eq_or
  · rw [if_pos (Report.recordsOf_eq_nil hc hd hnone), hheld, hreservoir]
  · rw [if_neg (Report.recordsOf_ne_nil hd hsome), hheld, hreservoir]
    rfl

/-! ### Drafts -/

/-- **What a draft on the metrics of a registry comes to**, if it was made. -/
theorem structured_of_draft (reg : Registry) (f : Option Filter)
    (h : p.draft e timestamp status alerts (reg.chosen f) s = (.ok d, s')) :
    p.Structured e timestamp status alerts (reg.chosen f) s d s' := by
  have hheld := held_of_draft (Catalogue.keyed_chosen reg f) h
  have hreport := p.report_eq e (reg.chosen f) s h
  obtain ⟨hstopped, rfl, hd⟩ := drafted_of_ok h
  refine ⟨?_, ?_, hd.gauges, hd.counters, hd.meters, hd.histograms, hd.timers,
    hd.ascending (Catalogue.ascending_chosen reg f), hd.metricCount, ?_, ?_, hheld⟩
  · rw [hreport, compiled, Report.bare, frame]
    split <;> rfl
  · rw [hreport, compiled, frame]
    split <;> rfl
  · refine ⟨_, hd.metricCount.trans hd.size_add.symm, ?_⟩
    rw [skips_survey, met_of_made p e s _ hstopped]
  · rw [hd.staged]
    split <;> rfl

/-- A counter that the ledger knows and a histogram that it does not know. -/
theorem structured_of_draft_small :
    let e : Setting := ⟨{}, (Ledger.new true).commit ⟨[("c", 0)]⟩, ⟨1⟩⟩
    ∃ d s', ({} : Presentation).draft e 7 none [] (World.small.registry.chosen none)
        World.small.store = (.ok d, s') ∧
      ({} : Presentation).Structured e 7 none [] (World.small.registry.chosen none)
        World.small.store d s' := by
  intro e
  obtain ⟨cause, hstopped, -⟩ | ⟨d, -, hdraft, -⟩ := ({} : Presentation).draft_cases e
    (World.small.registry.chosen none) World.small.store 7 none []
  · have hmade : (({} : Presentation).survey e (World.small.registry.chosen none)
        World.small.store).stopped = none := by
      decide +kernel
    cases hmade.symm.trans hstopped
  · exact ⟨d, _, hdraft, structured_of_draft World.small.registry none hdraft⟩

end Presentation

end Telemetry
