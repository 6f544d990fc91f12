import Mathlib
import Telemetry.Proofs.Catalogue
import Telemetry.Proofs.Ledger

/-!
# Suppression loses nothing for the collector

A collector that keeps, for each name, the count in the latest record it acknowledged has a `view`
of the metrics. A suppressing reporter leaves out what would tell the collector nothing new, and the
reason why that works is one equation: the ledger of the reporter *is* the view of the collector
(`ledger_run`). Counts enter the ledger exactly when the report that has them was acknowledged.

* In every report exactly the counts are missing that the view has already
  (`SuppressedTick.counts`).
* After an acknowledged report the view has the count of every metric that was looked at
  (`SuppressedTick.view`).

Counts are remembered by name alone, so the second needs names that stand once. Those of a registry
do; a catalogue that a tick is given has to bring this along (`Event.Distinct`).
-/

namespace Telemetry

namespace System

/-- What a collector knows of the counts of metrics: the latest count that was acknowledged. -/
def view (s : System) (events : List Event) : String → Option UInt64 :=
  latest ((s.acknowledged events).flatMap fun a ↦ a.2.counts)

/-- The counts that a tick meets. -/
def seen (s : System) (t : Tick) : List (String × UInt64) :=
  Presentation.seen (s.reporter.setting s.world) s.world.store (s.reporter.subject t s.world)

variable {s : System} {events : List Event} {e : Event} {t : Tick}

theorem view_concat (s : System) (events : List Event) (e : Event) (name : String) :
    s.view (events ++ [e]) name =
      (latest (((s.run events).deliveries e).flatMap fun a ↦ a.2.counts) name).or
        (s.view events name) := by
  rw [view, acknowledged, collect_concat, List.flatMap_append, latest_append]
  rfl

/-- Where nothing is acknowledged, the view stays. -/
theorem view_of_silent (h : (s.run events).deliveries e = []) :
    s.view (events ++ [e]) = s.view events :=
  funext fun name ↦ by
    rw [view_concat, h]
    rfl

/-- **The ledger of a suppressing reporter is the view of the collector.** -/
theorem ledger_run (h : s.reporter.ledger = .new true) (events : List Event) :
    (s.run events).reporter.ledger.isEnabled = true ∧
      (s.run events).reporter.ledger.last? = s.view events := by
  induction events using List.reverseRecOn with
  | nil =>
    rw [run_nil, h]
    exact ⟨Ledger.isEnabled_new true, funext fun name ↦ Ledger.last?_new true name⟩
  | append_singleton events e ih =>
    obtain ⟨hon, hview⟩ := ih
    rw [run_concat]
    cases e with
    | act a => exact ⟨hon, hview.trans (view_of_silent (e := .act a) rfl).symm⟩
    | setFilter f => exact ⟨hon, hview.trans (view_of_silent (e := .setFilter f) rfl).symm⟩
    | tick t =>
      obtain ⟨cause, -, htick⟩ | ⟨code, d, -, htick⟩ := (s.run events).tick_cases t
      · rw [htick.reporter, view_of_silent htick.deliveries]
        exact ⟨hon, hview⟩
      · rw [htick.reporter]
        refine ⟨(Ledger.isEnabled_commit _ _).trans hon, funext fun name ↦ ?_⟩
        rw [view_concat, htick.deliveries, Ledger.last?_commit hon,
          htick.drafted.entries_staged hon, hview, List.flatMap_singleton]

/-- The names that a tick meets are those of the metrics that have a count. -/
theorem names_seen (s : System) (t : Tick) :
    (s.seen t).map (·.1) = (s.reporter.subject t s.world).countedNames :=
  Presentation.names_seen _ _ _

/-! ### One tick -/

/-- The count of a metric would tell the collector something new. -/
def isNews (s : System) (before : List Event) (v : String × UInt64) : Bool :=
  s.view before v.1 ≠ some v.2

/-- A report has all gauges that a tick meets, and of the other metrics just those whose counts are
among some. -/
structure Picks (s : System) (t : Tick) (p : String × UInt64 → Bool) (report : Report) : Prop where
  gauges : report.gauges =
    Presentation.gaugeRecords s.world.store (s.reporter.subject t s.world).gauges
  counters : report.counters.map (fun r ↦ (r.name, r.count)) =
    (Presentation.countersSeen (s.reporter.setting s.world) s.world.store
      (s.reporter.subject t s.world).counters).filter p
  meters : report.meters.map (fun r ↦ (r.name, r.count)) =
    (Presentation.metersSeen s.world.store (s.reporter.subject t s.world).meters).filter p
  histograms : report.histograms.map (fun r ↦ (r.name, r.count)) =
    (Presentation.histogramsSeen s.world.store
      (s.reporter.subject t s.world).histograms).filter p
  timers : report.timers.map (fun r ↦ (r.name, r.count)) =
    (Presentation.timersSeen s.world.store (s.reporter.subject t s.world).timers).filter p

theorem picks_of_report {report : Report} (h : (s.outcome t).report = some report) :
    s.Picks t (s.reporter.setting s.world).changed report := by
  obtain ⟨d, rfl, hd⟩ := (s.reporter.tick_spec t s.world).drafted h
  exact ⟨hd.gauges, hd.counters, hd.meters, hd.histograms, hd.timers⟩

/-- What a tick reports after some events, and what the collector knows once that is
acknowledged. -/
structure SuppressedTick (s : System) (before : List Event) (t : Tick) : Prop where
  report : ∀ report, ((s.run before).outcome t).report = some report →
    (s.run before).Picks t (s.isNews before) report
  view : Event.Distinct (s.run before) (.tick t) →
    ∀ code, ((s.run before).outcome t).result = .ok code →
    ∀ v ∈ (s.run before).seen t, s.view (before ++ [.tick t]) v.1 = some v.2

/-- In a list in which names stand once, the entry of a name is its latest count. -/
theorem latest_filter {l : List (String × UInt64)} (hl : (l.map (·.1)).Nodup)
    (p : String × UInt64 → Bool) {v : String × UInt64} (hv : v ∈ l) :
    latest (l.filter p) v.1 = if p v then some v.2 else none := by
  have hunique : ∀ u ∈ l, u.1 = v.1 → u = v := fun u hu h ↦ List.inj_on_of_nodup_map hl hu hv h
  split
  · next hp =>
    refine latest_eq_some (List.mem_filter.2 ⟨hv, hp⟩) fun u hu h ↦ ?_
    rw [hunique u (List.mem_filter.1 hu).1 h]
  · next hp =>
    refine latest_eq_none fun u hu h ↦ ?_
    rw [hunique u (List.mem_filter.1 hu).1 h] at hu
    exact hp (List.mem_filter.1 hu).2

theorem latest_of_mem {l : List (String × UInt64)} (hl : (l.map (·.1)).Nodup)
    {v : String × UInt64} (hv : v ∈ l) : latest l v.1 = some v.2 := by
  have h := latest_filter hl (fun _ ↦ true) hv
  rwa [List.filter_true, if_pos rfl] at h

/-- What changed of a suppressing reporter is news to the collector. -/
theorem changed_run (hfresh : s.reporter.ledger = .new true) (before : List Event) :
    ((s.run before).reporter.setting (s.run before).world).changed = s.isNews before := by
  funext v
  show (!((s.run before).reporter.ledger.last? v.1 == some v.2)) = _
  rw [(ledger_run hfresh before).2, isNews]
  by_cases h : s.view before v.1 = some v.2 <;> simp [h]

/-- **Leaving out what is no news makes no difference to the view.** -/
theorem view_of_on (hfresh : s.reporter.ledger = .new true) {before : List Event}
    (hdistinct : ((s.run before).reporter.subject t (s.run before).world).Distinct) {code : Nat}
    (hresult : ((s.run before).outcome t).result = .ok code) (name : String) :
    s.view (before ++ [.tick t]) name =
      (latest ((s.run before).seen t) name).or (s.view before name) := by
  obtain ⟨d, htick⟩ := deliveredTick hresult
  have hcounts : d.report.counts = ((s.run before).seen t).filter (s.isNews before) :=
    changed_run hfresh before ▸ htick.drafted.counts
  have hnames : (((s.run before).seen t).map (·.1)).Nodup := by
    rw [names_seen]
    exact hdistinct
  rw [view_concat, htick.deliveries, List.flatMap_singleton, hcounts]
  by_cases hname : ∃ v ∈ (s.run before).seen t, v.1 = name
  · obtain ⟨v, hv, rfl⟩ := hname
    rw [latest_filter hnames _ hv, latest_of_mem hnames hv]
    by_cases h : s.view before v.1 = some v.2 <;> simp [isNews, h]
  · rw [latest_eq_none fun v hv h ↦ hname ⟨v, (List.mem_filter.1 hv).1, h⟩,
      latest_eq_none fun v hv h ↦ hname ⟨v, hv, h⟩]

/-- **A suppressing reporter reports just what is news**, and then the collector knows all that the
tick met. -/
theorem suppressedTick (hfresh : s.reporter.ledger = .new true) (before : List Event) (t : Tick) :
    s.SuppressedTick before t := by
  refine ⟨fun report hreport ↦ changed_run hfresh before ▸ picks_of_report hreport, ?_⟩
  intro hgiven code hresult v hv
  have hdistinct := Reporter.distinct_subject (r := (s.run before).reporter)
    (w := (s.run before).world) hgiven
  have hnames : (((s.run before).seen t).map (·.1)).Nodup := by
    rw [names_seen]
    exact hdistinct
  rw [view_of_on hfresh hdistinct hresult, latest_of_mem hnames hv]
  rfl

end System

end Telemetry
