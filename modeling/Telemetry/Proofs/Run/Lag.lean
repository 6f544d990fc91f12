import Mathlib
import Telemetry.Proofs.Run.Accounting

/-!
# What a report shows of the reporter itself

A reporter's own metrics can be among those that it reports on, and it writes to them during a tick.
What a tick does behind its walks is not to be seen in its report: **gauges, meters and sources are
shown as they were before the tick** (`records_meters`, `records_sources`), where a source that has
several names shows one reading after the other.

The one write during the walks is that of the counter of metrics left out, and of the metrics that
the walks meet behind such a write only this counter has changed. **It is met as it was before the
tick, plus the number of counters left out before it** (`countersSeen_append`). So it lags behind
like the others if no counter before it is left out, and runs ahead of them otherwise
(`lags_tick_small_ahead`).
-/

namespace Telemetry

namespace Presentation

variable (p : Presentation) (e : Setting) (s : Store)

/-! ### Counters -/

/-- A walk over counters goes on with the store that the first of them left. -/
theorem countersSeen_append_walk (before after : List (String × MetricId Counter)) :
    countersSeen e s (before ++ after) =
      countersSeen e s before ++ countersSeen e (walkCounters e s before).store after := by
  fun_induction walkCounters e s before with
  | case1 s => rfl
  | case2 s name id rest count hsame ih =>
    rw [List.cons_append, countersSeen, countersSeen, if_pos hsame, ih]
    rfl
  | case3 s name id rest count hchanged ih =>
    rw [List.cons_append, countersSeen, countersSeen, if_neg hchanged, ih]
    rfl

/-- What the counters before it do to a counter: that of metrics left out has gone up by their
number. -/
theorem count_walkCounters (before : List (String × MetricId Counter)) (id : MetricId Counter) :
    ((walkCounters e s before).store.counter id).count =
      (s.counter id).count +
        if id = e.skipped then .ofNat ((countersSeen e s before).countP e.same) else 0 := by
  split
  · next h =>
    rw [h]
    exact skips_walkCounters e s before
  · next h =>
    have hkept : s.Kept (· = .counter e.skipped) e.now (walkCounters e s before).store :=
      walkCounters_kept (P := (· = .counter e.skipped)) e s rfl before
    rw [hkept.counter id (by simpa using h), UInt64.add_zero]

/-- **A counter is met as it was, plus, if it is that of metrics left out, their number so far.** -/
theorem countersSeen_append (before after : List (String × MetricId Counter)) (name : String)
    (id : MetricId Counter) :
    ∃ rest, countersSeen e s (before ++ (name, id) :: after) =
      countersSeen e s before ++ (name, (s.counter id).count +
        if id = e.skipped then .ofNat ((countersSeen e s before).countP e.same) else 0) ::
        rest := by
  rw [countersSeen_append_walk, countersSeen, count_walkCounters]
  exact ⟨_, rfl⟩

/-! ### Reports -/

variable {p e s} {c : Catalogue} {d : Draft}

/-- **A report has the records that the walks made.** -/
theorem report_of_draft {timestamp : Int64} {status : Option String} {alerts : List Alert}
    {s' : Store} (h : p.draft e timestamp status alerts c s = (.ok d, s')) :
    p.Drafted e c s d ∧
      d.report.meters = (c.meters.filter fun m ↦ e.changed (m.1, (s.meter m.2).count)).map
        (p.meterRecord s e.now) ∧
      List.Forall₂ (p.ShowsSource s e.now (sources c)) d.report.sourceRecords d.taken := by
  obtain ⟨hstopped, -, hd⟩ := drafted_of_ok h
  have hcounted := walkCounters_kept_skipped e s c
  have hmeters : d.report.meters =
      (walkMeters p e (walkCounters e s c.counters).store c.meters).records := by
    rw [p.report_eq e c s h]
    rfl
  have hrecords : d.report.sourceRecords = (p.survey e c s).walk.records := by
    rw [p.report_eq e c s h, p.sourceRecords_compiled e c s hstopped]
  have hkept : s.Kept (· = .counter e.skipped) e.now
      (walkMeters p e (walkCounters e s c.counters).store c.meters).store :=
    walkMeters_kept_skipped p e s c
  refine ⟨hd, ?_, ?_⟩
  · rw [hmeters, records_meters]
    have hsame : ∀ m : String × MetricId Meter,
        ((walkCounters e s c.counters).store.meter m.2).count = (s.meter m.2).count :=
      fun m ↦ hcounted.meter_count (m.2.meter_ne_counter _)
    simp only [hsame]
    exact List.map_congr_left fun m _ ↦
      p.meterRecord_of_kept s hcounted (m.2.meter_ne_counter _)
  · rw [hrecords, hd.taken]
    exact (records_sources p e _ hstopped).imp fun r t hrt ↦
      hrt.of_kept p s hkept (t.1.handle_ne_counter _) fun _ ↦ id

/-- What a tick meets and shows of a catalogue, by what there was before it. -/
structure Lags (p : Presentation) (e : Setting) (c : Catalogue) (s : Store)
    (met : List (String × UInt64)) (report : Option Report) : Prop where
  /-- A counter is met with the count that it had, plus, if it is that of metrics left out, the
  number of counters left out before it. -/
  counters : ∀ before name id after, c.counters = before ++ (name, id) :: after →
    met[before.length]? = some (name, (s.counter id).count +
      if id = e.skipped then .ofNat ((met.take before.length).countP e.same) else 0)
  /-- All that is met after the counters has the count that it had. -/
  others : met.drop c.counters.length <+: metersSeen s c.meters ++ sourcesSeen s (sources c)
  /-- Gauges are shown as they were. -/
  gauges : ∀ r ∈ report, r.gauges = gaugeRecords s c.gauges
  /-- The counters shown are those that were met changed. -/
  shown : ∀ r ∈ report, r.counters.map (fun x ↦ (x.name, x.count)) =
    (met.take c.counters.length).filter e.changed
  /-- Meters are shown as they were. -/
  meters : ∀ r ∈ report, r.meters =
    (c.meters.filter fun m ↦ e.changed (m.1, (s.meter m.2).count)).map (p.meterRecord s e.now)
  /-- The sources shown are those whose counts had changed. -/
  sampled : ∀ r ∈ report, r.sourceRecords.map (fun x ↦ (x.name, x.count)) =
    (sourcesSeen s (sources c)).filter e.changed
  /-- They are shown as they were, with successive readings of what their reservoirs held. -/
  readings : ∀ r ∈ report, ∃ taken,
    List.Forall₂ (p.ShowsSource s e.now (sources c)) r.sourceRecords taken ∧
      ∀ x : Source, ∃ ρ, (x.held s).reservoir.Reads (x.readings taken) ρ

theorem take_met : (p.met e c s).take c.counters.length = countersSeen e s c.counters := by
  rw [met, List.append_assoc, List.take_left' (length_countersSeen e s c.counters)]

/-- A counter is met with the count that it had, plus, if it is that of metrics left out, the number
of those met before and left out. -/
theorem met_counter {before after : List (String × MetricId Counter)} {name : String}
    {id : MetricId Counter} (h : c.counters = before ++ (name, id) :: after) :
    (p.met e c s)[before.length]? = some (name, (s.counter id).count +
      if id = e.skipped then .ofNat (((p.met e c s).take before.length).countP e.same) else 0) := by
  obtain ⟨rest, hseen⟩ := countersSeen_append e s before after name id
  have hlength := length_countersSeen e s before
  rw [met, h, hseen, List.append_assoc, List.append_assoc, List.take_left' hlength,
    List.getElem?_append_right hlength.le, hlength, Nat.sub_self]
  rfl

theorem drop_met : (p.met e c s).drop c.counters.length <+:
    metersSeen s c.meters ++ sourcesSeen s (sources c) := by
  rw [met, List.append_assoc, List.drop_left' (length_countersSeen e s c.counters),
    ← sourcesSeen_of_kept (walkMeters_kept_skipped p e s c) fun x _ ↦ x.2.handle_ne_counter _]
  exact (List.prefix_append_right_inj _).2 (prefix_sourcesMet p e _ _)

end Presentation

/-- A report was put together by a draft. -/
theorem Reporter.exists_draft {r : Reporter} {t : Tick} {w : World} {report : Report}
    (h : report ∈ (r.tick t w).1.report) :
    ∃ d s, r.drafting t w = (.ok d, s) ∧ d.report = report := by
  have hreport := congrArg Prod.snd (r.outcome_tick t w)
  rcases hdraft : r.drafting t w with ⟨cause | d, s⟩
  · rw [hdraft] at hreport
    cases h.symm.trans hreport
  · rw [hdraft] at hreport
    exact ⟨d, s, rfl, Option.some.inj (hreport.symm.trans h)⟩

namespace System

/-- **What a tick records shows in its own report in one place only**: the counter of metrics left
out, where it is reported itself, has gone up already by the number of counters left out before
it. -/
theorem lags_tick (s : System) (t : Tick) :
    s.reporter.presentation.Lags (s.reporter.setting s.world) (s.reporter.subject t s.world)
      s.world.store (s.met t) (s.outcome t).report where
  counters _ _ _ _ h := Presentation.met_counter h
  others := Presentation.drop_met
  gauges report hreport := by
    obtain ⟨d, _, hdraft, rfl⟩ := Reporter.exists_draft hreport
    exact (Presentation.report_of_draft hdraft).1.gauges
  shown report hreport := by
    obtain ⟨d, _, hdraft, rfl⟩ := Reporter.exists_draft hreport
    rw [met, Reporter.met, Presentation.take_met]
    exact (Presentation.report_of_draft hdraft).1.counters
  meters report hreport := by
    obtain ⟨d, _, hdraft, rfl⟩ := Reporter.exists_draft hreport
    obtain ⟨-, hmeters, -⟩ := Presentation.report_of_draft hdraft
    exact hmeters
  sampled report hreport := by
    obtain ⟨d, _, hdraft, rfl⟩ := Reporter.exists_draft hreport
    rw [(Presentation.report_of_draft hdraft).1.sampled, Presentation.seen_sources]
    rfl
  readings report hreport := by
    obtain ⟨d, _, hdraft, rfl⟩ := Reporter.exists_draft hreport
    obtain ⟨hd, -, hrecords⟩ := Presentation.report_of_draft hdraft
    exact ⟨d.taken, hrecords, fun x ↦
      ⟨_, hd.taken ▸ s.reporter.survey_reads t s.world x⟩⟩

/-- A counter that stands before the counter of metrics left out and is left out itself: the tick
that leaves it out says so, although nothing was left out before that tick. Only counters are
reported here. -/
theorem lags_tick_small_ahead :
    let s := (small true).run
      [.setFilter (.ofKind .counter),
        .act (.registerSet "reporter" (small true).reporter.stats.set), .tick {}]
    s.Reachable ∧ s.skipped = 0 ∧
      s.reporter.ledger.last? "reporter.skipped-unchanged" = some 0 ∧
      ("reporter.skipped-unchanged", 1) ∈ s.met {} ∧
      (s.outcome {}).report.map Report.counters = some [⟨"reporter.skipped-unchanged", 1⟩] := by
  intro s
  have hlegal : ∀ e ∈ [.setFilter (.ofKind .counter),
      .act (.registerSet "reporter" (small true).reporter.stats.set), .tick {}],
      Event.Legal e := by simp [Event.Legal, Action.Legal]
  have hmet : ("reporter.skipped-unchanged", 1) ∈ s.met {} :=
    List.mem_append_left _ (List.mem_append_left _ (by decide))
  exact ⟨(small_reachable true).run hlegal, by decide, by decide, hmet, by decide⟩

end System

end Telemetry
