import Mathlib
import Telemetry.Proofs.Draft.Walk

/-!
# What becomes of a draft

A draft goes through the counters, the meters and the sources of a catalogue, each walk beginning
where the last one ended. `Presentation.survey` is the walk over the sources with the two others
before it, and a draft says one of two things about it (`draft_cases`): either it was stopped and
its readings have been given back, or its records are the report.

`Drafted` collects what is to be known of a draft that was made. In particular the report has a
record for just those counts that changed (`Drafted.counts`).
-/

namespace Telemetry

namespace Report

/-- The records of histograms and timers. -/
def sourceRecords (r : Report) : List Presentation.SourceRecord :=
  r.histograms.map .histogram ++ r.timers.map .timer

/-- The names and counts in a report. Gauges have no count. -/
def counts (r : Report) : List (String × UInt64) :=
  r.counters.map (fun x ↦ (x.name, x.count)) ++ r.meters.map (fun x ↦ (x.name, x.count)) ++
    r.sourceRecords.map fun x ↦ (x.name, x.count)

end Report

namespace Presentation

variable (p : Presentation) (e : Setting) (c : Catalogue) (s : Store)

/-- The walk over the sources of a catalogue, after those over its counters and meters. -/
def survey : SourceWalk :=
  walkSources p e (walkMeters p e (walkCounters e s c.counters).store c.meters).store (sources c)

/-- Reservoirs aside, the walks of a draft change the counter of metrics left out only, and let
meters catch up. -/
theorem survey_kept {P : Handle → Prop} (he : P (.counter e.skipped)) :
    s.Kept P e.now (p.survey e c s).walk.store :=
  ((walkCounters_kept e s he _).trans (walkMeters_kept p e _ he _)).trans
    (walkSources_kept p e _ he _)

/-- The walks take readings of a source and leave its count. -/
theorem held_survey (x : Source) :
    x.held (p.survey e c s).walk.store =
      ⟨(x.held s).count, (x.held (p.survey e c s).walk.store).reservoir⟩ := by
  have hcount := (p.survey_kept (P := (· = .counter e.skipped)) e c s rfl).count x
    (x.handle_ne_counter _)
  rw [x.count_eq, x.count_eq] at hcount
  rw [← hcount]

/-- The readings of each source are successive readings of its reservoir. -/
theorem survey_reads (x : Source) :
    (x.held s).reservoir.Reads (x.readings (p.survey e c s).taken)
      (x.held (p.survey e c s).walk.store).reservoir := by
  have h := walkSources_reads p e
    (walkMeters p e (walkCounters e s c.counters).store c.meters).store x (sources c)
  rwa [held_walkMeters, held_walkCounters] at h

/-- What is to be known of a draft. -/
structure Drafted (d : Draft) : Prop where
  taken : d.taken = (p.survey e c s).taken
  metricCount : d.metricCount = c.len
  staged : d.staged = if e.ledger.isEnabled then ⟨d.report.counts⟩ else {}
  gauges : d.report.gauges = gaugeRecords s c.gauges
  counters : d.report.counters.map (fun x ↦ (x.name, x.count)) =
    (countersSeen e s c.counters).filter e.changed
  meters : d.report.meters.map (fun x ↦ (x.name, x.count)) =
    (metersSeen s c.meters).filter e.changed
  histograms : d.report.histograms.map (fun x ↦ (x.name, x.count)) =
    (histogramsSeen s c.histograms).filter e.changed
  timers : d.report.timers.map (fun x ↦ (x.name, x.count)) =
    (timersSeen s c.timers).filter e.changed
  pairs : List.Forall₂ (p.IsRecordOf (sources c)) d.report.sourceRecords d.taken

/-- The records of sources are about those whose counts changed. -/
theorem Drafted.sampled {p : Presentation} {e : Setting} {c : Catalogue} {s : Store} {d : Draft}
    (hd : p.Drafted e c s d) : d.report.sourceRecords.map (fun x ↦ (x.name, x.count)) =
      (histogramsSeen s c.histograms ++ timersSeen s c.timers).filter e.changed := by
  rw [List.filter_append, ← hd.histograms, ← hd.timers, Report.sourceRecords, List.map_append,
    List.map_map, List.map_map]
  rfl

/-- **The report has just the counts that changed.** -/
theorem Drafted.counts {p : Presentation} {e : Setting} {c : Catalogue} {s : Store} {d : Draft}
    (hd : p.Drafted e c s d) : d.report.counts = (seen e s c).filter e.changed := by
  rw [Report.counts, hd.counters, hd.meters, hd.sampled, seen, ← List.filter_append,
    ← List.filter_append]

/-- Its counts are what is staged. -/
theorem Drafted.entries_staged {p : Presentation} {e : Setting} {c : Catalogue} {s : Store}
    {d : Draft} (hd : p.Drafted e c s d) (hon : e.ledger.isEnabled) :
    d.staged.entries = d.report.counts := by
  rw [hd.staged, if_pos hon]

/-- Every record was made from a reading. -/
theorem Drafted.exists_reading {p : Presentation} {e : Setting} {c : Catalogue} {s : Store}
    {d : Draft} (hd : p.Drafted e c s d) {r : SourceRecord} (hr : r ∈ d.report.sourceRecords) :
    ∃ t ∈ d.taken, p.IsRecordOf (sources c) r t := by
  obtain ⟨i, hi, rfl⟩ := List.mem_iff_getElem.1 hr
  have hlength := hd.pairs.length_eq
  exact ⟨_, List.getElem_mem (hlength ▸ hi), hd.pairs.get hi (hlength ▸ hi)⟩

/-- Every reading went into a record. -/
theorem Drafted.exists_record {p : Presentation} {e : Setting} {c : Catalogue} {s : Store}
    {d : Draft} (hd : p.Drafted e c s d) {t : Source × Reading} (ht : t ∈ d.taken) :
    ∃ r ∈ d.report.sourceRecords, p.IsRecordOf (sources c) r t := by
  obtain ⟨i, hi, rfl⟩ := List.mem_iff_getElem.1 ht
  have hlength := hd.pairs.length_eq
  exact ⟨_, List.getElem_mem (hlength.symm ▸ hi), hd.pairs.get (hlength.symm ▸ hi) hi⟩

/-- Among records of histograms there are no others. -/
theorem histograms_of_kind {records : List SourceRecord} (h : ∀ r ∈ records, r.kind = .histogram) :
    (records.filterMap SourceRecord.histogram?).map SourceRecord.histogram = records ∧
      records.filterMap SourceRecord.timer? = [] := by
  induction records with
  | nil => exact ⟨rfl, rfl⟩
  | cons r records ih =>
    obtain ⟨hhistograms, htimers⟩ := ih fun r' hr' ↦ h r' (List.mem_cons_of_mem _ hr')
    cases r with
    | histogram a => exact ⟨congrArg (SourceRecord.histogram a :: ·) hhistograms, htimers⟩
    | timer b => exact absurd (h _ List.mem_cons_self) (by simp [SourceRecord.kind])

/-- Among records of timers there are no others. -/
theorem timers_of_kind {records : List SourceRecord} (h : ∀ r ∈ records, r.kind = .timer) :
    (records.filterMap SourceRecord.timer?).map SourceRecord.timer = records ∧
      records.filterMap SourceRecord.histogram? = [] := by
  induction records with
  | nil => exact ⟨rfl, rfl⟩
  | cons r records ih =>
    obtain ⟨htimers, hhistograms⟩ := ih fun r' hr' ↦ h r' (List.mem_cons_of_mem _ hr')
    cases r with
    | histogram a => exact absurd (h _ List.mem_cons_self) (by simp [SourceRecord.kind])
    | timer b => exact ⟨congrArg (SourceRecord.timer b :: ·) htimers, hhistograms⟩

/-- **Records of histograms and timers can be told apart again**, since those of histograms come
first. -/
theorem split_records {records : List SourceRecord}
    (h : records.map SourceRecord.entry =
      (sourceEntries s (sources c)).filter fun v ↦ e.changed v.2) :
    (records.filterMap SourceRecord.histogram?).map SourceRecord.histogram ++
        (records.filterMap SourceRecord.timer?).map SourceRecord.timer = records ∧
      (records.filterMap SourceRecord.histogram?).map (fun x ↦ (x.name, x.count)) =
        (histogramsSeen s c.histograms).filter e.changed ∧
      (records.filterMap SourceRecord.timer?).map (fun x ↦ (x.name, x.count)) =
        (timersSeen s c.timers).filter e.changed := by
  have hsources : sourceEntries s (sources c) =
      (histogramsSeen s c.histograms).map (Prod.mk .histogram) ++
        (timersSeen s c.timers).map (Prod.mk .timer) := by
    simp only [sourceEntries, sources, histogramsSeen, timersSeen, List.map_append, List.map_map]
    rfl
  rw [hsources, List.filter_append, List.filter_map, List.filter_map] at h
  obtain ⟨before, after, rfl, hbefore, hafter⟩ := List.map_eq_append_iff.1 h
  have hkind : ∀ {records : List SourceRecord} {k : Kind} {l : List (String × UInt64)},
      records.map SourceRecord.entry = l.map (Prod.mk k) →
        (∀ r ∈ records, r.kind = k) ∧ records.map (fun x ↦ (x.name, x.count)) = l := by
    intro records k l hl
    refine ⟨fun r hr ↦ ?_, ?_⟩
    · obtain ⟨v, -, hv⟩ := List.mem_map.1 (hl ▸ List.mem_map_of_mem hr)
      exact (congrArg Prod.fst hv).symm
    · have hsnd := congrArg (List.map Prod.snd) hl
      rw [List.map_map, List.map_map] at hsnd
      exact hsnd.trans (List.map_id _)
  obtain ⟨hhistogram, hhistograms⟩ := hkind hbefore
  obtain ⟨htimer, htimers⟩ := hkind hafter
  obtain ⟨hbefore, hnone⟩ := histograms_of_kind hhistogram
  obtain ⟨hafter, hnone'⟩ := timers_of_kind htimer
  rw [List.filterMap_append, List.filterMap_append, hnone, hnone', List.append_nil, List.nil_append,
    hbefore, hafter]
  refine ⟨rfl, ?_, ?_⟩
  · rw [← hbefore, List.map_map] at hhistograms
    exact hhistograms
  · rw [← hafter, List.map_map] at htimers
    exact htimers

/-- **The records of a survey are those of a report**, histograms first, if it was not stopped. -/
theorem split_survey (h : (p.survey e c s).stopped = none) :
    let records := (p.survey e c s).walk.records
    (records.filterMap SourceRecord.histogram?).map SourceRecord.histogram ++
        (records.filterMap SourceRecord.timer?).map SourceRecord.timer = records ∧
      (records.filterMap SourceRecord.histogram?).map (fun x ↦ (x.name, x.count)) =
        (histogramsSeen s c.histograms).filter e.changed ∧
      (records.filterMap SourceRecord.timer?).map (fun x ↦ (x.name, x.count)) =
        (timersSeen s c.timers).filter e.changed := by
  -- the walks before it moved none of the counts that it meets
  let P : Handle → Prop := (· = .counter e.skipped)
  have he : P (.counter e.skipped) := rfl
  have hkept := (walkCounters_kept e s he c.counters).trans (walkMeters_kept p e _ he c.meters)
  have hentries := entries_walkSources p e _ h
  rw [sourceEntries_congr fun x ↦ hkept.count x (x.handle_ne_counter _)] at hentries
  exact split_records e c s hentries

/-- **A draft was stopped, and has given its readings back, or it was made.** -/
theorem draft_cases (timestamp : Int64) (status : Option String) (alerts : List Alert) :
    (∃ cause, (p.survey e c s).stopped = some cause ∧
      p.draft e timestamp status alerts c s =
        (.error cause, restoreAll (p.survey e c s).taken (p.survey e c s).walk.store)) ∨
    ∃ d, (p.survey e c s).stopped = none ∧
      p.draft e timestamp status alerts c s = (.ok d, (p.survey e c s).walk.store) ∧
      p.Drafted e c s d := by
  have hsurvey : p.walkSources e (p.walkMeters e (walkCounters e s c.counters).store c.meters).store
    (sources c) = p.survey e c s := rfl
  cases hstopped : (p.survey e c s).stopped with
  | some cause =>
    refine .inl ⟨cause, rfl, ?_⟩
    simp only [draft, hsurvey, hstopped]
  | none =>
    let counters := walkCounters e s c.counters
    let meters := walkMeters p e counters.store c.meters
    have hpairs := walkSources_pairs p e meters.store hstopped
    have hcounts := records_walkSources p e meters.store hstopped
    have hwalked : s.Kept (· = .counter e.skipped) e.now counters.store :=
      walkCounters_kept (P := (· = .counter e.skipped)) e s rfl c.counters
    obtain ⟨hsorted, hhistograms, htimers⟩ := p.split_survey e c s hstopped
    have hall : (counters.records.map fun r ↦ (r.name, r.count)) ++
        (meters.records.map fun r ↦ (r.name, r.count)) ++
        ((p.survey e c s).walk.records.map fun r ↦ (r.name, r.count)) =
          counters.counts ++ meters.counts ++ (p.survey e c s).walk.counts := by
      rw [records_walkCounters, records_walkMeters]
      exact congrArg _ hcounts
    simp only [draft, hsurvey, hstopped, true_and]
    refine .inr ⟨_, rfl, rfl, rfl, ?_, rfl, ?_, ?_, hhistograms, htimers, ?_⟩
    · rw [Report.counts, Report.sourceRecords]
      exact congrArg (fun l ↦ if e.ledger.isEnabled then (⟨l⟩ : Staged) else {})
        (hall.symm.trans (congrArg _ (congrArg _ hsorted.symm)))
    · exact (records_walkCounters e s c.counters).trans (counts_walkCounters e s c.counters)
    · refine (records_walkMeters p e counters.store c.meters).trans ?_
      rw [counts_walkMeters, metersSeen_of_kept hwalked fun m _ ↦ m.2.meter_ne_counter _]
    · rw [Report.sourceRecords]
      exact hsorted.symm ▸ hpairs

section

variable {p e c s} {timestamp : Int64} {status : Option String} {alerts : List Alert}

/-- A draft that was made comes of walks that were not stopped. -/
theorem drafted_of_ok {d : Draft} {s' : Store}
    (h : p.draft e timestamp status alerts c s = (.ok d, s')) :
    (p.survey e c s).stopped = none ∧ s' = (p.survey e c s).walk.store ∧ p.Drafted e c s d := by
  obtain ⟨cause, -, hdraft⟩ | ⟨d', hstopped, hdraft, hd⟩ :=
    p.draft_cases e c s timestamp status alerts
  · cases h.symm.trans hdraft
  · obtain ⟨hsome, hstore⟩ := Prod.mk.inj (h.symm.trans hdraft)
    obtain rfl := Except.ok.inj hsome
    exact ⟨hstopped, hstore, hd⟩

/-- One that was stopped has given its readings back. -/
theorem stopped_of_error {cause : DraftError} {s' : Store}
    (h : p.draft e timestamp status alerts c s = (.error cause, s')) :
    (p.survey e c s).stopped = some cause ∧
      s' = restoreAll (p.survey e c s).taken (p.survey e c s).walk.store := by
  obtain ⟨cause', hstopped, hdraft⟩ | ⟨d, -, hdraft, -⟩ :=
    p.draft_cases e c s timestamp status alerts
  · obtain ⟨hcause, hstore⟩ := Prod.mk.inj (h.symm.trans hdraft)
    exact ⟨hstopped.trans (congrArg some (Except.error.inj hcause).symm), hstore⟩
  · cases h.symm.trans hdraft

end

/-! ### The report -/

/-- The report that the walks over a catalogue make, if they are not stopped. -/
def compiled (timestamp : Int64) (status : Option String) (alerts : List Alert) : Report :=
  { p.frame timestamp status alerts with
    gauges := gaugeRecords s c.gauges
    counters := (walkCounters e s c.counters).records
    meters := (p.walkMeters e (walkCounters e s c.counters).store c.meters).records
    histograms := (p.survey e c s).walk.records.filterMap SourceRecord.histogram?
    timers := (p.survey e c s).walk.records.filterMap SourceRecord.timer? }

/-- **The report of a draft is what its walks made.** -/
theorem report_eq {timestamp : Int64} {status : Option String} {alerts : List Alert} {d : Draft}
    {s' : Store} (h : p.draft e timestamp status alerts c s = (.ok d, s')) :
    d.report = p.compiled e c s timestamp status alerts := by
  have hsurvey :
      p.walkSources e (p.walkMeters e (walkCounters e s c.counters).store c.meters).store
        (sources c) = p.survey e c s := rfl
  have hstopped := (drafted_of_ok h).1
  simp only [draft, hsurvey, hstopped, Prod.mk.injEq, Except.ok.injEq] at h
  rw [← h.1]
  rfl

/-- Its records of histograms and timers are those of the last walk. -/
theorem sourceRecords_compiled (h : (p.survey e c s).stopped = none) (timestamp : Int64)
    (status : Option String) (alerts : List Alert) :
    (p.compiled e c s timestamp status alerts).sourceRecords = (p.survey e c s).walk.records :=
  (p.split_survey e c s h).1

end Presentation

end Telemetry
