import Mathlib
import Telemetry.Proofs.Draft.Structure
import Telemetry.Proofs.Reservoir.Payload

/-!
# What presentation has no part in

Let two reports be put together from the same state, at the same time, for different readers: other
identities, other units, other counts of a reservoir to be shown. Wherever the walks decide something
they ask the ledger, and what they do to the store depends on the time alone. So both walks take the
same readings and leave the same store, and their records come in pairs, each of one source, one
count and one reading (`Presentation.walkSources_pairs_of_both`).

**What is left to differ** in such a pair is what the settings say (`Presentation.PairOf`). The mode
decides about the payload and about the counts that a summary sums up, the units about the scale of
rates and of summaries of timers, and the values of plain histograms are not scaled at all. A mode
may also decide whether there is a report, since counts that are not written cannot be too large to
be written; what is shown here is about two reports that were both made.
-/

namespace Telemetry

/-- The record without what depends on units. -/
def TimerRecord.unitless (r : TimerRecord) : TimerRecord :=
  { r with rates := {}, summary := none }

/-- Scales have no part in payloads. -/
theorem Reading.payload_eq {r : Reading} {mode : PayloadMode} {scale scale' : Float} {d d' : Digest}
    (h : r.digest mode scale = .ok d) (h' : r.digest mode scale' = .ok d') :
    d.payload = d'.payload := by
  have hpayload := r.payload_digest mode scale
  have hpayload' := r.payload_digest mode scale'
  rw [h] at hpayload
  rw [h'] at hpayload'
  exact Except.ok.inj (hpayload.trans hpayload'.symm)

/-- The report without who reports it, in which form, and what is said beside the metrics. -/
def Report.unsigned (r : Report) : Report :=
  { r with
    version := 0, application := none, host := none, instanceName := none, role := none
    description := none, status := none, alerts := [] }

namespace Presentation

/-- The record without what depends on units. -/
def SourceRecord.unitless : SourceRecord → SourceRecord
  | histogram r => histogram r
  | timer r => timer r.unitless

variable {p p' : Presentation} {e : Setting} {c : Catalogue} {s : Store}

/-- What a walk over meters leaves does not depend on how they are shown. -/
theorem store_walkMeters (p p' : Presentation) (e : Setting) (s : Store)
    (l : List (String × MetricId Meter)) :
    (walkMeters p e s l).store = (walkMeters p' e s l).store := by
  induction l generalizing s with
  | nil => rfl
  | cons m l ih =>
    simp only [walkMeters]
    split
    · exact ih (e.skip s)
    · exact ih _

/-- Two records of one source with one count, made of one reading. -/
inductive PairOf (p p' : Presentation) : SourceRecord → SourceRecord → Prop where
  | mk {now : Span} {name : String} {count : UInt64} {s : Store} {x : Source} {reading : Reading}
      {d d' : Digest} (hd : reading.digest p.mode (p.scale x) = .ok d)
      (hd' : reading.digest p'.mode (p'.scale x) = .ok d') :
      PairOf p p' (p.record now name count d s x).1 (p'.record now name count d' s x).1

/-- What making a record leaves in the store does not depend on who presents it. -/
theorem store_record (p p' : Presentation) (now : Span) (name : String) (count : UInt64)
    (d d' : Digest) (s : Store) (x : Source) :
    (p.record now name count d s x).2 = (p'.record now name count d' s x).2 := by
  cases x <;> rfl

/-- **Two walks that were not stopped go side by side.** -/
theorem walkSources_pairs_of_both {l : List (String × Source)}
    (h : (walkSources p e s l).stopped = none) (h' : (walkSources p' e s l).stopped = none) :
    (walkSources p e s l).walk.store = (walkSources p' e s l).walk.store ∧
      (walkSources p e s l).taken = (walkSources p' e s l).taken ∧
      List.Forall₂ (PairOf p p') (walkSources p e s l).walk.records
        (walkSources p' e s l).walk.records := by
  induction l generalizing s with
  | nil => exact ⟨rfl, rfl, .nil⟩
  | cons x l ih =>
    obtain ⟨name, x⟩ := x
    rw [walkSources_cons] at h h' ⊢
    rw [walkSources_cons]
    split at h
    · next hsame =>
      rw [if_pos hsame] at h' ⊢
      rw [if_pos hsame]
      exact ih h h'
    · next hchanged =>
      rw [if_neg hchanged] at h' ⊢
      rw [if_neg hchanged]
      rcases hd : (x.read s).1.digest p.mode (p.scale x) with cause | d
      · rw [hd] at h
        cases h
      · rcases hd' : (x.read s).1.digest p'.mode (p'.scale x) with cause | d'
        · rw [hd'] at h'
          cases h'
        · rw [hd] at h
          rw [hd'] at h'
          dsimp only at h h' ⊢
          rw [store_record p p' e.now name (x.count s) d d'] at h ⊢
          obtain ⟨hstore, htaken, hpairs⟩ := ih h h'
          exact ⟨hstore, congrArg _ htaken, .cons (.mk hd hd') hpairs⟩

/-- **Two presentations walk alike**, if neither is stopped: they leave the same store, take the
same readings, and their records come in pairs. -/
theorem survey_pairs_of_both (h : (p.survey e c s).stopped = none)
    (h' : (p'.survey e c s).stopped = none) :
    (p.survey e c s).walk.store = (p'.survey e c s).walk.store ∧
      (p.survey e c s).taken = (p'.survey e c s).taken ∧
      List.Forall₂ (PairOf p p') (p.survey e c s).walk.records (p'.survey e c s).walk.records := by
  -- the walks over meters end alike, so those over sources begin in one store
  unfold survey at h ⊢
  rw [store_walkMeters p p'] at h ⊢
  exact walkSources_pairs_of_both h h'

namespace PairOf

variable {r r' : SourceRecord}

/-- In one mode, what does not depend on units is the same. -/
theorem unitless_eq (h : PairOf p p' r r') (hmode : p.mode = p'.mode) : r.unitless = r'.unitless := by
  obtain @⟨now, name, count, s, x, reading, d, d', hd, hd'⟩ := h
  rw [← hmode] at hd'
  cases x with
  | histogram id =>
    -- plain values are not scaled, so the whole digest is the same
    obtain rfl := Except.ok.inj (hd.symm.trans hd')
    rfl
  | timer id =>
    show SourceRecord.timer ⟨name, count, {}, none, d.payload⟩ =
      .timer ⟨name, count, {}, none, d'.payload⟩
    rw [Reading.payload_eq hd hd']

/-- In one mode and in the same units, records are the same. -/
theorem eq (h : PairOf p p' r r') (hmode : p.mode = p'.mode) (hunits : p.converter = p'.converter) :
    r = r' := by
  obtain @⟨now, name, count, s, x, reading, d, d', hd, hd'⟩ := h
  have hscale : p.scale x = p'.scale x := by
    cases x with
    | histogram id => rfl
    | timer id => exact congrArg Converter.durationFactor hunits
  rw [← hmode, ← hscale] at hd'
  obtain rfl := Except.ok.inj (hd.symm.trans hd')
  cases x with
  | histogram id => rfl
  | timer id =>
    show SourceRecord.timer ⟨name, count, _, some d.summary, d.payload⟩ = .timer _
    rw [hunits]

end PairOf

/-- What is the same of all pairs is the same of the lists. -/
theorem map_eq_of_pairs {α : Type} {f : SourceRecord → α} {l l' : List SourceRecord}
    (h : List.Forall₂ (PairOf p p') l l') (hf : ∀ r r', PairOf p p' r r' → f r = f r') :
    l.map f = l'.map f := by
  rw [← List.forall₂_eq_eq_eq, List.forall₂_map_left_iff, List.forall₂_map_right_iff]
  exact h.imp hf

theorem histograms_unitless (l : List SourceRecord) :
    (l.map SourceRecord.unitless).filterMap SourceRecord.histogram? =
      l.filterMap SourceRecord.histogram? := by
  rw [List.filterMap_map]
  exact List.filterMap_congr fun r _ ↦ by cases r <;> rfl

theorem timers_unitless (l : List SourceRecord) :
    (l.map SourceRecord.unitless).filterMap SourceRecord.timer? =
      (l.filterMap SourceRecord.timer?).map TimerRecord.unitless := by
  rw [List.filterMap_map, List.map_filterMap]
  exact List.filterMap_congr fun r _ ↦ by cases r <;> rfl

/-! ### Reports -/

/-- What is left of the frame of a report is the time and the units. -/
theorem unsigned_frame (p : Presentation) (timestamp : Int64) (status : Option String)
    (alerts : List Alert) :
    (p.frame timestamp status alerts).unsigned =
      { timestamp
        rateUnit := p.converter.rateUnit.code
        durationUnit := p.converter.durationUnit.code } := by
  unfold frame
  split <;> rfl

/-- What is left of a report is what is left of its frame, and the records. -/
theorem unsigned_compiled (p : Presentation) (e : Setting) (c : Catalogue) (s : Store)
    (timestamp : Int64) (status : Option String) (alerts : List Alert) :
    (p.compiled e c s timestamp status alerts).unsigned =
      { (p.frame timestamp status alerts).unsigned with
        gauges := gaugeRecords s c.gauges
        counters := (walkCounters e s c.counters).records
        meters := (p.walkMeters e (walkCounters e s c.counters).store c.meters).records
        histograms := (p.survey e c s).walk.records.filterMap SourceRecord.histogram?
        timers := (p.survey e c s).walk.records.filterMap SourceRecord.timer? } :=
  rfl

/-- In one mode and in the same units, reports differ only in what is said beside the metrics. -/
theorem unsigned_compiled_eq {timestamp : Int64} {status status' : Option String}
    {alerts alerts' : List Alert}
    (hpairs : List.Forall₂ (PairOf p p') (p.survey e c s).walk.records
      (p'.survey e c s).walk.records)
    (hmode : p.mode = p'.mode) (hunits : p.converter = p'.converter) :
    (p.compiled e c s timestamp status alerts).unsigned =
      (p'.compiled e c s timestamp status' alerts').unsigned := by
  have hrecords := map_eq_of_pairs (f := id) hpairs fun _ _ hr ↦ hr.eq hmode hunits
  rw [List.map_id, List.map_id] at hrecords
  have hmeters : (p.walkMeters e (walkCounters e s c.counters).store c.meters).records =
      (p'.walkMeters e (walkCounters e s c.counters).store c.meters).records := by
    rw [records_meters, records_meters]
    refine List.map_congr_left fun m _ ↦ ?_
    rw [meterRecord, meterRecord, hunits]
  have hframe : (p.frame timestamp status alerts).unsigned =
      (p'.frame timestamp status' alerts').unsigned := by
    rw [unsigned_frame, unsigned_frame, hunits]
  rw [unsigned_compiled, unsigned_compiled, hframe, hmeters, hrecords]

/-- **What two drafts have in common**, whatever is presented. -/
structure PresentedAlike (p p' : Presentation) (d d' : Draft) : Prop where
  metricCount : d.metricCount = d'.metricCount
  staged : d.staged = d'.staged
  taken : d.taken = d'.taken
  gauges : d.report.gauges = d'.report.gauges
  counters : d.report.counters = d'.report.counters
  meters : d.report.meters.map (fun r ↦ (r.name, r.count)) =
    d'.report.meters.map fun r ↦ (r.name, r.count)
  histograms : d.report.histograms.map (fun r ↦ (r.name, r.count)) =
    d'.report.histograms.map fun r ↦ (r.name, r.count)
  timers : d.report.timers.map (fun r ↦ (r.name, r.count)) =
    d'.report.timers.map fun r ↦ (r.name, r.count)
  /-- In one mode, histograms are the same, and timers have the same payloads. -/
  of_mode : p.mode = p'.mode → d.report.histograms = d'.report.histograms ∧
    d.report.timers.map TimerRecord.unitless = d'.report.timers.map TimerRecord.unitless
  /-- In the same units as well, so is all but who reports, and what beside the metrics. -/
  of_units : p.mode = p'.mode → p.converter = p'.converter →
    d.report.unsigned = d'.report.unsigned

/-- **Presentation never changes what is reported.** Two reports that were both put together from one
state at one time have the same metrics, counts and readings behind them and leave the same state.
In one mode they show the same payloads and histograms, and in the same units they differ in nothing
but the form, who reports, and what is said beside the metrics. The old form does not have the
latter, nor a role and a description. -/
theorem presented_alike {timestamp : Int64} {status status' : Option String}
    {alerts alerts' : List Alert} {d d' : Draft} {s₁ s₂ : Store}
    (h : p.draft e timestamp status alerts c s = (.ok d, s₁))
    (h' : p'.draft e timestamp status' alerts' c s = (.ok d', s₂)) :
    s₁ = s₂ ∧ p.PresentedAlike p' d d' ∧
      (p.schema = .legacy → d.report.role = none ∧ d.report.description = none ∧
        d.report.status = none ∧ d.report.alerts = []) := by
  have hreport := p.report_eq e c s h
  have hreport' := p'.report_eq e c s h'
  obtain ⟨hstopped, rfl, hd⟩ := drafted_of_ok h
  obtain ⟨hstopped', rfl, hd'⟩ := drafted_of_ok h'
  obtain ⟨hstore, htaken, hpairs⟩ := survey_pairs_of_both hstopped hstopped'
  have hcounts : d.report.counts = d'.report.counts := hd.counts.trans hd'.counts.symm
  refine ⟨hstore, ⟨hd.metricCount.trans hd'.metricCount.symm, ?_, ?_,
    hd.gauges.trans hd'.gauges.symm, ?_, hd.meters.trans hd'.meters.symm,
    hd.histograms.trans hd'.histograms.symm, hd.timers.trans hd'.timers.symm, ?_, ?_⟩, ?_⟩
  · rw [hd.staged, hd'.staged, hcounts]
  · rw [hd.taken, hd'.taken]
    exact htaken
  · rw [hreport, hreport']
    rfl
  · intro hmode
    have hrecords := map_eq_of_pairs hpairs fun _ _ hr ↦ hr.unitless_eq hmode
    rw [hreport, hreport']
    show List.filterMap _ _ = List.filterMap _ _ ∧
      (List.filterMap _ _).map _ = (List.filterMap _ _).map _
    rw [← histograms_unitless, ← timers_unitless, hrecords, histograms_unitless, timers_unitless]
    exact ⟨rfl, rfl⟩
  · intro hmode hunits
    rw [hreport, hreport']
    exact unsigned_compiled_eq hpairs hmode hunits
  · intro hlegacy
    rw [hreport, compiled, frame, hlegacy]
    exact ⟨rfl, rfl, rfl, rfl⟩

/-- A legacy report on all values of a histogram, and a current one on those since the last. -/
theorem presented_alike_small :
    let e : Setting := ⟨{}, Ledger.new true, ⟨1⟩⟩
    let p : Presentation := { schema := .legacy, mode := .total }
    let p' : Presentation := { identity := { role := some "main" }, mode := .snapshot }
    let c := World.small.registry.catalogue
    let s := World.small.store
    ∃ d d' s₁ s₂, p.draft e 7 (some "up") [] c s = (.ok d, s₁) ∧
      p'.draft e 7 none [] c s = (.ok d', s₂) ∧ s₁ = s₂ ∧ p.PresentedAlike p' d d' ∧
      d.report.status = none := by
  intro e p p' c s
  have hmade : (p.survey e c s).stopped = none := by decide +kernel
  have hmade' : (p'.survey e c s).stopped = none := by decide +kernel
  obtain ⟨cause, hstopped, -⟩ | ⟨d, -, h, -⟩ := p.draft_cases e c s 7 (some "up") []
  · cases hmade.symm.trans hstopped
  obtain ⟨cause, hstopped, -⟩ | ⟨d', -, h', -⟩ := p'.draft_cases e c s 7 none []
  · cases hmade'.symm.trans hstopped
  obtain ⟨hstore, halike, hlegacy⟩ := presented_alike h h'
  exact ⟨d, d', _, _, h, h', hstore, halike, (hlegacy rfl).2.2.1⟩

end Presentation

end Telemetry
