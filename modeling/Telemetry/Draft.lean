import Telemetry.Digest
import Telemetry.Ledger
import Telemetry.Presentation
import Telemetry.Registry
import Telemetry.Report.Basic

/-!
# Putting a report together

`Presentation.draft` goes through a catalogue: gauges first, then counters, meters, histograms and
timers, each kind in the order of names. All but gauges are asked for their count first; where the
ledger knows that count already the metric is left out and the counter of metrics left out goes up
by one, and otherwise the count is staged and a record made.

The walk changes metrics: reading a reservoir starts its count since the last reading afresh,
reading rates lets a meter catch up, and leaving out a metric is counted. Each step therefore sees
what the steps before it did, which shows where one metric stands under two names, and where the
counter of metrics left out is itself among the metrics.

A `Draft` keeps the readings it took. If the report cannot be delivered they are given back
(`Draft.restore`), and if the counts of a reservoir cannot be written, all readings taken so far are
given back at once, that of the offending reservoir included.
-/

namespace Telemetry

/-- A metric with a reservoir. -/
inductive Source where
  | histogram (id : MetricId Histogram)
  | timer (id : MetricId Timer)
  deriving DecidableEq

namespace Source

/-- The number of values taken in. -/
def count (s : Store) : Source → UInt64
  | histogram id => (s.histogram id).count
  | timer id => (s.timer id).count

/-- A reading of the reservoir, and the store after it. -/
def read (s : Store) : Source → Reading × Store
  | histogram id =>
    let (r, h) := (s.histogram id).read
    (r, s.setHistogram id h)
  | timer id =>
    let (r, t) := (s.timer id).read
    (r, s.setTimer id t)

/-- The store with a reading given back to the reservoir. -/
def restore (s : Store) (r : Reading) : Source → Store
  | histogram id => s.setHistogram id ((s.histogram id).restore r)
  | timer id => s.setTimer id ((s.timer id).restore r)

end Source

/-- Why there is no report. -/
inductive DraftError where
  /-- The reading of a metric has no digest. -/
  | digest (name : String) (cause : DigestError)
  deriving DecidableEq, Repr

/-- The text of a cause. -/
def DraftError.message : DraftError → String
  | digest name cause => s!"failed to encode hdr histogram for {name}: {cause.message}"

/-- Rates in a unit, as a report shows them. -/
def PerSecond.toRates (r : PerSecond) (c : Converter) : Rates where
  m1 := .ofFloat (c.rate r.m1)
  m5 := .ofFloat (c.rate r.m5)
  m15 := .ofFloat (c.rate r.m15)
  mean := .ofFloat (c.rate r.mean)

/-- A report that was not delivered yet, and what is to be done when it is or when it cannot be. -/
structure Draft where
  report : Report
  /-- The number of metrics of the catalogue, those left out included. -/
  metricCount : Nat
  /-- The counts to be remembered when the report has been delivered. -/
  staged : Staged
  /-- The readings to be given back when the report cannot be delivered. -/
  taken : List (Source × Reading)

/-- The store with readings given back, in the order in which they were taken. -/
def restoreAll (taken : List (Source × Reading)) (s : Store) : Store :=
  taken.foldl (fun s t ↦ t.1.restore s t.2) s

/-- The store with the readings of a draft given back. -/
def Draft.restore (d : Draft) (s : Store) : Store :=
  restoreAll d.taken s

namespace Presentation

/-- What a walk needs to know of its surroundings: the time, what was last reported, and where the
metrics left out are counted. -/
structure Setting where
  now : Span
  ledger : Ledger
  skipped : MetricId Counter

/-- The store with one more metric counted as left out. -/
def Setting.skip (e : Setting) (s : Store) : Store :=
  s.setCounter e.skipped (s.counter e.skipped).inc

/-- Records, the counts to be staged for them, and the store after they were made. -/
structure Walk (α : Type) where
  records : List α
  counts : List (String × UInt64)
  store : Store

/-- A walk with a record before those made later. -/
def Walk.cons {α : Type} (record : α) (name : String) (count : UInt64) (w : Walk α) : Walk α :=
  { w with records := record :: w.records, counts := (name, count) :: w.counts }

/-- The records of gauges. -/
def gaugeRecords (s : Store) (gauges : List (String × MetricId Gauge)) : List GaugeRecord :=
  gauges.map fun g ↦ ⟨g.1, some (s.gauge g.2).value⟩

/-- The records of counters. -/
def walkCounters (e : Setting) (s : Store) : List (String × MetricId Counter) → Walk CounterRecord
  | [] => ⟨[], [], s⟩
  | (name, id) :: rest =>
    let count := (s.counter id).count
    if e.ledger.unchanged name count then walkCounters e (e.skip s) rest
    else (walkCounters e s rest).cons ⟨name, count⟩ name count

/-- The records of meters. -/
def walkMeters (p : Presentation) (e : Setting) (s : Store) :
    List (String × MetricId Meter) → Walk MeterRecord
  | [] => ⟨[], [], s⟩
  | (name, id) :: rest =>
    let count := (s.meter id).count
    if e.ledger.unchanged name count then walkMeters p e (e.skip s) rest
    else
      let (rates, m) := (s.meter id).read e.now
      (walkMeters p e (s.setMeter id m) rest).cons
        ⟨name, count, rates.toRates p.converter⟩ name count

/-- A record of a metric with a reservoir. -/
inductive SourceRecord where
  | histogram (r : HistogramRecord)
  | timer (r : TimerRecord)
  deriving DecidableEq, Repr

/-- The record of a histogram. -/
def SourceRecord.histogram? : SourceRecord → Option HistogramRecord
  | histogram r => some r
  | timer _ => none

/-- The record of a timer. -/
def SourceRecord.timer? : SourceRecord → Option TimerRecord
  | histogram _ => none
  | timer r => some r

/-- The scale of the values of a source: plain values have none, durations that of their unit. -/
def scale (p : Presentation) : Source → Float
  | .histogram _ => 1.0
  | .timer _ => p.converter.durationFactor

/-- The record of a source whose reading has a digest, and the store after its rates were read. -/
def record (p : Presentation) (now : Span) (name : String) (count : UInt64) (d : Digest)
    (s : Store) : Source → SourceRecord × Store
  | .histogram _ => (.histogram ⟨name, count, some d.summary, d.payload⟩, s)
  | .timer id =>
    let (rates, t) := (s.timer id).readRates now
    (.timer ⟨name, count, rates.toRates p.converter, some d.summary, d.payload⟩, s.setTimer id t)

/-- A walk over sources, the readings it took, and what stopped it. -/
structure SourceWalk where
  walk : Walk SourceRecord
  taken : List (Source × Reading)
  stopped : Option DraftError

/-- The records of sources, up to the first one without a digest. -/
def walkSources (p : Presentation) (e : Setting) (s : Store) : List (String × Source) → SourceWalk
  | [] => ⟨⟨[], [], s⟩, [], none⟩
  | (name, source) :: rest =>
    let count := source.count s
    if e.ledger.unchanged name count then walkSources p e (e.skip s) rest
    else
      let (reading, s) := source.read s
      match reading.digest p.mode (p.scale source) with
      -- the offending reading was taken too, so it is among those to be given back
      | .error cause => ⟨⟨[], [(name, count)], s⟩, [(source, reading)], some (.digest name cause)⟩
      | .ok digest =>
        let (record, s) := p.record e.now name count digest s source
        let w := walkSources p e s rest
        ⟨w.walk.cons record name count, (source, reading) :: w.taken, w.stopped⟩

/-- The sources of a catalogue: histograms, then timers. -/
def sources (c : Catalogue) : List (String × Source) :=
  c.histograms.map (fun h ↦ (h.1, .histogram h.2)) ++ c.timers.map fun t ↦ (t.1, .timer t.2)

/-- A report without records. -/
def frame (p : Presentation) (timestamp : Int64) (status : Option String) (alerts : List Alert) :
    Report :=
  let base : Report :=
    { version := p.schema.version
      timestamp
      rateUnit := p.converter.rateUnit.code
      durationUnit := p.converter.durationUnit.code
      application := p.identity.application
      host := p.identity.host
      instanceName := p.identity.instanceName }
  if p.schema.isExtended then
    { base with role := p.identity.role, description := p.identity.description, status, alerts }
  else base

/-- Puts a report on a catalogue together: the draft or what stands in its way, and the store
afterwards. -/
def draft (p : Presentation) (e : Setting) (timestamp : Int64) (status : Option String)
    (alerts : List Alert) (c : Catalogue) (s : Store) : Except DraftError Draft × Store :=
  let counters := walkCounters e s c.counters
  let meters := p.walkMeters e counters.store c.meters
  let sampled := p.walkSources e meters.store (sources c)
  match sampled.stopped with
  | some error => (.error error, restoreAll sampled.taken sampled.walk.store)
  | none =>
    let counts := counters.counts ++ meters.counts ++ sampled.walk.counts
    let report :=
      { p.frame timestamp status alerts with
        gauges := gaugeRecords s c.gauges
        counters := counters.records
        meters := meters.records
        histograms := sampled.walk.records.filterMap SourceRecord.histogram?
        timers := sampled.walk.records.filterMap SourceRecord.timer? }
    let staged := if e.ledger.isEnabled then ⟨counts⟩ else {}
    (.ok ⟨report, c.len, staged, sampled.taken⟩, sampled.walk.store)

end Presentation

end Telemetry
