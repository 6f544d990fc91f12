import Telemetry.Report.Basic
import Telemetry.Wire.Field

/-!
# Reports as bytes

Each record of a report is a message of numbered fields, and so is the report. Numbers that are zero
and names that are empty are left out; what may be absent is written whenever it is present, also
when it is empty or zero.

Reading (`Report.decode?`) goes field by field. A field met again replaces what was read before,
except that records of a list are added to it and that the fields of a summary are merged into the
summary read so far. Fields with numbers that a message does not have are passed over; a known field
of the wrong form refuses the whole report.

Messages are nested two deep. Each level takes one from the number of groups that may be nested.
-/

namespace Telemetry

open Wire Wire.Field

/-- How many messages and groups may be nested. -/
def nestingLimit : Nat :=
  100

namespace Summary

/-- The fields of a summary. -/
def toFields (s : Summary) : List Field :=
  ofDouble 1 s.min ++ ofDouble 2 s.max ++ ofDouble 3 s.mean ++ ofDouble 4 s.std ++
    ofDouble 5 s.median ++ ofDouble 6 s.p75 ++ ofDouble 7 s.p95 ++ ofDouble 8 s.p98 ++
    ofDouble 9 s.p99 ++ ofDouble 10 s.p999

/-- The summary after one more field was read. -/
def merge (s : Summary) (f : Field) : Option Summary :=
  match f.number with
  | 1 => f.double?.map ({ s with min := · })
  | 2 => f.double?.map ({ s with max := · })
  | 3 => f.double?.map ({ s with mean := · })
  | 4 => f.double?.map ({ s with std := · })
  | 5 => f.double?.map ({ s with median := · })
  | 6 => f.double?.map ({ s with p75 := · })
  | 7 => f.double?.map ({ s with p95 := · })
  | 8 => f.double?.map ({ s with p98 := · })
  | 9 => f.double?.map ({ s with p99 := · })
  | 10 => f.double?.map ({ s with p999 := · })
  | _ => some s

end Summary

/-- A summary with the fields of a nested message merged into it. -/
def mergeSummary (s : Option Summary) (f : Field) : Option (Option Summary) := do
  let fields ← f.message? (nestingLimit - 2)
  return some (← fields.foldlM Summary.merge (s.getD {}))

namespace GaugeRecord

/-- The fields of a gauge. -/
def toFields (g : GaugeRecord) : List Field :=
  ofName 1 g.name ++
    match g.value with
    | none => []
    | some (.number d) => [⟨2, .eight d.bits⟩]
    | some (.text s) => [.ofText 3 s]

/-- The gauge after one more field was read. -/
def merge (g : GaugeRecord) (f : Field) : Option GaugeRecord :=
  match f.number with
  | 1 => f.text?.map ({ g with name := · })
  | 2 => f.double?.map fun d ↦ { g with value := some (.number d) }
  | 3 => f.text?.map fun s ↦ { g with value := some (.text s) }
  | _ => some g

end GaugeRecord

namespace CounterRecord

/-- The fields of a counter. -/
def toFields (c : CounterRecord) : List Field :=
  ofName 1 c.name ++ ofWord 2 c.count

/-- The counter after one more field was read. -/
def merge (c : CounterRecord) (f : Field) : Option CounterRecord :=
  match f.number with
  | 1 => f.text?.map ({ c with name := · })
  | 2 => f.word?.map ({ c with count := · })
  | _ => some c

end CounterRecord

namespace Rates

/-- The fields of rates, which have the numbers three to six. -/
def toFields (r : Rates) : List Field :=
  ofDouble 3 r.m1 ++ ofDouble 4 r.m5 ++ ofDouble 5 r.m15 ++ ofDouble 6 r.mean

end Rates

namespace MeterRecord

/-- The fields of a meter. -/
def toFields (m : MeterRecord) : List Field :=
  ofName 1 m.name ++ ofWord 2 m.count ++ m.rates.toFields

/-- The meter after one more field was read. -/
def merge (m : MeterRecord) (f : Field) : Option MeterRecord :=
  match f.number with
  | 1 => f.text?.map ({ m with name := · })
  | 2 => f.word?.map ({ m with count := · })
  | 3 => f.double?.map ({ m with rates.m1 := · })
  | 4 => f.double?.map ({ m with rates.m5 := · })
  | 5 => f.double?.map ({ m with rates.m15 := · })
  | 6 => f.double?.map ({ m with rates.mean := · })
  | _ => some m

end MeterRecord

namespace HistogramRecord

/-- The fields of a histogram. -/
def toFields (h : HistogramRecord) : List Field :=
  ofName 1 h.name ++ ofWord 2 h.count ++
    h.summary.toList.map (fun s ↦ .ofMessage 3 s.toFields) ++
    h.payload.toList.map (fun b ↦ ⟨4, .bytes b⟩)

/-- The histogram after one more field was read. -/
def merge (h : HistogramRecord) (f : Field) : Option HistogramRecord :=
  match f.number with
  | 1 => f.text?.map ({ h with name := · })
  | 2 => f.word?.map ({ h with count := · })
  | 3 => (mergeSummary h.summary f).map ({ h with summary := · })
  | 4 => f.bytes?.map fun b ↦ { h with payload := some b }
  | _ => some h

end HistogramRecord

namespace TimerRecord

/-- The fields of a timer. -/
def toFields (t : TimerRecord) : List Field :=
  ofName 1 t.name ++ ofWord 2 t.count ++ t.rates.toFields ++
    t.summary.toList.map (fun s ↦ .ofMessage 7 s.toFields) ++
    t.payload.toList.map (fun b ↦ ⟨8, .bytes b⟩)

/-- The timer after one more field was read. -/
def merge (t : TimerRecord) (f : Field) : Option TimerRecord :=
  match f.number with
  | 1 => f.text?.map ({ t with name := · })
  | 2 => f.word?.map ({ t with count := · })
  | 3 => f.double?.map ({ t with rates.m1 := · })
  | 4 => f.double?.map ({ t with rates.m5 := · })
  | 5 => f.double?.map ({ t with rates.m15 := · })
  | 6 => f.double?.map ({ t with rates.mean := · })
  | 7 => (mergeSummary t.summary f).map ({ t with summary := · })
  | 8 => f.bytes?.map fun b ↦ { t with payload := some b }
  | _ => some t

end TimerRecord

namespace Alert

/-- The fields of an alert. -/
def toFields (a : Alert) : List Field :=
  ofName 1 a.name ++ ofCode 2 a.severity ++ ofName 3 a.message

/-- The alert after one more field was read. -/
def merge (a : Alert) (f : Field) : Option Alert :=
  match f.number with
  | 1 => f.text?.map ({ a with name := · })
  | 2 => f.code?.map ({ a with severity := · })
  | 3 => f.text?.map ({ a with message := · })
  | _ => some a

end Alert

/-- The record in a field, put together from its own fields. -/
def record? {α : Type} [Inhabited α] (merge : α → Field → Option α) (f : Field) : Option α := do
  let fields ← f.message? (nestingLimit - 1)
  fields.foldlM merge default

namespace Report

/-- The fields of a report. -/
def toFields (r : Report) : List Field :=
  ofWord 1 r.version.toUInt64 ++ ofWord 2 r.timestamp.toUInt64 ++ ofCode 3 r.rateUnit ++
    ofCode 4 r.durationUnit ++ ofText? 5 r.application ++ ofText? 6 r.host ++
    ofText? 7 r.instanceName ++ ofText? 8 r.role ++ ofText? 9 r.description ++
    ofText? 10 r.status ++
    r.gauges.map (fun g ↦ .ofMessage 11 g.toFields) ++
    r.counters.map (fun c ↦ .ofMessage 12 c.toFields) ++
    r.meters.map (fun m ↦ .ofMessage 13 m.toFields) ++
    r.histograms.map (fun h ↦ .ofMessage 14 h.toFields) ++
    r.timers.map (fun t ↦ .ofMessage 15 t.toFields) ++
    r.alerts.map (fun a ↦ .ofMessage 16 a.toFields)

/-- The report after one more field was read. -/
def merge (r : Report) (f : Field) : Option Report :=
  match f.number with
  | 1 => f.word?.map fun n ↦ { r with version := n.toUInt32 }
  | 2 => f.word?.map fun n ↦ { r with timestamp := n.toInt64 }
  | 3 => f.code?.map ({ r with rateUnit := · })
  | 4 => f.code?.map ({ r with durationUnit := · })
  | 5 => f.text?.map fun s ↦ { r with application := some s }
  | 6 => f.text?.map fun s ↦ { r with host := some s }
  | 7 => f.text?.map fun s ↦ { r with instanceName := some s }
  | 8 => f.text?.map fun s ↦ { r with role := some s }
  | 9 => f.text?.map fun s ↦ { r with description := some s }
  | 10 => f.text?.map fun s ↦ { r with status := some s }
  | 11 => (record? GaugeRecord.merge f).map fun g ↦ { r with gauges := r.gauges ++ [g] }
  | 12 => (record? CounterRecord.merge f).map fun c ↦ { r with counters := r.counters ++ [c] }
  | 13 => (record? MeterRecord.merge f).map fun m ↦ { r with meters := r.meters ++ [m] }
  | 14 => (record? HistogramRecord.merge f).map fun h ↦ { r with histograms := r.histograms ++ [h] }
  | 15 => (record? TimerRecord.merge f).map fun t ↦ { r with timers := r.timers ++ [t] }
  | 16 => (record? Alert.merge f).map fun a ↦ { r with alerts := r.alerts ++ [a] }
  | _ => some r

/-- The bytes of a report. -/
def encode (r : Report) : List UInt8 :=
  Field.encodeAll r.toFields

/-- The report that bytes hold. -/
def decode? (bytes : List UInt8) : Option Report := do
  let fields ← Field.parse? nestingLimit bytes
  fields.foldlM merge {}

end Report

end Telemetry
