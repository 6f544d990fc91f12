import Telemetry.Distribution
import Telemetry.Gauge
import Telemetry.TimeUnit

/-!
# Reports

A `Report` is what a collector receives: who reports, when, in which units, and a record for each
metric. Units and severities are codes here, because a report may be read that uses codes unknown to
us; the accessors then answer with the first of the known ones.
-/

namespace Telemetry

/-- How serious an alert is. -/
inductive Severity where
  | unknown
  | info
  | warn
  | error
  | fatal
  deriving DecidableEq, Repr, Inhabited

namespace Severity

/-- All severities, the least first. -/
def all : List Severity :=
  [unknown, info, warn, error, fatal]

/-- The code of a severity in a report. -/
def code : Severity → Int32
  | unknown => 0
  | info => 1
  | warn => 2
  | error => 3
  | fatal => 4

/-- The severity with a code. -/
def ofCode? (n : Int32) : Option Severity :=
  all.find? fun s ↦ s.code == n

/-- The name of a severity. -/
def name : Severity → String
  | unknown => "unknown"
  | info => "info"
  | warn => "warn"
  | error => "error"
  | fatal => "fatal"

end Severity

/-- A condition that the reporting side wants to be known. -/
structure Alert where
  name : String := ""
  severity : Int32 := 0
  message : String := ""
  deriving DecidableEq, Repr, Inhabited

namespace Alert

/-- An alert of a severity. -/
def new (name : String) (severity : Severity) (message : String) : Alert :=
  ⟨name, severity.code, message⟩

/-- The severity of an alert; `unknown` where its code has none. -/
def severityOrUnknown (a : Alert) : Severity :=
  (Severity.ofCode? a.severity).getD .unknown

end Alert

/-- The moving rates of a meter and its mean rate. -/
structure Rates where
  m1 : Double := {}
  m5 : Double := {}
  m15 : Double := {}
  mean : Double := {}
  deriving DecidableEq, Repr, Inhabited

/-- The value of a gauge. -/
structure GaugeRecord where
  name : String := ""
  value : Option GaugeValue := none
  deriving DecidableEq, Repr, Inhabited

/-- The count of a counter. -/
structure CounterRecord where
  name : String := ""
  count : UInt64 := 0
  deriving DecidableEq, Repr, Inhabited

/-- The count and the rates of a meter. -/
structure MeterRecord where
  name : String := ""
  count : UInt64 := 0
  rates : Rates := {}
  deriving DecidableEq, Repr, Inhabited

/-- The count of a histogram and what its values are like. -/
structure HistogramRecord where
  name : String := ""
  count : UInt64 := 0
  summary : Option Summary := none
  payload : Option (List UInt8) := none
  deriving DecidableEq, Repr, Inhabited

/-- The count and the rates of a timer and what its durations are like. -/
structure TimerRecord where
  name : String := ""
  count : UInt64 := 0
  rates : Rates := {}
  summary : Option Summary := none
  payload : Option (List UInt8) := none
  deriving DecidableEq, Repr, Inhabited

/-- Who reports what, when, and in which units. -/
structure Report where
  version : UInt32 := 0
  /-- Milliseconds since the epoch. -/
  timestamp : Int64 := 0
  rateUnit : Int32 := 0
  durationUnit : Int32 := 0
  application : Option String := none
  host : Option String := none
  instanceName : Option String := none
  role : Option String := none
  description : Option String := none
  status : Option String := none
  gauges : List GaugeRecord := []
  counters : List CounterRecord := []
  meters : List MeterRecord := []
  histograms : List HistogramRecord := []
  timers : List TimerRecord := []
  alerts : List Alert := []
  deriving DecidableEq, Repr, Inhabited

namespace Report

/-- The unit of rates; the first unit where the code has none. -/
def rateUnitOrFirst (r : Report) : TimeUnit :=
  (TimeUnit.ofCode? r.rateUnit).getD .nanoseconds

/-- The unit of durations; the first unit where the code has none. -/
def durationUnitOrFirst (r : Report) : TimeUnit :=
  (TimeUnit.ofCode? r.durationUnit).getD .nanoseconds

end Report

end Telemetry
