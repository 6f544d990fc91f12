import Telemetry.Registry

/-!
# A reporter's own metrics

A reporter counts what it does in metrics of its own: how long sending takes, how many reports fail,
how large they are, how many metrics were left out, and how many metrics the last report saw. They
can be registered as a group and reported like any others.
-/

namespace Telemetry

/-- The metrics that a reporter keeps about itself. -/
structure Stats where
  /-- How long each sending took, failed ones included. -/
  reports : MetricId Timer
  failedReports : MetricId Meter
  /-- The size of the bodies sent, after compression. -/
  reportSize : MetricId Histogram
  skippedUnchanged : MetricId Counter
  /-- The number of metrics seen by the last report, those left out included. -/
  reportCount : MetricId Gauge
  deriving DecidableEq

namespace Stats

/-- A histogram of sizes, with two significant digits. -/
def sizes : Histogram where
  reservoir := .binned (.ofLayout { digits := 2 } 2)

/-- New metrics, which begin now. -/
def create (now : Span) (s : Store) : Stats × Store :=
  let (reports, s) := s.newTimer { meter := { start := now } }
  let (failedReports, s) := s.newMeter { start := now }
  let (reportSize, s) := s.newHistogram sizes
  let (skippedUnchanged, s) := s.newCounter {}
  let (reportCount, s) := s.newGauge (.size 0)
  (⟨reports, failedReports, reportSize, skippedUnchanged, reportCount⟩, s)

/-- The metrics under their names within the group. -/
def set (t : Stats) : List (String × Handle) :=
  [("reports", .timer t.reports), ("failed-reports", .meter t.failedReports),
    ("report-size-bytes", .histogram t.reportSize),
    ("skipped-unchanged", .counter t.skippedUnchanged), ("report-count", .gauge t.reportCount)]

/-- The number of metrics seen by the last report. -/
def lastCount (t : Stats) (s : Store) : Nat :=
  match s.gauge t.reportCount with
  | .size n => n
  | .holding _ => 0

end Stats

end Telemetry
