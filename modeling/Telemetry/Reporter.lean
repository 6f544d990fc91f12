import Telemetry.Draft
import Telemetry.Report.Wire
import Telemetry.Transport
import Telemetry.World

/-!
# Reporters

A `Reporter` sends one report for each call of `Reporter.tick`. A tick

1. puts a report on the metrics together,
2. notes how many metrics it saw,
3. sends it,
4. and, if the answer is a status from 200 to 299, enters the counts sent into the ledger; otherwise
   it gives the readings taken for the report back to their reservoirs.

A tick that fails at any of these steps counts as a failed report and leaves the ledger alone.
-/

namespace Telemetry

/-- Why a report was not delivered. -/
inductive ReportError where
  | draft (cause : DraftError)
  | transport (cause : TransportError)
  /-- The collector answered with a status that is no success. -/
  | status (code : Nat)
  deriving DecidableEq, Repr

/-- The text of a cause. -/
def ReportError.message : ReportError → String
  | draft cause => s!"encode failed: {cause.message}"
  | transport _ => "transport failed"
  | status code => s!"unexpected response status {code}"

/-- Whoever reports on a registry. -/
structure Reporter where
  presentation : Presentation
  transport : Transport
  ledger : Ledger
  stats : Stats
  filter : Option Filter := none

/-- What a tick finds: the time of day, what is to be said beside the metrics, what the collector
does and how long that takes. -/
structure Tick where
  timestamp : Int64 := 0
  status : Option String := none
  alerts : List Alert := []
  reply : Reply := .status 200
  /-- The time that the exchange with the collector takes. -/
  elapsed : Span := {}
  /-- The metrics to report on, if not those of the registry. -/
  catalogue : Option Catalogue := none

/-- What became of a tick: the status or the failure, the report if one was put together, and the
request if the collector got one. -/
structure Outcome where
  result : Except ReportError Nat
  report : Option Report := none
  request : Option Request := none

namespace Reporter

/-- A reporter with the settings given, whose own metrics begin now. -/
def create (settings : Settings) (w : World) : Except SettingsError (Reporter × World) := do
  settings.check
  let transport ← Transport.create settings
  let (stats, store) := Stats.create w.now w.store
  return ({ presentation := settings.presentation, transport, stats
            ledger := .new settings.skipUnchanged }, { w with store })

/-- The metrics that the reporter reports on. -/
def catalogue (r : Reporter) (w : World) : Catalogue :=
  match r.filter with
  | some f => w.registry.catalogueWhere f
  | none => w.registry.catalogue

/-- The store with a failed report counted. -/
def fail (r : Reporter) (now : Span) (s : Store) : Store :=
  s.setMeter r.stats.failedReports ((s.meter r.stats.failedReports).mark 1 now)

/-- Whether a status means that the report was taken. -/
def isSuccess (code : Nat) : Bool :=
  200 ≤ code && code < 300

/-- What the result of sending says about a report. -/
def verdict : Except TransportError Nat → Except ReportError Nat
  | .error cause => .error (.transport cause)
  | .ok code => if isSuccess code then .ok code else .error (.status code)

/-- Sends a draft, and either enters its counts into the ledger or gives its readings back. -/
def deliver (r : Reporter) (reply : Reply) (elapsed : Span) (d : Draft) (w : World) :
    Outcome × Reporter × World :=
  let store := w.store.setGauge r.stats.reportCount (.size d.metricCount)
  let sent := r.transport.send r.stats w.now d.report.encode reply store elapsed
  match verdict sent.result with
  | .ok code =>
    (⟨.ok code, some d.report, sent.request⟩, { r with ledger := r.ledger.commit d.staged },
      { w with store := sent.store })
  | .error cause =>
    (⟨.error cause, some d.report, sent.request⟩, r,
      { w with store := r.fail w.now (d.restore sent.store) })

/-- What the drafts of the reporter go by. -/
def setting (r : Reporter) (w : World) : Presentation.Setting :=
  ⟨w.now, r.ledger, r.stats.skippedUnchanged⟩

/-- Reports once. -/
def tick (r : Reporter) (t : Tick) (w : World) : Outcome × Reporter × World :=
  let catalogue := t.catalogue.getD (r.catalogue w)
  match r.presentation.draft (r.setting w) t.timestamp t.status t.alerts catalogue w.store with
  | (.error cause, store) =>
    ({ result := .error (.draft cause) }, r, { w with store := r.fail w.now store })
  | (.ok d, store) => r.deliver t.reply t.elapsed d { w with store }

end Reporter

end Telemetry
