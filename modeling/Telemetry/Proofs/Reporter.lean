import Mathlib
import Telemetry.Proofs.Draft.Outcome
import Telemetry.Reporter

/-!
# What a tick can do

A tick ends in one of three ways, and `Ticks` says for each what becomes of the outcome, the
reporter and the store:

* the draft was stopped, and its readings were given back;
* the report was sent and refused, and its readings were given back behind the sending;
* the report was delivered, and its counts were entered into the ledger.

Which of the last two it is depends on the reply alone (`Reply.result`), and the sending changes
only metrics of the reporter itself (`posted`). Two of these are sources, so that a sending feeds
values to them: `feeds` says which. For every other source a tick does nothing but read its
reservoir, and give the readings back unless the report was delivered.
-/

namespace Telemetry

/-- What sending comes to, by what the collector does. -/
def Reply.result : Reply → Except TransportError Nat
  | .status code => .ok code
  | .silence | .cutShort _ | .refusal => .error .exchange

namespace Reporter

variable (r : Reporter) (t : Tick) (w : World)

/-- The metrics that a tick is about. -/
def subject (r : Reporter) (t : Tick) (w : World) : Catalogue :=
  t.catalogue.getD (r.catalogue w)

/-- The walks of a tick. -/
def survey (r : Reporter) (t : Tick) (w : World) : Presentation.SourceWalk :=
  r.presentation.survey (r.setting w) (r.subject t w) w.store

/-- The store after a report was sent, whatever the collector did. -/
def posted (r : Reporter) (now elapsed : Span) (d : Draft) (s : Store) : Store :=
  let size := (r.transport.request d.report.encode).contentLength.toUInt64
  let s := s.setGauge r.stats.reportCount (.size d.metricCount)
  let s := s.setHistogram r.stats.reportSize ((s.histogram r.stats.reportSize).update size)
  s.setTimer r.stats.reports ((s.timer r.stats.reports).update elapsed now)

/-- What a tick can do. -/
inductive Ticks (r : Reporter) (t : Tick) (w : World) : Outcome × Reporter × World → Prop where
  | stopped {cause : DraftError} (hstopped : (r.survey t w).stopped = some cause) :
      Ticks r t w (⟨.error (.draft cause), none, none⟩, r,
        { w with store := r.fail w.now (restoreAll (r.survey t w).taken (r.survey t w).walk.store) })
  | refused {d : Draft} {cause : ReportError} {request : Option Request}
      (hstopped : (r.survey t w).stopped = none)
      (hd : r.presentation.Drafted (r.setting w) (r.subject t w) w.store d)
      (hreply : verdict t.reply.result = .error cause) :
      Ticks r t w (⟨.error cause, some d.report, request⟩, r,
        { w with
          store := r.fail w.now
            (restoreAll (r.survey t w).taken (r.posted w.now t.elapsed d (r.survey t w).walk.store)) })
  | delivered {d : Draft} {code : Nat} {request : Option Request}
      (hstopped : (r.survey t w).stopped = none)
      (hd : r.presentation.Drafted (r.setting w) (r.subject t w) w.store d)
      (hreply : verdict t.reply.result = .ok code) :
      Ticks r t w (⟨.ok code, some d.report, request⟩, { r with ledger := r.ledger.commit d.staged },
        { w with store := r.posted w.now t.elapsed d (r.survey t w).walk.store })

theorem result_send (content : List UInt8) (reply : Reply) (s : Store) (elapsed : Span) :
    (r.transport.send r.stats w.now content reply s elapsed).result = reply.result := by
  cases reply <;> rfl

/-- What sending a draft leaves in the store, whatever the reply. -/
theorem store_send (d : Draft) (reply : Reply) (s : Store) (elapsed : Span) :
    (r.transport.send r.stats w.now d.report.encode reply
      (s.setGauge r.stats.reportCount (.size d.metricCount)) elapsed).store =
      r.posted w.now elapsed d s := by
  cases reply <;> rfl

/-- The draft that a tick begins with, or what stood in its way, and the store afterwards. -/
def drafting (r : Reporter) (t : Tick) (w : World) : Except DraftError Draft × Store :=
  r.presentation.draft (r.setting w) t.timestamp t.status t.alerts (r.subject t w) w.store

/-- Without a draft a tick is a failed report and nothing else. -/
theorem tick_of_error {cause : DraftError} {s : Store} (h : r.drafting t w = (.error cause, s)) :
    r.tick t w =
      (⟨.error (.draft cause), none, none⟩, r, { w with store := r.fail w.now s }) := by
  have hdraft : r.presentation.draft (r.setting w) t.timestamp t.status t.alerts
    (t.catalogue.getD (r.catalogue w)) w.store = (.error cause, s) := h
  simp only [tick, hdraft]

/-- With a draft a tick is a delivery. -/
theorem tick_of_ok {d : Draft} {s : Store} (h : r.drafting t w = (.ok d, s)) :
    r.tick t w = r.deliver t.reply t.elapsed d { w with store := s } := by
  have hdraft : r.presentation.draft (r.setting w) t.timestamp t.status t.alerts
    (t.catalogue.getD (r.catalogue w)) w.store = (.ok d, s) := h
  simp only [tick, hdraft]

/-- No reply makes a failed draft of a delivery. -/
theorem verdict_ne_draft (x : Except TransportError Nat) (cause : DraftError) :
    verdict x ≠ .error (.draft cause) := by
  unfold verdict
  split
  · simp
  · split <;> simp

/-- How a tick ends, by the report that it made, if it made one, and what the collector does. -/
def concluded (reply : Reply) :
    Except DraftError Report → Except ReportError Nat × Option Report
  | .error cause => (.error (.draft cause), none)
  | .ok report => (verdict reply.result, some report)

/-- **How a tick ends depends on the draft and the reply.** -/
theorem outcome_tick :
    ((r.tick t w).1.result, (r.tick t w).1.report) =
      concluded t.reply ((r.drafting t w).1.map (·.report)) := by
  rcases hdraft : r.drafting t w with ⟨result, s⟩
  cases result with
  | error cause =>
    rw [r.tick_of_error t w hdraft]
    rfl
  | ok d =>
    rw [r.tick_of_ok t w hdraft, deliver]
    dsimp only
    rw [result_send]
    show _ = (verdict t.reply.result, some d.report)
    cases verdict t.reply.result <;> rfl

/-- **A tick does one of the three.** -/
theorem tick_spec : r.Ticks t w (r.tick t w) := by
  rcases r.presentation.draft_cases (r.setting w) (r.subject t w) w.store t.timestamp t.status
    t.alerts with ⟨cause, hstopped, hdraft⟩ | ⟨d, hstopped, hdraft, hd⟩
  · rw [r.tick_of_error t w hdraft]
    exact .stopped hstopped
  · rw [r.tick_of_ok t w hdraft, deliver]
    dsimp only
    rw [result_send, store_send]
    rcases hverdict : verdict t.reply.result with cause | code
    · have htaken : d.restore = restoreAll (r.survey t w).taken := congrArg restoreAll hd.taken
      dsimp only
      rw [htaken]
      exact .refused hstopped hd hverdict
    · exact .delivered hstopped hd hverdict

/-! ### What a tick does to sources -/

/-- The values that a sending feeds to a source: the size of the body and the time it took. -/
def feeds (r : Reporter) (elapsed : Span) (report : Report) (x : Source) : List UInt64 :=
  (if x = .histogram r.stats.reportSize then
    [(r.transport.request report.encode).contentLength.toUInt64] else []) ++
  if x = .timer r.stats.reports then [elapsed.word] else []

/-- The values that a tick feeds to a source, by what became of it. -/
def fed (r : Reporter) (elapsed : Span) (o : Outcome) (x : Source) : List UInt64 :=
  (o.report.map fun report ↦ r.feeds elapsed report x).getD []

/-- **Sending feeds two sources of the reporter and no others**: the body to the sizes, and the time
that it took to the timer. -/
theorem held_posted (now elapsed : Span) (d : Draft) (s : Store) (x : Source) :
    x.held (r.posted now elapsed d s) =
      (r.feeds elapsed d.report x).foldl Histogram.update (x.held s) := by
  simp only [posted, feeds, Source.held_setTimer, Source.held_setHistogram]
  cases x with
  | histogram id =>
    have hne : Source.histogram id ≠ .timer r.stats.reports := by simp
    rw [if_neg hne, if_neg hne, List.append_nil]
    split
    · next h =>
      rw [h]
      rfl
    · rfl
  | timer id =>
    have hne : Source.timer id ≠ .histogram r.stats.reportSize := by simp
    rw [if_neg hne, if_neg hne, List.nil_append]
    split
    · next h =>
      rw [h]
      rfl
    · rfl

@[simp] theorem held_fail (now : Span) (s : Store) (x : Source) :
    x.held (r.fail now s) = x.held s :=
  x.held_setMeter s _ _

/-- The walks of a tick take readings of a source and leave its count. -/
theorem held_survey (x : Source) :
    x.held (r.survey t w).walk.store =
      ⟨(x.held w.store).count, (x.held (r.survey t w).walk.store).reservoir⟩ :=
  r.presentation.held_survey (r.setting w) (r.subject t w) w.store x

/-- What the walks took of a source are readings of its reservoir, one after the other. -/
theorem survey_reads (x : Source) :
    (x.held w.store).reservoir.Reads (x.readings (r.survey t w).taken)
      (x.held (r.survey t w).walk.store).reservoir :=
  r.presentation.survey_reads (r.setting w) (r.subject t w) w.store x

end Reporter

/-! ### What follows of all three -/

namespace Reporter.Ticks

variable {r : Reporter} {t : Tick} {w : World} {result : Outcome × Reporter × World}

/-- A tick changes the ledger of the reporter at most. -/
theorem reporter (h : r.Ticks t w result) : ∃ ledger, result.2.1 = { r with ledger } := by
  cases h with
  | stopped => exact ⟨_, rfl⟩
  | refused => exact ⟨_, rfl⟩
  | delivered => exact ⟨_, rfl⟩

/-- A tick changes nothing of the world but the metrics. -/
theorem world (h : r.Ticks t w result) : ∃ store, result.2.2 = { w with store } := by
  cases h with
  | stopped => exact ⟨_, rfl⟩
  | refused => exact ⟨_, rfl⟩
  | delivered => exact ⟨_, rfl⟩

/-- A report was put together from a draft. -/
theorem drafted (h : r.Ticks t w result) {report : Report} (hreport : result.1.report = some report) :
    ∃ d, d.report = report ∧ r.presentation.Drafted (r.setting w) (r.subject t w) w.store d := by
  cases h with
  | stopped => simp at hreport
  | @refused d _ _ _ hd _ => exact ⟨d, Option.some.inj hreport, hd⟩
  | @delivered d _ _ _ hd _ => exact ⟨d, Option.some.inj hreport, hd⟩

/-- **A failed tick leaves the reporter as it was and gives back what it took.** -/
theorem of_failed (h : r.Ticks t w result) {cause : ReportError}
    (hfail : result.1.result = .error cause) :
    result.2.1 = r ∧ ∀ x : Source, ∃ rs ρ, (x.held w.store).reservoir.Reads rs ρ ∧
      x.held result.2.2.store = rs.foldl Histogram.restore
        ((r.fed t.elapsed result.1 x).foldl Histogram.update ⟨(x.held w.store).count, ρ⟩) := by
  cases h with
  | stopped =>
    refine ⟨rfl, fun x ↦ ⟨_, _, r.survey_reads t w x, ?_⟩⟩
    rw [← r.held_survey t w x]
    exact (r.held_fail _ _ x).trans (x.held_restoreAll _ _)
  | refused =>
    refine ⟨rfl, fun x ↦ ⟨_, _, r.survey_reads t w x, ?_⟩⟩
    -- the sending came before the readings were given back
    rw [← r.held_survey t w x]
    refine (r.held_fail _ _ x).trans ((x.held_restoreAll _ _).trans ?_)
    exact congrArg (fun h ↦ List.foldl Histogram.restore h _) (r.held_posted _ _ _ _ x)
  | delivered => simp at hfail

/-- **A tick whose report was acknowledged** has entered its counts and keeps what it took. -/
theorem of_delivered (h : r.Ticks t w result) {code : Nat} (hok : result.1.result = .ok code) :
    ∃ d, result.1.report = some d.report ∧
      r.presentation.Drafted (r.setting w) (r.subject t w) w.store d ∧
      result.2.1 = { r with ledger := r.ledger.commit d.staged } ∧
      ∀ x : Source, ∃ ρ, (x.held w.store).reservoir.Reads (x.readings d.taken) ρ ∧
        x.held result.2.2.store =
          (r.fed t.elapsed result.1 x).foldl Histogram.update ⟨(x.held w.store).count, ρ⟩ := by
  cases h with
  | stopped => simp at hok
  | refused => simp at hok
  | @delivered d code request hstopped hd hreply =>
    refine ⟨d, rfl, hd, rfl, fun x ↦ ⟨_, hd.taken ▸ r.survey_reads t w x, ?_⟩⟩
    rw [← r.held_survey t w x]
    exact r.held_posted _ _ _ _ x

end Reporter.Ticks

end Telemetry
