import Mathlib
import Telemetry.Proofs.Draft.Alike
import Telemetry.Proofs.Run.Step

/-!
# Failed ticks can be made up for

A tick that fails has read reservoirs and let meters catch up, and has written to the metrics of the
reporter. It gives back what it took. So afterwards the store is not what it was, but as long as the
clock stands still nothing that is shown tells the two apart, the metrics of the reporter aside
(`alike_of_failed`). Neither does any number of failed ticks in a row (`alike_of_fails`).

A tick that follows them, and is not about the metrics of the reporter, then ends as it would have
without them: with the same error, or with the same report, ceilings aside.
-/

namespace Telemetry

/-- How a tick ended and the report that it made, ceilings aside. -/
def Outcome.shown (o : Outcome) : Except ReportError Nat × Option Report :=
  (o.result, o.report.map Report.trimmed)

/-- What is shown of a tick depends on the draft and the reply. -/
theorem Reporter.shown_tick (r : Reporter) (t : Tick) (w : World) :
    (r.tick t w).1.shown =
      concluded t.reply (((r.drafting t w).1.map (·.report)).map Report.trimmed) := by
  have htick := congrArg (Prod.map id (Option.map Report.trimmed)) (r.outcome_tick t w)
  refine htick.trans ?_
  cases (r.drafting t w).1 <;> rfl

/-- The ceilings are no counts. -/
@[simp] theorem Report.counts_trimmed (r : Report) : r.trimmed.counts = r.counts := by
  simp only [counts, sourceRecords, trimmed, List.map_append, List.map_map]
  rfl

/-- The event is a tick that fails. -/
def Event.Fails (s : System) : Event → Prop
  | tick t => ∃ cause, (s.outcome t).result = .error cause
  | _ => False

namespace System

variable {s s' : System} {t : Tick} {events : List Event}

/-- One system shows what the other one shows as long as the clock stands still, the metrics of the
reporter aside. -/
structure Alike (s s' : System) : Prop where
  reporter : s'.reporter = s.reporter
  world : ∃ st, s'.world = { s.world with store := st } ∧
    s.world.store.Alike s.reporter.stats.Owns s.world.now st

theorem Alike.refl (s : System) : s.Alike s :=
  ⟨rfl, s.world.store, rfl, .refl _⟩

theorem Alike.trans {s'' : System} (h₁ : s.Alike s') (h₂ : s'.Alike s'') : s.Alike s'' := by
  obtain ⟨st, hworld, halike⟩ := h₁.world
  obtain ⟨st', hworld', halike'⟩ := h₂.world
  rw [h₁.reporter, hworld] at halike'
  refine ⟨h₂.reporter.trans h₁.reporter, st', ?_, halike.trans halike'⟩
  rw [hworld', hworld]

/-- The reporter feeds only its own metrics. -/
theorem feeds_tick_of_not_owns {x : Source} (hx : ¬s.reporter.stats.Owns x.handle) :
    s.feeds x (.tick t) = [] := by
  obtain ⟨hreports, -, hsize, -, -⟩ := (Stats.forall_owns (t := s.reporter.stats)).1 fun _ ↦ id
  have hnone : ∀ report, s.reporter.feeds t.elapsed report x = [] := by
    intro report
    rw [Reporter.feeds, if_neg, if_neg]
    · rfl
    · rintro rfl
      exact hx hreports
    · rintro rfl
      exact hx hsize
  rw [feeds, Reporter.fed]
  cases (s.outcome t).report with
  | none => rfl
  | some report => exact hnone report

/-- **A failed tick leaves nothing to be seen.** -/
theorem alike_of_failed (hs : s.world.store.Sound) {cause : ReportError}
    (h : (s.outcome t).result = .error cause) : s.Alike (s.step (.tick t)) := by
  obtain ⟨st, hworld⟩ := world_tick s t
  refine ⟨(failedTick h).reporter, st, hworld, ?_, fun x hx ↦ ?_⟩
  · have hkept := (s.reporter.tick_spec t s.world).kept (P := s.reporter.stats.Owns) fun _ ↦ id
    have hst : (s.reporter.tick t s.world).2.2.store = st := congrArg World.store hworld
    rwa [hst] at hkept
  · obtain ⟨rs, ρ, hreads, hheld⟩ := (failedTick h).held x
    rw [feeds_tick_of_not_owns hx, List.foldl_nil, Histogram.foldl_restore, hworld] at hheld
    rw [show x.held st = _ from hheld]
    exact hreads.restore_alike (hs x)

/-- Any number of ticks that fail leave the system alike. -/
theorem alike_of_fails (hs : s.world.store.Sound) (hfail : s.Along Event.Fails events) :
    s.Alike (s.run events) := by
  induction events generalizing s with
  | nil => exact .refl s
  | cons e events ih =>
    obtain ⟨he, hrest⟩ := along_cons.1 hfail
    cases e with
    | act a => exact he.elim
    | setFilter f => exact he.elim
    | tick t =>
      obtain ⟨cause, hcause⟩ := he
      exact (alike_of_failed hs hcause).trans (ih (hs.tick t) hrest)

theorem Alike.subject (h : s.Alike s') (t : Tick) :
    s'.reporter.subject t s'.world = s.reporter.subject t s.world := by
  obtain ⟨st, hworld, -⟩ := h.world
  rw [h.reporter, hworld]
  rfl

/-- **Ticks of systems that are alike end alike**, if they are not about the metrics of the
reporter. -/
theorem Alike.shown (h : s.Alike s')
    (ht : ∀ x ∈ (s.reporter.subject t s.world).handles, ¬s.reporter.stats.Owns x) :
    (s'.outcome t).shown = (s.outcome t).shown := by
  obtain ⟨st, hworld, halike⟩ := h.world
  obtain ⟨-, -, -, hskipped, -⟩ := (Stats.forall_owns (t := s.reporter.stats)).1 fun _ ↦ id
  have hdraft : ((s'.reporter.drafting t s'.world).1.map (·.report)).map Report.trimmed =
      ((s.reporter.drafting t s.world).1.map (·.report)).map Report.trimmed := by
    rw [Reporter.drafting, h.subject t, h.reporter, hworld]
    exact Presentation.draft_alike (e := s.reporter.setting s.world) halike hskipped ht _ _ _
  rw [outcome, outcome, Reporter.shown_tick, Reporter.shown_tick, hdraft]

/-- Ticks of the same outcome leave the reporters alike. -/
theorem reporter_of_shown (hreporter : s'.reporter = s.reporter)
    (h : (s'.outcome t).shown = (s.outcome t).shown) :
    (s'.step (.tick t)).reporter = (s.step (.tick t)).reporter := by
  obtain ⟨hresult, hreport⟩ := Prod.ext_iff.1 h
  have hsame : (s'.outcome t).result = (s.outcome t).result := hresult
  obtain ⟨cause, hend, htick⟩ | ⟨code, d, hend, htick⟩ := s.tick_cases t
  · rw [htick.reporter, (failedTick (hsame.trans hend)).reporter, hreporter]
  · obtain ⟨d', htick'⟩ := deliveredTick (hsame.trans hend)
    have htrimmed : d'.report.trimmed = d.report.trimmed := by
      simpa [Outcome.shown, htick.report, htick'.report] using hreport
    have hcounts : d'.report.counts = d.report.counts := by
      rw [← d'.report.counts_trimmed, htrimmed, d.report.counts_trimmed]
    have hledger : (s'.reporter.setting s'.world).ledger = (s.reporter.setting s.world).ledger :=
      congrArg Reporter.ledger hreporter
    rw [htick.reporter, htick'.reporter, hreporter, htick.drafted.staged, htick'.drafted.staged,
      hcounts, hledger]

/-- **Failed ticks can be made up for**: as long as the clock stands still, the reporter is as it
was, and a tick that is not about the metrics of the reporter ends as it would have without
them. -/
theorem retry_as_if_nothing_failed (hreachable : s.Reachable)
    (hfail : s.Along Event.Fails events) :
    (s.run events).reporter = s.reporter ∧
      ∀ t, (∀ x ∈ (s.reporter.subject t s.world).handles, ¬s.reporter.stats.Owns x) →
        ((s.run events).outcome t).shown = (s.outcome t).shown ∧
          ((s.run events).step (.tick t)).reporter = (s.step (.tick t)).reporter := by
  have halike := alike_of_fails hreachable.sound hfail
  refine ⟨halike.reporter, fun t ht ↦ ?_⟩
  have hshown := halike.shown ht
  exact ⟨hshown, reporter_of_shown halike.reporter hshown⟩

/-- A value that could not be delivered twice. -/
theorem retry_as_if_nothing_failed_small :
    let s := (small true).run [.act (.updateHistogram ⟨0⟩ 9)]
    ((s.run [.tick { reply := .refusal }, .tick { reply := .status 503 }]).outcome {}).shown =
      (s.outcome {}).shown := by
  intro s
  have hreachable : s.Reachable := (small_reachable true).run (by simp [Event.Legal, Action.Legal])
  have hfail : s.Along Event.Fails
      [.tick { reply := .refusal }, .tick { reply := .status 503 }] := by
    simp only [along_cons, along_nil, Event.Fails, and_true]
    exact ⟨⟨.transport .exchange, by decide⟩, .status 503, by decide⟩
  have hapart : ∀ x ∈ (s.reporter.subject {} s.world).handles, ¬s.reporter.stats.Owns x := by
    simp only [Stats.Owns]
    decide
  exact ((retry_as_if_nothing_failed hreachable hfail).2 {} hapart).1

end System

end Telemetry
