import Mathlib
import Telemetry.Proofs.Run.Delivery
import Telemetry.Proofs.Run.Retry

/-!
# Reporters that share metrics

The metrics that a reporter reports on may be reported on by others too: by other reporters, or by
whoever has drafts made and sends them in ways of their own (`Desk`). A cycle of such a `Neighbour`
is a draft, after which either its counts are entered into a ledger of the neighbour or its readings
are given back.

**A cycle drains the sources that it delivers.** Reading a reservoir starts its count since the last
reading afresh, for all who read it, so what a delivered report of a neighbour had is not in the
next report of anybody else. That is all that a cycle does to others (`World.Shared.drained`), and
only reports in snapshot mode show it. Apart from this a tick that comes after a cycle of a neighbour
does what it would have done without it (`Reporter.spared_of_cycle`).

Which sources these are can be told from the walks of the cycle (`Neighbour.Drains`) and from what
it delivers: they are those with records in the report, since names lead to one source of each kind
(`Neighbour.drains_iff`).
-/

namespace Telemetry

/-- Whoever has reports put together and sends them by other means. -/
structure Desk where
  presentation : Presentation
  ledger : Ledger
  /-- Where metrics left out are counted. -/
  skipped : MetricId Counter

namespace Desk

/-- What the drafts of a desk go by. -/
def setting (k : Desk) (w : World) : Presentation.Setting :=
  ⟨w.now, k.ledger, k.skipped⟩

/-- The metrics that a cycle is about. -/
def subject (t : Tick) (w : World) : Catalogue :=
  t.catalogue.getD w.registry.catalogue

/-- A report put together and sent: the report that was taken, or why there is none. Its counts are
entered into the ledger, or its readings given back. -/
def cycle (k : Desk) (t : Tick) (w : World) : Except ReportError Report × Desk × World :=
  match k.presentation.draft (k.setting w) t.timestamp t.status t.alerts (subject t w) w.store with
  | (.error cause, store) => (.error (.draft cause), k, { w with store })
  | (.ok d, store) =>
    match Reporter.verdict t.reply.result with
    | .ok _ => (.ok d.report, { k with ledger := k.ledger.commit d.staged }, { w with store })
    | .error cause => (.error cause, k, { w with store := d.restore store })

end Desk

/-- Somebody else who reports on the same metrics. -/
inductive Neighbour where
  | reporter (r : Reporter)
  | desk (k : Desk)

namespace Neighbour

variable (t : Tick) (w : World)

/-- The metrics that a neighbour counts in. -/
def Owns : Neighbour → Handle → Prop
  | reporter r => r.stats.Owns
  | desk k => (· = .counter k.skipped)

/-- The metrics that a cycle is about. -/
def subject : Neighbour → Catalogue
  | reporter r => r.subject t w
  | desk _ => Desk.subject t w

/-- The walks of a cycle. -/
def survey : Neighbour → Presentation.SourceWalk
  | reporter r => r.survey t w
  | desk k => k.presentation.survey (k.setting w) (Desk.subject t w) w.store

/-- The report that a cycle delivers, if it was taken. -/
def delivered : Neighbour → Option Report
  | reporter r => ((r.tick t w).1.result.toOption).bind fun _ ↦ (r.tick t w).1.report
  | desk k => (k.cycle t w).1.toOption

/-- The world after a cycle. -/
def after : Neighbour → World
  | reporter r => (r.tick t w).2.2
  | desk k => (k.cycle t w).2.2

/-- A cycle delivers what it read of a source. -/
def Drains (n : Neighbour) (x : Source) : Prop :=
  (n.delivered t w).isSome ∧ x.readings (n.survey t w).taken ≠ []

/-- The delivered report of a cycle has records of a source. -/
def Delivers (n : Neighbour) (x : Source) : Prop :=
  ∃ report, n.delivered t w = some report ∧ report.recordsOf (n.subject t w) x ≠ []

end Neighbour

/-- Whatever reporters and others do, and legal actions, lead to the world from an empty one. -/
inductive World.Shared : World → Prop where
  | empty : Shared {}
  | act {w : World} (h : Shared w) {a : Action} (ha : a.Legal) : Shared (a.run w)
  | create {settings : Settings} {w w' : World} {r : Reporter} (h : Shared w)
      (hr : Reporter.create settings w = .ok (r, w')) : Shared w'
  | cycle {w : World} (h : Shared w) (n : Neighbour) (t : Tick) : Shared (n.after t w)

/-! ### What a cycle does -/

variable {P : Handle → Prop} {w : World} {t : Tick} {n : Neighbour}

/-- What a cycle comes to. -/
structure Neighbour.Cycles (n : Neighbour) (t : Tick) (w : World) (st : Store) : Prop where
  /-- Nothing but metrics was changed. -/
  after : n.after t w = { w with store := st }
  /-- Reservoirs and the metrics of the neighbour aside, meters have caught up at most. -/
  kept : w.store.Kept n.Owns w.now st
  /-- What was taken was given back, unless it was delivered, behind what the neighbour fed to its
  own metrics. -/
  held : ∀ x : Source, ∃ rs ρ vs, (x.held w.store).reservoir.Reads rs ρ ∧
    (¬n.Owns x.handle → vs = []) ∧
    (n.delivered t w = none ∧
        (x.held st).reservoir = rs.foldl Reservoir.restore (vs.foldl Reservoir.update ρ) ∨
      (n.delivered t w).isSome ∧ rs = x.readings (n.survey t w).taken ∧
        (x.held st).reservoir = vs.foldl Reservoir.update ρ)
  /-- What was delivered is a report on what was taken. -/
  delivered : ∀ report, n.delivered t w = some report →
    ∃ (p : Presentation) (e : Presentation.Setting) (d : Draft), d.report = report ∧
      p.Drafted e (n.subject t w) w.store d ∧ d.taken = (n.survey t w).taken

/-- A cycle of a reporter is a tick. -/
theorem Neighbour.cycles_reporter (r : Reporter) (t : Tick) (w : World) :
    ∃ st, (Neighbour.reporter r).Cycles t w st := by
  let s : System := ⟨r, w⟩
  obtain ⟨st, hworld⟩ := world_tick s t
  have hstore : (s.step (.tick t)).world.store = st := congrArg World.store hworld
  have hkept : w.store.Kept (Neighbour.reporter r).Owns w.now st :=
    hstore ▸ (r.tick_spec t w).kept fun _ ↦ id
  have hdelivered : (Neighbour.reporter r).delivered t w =
      ((s.outcome t).result.toOption).bind fun _ ↦ (s.outcome t).report := rfl
  obtain ⟨cause, hresult, htick⟩ | ⟨code, d, hresult, htick⟩ := s.tick_cases t
  · have hnone : (Neighbour.reporter r).delivered t w = none := by
      rw [hdelivered, hresult]
      rfl
    refine ⟨st, hworld, hkept, fun x ↦ ?_, fun report hr ↦ by cases hnone.symm.trans hr⟩
    obtain ⟨rs, ρ, hreads, hheld⟩ := htick.held x
    rw [Histogram.foldl_restore, Histogram.foldl_update, hstore] at hheld
    exact ⟨rs, ρ, _, hreads, System.feeds_tick_of_not_owns (s := s) (t := t),
      .inl ⟨hnone, by rw [hheld]⟩⟩
  · have hsome : (Neighbour.reporter r).delivered t w = some d.report := by
      rw [hdelivered, hresult, htick.report]
      rfl
    refine ⟨st, hworld, hkept, fun x ↦ ?_, fun report hr ↦ ⟨_, _, d,
      Option.some.inj (hsome.symm.trans hr), htick.drafted, htick.drafted.taken⟩⟩
    obtain ⟨ρ, hreads, hheld⟩ := htick.held x
    rw [Histogram.foldl_update, hstore] at hheld
    exact ⟨_, ρ, _, hreads, System.feeds_tick_of_not_owns (s := s) (t := t),
      .inr ⟨by rw [hsome]; rfl, congrArg x.readings htick.drafted.taken, by rw [hheld]⟩⟩

/-- A cycle of a desk is its walks, after which everything is given back unless it is delivered. -/
theorem Neighbour.cycles_desk (k : Desk) (t : Tick) (w : World) :
    ∃ st, (Neighbour.desk k).Cycles t w st := by
  let v := (Neighbour.desk k).survey t w
  have hkept : w.store.Kept (Neighbour.desk k).Owns w.now v.walk.store :=
    k.presentation.survey_kept (k.setting w) _ w.store (P := (Neighbour.desk k).Owns) rfl
  have hreads : ∀ x : Source, (x.held w.store).reservoir.Reads (x.readings v.taken)
      (x.held v.walk.store).reservoir := k.presentation.survey_reads (k.setting w) _ w.store
  -- without a delivery the store is what giving back leaves
  have hback : (Neighbour.desk k).after t w = { w with store := restoreAll v.taken v.walk.store } →
      (Neighbour.desk k).delivered t w = none → ∃ st, (Neighbour.desk k).Cycles t w st := by
    refine fun hafter hnone ↦ ⟨_, hafter, hkept.trans (.restoreAll _ _), fun x ↦ ?_,
      fun report hr ↦ by cases hnone.symm.trans hr⟩
    refine ⟨_, _, [], hreads x, fun _ ↦ rfl, .inl ⟨hnone, ?_⟩⟩
    rw [Source.held_restoreAll, Histogram.foldl_restore]
    rfl
  obtain ⟨cause, -, hdraft⟩ | ⟨d, -, hdraft, hd⟩ :=
    k.presentation.draft_cases (k.setting w) (Desk.subject t w) w.store t.timestamp t.status
      t.alerts
  · have hcycle : k.cycle t w = (.error (.draft cause), k,
        { w with store := restoreAll v.taken v.walk.store }) := by
      simp only [Desk.cycle, hdraft]
      rfl
    exact hback (congrArg (·.2.2) hcycle) (by rw [delivered, hcycle]; rfl)
  rcases hverdict : Reporter.verdict t.reply.result with cause | code
  · have hcycle : k.cycle t w = (.error cause, k,
        { w with store := restoreAll v.taken v.walk.store }) := by
      simp only [Desk.cycle, hdraft, hverdict, Draft.restore, hd.taken]
      rfl
    exact hback (congrArg (·.2.2) hcycle) (by rw [delivered, hcycle]; rfl)
  · have hcycle : k.cycle t w = (.ok d.report, { k with ledger := k.ledger.commit d.staged },
        { w with store := v.walk.store }) := by
      simp only [Desk.cycle, hdraft, hverdict]
      rfl
    have hsome : (Neighbour.desk k).delivered t w = some d.report := by
      rw [delivered, hcycle]
      rfl
    refine ⟨_, congrArg (·.2.2) hcycle, hkept, fun x ↦ ?_, fun report hr ↦ ⟨_, _, d,
      Option.some.inj (hsome.symm.trans hr), hd, hd.taken⟩⟩
    exact ⟨_, _, [], hreads x, fun _ ↦ rfl, .inr ⟨by rw [hsome]; rfl, rfl, rfl⟩⟩

/-- **A cycle is a draft that was delivered or given back**, whoever the neighbour is. -/
theorem Neighbour.cycles (n : Neighbour) (t : Tick) (w : World) : ∃ st, n.Cycles t w st := by
  cases n with
  | reporter r => exact cycles_reporter r t w
  | desk k => exact cycles_desk k t w

/-- What a cycle drains it delivers. -/
theorem Neighbour.Drains.delivers {x : Source} (h : n.Drains t w x) : n.Delivers t w x := by
  obtain ⟨st, hcycle⟩ := n.cycles t w
  obtain ⟨report, hreport⟩ := Option.isSome_iff_exists.1 h.1
  obtain ⟨p, e, d, rfl, hd, htaken⟩ := hcycle.delivered report hreport
  exact ⟨_, hreport, Report.recordsOf_ne_nil hd (htaken ▸ h.2)⟩

/-- **A cycle drains what it delivers**, and nothing else, if names of each kind are distinct. -/
theorem Neighbour.drains_iff (hkeyed : (n.subject t w).Keyed) (x : Source) :
    n.Drains t w x ↔ n.Delivers t w x := by
  refine ⟨Drains.delivers, fun ⟨report, hreport, hne⟩ ↦ ⟨by rw [hreport]; rfl, fun hnil ↦ ?_⟩⟩
  obtain ⟨st, hcycle⟩ := n.cycles t w
  obtain ⟨p, e, d, rfl, hd, htaken⟩ := hcycle.delivered report hreport
  exact hne (Report.recordsOf_eq_nil hkeyed hd (htaken ▸ hnil))

/-- **All reservoirs of a shared world are sound.** -/
theorem World.Shared.sound (h : w.Shared) : w.store.Sound := by
  induction h with
  | empty =>
    intro x
    cases x <;> exact Reservoir.made_default.sound
  | act _ ha ih => exact ih.act ha
  | create _ hr ih =>
    obtain ⟨-, _, -, rfl, rfl⟩ := Reporter.create_eq_ok_iff.1 hr
    exact ih.create _
  | @cycle w _ n t ih =>
    obtain ⟨st, hcycle⟩ := n.cycles t w
    rw [hcycle.after]
    intro x
    obtain ⟨rs, ρ, vs, hreads, -, hheld⟩ := hcycle.held x
    obtain ⟨hρ, hrs⟩ := hreads.sound (ih x)
    rcases hheld with ⟨-, hheld⟩ | ⟨-, -, hheld⟩
    · rw [hheld]
      exact (hρ.foldl_update vs).foldl_restore hrs
    · rw [hheld]
      exact hρ.foldl_update vs

/-- **A cycle drains sources**, and nothing else of it is to be seen, the metrics of the neighbour
aside. -/
theorem World.Shared.drained (h : w.Shared) {st : Store} (hcycle : n.Cycles t w st)
    (hP : ∀ x, n.Owns x → P x) : w.store.Drained (n.Drains t w) P w.now st where
  kept := hcycle.kept.mono hP
  spared x hx hspared := by
    obtain ⟨rs, ρ, vs, hreads, hvs, hheld⟩ := hcycle.held x
    obtain rfl := hvs fun hown ↦ hx (hP _ hown)
    rcases hheld with ⟨-, hheld⟩ | ⟨hsome, rfl, hheld⟩
    · rw [hheld]
      exact hreads.restore_alike (h.sound x)
    · -- it was delivered, so nothing was read
      obtain ⟨-, rfl⟩ | ⟨hne, -⟩ := hreads.eq_or
      · rw [hheld]
        exact .refl _
      · exact absurd ⟨hsome, hne⟩ hspared
  drained x hx hdrains := by
    obtain ⟨rs, ρ, vs, hreads, hvs, hheld⟩ := hcycle.held x
    obtain rfl := hvs fun hown ↦ hx (hP _ hown)
    rcases hheld with ⟨hnone, -⟩ | ⟨-, rfl, hheld⟩
    · rw [Neighbour.Drains, hnone] at hdrains
      cases hdrains.1
    · obtain ⟨hnil, -⟩ | ⟨-, rfl⟩ := hreads.eq_or
      · exact absurd hnil hdrains.2
      · rw [hheld]
        exact .refl _

/-! ### The tick after a cycle -/

namespace Reporter

/-- A tick in one world does what it does in another one, but for sources that were drained. -/
structure Spared (r : Reporter) (t : Tick) (D : Source → Prop) (w w' : World) : Prop where
  /-- Where no source was drained, or draining does not show, all is the same, ceilings aside. -/
  shown : (∀ x, D x → r.presentation.mode ≠ .snapshot) →
    (r.tick t w').1.shown = (r.tick t w).1.shown
  /-- A report is the same, ceilings aside, but in snapshot mode the digests of sources that were
  drained are those of what is left. It ends the same. -/
  report : ∀ report ∈ (r.tick t w).1.report,
    (r.tick t w').1.result = (r.tick t w).1.result ∧
      ∃ report', (r.tick t w').1.report = some report' ∧
        report.Drained r.presentation D w.store (r.subject t w) report'
  /-- Digests aside, reports are the same: names, counts and rates. -/
  plain : ∀ report ∈ (r.tick t w).1.report, ∀ report' ∈ (r.tick t w').1.report,
    report'.plain = report.plain
  /-- A tick without a report has none for the same reason, unless that was a source that was
  drained. -/
  stopped : ∀ cause, (r.tick t w).1.result = .error (.draft cause) →
    (r.tick t w').1.result = .error (.draft cause) ∨ r.presentation.mode = .snapshot ∧
      ∃ y ∈ Presentation.sources (r.subject t w), D y.2 ∧ cause = .digest y.1 .countTooLarge

variable {r : Reporter}

section Drafts

variable {D : Source → Prop} {w' : World}
  (h : r.presentation.Drained D w.store (r.subject t w)
    ((r.drafting t w).1.map (·.report)) ((r.drafting t w').1.map (·.report)))

include h

/-- A tick with a report, if drafts are the same but for sources that were drained. -/
theorem report_of_drafts {report : Report} (hr : (r.tick t w).1.report = some report) :
    (r.tick t w').1.result = (r.tick t w).1.result ∧
      ∃ report', (r.tick t w').1.report = some report' ∧
        report.Drained r.presentation D w.store (r.subject t w) report' := by
  obtain ⟨hresult, hreport⟩ := Prod.ext_iff.1 (r.outcome_tick t w)
  obtain ⟨hresult', hreport'⟩ := Prod.ext_iff.1 (r.outcome_tick t w')
  dsimp only at hresult hreport hresult' hreport'
  generalize (r.drafting t w).1.map (·.report) = a at h hresult hreport
  generalize (r.drafting t w').1.map (·.report) = a' at h hresult' hreport'
  cases a with
  | error cause => cases hr.symm.trans hreport
  | ok report =>
    obtain rfl := Option.some.inj (hreport.symm.trans hr)
    obtain ⟨report', rfl, hdrained⟩ := h.report _ rfl
    exact ⟨hresult'.trans hresult.symm, report', hreport', hdrained⟩

/-- A tick without a report, if drafts are the same but for sources that were drained. -/
theorem stopped_of_drafts {cause : DraftError}
    (hcause : (r.tick t w).1.result = .error (.draft cause)) :
    (r.tick t w').1.result = .error (.draft cause) ∨ r.presentation.mode = .snapshot ∧
      ∃ y ∈ Presentation.sources (r.subject t w), D y.2 ∧ cause = .digest y.1 .countTooLarge := by
  have hresult := congrArg Prod.fst (r.outcome_tick t w)
  have hresult' := congrArg Prod.fst (r.outcome_tick t w')
  dsimp only at hresult hresult'
  generalize (r.drafting t w).1.map (·.report) = a at h hresult
  rw [hcause] at hresult
  cases a with
  | ok report => exact absurd hresult.symm (verdict_ne_draft t.reply.result cause)
  | error cause' =>
    obtain rfl : cause = cause' := by simpa [concluded] using hresult
    refine (h.error cause rfl).imp_left fun ha' ↦ ?_
    rw [hresult', ha']
    rfl

/-- **Ticks are the same but for sources that were drained** if their drafts are. -/
theorem spared_of_drafts : r.Spared t D w w' where
  shown hnone := by
    rw [r.shown_tick t w, r.shown_tick t w', h.trimmed_eq hnone]
  report _ hr := report_of_drafts h hr
  plain report hr report' hr' := by
    obtain ⟨-, report'', hr'', hdrained⟩ := report_of_drafts h hr
    obtain rfl := Option.some.inj (hr''.symm.trans hr')
    exact hdrained.plain_eq
  stopped _ hcause := stopped_of_drafts h hcause

end Drafts

/-- **Reporters that share metrics disturb each other in one way only.** A tick after a cycle of a
neighbour, which is not about metrics in which one of the two counts, does what it would have done
without the cycle, but for the sources that the cycle drained: of these, in snapshot mode, it shows
what is left. The delivered report has records of each of them, and, if names of each kind are
distinct in what the neighbour reports on, of no other source. -/
theorem spared_of_cycle (hw : w.Shared) (n : Neighbour) (t' : Tick)
    (hapart : ∀ x ∈ (r.subject t w).handles, ¬(r.stats.Owns x ∨ n.Owns x)) :
    r.Spared t (n.Drains t' w) w (n.after t' w) ∧
      (∀ x, n.Drains t' w x → n.Delivers t' w x) ∧
      ((n.subject t' w).Keyed → ∀ x, n.Delivers t' w x → n.Drains t' w x) := by
  obtain ⟨st, hcycle⟩ := n.cycles t' w
  obtain ⟨-, -, -, hskipped, -⟩ := (Stats.forall_owns (t := r.stats)).1 fun _ ↦ id
  refine ⟨?_, fun x ↦ Neighbour.Drains.delivers, fun hkeyed x ↦ (Neighbour.drains_iff hkeyed x).2⟩
  rw [hcycle.after]
  exact spared_of_drafts (Presentation.draft_drained (e := r.setting w)
    (hw.drained hcycle fun _ ↦ .inr) (.inl hskipped) hapart _ _ _)

end Reporter

/-! ### A desk beside a reporter -/

namespace System

/-- A reporter that leaves nothing out, a histogram with a value, and one more counter, which no
name leads to. -/
def shared : System :=
  (small false).run [.act (.updateHistogram ⟨0⟩ 9), .act (.make .counter)]

/-- A desk that counts what it leaves out in that counter. -/
def desk : Neighbour :=
  .desk ⟨{}, .new false, ⟨2⟩⟩

theorem world_shared : shared.world.Shared :=
  have hcounter : ((Action.get .counter "c").run {}).Shared :=
    World.Shared.empty.act (a := .get .counter "c") trivial
  have hsmall : (small false).world.Shared :=
    .create (hcounter.act (a := .get .histogram "h") trivial) (create_small false)
  (hsmall.act (a := .updateHistogram ⟨0⟩ 9) trivial).act (a := .make .counter) trivial

theorem shared_apart : ∀ x ∈ (shared.reporter.subject {} shared.world).handles,
    ¬(shared.reporter.stats.Owns x ∨ desk.Owns x) := by
  simp only [Stats.Owns, desk, Neighbour.Owns]
  decide

end System

/-- A desk that delivers nothing is not noticed. -/
theorem Reporter.spared_of_cycle_refused :
    (System.shared.reporter.tick {}
        (System.desk.after { reply := .refusal } System.shared.world)).1.shown =
      (System.shared.reporter.tick {} System.shared.world).1.shown := by
  refine (Reporter.spared_of_cycle System.world_shared System.desk { reply := .refusal }
    System.shared_apart).1.shown fun x ⟨hdelivered, _⟩ ↦ ?_
  cases hdelivered

/-- **A desk that delivers takes the value away**: the report that comes after it has nothing in the
bin. -/
theorem Reporter.not_spared_by_desk :
    let r := System.shared.reporter
    let w := System.shared.world
    let binned (w : World) : Option Nat :=
      (r.tick {} w).1.report.map fun report ↦ report.binCount (r.subject {} w) (.histogram ⟨0⟩) 9
    w.Shared ∧ (∀ x ∈ (r.subject {} w).handles, ¬(r.stats.Owns x ∨ System.desk.Owns x)) ∧
      binned w = some 1 ∧ binned (System.desk.after {} w) = some 0 :=
  ⟨System.world_shared, System.shared_apart, by decide +kernel⟩

end Telemetry
