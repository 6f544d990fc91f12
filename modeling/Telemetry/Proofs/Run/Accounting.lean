import Mathlib
import Telemetry.Proofs.Draft.Met
import Telemetry.Proofs.Run.View

/-!
# A reporter's accounts of itself

A reporter writes to its own metrics at different times of a tick: metrics left out are counted
while it goes through the catalogue, the number of metrics seen is noted when the draft was made,
size and duration when it is sent, and a failure at the very end. In between it may read these
metrics and give their readings back, for they can be among those that it reports on.

`Stats.tally` is what the metrics say. **A tick adds to it what became of the tick**
(`Stats.tally_tick`), and if nobody else writes to the metrics nothing else does
(`Stats.tally_act`). So after any run they tell how the ticks of the run ended
(`System.accounts_run`).
-/

namespace Telemetry

/-- What the metrics of a reporter say: how many reports were sent, by the durations and by the
meter of their timer, how many ticks failed, how many sizes were recorded, how many metrics were
left out and how many the last report was about. -/
@[ext]
structure Tally where
  reports : UInt64 := 0
  marks : UInt64 := 0
  failed : UInt64 := 0
  sizes : UInt64 := 0
  skipped : UInt64 := 0
  lastCount : Nat := 0

namespace Stats

/-- What the metrics of a reporter say. -/
def tally (t : Stats) (s : Store) : Tally where
  reports := (s.timer t.reports).count
  marks := (s.timer t.reports).meter.count
  failed := (s.meter t.failedReports).count
  sizes := (s.histogram t.reportSize).count
  skipped := (s.counter t.skippedUnchanged).count
  lastCount := t.lastCount s

variable (t : Stats) {s s' : Store} {P : Handle → Prop} {now : Span}

/-! ### What leaves the accounts alone -/

/-- The tally depends on the metrics of the reporter only. -/
theorem tally_of_cells (h : ∀ x, t.Owns x → s'.cell x = s.cell x) : t.tally s' = t.tally s := by
  obtain ⟨hreports, hfailed, hsize, hskipped, hcount⟩ := Stats.forall_owns.1 h
  have hreports := (Cell.timer.inj hreports).2
  have hfailed := (Cell.meter.inj hfailed).2
  have hsize := (Cell.histogram.inj hsize).2
  have hskipped := (Cell.counter.inj hskipped).2
  have hcount := (Cell.gauge.inj hcount).2
  rw [tally, tally, lastCount, lastCount, hreports, hfailed, hsize, hskipped, hcount]

theorem tally_put {c : Cell} (h : ¬ t.Owns c.handle) : t.tally (s.put c) = t.tally s := by
  refine t.tally_of_cells fun x hx ↦ ?_
  have hne : x ≠ c.handle := by
    rintro rfl
    exact h hx
  rw [Store.cell_put, if_neg hne]

/-- Where a store keeps all but the counter of metrics left out, it is the only account that may
change. -/
theorem tally_of_kept (h : s.Kept P now s') (hP : ∀ x, P x → x = .counter t.skippedUnchanged) :
    t.tally s' = { t.tally s with skipped := (s'.counter t.skippedUnchanged).count } := by
  have hnot {x : Handle} (hx : x ≠ .counter t.skippedUnchanged) : ¬P x := fun hPx ↦ hx (hP x hPx)
  have hmeter := congrArg Meter.count (h.timer t.reports (hnot nofun))
  rw [Meter.count_catchUp, Meter.count_catchUp] at hmeter
  ext1
  · exact h.count (.timer t.reports) (hnot nofun)
  · exact hmeter
  · exact h.meter_count (hnot nofun)
  · exact h.count (.histogram t.reportSize) (hnot nofun)
  · rfl
  · show t.lastCount s' = t.lastCount s
    rw [lastCount, lastCount, h.gauge t.reportCount (hnot nofun)]

theorem tally_of_kept_all (h : s.Kept (fun _ ↦ False) now s') : t.tally s' = t.tally s := by
  rw [t.tally_of_kept h nofun, h.counter t.skippedUnchanged not_false]
  rfl

/-! ### What a tick enters -/

theorem tally_fail (r : Reporter) (now : Span) (s : Store) :
    r.stats.tally (r.fail now s) =
      { r.stats.tally s with failed := (r.stats.tally s).failed + 1 } := by
  rw [tally, Reporter.fail, Store.meter_setMeter, if_pos rfl, Meter.count_mark]
  rfl

/-- **Sending is counted in three metrics**, and the number of metrics seen is noted in a fourth. -/
theorem tally_posted (r : Reporter) (now elapsed : Span) (d : Draft) (s : Store) :
    r.stats.tally (r.posted now elapsed d s) =
      { r.stats.tally s with
        reports := (r.stats.tally s).reports + 1
        marks := (r.stats.tally s).marks + 1
        sizes := (r.stats.tally s).sizes + 1
        lastCount := d.metricCount } := by
  ext1
  · exact congrArg Timer.count ((Store.timer_setTimer ..).trans (if_pos rfl))
  · refine (congrArg (Meter.count ∘ Timer.meter)
      ((Store.timer_setTimer ..).trans (if_pos rfl))).trans ?_
    exact Meter.count_mark ..
  · rfl
  · exact congrArg Histogram.count ((Store.histogram_setHistogram ..).trans (if_pos rfl))
  · rfl
  · have hgauge : (r.posted now elapsed d s).gauge r.stats.reportCount = .size d.metricCount :=
      (Store.gauge_setGauge ..).trans (if_pos rfl)
    show Stats.lastCount _ _ = _
    rw [lastCount, hgauge]

end Stats

/-- The counts that the walks of a tick meet. -/
def Reporter.met (r : Reporter) (t : Tick) (w : World) : List (String × UInt64) :=
  r.presentation.met (r.setting w) (r.subject t w) w.store

/-- The number of metrics that a tick leaves out. -/
def Reporter.skips (r : Reporter) (t : Tick) (w : World) : Nat :=
  (r.met t w).countP (r.setting w).same

namespace Stats

/-- **The walks of a tick count what they leave out**, and nothing else. -/
theorem tally_survey (r : Reporter) (t : Tick) (w : World) :
    r.stats.tally (r.survey t w).walk.store =
      { r.stats.tally w.store with
        skipped := (r.stats.tally w.store).skipped + .ofNat (r.skips t w) } := by
  have hkept : w.store.Kept (· = .counter r.stats.skippedUnchanged) w.now
      (r.survey t w).walk.store :=
    r.presentation.survey_kept (r.setting w) (r.subject t w) w.store rfl
  have hskips : ((r.survey t w).walk.store.counter r.stats.skippedUnchanged).count =
      (r.stats.tally w.store).skipped + .ofNat (r.skips t w) :=
    r.presentation.skips_survey (r.setting w) w.store (r.subject t w)
  rw [r.stats.tally_of_kept hkept fun _ ↦ id, hskips]

end Stats

/-- The accounts after a tick about a number of metrics that left some out. -/
def Tally.enter (a : Tally) (o : Outcome) (seen skips : Nat) : Tally where
  reports := if o.report.isSome then a.reports + 1 else a.reports
  marks := if o.report.isSome then a.marks + 1 else a.marks
  failed := if o.result.isOk then a.failed else a.failed + 1
  sizes := if o.report.isSome then a.sizes + 1 else a.sizes
  skipped := a.skipped + .ofNat skips
  lastCount := if o.report.isSome then seen else a.lastCount

namespace Stats

/-- **A tick enters what became of it.** -/
theorem tally_ticks {r : Reporter} {t : Tick} {w : World} {result : Outcome × Reporter × World}
    (h : r.Ticks t w result) :
    r.stats.tally result.2.2.store =
      (r.stats.tally w.store).enter result.1 (r.subject t w).len (r.skips t w) := by
  have hback (taken) (s : Store) : r.stats.tally (restoreAll taken s) = r.stats.tally s :=
    have hkept : s.Kept (fun _ ↦ False) w.now (restoreAll taken s) := .restoreAll taken s
    r.stats.tally_of_kept_all hkept
  cases h with
  | stopped =>
    dsimp only
    rw [tally_fail, hback, tally_survey]
    rfl
  | refused hstopped hd hreply =>
    dsimp only
    rw [tally_fail, hback, tally_posted, tally_survey, hd.metricCount]
    rfl
  | delivered hstopped hd hreply =>
    dsimp only
    rw [tally_posted, tally_survey, hd.metricCount]
    rfl

end Stats

/-! ### What a program does meanwhile -/

/-- The metric that an action writes to. What it does to a reservoir alone is not written. -/
def Action.written : Action → Option Handle
  | setGauge id _ => some (.gauge id)
  | updateCounter id _ => some (.counter id)
  | mark id _ => some (.meter id)
  | updateHistogram id _ => some (.histogram id)
  | updateTimer id _ => some (.timer id)
  | _ => none

theorem Store.Kept.recorded {P : Handle → Prop} {now : Span} (x : Source) (s : Store) (v : UInt64) :
    s.Kept P now (x.record s v) := by
  cases x with
  | histogram id => exact setHistogram s fun _ ↦ rfl
  | timer id => exact setTimer s fun _ ↦ ⟨rfl, rfl⟩

namespace Stats

variable {t : Stats} {w : World} {a : Action}

/-- **Nothing else enters anything**, unless it writes to the metrics of the reporter. -/
theorem tally_act (hin : ∀ h, t.Owns h → h.In w.store) (ha : ∀ h ∈ a.written, ¬ t.Owns h) :
    t.tally (a.run w).store = t.tally w.store := by
  have hfresh (b : Blueprint) : t.tally (w.store.put (w.fresh b)) = t.tally w.store :=
    t.tally_put fun howns ↦ w.handle_fresh_ne b (hin _ howns) rfl
  have hwrite (c : Cell) (hc : a.written = some c.handle) :
      t.tally (w.store.put c) = t.tally w.store := t.tally_put (ha _ hc)
  have hkept {s : Store} (h : w.store.Kept (fun _ ↦ False) w.now s) : t.tally s = t.tally w.store :=
    t.tally_of_kept_all h
  match a with
  | .advance _ | .setTimeOfDay _ | .registerSet _ _ | .remove _ => rfl
  | .make b => exact hfresh b
  | .register name h => exact congrArg t.tally (Action.store_register w name h)
  | .get k name =>
    rcases Action.run_get w k name with h | ⟨b, -, h⟩
    · rw [h w.store]
    · rw [h w.store]
      exact hfresh b
  | .setGauge id g => exact hwrite (.gauge id g) rfl
  | .updateCounter id f => exact hwrite (.counter id _) rfl
  | .mark id n => exact hwrite (.meter id _) rfl
  | .updateHistogram id v => exact hwrite (.histogram id _) rfl
  | .updateTimer id d => exact hwrite (.timer id _) rfl
  | .record x v => exact hkept (.recorded x w.store v)
  | .take x => exact hkept (.read x w.store)
  | .give x r => exact hkept (.restore x w.store r)

end Stats

/-- The event writes to no metric of the reporter, a tick apart. -/
def Event.SparesStats (t : Stats) : Event → Prop
  | act a => ∀ h ∈ a.written, ¬ t.Owns h
  | _ => True

namespace System

/-! ### Runs -/

/-- The tick that an event is, and the system that it finds. -/
def tickOf (s : System) : Event → List (System × Tick)
  | .tick t => [(s, t)]
  | .act _ | .setFilter _ => []

/-- The ticks of a run, each with the system that it finds. -/
def ticks (s : System) (events : List Event) : List (System × Tick) :=
  s.collect tickOf events

/-- Whether the report of a tick was put together. -/
def built (x : System × Tick) : Bool :=
  (x.1.outcome x.2).report.isSome

/-- Whether a tick failed. -/
def failed (x : System × Tick) : Bool :=
  !(x.1.outcome x.2).result.isOk

/-- The number of metrics that a tick is about. -/
def extent (x : System × Tick) : Nat :=
  (x.1.reporter.subject x.2 x.1.world).len

/-- The number of metrics that a tick leaves out. -/
def skips (x : System × Tick) : Nat :=
  x.1.reporter.skips x.2 x.1.world

end System

/-- What the accounts should be after some ticks. -/
def Tally.ofTicks (ticks : List (System × Tick)) : Tally where
  reports := .ofNat (ticks.countP System.built)
  marks := .ofNat (ticks.countP System.built)
  failed := .ofNat (ticks.countP System.failed)
  sizes := .ofNat (ticks.countP System.built)
  skipped := .ofNat (ticks.map System.skips).sum
  lastCount := ((ticks.filter System.built).getLast?.map System.extent).getD 0

/-- One tick more is entered behind the others. -/
theorem Tally.ofTicks_concat (ticks : List (System × Tick)) (x : System × Tick) :
    ofTicks (ticks ++ [x]) =
      (ofTicks ticks).enter (x.1.outcome x.2) (System.extent x) (System.skips x) := by
  have hcount (p : System × Tick → Bool) : UInt64.ofNat ((ticks ++ [x]).countP p) =
      if p x then .ofNat (ticks.countP p) + 1 else .ofNat (ticks.countP p) := by
    rw [List.countP_append, List.countP_singleton]
    split
    · exact UInt64.ofNat_add _ _
    · rfl
  ext1
  · exact hcount System.built
  · exact hcount System.built
  · refine (hcount System.failed).trans ?_
    cases h : (x.1.outcome x.2).result.isOk <;> simp [System.failed, h, enter, ofTicks]
  · exact hcount System.built
  · simp [ofTicks, enter, UInt64.ofNat_add]
  · show Option.getD _ 0 = if System.built x then _ else _
    cases h : System.built x <;> simp [List.filter_append, h, ofTicks]

namespace System

variable {s : System} {events : List Event} {e : Event}

/-- A reporter keeps its metrics. -/
theorem stats_step (s : System) (e : Event) : (s.step e).reporter.stats = s.reporter.stats := by
  cases e with
  | act a => rfl
  | tick t =>
    obtain ⟨ledger, h⟩ := reporter_tick s t
    rw [h]
  | setFilter f => rfl

theorem stats_run (s : System) (events : List Event) :
    (s.run events).reporter.stats = s.reporter.stats := by
  induction events generalizing s with
  | nil => rfl
  | cons e events ih => exact (ih (s.step e)).trans (stats_step s e)

theorem ticks_concat (s : System) (events : List Event) (e : Event) :
    s.ticks (events ++ [e]) = s.ticks events ++ tickOf (s.run events) e :=
  s.collect_concat tickOf events e

/-- **After any run the accounts tell how its ticks ended.** -/
theorem tally_run (hin : ∀ h, s.reporter.stats.Owns h → h.In s.world.store)
    (hzero : s.reporter.stats.tally s.world.store = {})
    (hspares : ∀ e ∈ events, e.SparesStats s.reporter.stats) :
    s.reporter.stats.tally (s.run events).world.store = .ofTicks (s.ticks events) := by
  induction events using List.reverseRecOn with
  | nil => exact hzero
  | append_singleton events e ih =>
    obtain ⟨hbefore, he⟩ := List.forall_mem_append.1 hspares
    have ih := ih hbefore
    have he := he e (List.mem_singleton_self e)
    rw [run_concat, ticks_concat]
    cases e with
    | act a =>
      rw [tickOf, List.append_nil, ← ih]
      exact Stats.tally_act (fun h hh ↦ isIn_run (hin h hh) events) he
    | setFilter f =>
      rw [tickOf, List.append_nil]
      exact ih
    | tick t =>
      have htick := Stats.tally_ticks ((s.run events).reporter.tick_spec t (s.run events).world)
      rw [stats_run, ih] at htick
      rw [tickOf, Tally.ofTicks_concat]
      exact htick

/-! ### One tick -/

/-- The counts that the walks of a tick meet. -/
def met (s : System) (t : Tick) : List (String × UInt64) :=
  s.reporter.met t s.world

/-- The number of metrics left out, as the reporter counts them. -/
def skipped (s : System) : UInt64 :=
  (s.world.store.counter s.reporter.stats.skippedUnchanged).count

/-- What a tick counts and sends. -/
structure TickAccount (s : System) (t : Tick) : Prop where
  /-- Each metric met whose count is the one that the ledger has is left out and counted. -/
  skipped : (s.step (.tick t)).skipped = s.skipped +
    .ofNat ((s.met t).countP fun v ↦ s.reporter.ledger.last? v.1 = some v.2)
  /-- Metrics are met in the order of the catalogue. -/
  met_first : s.met t <+: s.seen t
  /-- They are all met if the report is put together. -/
  met_all : (s.outcome t).report.isSome → s.met t = s.seen t
  /-- Otherwise the last one met has changed, but cannot be encoded. -/
  met_last : ∀ name cause, (s.outcome t).result = .error (.draft (.digest name cause)) →
    ∃ before count, s.met t = before ++ [(name, count)] ∧ s.reporter.ledger.last? name ≠ some count
  /-- A report is put together unless a metric cannot be encoded. -/
  built_iff : (s.outcome t).report.isSome ↔ ∀ cause, (s.outcome t).result ≠ .error (.draft cause)
  /-- One request is made for it, unless the connection is refused. -/
  request : (s.outcome t).request =
    if t.reply = .refusal then none
    else (s.outcome t).report.map fun report ↦ s.reporter.transport.request report.encode
  method : ∀ q ∈ (s.outcome t).request, q.method = "PUT"

end System

namespace Reporter

variable {r : Reporter} {t : Tick} {w : World} {result : Outcome × Reporter × World}

/-- A tick has a report if and only if its walk was not stopped. -/
theorem Ticks.report_isSome_iff (h : r.Ticks t w result) :
    result.1.report.isSome ↔ (r.survey t w).stopped = none := by
  cases h with
  | stopped hstopped => simp [hstopped]
  | refused hstopped hd hreply => simp [hstopped]
  | delivered hstopped hd hreply => simp [hstopped]

/-- A tick fails to encode a metric if and only if its walk was stopped by it. -/
theorem Ticks.result_eq_draft_iff (h : r.Ticks t w result) (cause : DraftError) :
    result.1.result = .error (.draft cause) ↔ (r.survey t w).stopped = some cause := by
  cases h with
  | stopped hstopped => simp [hstopped]
  | refused hstopped hd hreply =>
    have hne := verdict_ne_draft t.reply.result cause
    rw [hreply] at hne
    simpa [hstopped] using hne
  | delivered hstopped hd hreply => simp [hstopped]

/-- **One request is made for each report**, unless the connection is refused. -/
theorem request_tick (r : Reporter) (t : Tick) (w : World) :
    (r.tick t w).1.request =
      if t.reply = .refusal then none
      else (r.tick t w).1.report.map fun report ↦ r.transport.request report.encode := by
  rcases hdraft : r.drafting t w with ⟨cause | d, s⟩
  · rw [r.tick_of_error t w hdraft]
    simp
  · rw [r.tick_of_ok t w hdraft, deliver]
    cases t.reply with
    | status code =>
      simp only [Transport.send, verdict]
      split <;> rfl
    | silence | cutShort | refusal => rfl

end Reporter

namespace System

/-- **Each tick is accounted for.** -/
theorem tickAccount (s : System) (t : Tick) : s.TickAccount t := by
  have hticks := s.reporter.tick_spec t s.world
  have htally := congrArg Tally.skipped (Stats.tally_ticks hticks)
  have hsame : (s.reporter.setting s.world).same =
      fun v ↦ decide (s.reporter.ledger.last? v.1 = some v.2) := by
    funext v
    exact Bool.eq_iff_iff.2 (by simp [Presentation.Setting.same, Reporter.setting,
      Ledger.unchanged])
  exact
    { skipped := by
        rw [skipped, stats_step]
        refine htally.trans ?_
        rw [← hsame]
        rfl
      met_first := Presentation.prefix_met ..
      met_all := fun hbuilt ↦ Presentation.met_of_made _ _ _ _ (hticks.report_isSome_iff.1 hbuilt)
      met_last := fun name cause hresult ↦ by
        have hstopped := (hticks.result_eq_draft_iff _).1 hresult
        obtain ⟨before, count, hmet, hchanged⟩ := Presentation.met_of_stopped _ _ _ _ hstopped
        rw [hsame] at hchanged
        exact ⟨before, count, hmet, of_decide_eq_false hchanged⟩
      built_iff := by
        refine hticks.report_isSome_iff.trans ?_
        simp only [outcome, ne_eq, hticks.result_eq_draft_iff]
        exact Option.eq_none_iff_forall_ne_some
      request := s.reporter.request_tick t s.world
      method := fun q hq ↦ by
        rw [Option.mem_def, outcome, Reporter.request_tick] at hq
        split at hq
        · cases hq
        · obtain ⟨report, -, rfl⟩ := Option.map_eq_some_iff.1 hq
          rfl }

/-! ### From the beginning -/

/-- A new reporter has counted nothing. -/
theorem tally_create (now : Span) (s : Store) :
    (Stats.create now s).1.tally (Stats.create now s).2 = {} := by
  have hreports : (Stats.create now s).2.timer (Stats.create now s).1.reports =
      { meter := { start := now } } := (Store.timer_setTimer s _ _ _).trans (if_pos rfl)
  have hfailed : (Stats.create now s).2.meter (Stats.create now s).1.failedReports =
      { start := now } := (Store.meter_setMeter s _ _ _).trans (if_pos rfl)
  have hsizes : (Stats.create now s).2.histogram (Stats.create now s).1.reportSize = Stats.sizes :=
    (Store.histogram_setHistogram s _ _ _).trans (if_pos rfl)
  have hskipped : (Stats.create now s).2.counter (Stats.create now s).1.skippedUnchanged = {} :=
    (Store.counter_setCounter s _ _ _).trans (if_pos rfl)
  have hcount : (Stats.create now s).2.gauge (Stats.create now s).1.reportCount = .size 0 :=
    (Store.gauge_setGauge s _ _ _).trans (if_pos rfl)
  rw [Stats.tally, Stats.lastCount, hreports, hfailed, hsizes, hskipped, hcount]
  rfl

/-- **A reporter's own metrics tell how its ticks ended**, from its creation on and whatever else
happens, if nobody but the reporter writes to them. They may be registered and reported like all
others. -/
theorem accounts_run {settings : Settings} {w w' : World} {r : Reporter}
    (hr : Reporter.create settings w = .ok (r, w'))
    (hspares : ∀ e ∈ events, e.SparesStats r.stats) :
    r.stats.tally (run ⟨r, w'⟩ events).world.store = .ofTicks (ticks ⟨r, w'⟩ events) ∧
      ∀ x ∈ ticks ⟨r, w'⟩ events, x.1.TickAccount x.2 := by
  obtain ⟨-, _, -, rfl, rfl⟩ := Reporter.create_eq_ok_iff.1 hr
  exact ⟨tally_run (Stats.isIn_create w.now w.store) (tally_create w.now w.store) hspares,
    fun x _ ↦ tickAccount x.1 x.2⟩

/-- The metrics of a reporter are registered, and it reports on them twice, once in vain. -/
theorem accounts_run_small :
    let s := System.small true
    let events : List Event := [.act (.registerSet "reporter" s.reporter.stats.set), .tick {},
      .tick { reply := .status 500 }]
    (∀ e ∈ events, e.SparesStats s.reporter.stats) ∧
      s.reporter.stats.tally (s.run events).world.store = .ofTicks (s.ticks events) ∧
      ∀ x ∈ s.ticks events, x.1.TickAccount x.2 :=
  have h : ∀ e ∈ [.act (.registerSet "reporter" (System.small true).reporter.stats.set), .tick {},
      .tick { reply := .status 500 }], Event.SparesStats (System.small true).reporter.stats e := by
    simp [Event.SparesStats, Action.written]
  ⟨h, accounts_run (System.create_small true) h⟩

end System

end Telemetry
