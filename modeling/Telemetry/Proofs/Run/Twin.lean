import Mathlib
import Telemetry.Proofs.Run.View

/-!
# Against a reporter that leaves nothing out

A reporter that suppresses nothing touches other metrics than one that does: it reads more
reservoirs and rates, and counts nothing as left out. So two runs that differ in this alone have
different stores. But a tick changes no count, the metrics of the reporter itself aside, and it
makes no metric, so the counts of all other metrics are the same in both (`Store.CountsAgree`), and
the same names lead to the same metrics.

Systems related in this way are `System.Twin`s. What happens to both keeps them so (`Twin.step`), and
if the same ticks are acknowledged, their collectors have the same view (`Twin.view_eq`).
-/

namespace Telemetry

/-! ### Counts of stores -/

/-- Two stores have the same counts, except for metrics of a set, and give new metrics the same
numbers. -/
structure Store.CountsAgree (P : Handle → Prop) (s s' : Store) : Prop where
  size : ∀ k, s'.size k = s.size k
  count : ∀ h, ¬P h → s'.count h = s.count h

namespace Store.CountsAgree

variable {P : Handle → Prop} {s s' s'' : Store}

theorem refl (s : Store) : s.CountsAgree P s :=
  ⟨fun _ ↦ rfl, fun _ _ ↦ rfl⟩

theorem symm (h : s.CountsAgree P s') : s'.CountsAgree P s :=
  ⟨fun k ↦ (h.size k).symm, fun x hx ↦ (h.count x hx).symm⟩

theorem trans (h₁ : s.CountsAgree P s') (h₂ : s'.CountsAgree P s'') : s.CountsAgree P s'' :=
  ⟨fun k ↦ (h₂.size k).trans (h₁.size k), fun x hx ↦ (h₂.count x hx).trans (h₁.count x hx)⟩

theorem counter (h : s.CountsAgree P s') {id : MetricId Counter} (hid : ¬P (.counter id)) :
    s'.counter id = s.counter id :=
  congrArg Counter.mk (Option.some.inj (h.count _ hid))

theorem meter (h : s.CountsAgree P s') {id : MetricId Meter} (hid : ¬P (.meter id)) :
    (s'.meter id).count = (s.meter id).count :=
  Option.some.inj (h.count _ hid)

theorem source (h : s.CountsAgree P s') {x : Source} (hx : ¬P x.handle) :
    x.count s' = x.count s := by
  cases x <;> exact Option.some.inj (h.count _ hx)

/-- Writing the same metric in both, with the same count. -/
theorem put (h : s.CountsAgree P s') {c d : Cell} (hhandle : d.handle = c.handle)
    (hcount : ¬P c.handle → d.count = c.count) : (s.put c).CountsAgree P (s'.put d) where
  size k := by rw [size_put, size_put, hhandle, h.size]
  count x hx := by
    rw [count_put, count_put, hhandle]
    split
    · next hxc => exact hcount (hxc ▸ hx)
    · exact h.count x hx

/-- Stores that keep what they show, and have the same metrics, agree on counts. -/
theorem of_kept {now : Span} (h : s.Kept P now s') (hsize : ∀ k, s'.size k = s.size k) :
    s.CountsAgree P s' where
  size := hsize
  count x hx := by
    cases x with
    | gauge id => rfl
    | counter id => exact congrArg (fun c ↦ some c.count) (h.counter id hx)
    | meter id => exact congrArg some (h.meter_count hx)
    | histogram id => exact congrArg some (h.count (.histogram id) hx)
    | timer id => exact congrArg some (h.count (.timer id) hx)

end Store.CountsAgree

namespace Presentation

variable {P : Handle → Prop} {s s' : Store}

/-- Where the counter of metrics left out is not among them, leaving one out moves no counter. -/
theorem countersSeen_of_ne {e : Setting} {l : List (String × MetricId Counter)}
    (hl : ∀ m ∈ l, m.2 ≠ e.skipped) (s : Store) :
    countersSeen e s l = l.map fun m ↦ (m.1, (s.counter m.2).count) := by
  have hskip : ∀ {s : Store} {rest : List (String × MetricId Counter)},
      (∀ m ∈ rest, m.2 ≠ e.skipped) → (rest.map fun m ↦ (m.1, ((e.skip s).counter m.2).count)) =
        rest.map fun m ↦ (m.1, (s.counter m.2).count) := by
    intro s rest hrest
    refine List.map_congr_left fun m hm ↦ ?_
    rw [Setting.skip, Store.counter_setCounter, if_neg (hrest m hm)]
  induction l generalizing s with
  | nil => rfl
  | cons m l ih =>
    have hrest : ∀ m ∈ l, m.2 ≠ e.skipped := fun m' hm' ↦ hl m' (List.mem_cons_of_mem _ hm')
    rw [countersSeen, ih hrest, List.map_cons]
    split
    · rw [hskip hrest]
    · rfl

/-- Stores whose counts agree outside a set show the same of a catalogue that does not lead there,
whatever was reported before. -/
theorem seen_of_agree (h : s.CountsAgree P s') {c : Catalogue} (hc : ∀ x ∈ c.handles, ¬P x)
    {e e' : Setting} (he : P (.counter e.skipped)) (he' : P (.counter e'.skipped)) :
    seen e' s' c = seen e s c := by
  obtain ⟨-, hcounter, hmeter, hsource⟩ := Catalogue.forall_handles.1 hc
  have hne : ∀ {e : Setting}, P (.counter e.skipped) → ∀ m ∈ c.counters, m.2 ≠ e.skipped :=
    fun he m hm hme ↦ hcounter m hm (hme ▸ he)
  rw [seen, seen, seen_sources, seen_sources, countersSeen_of_ne (hne he),
    countersSeen_of_ne (hne he')]
  have h₁ : c.counters.map (fun m ↦ (m.1, (s'.counter m.2).count)) =
      c.counters.map fun m ↦ (m.1, (s.counter m.2).count) :=
    List.map_congr_left fun m hm ↦ by rw [h.counter (hcounter m hm)]
  have h₂ : metersSeen s' c.meters = metersSeen s c.meters :=
    List.map_congr_left fun m hm ↦ by rw [h.meter (hmeter m hm)]
  have h₃ : (sources c).map (fun x ↦ (x.1, x.2.count s')) =
      (sources c).map fun x ↦ (x.1, x.2.count s) :=
    List.map_congr_left fun x hx ↦ by rw [h.source (hsource x hx)]
  rw [h₁, h₂, h₃]

end Presentation

/-! ### Actions -/

variable {P : Handle → Prop} {w : World} {st : Store}

/-- A new metric is the same in stores of the same size. -/
theorem World.fresh_of_size (h : ∀ k, st.size k = w.store.size k) (b : Blueprint) :
    World.fresh { w with store := st } b = w.fresh b := by
  cases b with
  | gauge g => exact congrArg (fun i ↦ Cell.gauge ⟨i⟩ _) (h .gauge)
  | counter => exact congrArg (fun i ↦ Cell.counter ⟨i⟩ _) (h .counter)
  | meter => exact congrArg (fun i ↦ Cell.meter ⟨i⟩ _) (h .meter)
  | histogram ρ => exact congrArg (fun i ↦ Cell.histogram ⟨i⟩ _) (h .histogram)
  | timer ρ => exact congrArg (fun i ↦ Cell.timer ⟨i⟩ _) (h .timer)

/-- **An action does to counts what the counts let it do**, and to names the same in both worlds. -/
theorem act_countsAgree (h : w.store.CountsAgree P st) (a : Action) :
    ∃ st', a.run { w with store := st } = { a.run w with store := st' } ∧
      (a.run w).store.CountsAgree P st' := by
  match a with
  | .advance _ | .setTimeOfDay _ | .registerSet _ _ | .remove _ => exact ⟨st, rfl, h⟩
  | .make b =>
    refine ⟨_, congrArg (fun c ↦ { w with store := st.put c }) (World.fresh_of_size h.size b), ?_⟩
    exact h.put rfl fun _ ↦ rfl
  | .register name handle =>
    refine ⟨st, ?_, (Action.store_register w name handle).symm ▸ h⟩
    simp only [Action.run, World.register]
    cases w.registry.register name handle <;> rfl
  | .get k name =>
    rcases Action.run_get w k name with hrun | ⟨b, -, hrun⟩
    · exact ⟨st, (hrun st).trans (congrArg (fun w' : World ↦ { w' with store := st })
        (hrun w.store).symm), (hrun w.store).symm ▸ h⟩
    · have hw : (Action.get k name).run w =
          w.adopt name (w.fresh b).handle (w.store.put (w.fresh b)) := hrun w.store
      refine ⟨st.put (w.fresh b), ?_, ?_⟩
      · rw [hrun st, World.fresh_of_size h.size, hw]
        rfl
      · rw [hw]
        exact h.put rfl fun _ ↦ rfl
  | .setGauge id g => exact ⟨_, rfl, h.put (c := .gauge id g) (d := .gauge id g) rfl fun _ ↦ rfl⟩
  | .updateCounter id f =>
    exact ⟨_, rfl, h.put (c := .counter id _) (d := .counter id _) rfl fun hid ↦
      congrArg (fun c ↦ some (f c).count) (h.counter hid)⟩
  | .mark id n =>
    refine ⟨_, rfl, h.put (c := .meter id _) (d := .meter id _) rfl fun hid ↦ ?_⟩
    simp only [Cell.count, Meter.count_mark, h.meter hid]
  | .updateHistogram id v =>
    exact ⟨_, rfl, h.put (c := .histogram id _) (d := .histogram id _) rfl fun hid ↦
      congrArg (fun n : UInt64 ↦ some (n + 1)) (h.source (x := .histogram id) hid)⟩
  | .updateTimer id d =>
    exact ⟨_, rfl, h.put (c := .timer id _) (d := .timer id _) rfl fun hid ↦
      congrArg (fun n : UInt64 ↦ some (n + 1)) (h.source (x := .timer id) hid)⟩
  | .record (.histogram id) _ | .take (.histogram id) | .give (.histogram id) _ =>
    exact ⟨_, rfl, h.put (c := .histogram id _) (d := .histogram id _) rfl fun hid ↦
      congrArg some (h.source (x := .histogram id) hid)⟩
  | .record (.timer id) _ | .take (.timer id) | .give (.timer id) _ =>
    exact ⟨_, rfl, h.put (c := .timer id _) (d := .timer id _) rfl fun hid ↦
      congrArg some (h.source (x := .timer id) hid)⟩

/-! ### Systems -/

namespace System

/-- Two systems differ only in that the reporter of the second one suppresses nothing, in the metrics
of the reporters themselves, and in what counts do not show. -/
structure Twin (s s' : System) : Prop where
  reporter : s'.reporter = { s.reporter with ledger := .new false }
  world : ∃ st, s'.world = { s.world with store := st } ∧
    s.world.store.CountsAgree s.reporter.stats.Owns st
  owned : ∀ h, s.reporter.stats.Owns h → h.In s.world.store

end System

/-- What a tick is about is in the store, as is every metric that was made, and none of it belongs to
the reporter. -/
def Event.Apart (s : System) : Event → Prop
  | tick t => ∀ h ∈ (s.reporter.subject t s.world).handles,
    h.In s.world.store ∧ ¬s.reporter.stats.Owns h
  | _ => True

namespace System

variable {s s' : System} {e : Event} {t : Tick} {events : List Event}

/-- A tick about metrics of the store changes no count and makes no metric, those of the reporter
aside. -/
theorem countsAgree_tick (howned : ∀ h, s.reporter.stats.Owns h → h.In s.world.store)
    (hsubject : ∀ h ∈ (s.reporter.subject t s.world).handles, h.In s.world.store) :
    s.world.store.CountsAgree s.reporter.stats.Owns (s.step (.tick t)).world.store :=
  have hspec := s.reporter.tick_spec t s.world
  .of_kept (hspec.kept fun _ ↦ id)
    ((hspec.writes (P := fun h ↦ h.In s.world.store) howned hsubject).size_eq fun _ ↦ id)

/-- A tick of a reporter whose ledger is switched off leaves it as it was. -/
theorem ledger_tick_of_off (h : s.reporter.ledger = .new false) (t : Tick) :
    (s.step (.tick t)).reporter = s.reporter := by
  obtain ⟨cause, -, htick⟩ | ⟨code, d, -, htick⟩ := s.tick_cases t
  · exact htick.reporter
  · have hledger : s.reporter.ledger.commit d.staged = s.reporter.ledger := by
      rw [h]
      rfl
    rw [htick.reporter, hledger]

theorem Twin.subject (h : s.Twin s') (t : Tick) :
    s'.reporter.subject t s'.world = s.reporter.subject t s.world := by
  obtain ⟨st, hworld, -⟩ := h.world
  rw [h.reporter, hworld]
  rfl

/-- **Twins stay twins**, whatever happens to both of them. -/
theorem Twin.step (h : s.Twin s') (he : e.Apart s) : (s.step e).Twin (s'.step e) := by
  obtain ⟨st, hworld, hagree⟩ := h.world
  cases e with
  | act a =>
    obtain ⟨st', hrun, hagree'⟩ := act_countsAgree hagree a
    refine ⟨h.reporter, ⟨st', ?_, hagree'⟩, fun x hx ↦ isIn_step (h.owned x hx) (.act a)⟩
    show a.run s'.world = _
    rw [hworld, hrun]
    rfl
  | setFilter f =>
    refine ⟨?_, h.world, h.owned⟩
    show { s'.reporter with filter := some f } = _
    rw [h.reporter]
    rfl
  | tick t =>
    obtain ⟨ledger, hreporter⟩ := reporter_tick s t
    obtain ⟨st₁, hworld₁⟩ := world_tick s t
    obtain ⟨st₂, hworld₂⟩ := world_tick s' t
    have hoff : s'.reporter.ledger = .new false := by rw [h.reporter]
    have hstats : s'.reporter.stats = s.reporter.stats := by rw [h.reporter]
    have hstore : s'.world.store = st := by rw [hworld]
    have hin : ∀ {x : Handle}, x.In s.world.store → x.In s'.world.store := fun hx ↦ by
      rw [Handle.In, hstore, hagree.size]
      exact hx
    have hsubject : ∀ x ∈ (s.reporter.subject t s.world).handles, x.In s.world.store :=
      fun x hx ↦ (he x hx).1
    have hagree₁ := countsAgree_tick h.owned hsubject
    have hagree₂ := countsAgree_tick (s := s') (t := t) (fun x hx ↦ hin (h.owned x (hstats ▸ hx)))
      fun x hx ↦ hin (hsubject x (h.subject t ▸ hx))
    rw [hstats, hstore, hworld₂] at hagree₂
    rw [hworld₁] at hagree₁
    refine ⟨?_, ⟨st₂, ?_, ?_⟩, ?_⟩
    · rw [ledger_tick_of_off hoff, hreporter, h.reporter]
    · rw [hworld₂, hworld₁, hworld]
    · rw [hworld₁, hreporter]
      exact (hagree₁.symm.trans hagree).trans hagree₂
    · rw [hreporter]
      exact fun x hx ↦ isIn_step (h.owned x hx) (.tick t)

/-- **Twins stay twins** as long as the two are kept apart. -/
theorem Twin.run (h : s.Twin s') (hapart : s.Along Event.Apart events) :
    (s.run events).Twin (s'.run events) := by
  induction events using List.reverseRecOn with
  | nil => exact h
  | append_singleton events e ih =>
    obtain ⟨hbefore, he⟩ := along_concat.1 hapart
    rw [run_concat, run_concat]
    exact (ih hbefore).step he

/-- Twins see the same counts at a tick that keeps them apart. -/
theorem Twin.seen (h : s.Twin s') (ht : Event.Apart s (.tick t)) : s'.seen t = s.seen t := by
  obtain ⟨st, hworld, hagree⟩ := h.world
  obtain ⟨-, -, -, hskipped, -⟩ := (Stats.forall_owns (t := s.reporter.stats)).1 fun _ ↦ id
  have hstore : s'.world.store = st := by rw [hworld]
  rw [System.seen, System.seen, h.subject t, hstore]
  refine Presentation.seen_of_agree hagree (fun x hx ↦ (ht x hx).2) hskipped ?_
  rw [h.reporter]
  exact hskipped

/-! ### Views -/

/-- Where nothing is suppressed, a report that was acknowledged has all counts. -/
theorem view_of_off (hoff : (s.run events).reporter.ledger = .new false) {code : Nat}
    (hresult : ((s.run events).outcome t).result = .ok code) (name : String) :
    s.view (events ++ [.tick t]) name =
      (latest ((s.run events).seen t) name).or (s.view events name) := by
  obtain ⟨d, htick⟩ := deliveredTick hresult
  have hchanged : ((s.run events).reporter.setting (s.run events).world).changed = fun _ ↦ true := by
    funext v
    show (!((s.run events).reporter.ledger.unchanged v.1 v.2)) = true
    rw [hoff]
    rfl
  have hcounts : d.report.counts = (s.run events).seen t := by
    rw [htick.drafted.counts, hchanged, List.filter_true]
    rfl
  rw [view_concat, htick.deliveries, List.flatMap_singleton, hcounts]

/-- Ticks end well in both systems or in neither. -/
def EndAlike (s s' : System) (events : List Event) : Prop :=
  ∀ before t after, events = before ++ .tick t :: after →
    ((s.run before).outcome t).result.isOk = ((s'.run before).outcome t).result.isOk

theorem endAlike_nil (s s' : System) : s.EndAlike s' [] := by
  intro before t after h
  simp at h

/-- Two runs end alike if their first ticks do, and the rest of both. -/
theorem endAlike_cons : s.EndAlike s' (e :: events) ↔
    (∀ t, e = .tick t → (s.outcome t).result.isOk = (s'.outcome t).result.isOk) ∧
      (s.step e).EndAlike (s'.step e) events := by
  constructor
  · intro h
    refine ⟨?_, fun before t after hsplit ↦ h (e :: before) t after (by rw [hsplit]; rfl)⟩
    rintro t rfl
    exact h [] t events rfl
  · rintro ⟨he, h⟩ before t after hsplit
    cases before with
    | nil =>
      obtain ⟨rfl, rfl⟩ := List.cons.inj hsplit
      exact he t rfl
    | cons e' before =>
      obtain ⟨rfl, rfl⟩ := List.cons.inj hsplit
      exact h before t after rfl

/-- **The collectors of twins have the same view.** -/
theorem Twin.view_eq (h : s.Twin s') (hfresh : s.reporter.ledger = .new true)
    (hapart : s.Along Event.Apart events) (hdistinct : s.Along Event.Distinct events)
    (halike : s.EndAlike s' events) : s.view events = s'.view events := by
  induction events using List.reverseRecOn with
  | nil => rfl
  | append_singleton events e ih =>
    obtain ⟨hapart, hapartAt⟩ := along_concat.1 hapart
    obtain ⟨hdistinct, hdistinctAt⟩ := along_concat.1 hdistinct
    have ih := ih hapart hdistinct fun before t after hsplit ↦
      halike before t (after ++ [e]) (by rw [hsplit, List.append_assoc, List.cons_append])
    have htwin := h.run hapart
    cases e with
    | act a => rw [view_of_silent (e := .act a) rfl, view_of_silent (e := .act a) rfl, ih]
    | setFilter f =>
      rw [view_of_silent (e := .setFilter f) rfl, view_of_silent (e := .setFilter f) rfl, ih]
    | tick t =>
      have hends := halike events t [] rfl
      obtain ⟨cause, hresult, htick⟩ | ⟨code, d, hresult, htick⟩ := (s.run events).tick_cases t
      · obtain ⟨cause', -, htick'⟩ | ⟨code', d', hresult', -⟩ := (s'.run events).tick_cases t
        · rw [view_of_silent htick.deliveries, view_of_silent htick'.deliveries, ih]
        · simp [hresult, hresult', Except.isOk, Except.toBool] at hends
      · obtain ⟨cause', hresult', -⟩ | ⟨code', d', hresult', -⟩ := (s'.run events).tick_cases t
        · simp [hresult, hresult', Except.isOk, Except.toBool] at hends
        · have hsubject := Reporter.distinct_subject (r := (s.run events).reporter)
            (w := (s.run events).world) hdistinctAt
          have hoff : (s'.run events).reporter.ledger = .new false := by rw [htwin.reporter]
          funext name
          rw [view_of_on hfresh hsubject hresult, view_of_off hoff hresult', htwin.seen hapartAt, ih]

/-! ### From the beginning -/

/-- Settings that differ in whether unchanged metrics are left out make twins. -/
theorem twin_of_create {settings : Settings} {w w' : World} {r : Reporter}
    (hr : Reporter.create settings w = .ok (r, w')) :
    Twin ⟨r, w'⟩ ⟨{ r with ledger := .new false }, w'⟩ ∧
      Reporter.create { settings with skipUnchanged := false } w =
        .ok ({ r with ledger := .new false }, w') := by
  obtain ⟨hcheck, transport, htransport, rfl, rfl⟩ := Reporter.create_eq_ok_iff.1 hr
  refine ⟨⟨rfl, ⟨_, rfl, .refl _⟩, Stats.isIn_create w.now w.store⟩, ?_⟩
  exact Reporter.create_eq_ok_iff.2 ⟨hcheck, transport, htransport, rfl, rfl⟩

/-- **Suppression loses nothing for the collector.** From the beginning of a run, the reports of a
reporter that suppresses have all gauges and just those counts that the view of the collector does
not have already, and once they were acknowledged the view has the counts of all metrics that the
tick met. So the view is that of a collector to whom nothing is left out, if the same ticks are
acknowledged and none is about the metrics of the reporter. A catalogue that a tick is given has to
have its names once, as a registry does. -/
theorem suppression_loses_nothing {settings : Settings} {w w' : World} {r : Reporter}
    (hr : Reporter.create settings w = .ok (r, w')) (hon : settings.skipUnchanged = true) :
    (∀ before t, SuppressedTick ⟨r, w'⟩ before t) ∧
      ∀ r₀ w₀, Reporter.create { settings with skipUnchanged := false } w = .ok (r₀, w₀) →
        ∀ events, Along Event.Apart ⟨r, w'⟩ events → Along Event.Distinct ⟨r, w'⟩ events →
          EndAlike ⟨r, w'⟩ ⟨r₀, w₀⟩ events → view ⟨r, w'⟩ events = view ⟨r₀, w₀⟩ events := by
  obtain ⟨htwin, hcreate⟩ := twin_of_create hr
  have hfresh : r.ledger = .new true := by
    obtain ⟨-, _, -, rfl, -⟩ := Reporter.create_eq_ok_iff.1 hr
    exact congrArg Ledger.new hon
  refine ⟨fun before t ↦ suppressedTick hfresh before t, ?_⟩
  intro r₀ w₀ hr₀ events hapart hdistinct halike
  obtain ⟨rfl, rfl⟩ := Prod.mk.inj (Except.ok.inj (hcreate.symm.trans hr₀))
  exact htwin.view_eq hfresh hapart hdistinct halike

/-- A counter that is reported in vain, then reported, then left out. -/
theorem suppression_loses_nothing_small :
    let events := [.act (.updateCounter ⟨0⟩ Counter.inc), .tick { reply := .status 503 }, .tick {},
      .act (.updateHistogram ⟨0⟩ 9), .tick {}]
    (small true).SuppressedTick events {} ∧ (small true).view events = (small false).view events ∧
      (small true).view events "c" = some 1 := by
  intro events
  have hapart : (small true).Along Event.Apart events := by
    simp only [events, along_cons, along_nil, Event.Apart, true_and, and_true, Handle.In,
      Stats.Owns]
    decide
  have hdistinct : (small true).Along Event.Distinct events := by
    simp [events, along_cons, along_nil, Event.Distinct]
  have halike : (small true).EndAlike (small false) events := by
    simp only [events, endAlike_cons, endAlike_nil, Event.tick.injEq, reduceCtorEq,
      false_implies, forall_eq', implies_true, true_and, and_true]
    decide
  have h := suppression_loses_nothing (create_small true) rfl
  exact ⟨h.1 events {}, h.2 _ _ (create_small false) events hapart hdistinct halike, by decide⟩

end System

end Telemetry
