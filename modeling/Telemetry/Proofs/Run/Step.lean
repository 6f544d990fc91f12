import Mathlib
import Telemetry.Proofs.Run.Basic

/-!
# What one step does

The steps of a run, seen from a source of the store.

* An action feeds it values or leaves it alone (`held_act`). A new metric is never an old one, so
  making metrics cannot hurt it.
* A tick takes readings of it, feeds it what the sending of the report feeds it, and gives the
  readings back if the tick failed (`FailedTick`) but not if the report was acknowledged
  (`DeliveredTick`). It is one or the other (`tick_cases`).

No step takes the source away (`isIn_step`), and legal steps keep all reservoirs sound
(`Store.Sound.step`), so those of reachable systems are (`System.Reachable.sound`).
-/

namespace Telemetry

variable {w : World} {s : System} {x : Source}

/-! ### Actions -/

/-- Recording into a source changes its reservoir, and no other source. -/
theorem Source.held_record (st : Store) (v : UInt64) (y : Source) :
    x.held (y.record st v) =
      if x = y then { x.held st with reservoir := (x.held st).reservoir.record v }
      else x.held st := by
  cases y with
  | histogram id =>
    rw [record, held_setHistogram]
    split
    · next h =>
      rw [h]
      rfl
    · rfl
  | timer id =>
    rw [record, held_setTimer]
    split
    · next h =>
      rw [h]
      rfl
    · rfl

/-- Putting a metric into the store leaves sources that are not that metric. -/
theorem Source.held_put_of_ne {st : Store} {c : Cell} (h : c.handle ≠ x.handle) :
    x.held (st.put c) = x.held st := by
  cases c with
  | gauge id g => exact x.held_setGauge st id g
  | counter id c => exact x.held_setCounter st id c
  | meter id m => exact x.held_setMeter st id m
  | histogram id a =>
    have hne : x ≠ .histogram id := by
      rintro rfl
      exact h rfl
    exact (x.held_setHistogram st id a).trans (if_neg hne)
  | timer id t =>
    have hne : x ≠ .timer id := by
      rintro rfl
      exact h rfl
    exact (x.held_setTimer st id t).trans (if_neg hne)

/-- A new metric has a new number. -/
theorem World.index_fresh (w : World) (b : Blueprint) :
    (w.fresh b).handle.index = w.store.size (w.fresh b).handle.kind := by
  cases b <;> rfl

/-- A new metric is none of the store. -/
theorem World.handle_fresh_ne (w : World) (b : Blueprint) {h : Handle} (hh : h.In w.store) :
    (w.fresh b).handle ≠ h := by
  rintro rfl
  exact absurd hh (by rw [Handle.In, w.index_fresh]; exact lt_irrefl _)

/-- What the reservoir of a new metric is, if it has one. -/
def Blueprint.Made : Blueprint → Prop
  | histogram ρ | timer ρ => ρ.Made
  | _ => True

theorem Reservoir.made_default : (default : Reservoir).Made :=
  .binned BinnedReservoir.defaultLayout (show 2 ≤ maxWord by decide)

/-- Asking for a metric finds one or makes one. Which of them it is depends on the names only. -/
theorem Action.run_get (w : World) (k : Kind) (name : String) :
    (∀ st, (Action.get k name).run { w with store := st } = { w with store := st }) ∨
      ∃ b, Blueprint.Made b ∧ ∀ st, (Action.get k name).run { w with store := st } =
        { w with store := st }.adopt name (World.fresh { w with store := st } b).handle
          (st.put (World.fresh { w with store := st } b)) := by
  cases k with
  | gauge => exact .inl fun st ↦ rfl
  | counter =>
    simp only [run, World.counter]
    rcases w.registry.find? name with - | h
    · exact .inr ⟨.counter, trivial, fun st ↦ rfl⟩
    · cases h <;> exact .inl fun st ↦ rfl
  | meter =>
    simp only [run, World.meter]
    rcases w.registry.find? name with - | h
    · exact .inr ⟨.meter, trivial, fun st ↦ rfl⟩
    · cases h <;> exact .inl fun st ↦ rfl
  | histogram =>
    simp only [run, World.histogram]
    rcases w.registry.find? name with - | h
    · exact .inr ⟨.histogram default, Reservoir.made_default, fun st ↦ rfl⟩
    · cases h <;> exact .inl fun st ↦ rfl
  | timer =>
    simp only [run, World.timer]
    rcases w.registry.find? name with - | h
    · exact .inr ⟨.timer default, Reservoir.made_default, fun st ↦ rfl⟩
    · cases h <;> exact .inl fun st ↦ rfl

/-- Names change nothing in the store. -/
theorem Action.store_register (w : World) (name : String) (h : Handle) :
    ((Action.register name h).run w).store = w.store := by
  rw [run, World.register]
  cases w.registry.register name h <;> rfl

/-- **An action feeds a source or leaves it alone.** -/
theorem held_act (hx : x.handle.In w.store) {a : Action} (ha : a.Spares x) :
    x.held (a.run w).store = (a.feeds x).foldl Histogram.update (x.held w.store) := by
  match a, ha with
  | .advance _, _ | .setTimeOfDay _, _ | .registerSet _ _, _ | .remove _, _ => rfl
  | .make b, _ => exact Source.held_put_of_ne (w.handle_fresh_ne b hx)
  | .register name h, _ => exact congrArg x.held (Action.store_register w name h)
  | .get k name, _ =>
    rcases Action.run_get w k name with h | ⟨b, -, h⟩
    · rw [h w.store]
      rfl
    · rw [h w.store]
      exact Source.held_put_of_ne (w.handle_fresh_ne b hx)
  | .setGauge id g, _ => exact x.held_setGauge _ id g
  | .updateCounter id f, _ => exact x.held_setCounter _ id _
  | .mark id n, _ => exact x.held_setMeter _ id _
  | .updateHistogram id v, _ =>
    rw [Action.run, World.updateHistogram, Source.held_setHistogram, Action.feeds]
    split
    · next h =>
      rw [h]
      rfl
    · rfl
  | .updateTimer id d, _ =>
    rw [Action.run, World.updateTimer, Source.held_setTimer, Action.feeds]
    split
    · next h =>
      rw [h]
      rfl
    · rfl
  | .record y v, hne => exact (Source.held_record _ v y).trans (if_neg (Ne.symm hne))
  | .take y, hne => exact (x.held_read _ y).trans (if_neg (Ne.symm hne))
  | .give y r, hne => exact (x.held_restore _ y r).trans (if_neg (Ne.symm hne))

/-- Actions write to the store and do nothing else to it. -/
theorem writes_act (w : World) (a : Action) : w.store.Writes (fun _ ↦ True) (a.run w).store := by
  match a with
  | .advance _ | .setTimeOfDay _ | .registerSet _ _ | .remove _ => exact .refl
  | .make b => exact .one trivial
  | .register name h => exact (Action.store_register w name h).symm ▸ .refl
  | .get k name =>
    rcases Action.run_get w k name with h | ⟨b, -, h⟩
    · rw [h w.store]
      exact .refl
    · rw [h w.store]
      exact .one trivial
  | .setGauge id g => exact .one (c := .gauge id g) trivial
  | .updateCounter id f => exact .one (c := .counter id _) trivial
  | .mark id n => exact .one (c := .meter id _) trivial
  | .updateHistogram id v => exact .one (c := .histogram id _) trivial
  | .updateTimer id d => exact .one (c := .timer id _) trivial
  | .record (.histogram id) v => exact .one (c := .histogram id _) trivial
  | .record (.timer id) v => exact .one (c := .timer id _) trivial
  | .take _ => exact Presentation.writes_read _ trivial
  | .give _ r => exact Presentation.writes_restore _ trivial r

/-- **No step takes a metric away.** -/
theorem isIn_step {h : Handle} (hh : h.In s.world.store) (e : Event) :
    h.In (s.step e).world.store := by
  cases e with
  | act a => exact (writes_act s.world a).isIn hh
  | tick t =>
    have hwrites := (s.reporter.tick_spec t s.world).writes (P := fun _ ↦ True)
      (fun _ _ ↦ trivial) fun _ _ ↦ trivial
    exact hwrites.isIn hh
  | setFilter f => exact hh

theorem isIn_run {h : Handle} (hh : h.In s.world.store) (events : List Event) :
    h.In (s.run events).world.store := by
  induction events generalizing s with
  | nil => exact hh
  | cons e events ih => exact ih (isIn_step hh e)

/-! ### What is fed -/

/-- A step feeds a source one value at most. -/
theorem length_feeds_le (s : System) (x : Source) (e : Event) : (s.feeds x e).length ≤ 1 := by
  cases e with
  | act a =>
    cases a with
    | updateHistogram id v =>
      show (if _ then _ else _ : List UInt64).length ≤ 1
      split <;> simp
    | updateTimer id d =>
      show (if _ then _ else _ : List UInt64).length ≤ 1
      split <;> simp
    | _ => exact Nat.zero_le 1
  | setFilter f => exact Nat.zero_le 1
  | tick t =>
    -- what the reporter feeds itself goes into two different metrics
    have htwo : ∀ report, (s.reporter.feeds t.elapsed report x).length ≤ 1 := by
      intro report
      cases x <;> simp only [Reporter.feeds, reduceCtorEq, if_false, List.append_nil,
        List.nil_append] <;> split <;> simp
    rw [System.feeds, Reporter.fed]
    cases (s.outcome t).report with
    | none => exact Nat.zero_le 1
    | some report => exact htwo report

/-- A run feeds a reservoir no more values than it has steps. -/
theorem length_fed_le (s : System) (x : Source) (events : List Event) :
    (s.fed x events).length ≤ events.length := by
  induction events using List.reverseRecOn with
  | nil => exact le_rfl
  | append_singleton events e ih =>
    have hstep := length_feeds_le (s.run events) x e
    rw [System.fed, System.collect_concat, List.length_append, List.length_append]
    exact Nat.add_le_add ih hstep

/-! ### Ticks -/

theorem reporter_tick (s : System) (t : Tick) :
    ∃ ledger, (s.step (.tick t)).reporter = { s.reporter with ledger } :=
  (s.reporter.tick_spec t s.world).reporter

theorem world_tick (s : System) (t : Tick) :
    ∃ store, (s.step (.tick t)).world = { s.world with store } :=
  (s.reporter.tick_spec t s.world).world

/-- A reporter goes on presenting as it did. -/
theorem presentation_run (s : System) (events : List Event) :
    (s.run events).reporter.presentation = s.reporter.presentation := by
  induction events generalizing s with
  | nil => rfl
  | cons e events ih =>
    refine (ih (s.step e)).trans ?_
    cases e with
    | act a => rfl
    | tick t =>
      obtain ⟨ledger, h⟩ := reporter_tick s t
      rw [h]
    | setFilter f => rfl

namespace System

variable {t : Tick}

/-- What a failed tick comes to. -/
structure FailedTick (s : System) (t : Tick) : Prop where
  /-- Nothing was delivered. -/
  deliveries : s.deliveries (.tick t) = []
  /-- The reporter is as it was. -/
  reporter : (s.step (.tick t)).reporter = s.reporter
  /-- What was taken was given back, behind what the sending fed. -/
  held : ∀ x : Source, ∃ rs ρ, (x.held s.world.store).reservoir.Reads rs ρ ∧
    x.held (s.step (.tick t)).world.store =
      rs.foldl Histogram.restore ((s.feeds x (.tick t)).foldl Histogram.update
        ⟨(x.held s.world.store).count, ρ⟩)

/-- What a tick comes to whose report was acknowledged. -/
structure DeliveredTick (s : System) (t : Tick) (d : Draft) : Prop where
  /-- The report was put together from a draft. -/
  report : (s.outcome t).report = some d.report
  drafted : s.reporter.presentation.Drafted (s.reporter.setting s.world)
    (s.reporter.subject t s.world) s.world.store d
  /-- It is what was delivered. -/
  deliveries : s.deliveries (.tick t) = [(s.reporter.subject t s.world, d.report)]
  /-- Its counts were entered into the ledger. -/
  reporter : (s.step (.tick t)).reporter =
    { s.reporter with ledger := s.reporter.ledger.commit d.staged }
  /-- What was taken is gone. -/
  held : ∀ x : Source, ∃ ρ, (x.held s.world.store).reservoir.Reads (x.readings d.taken) ρ ∧
    x.held (s.step (.tick t)).world.store =
      (s.feeds x (.tick t)).foldl Histogram.update ⟨(x.held s.world.store).count, ρ⟩

theorem failedTick {cause : ReportError} (h : (s.outcome t).result = .error cause) :
    s.FailedTick t := by
  obtain ⟨hreporter, hheld⟩ := (s.reporter.tick_spec t s.world).of_failed h
  refine ⟨?_, hreporter, hheld⟩
  simp only [deliveries, h]

theorem deliveredTick {code : Nat} (h : (s.outcome t).result = .ok code) :
    ∃ d, s.DeliveredTick t d := by
  obtain ⟨d, hreport, hd, hreporter, hheld⟩ := (s.reporter.tick_spec t s.world).of_delivered h
  have hreport' : (s.outcome t).report = some d.report := hreport
  refine ⟨d, hreport', hd, ?_, hreporter, hheld⟩
  simp only [deliveries, h, hreport']

/-- **A tick failed, or its report was acknowledged.** -/
theorem tick_cases (s : System) (t : Tick) :
    (∃ cause, (s.outcome t).result = .error cause ∧ s.FailedTick t) ∨
      ∃ code d, (s.outcome t).result = .ok code ∧ s.DeliveredTick t d := by
  rcases hresult : (s.outcome t).result with cause | code
  · exact .inl ⟨cause, rfl, failedTick hresult⟩
  · obtain ⟨d, hd⟩ := deliveredTick hresult
    exact .inr ⟨code, d, rfl, hd⟩

end System

/-! ### Soundness -/

/-- All reservoirs of the store are sound. -/
def Store.Sound (st : Store) : Prop :=
  ∀ x : Source, (x.held st).reservoir.Sound

namespace Store.Sound

variable {st : Store}

/-- Setting a histogram with a sound reservoir keeps the store sound. -/
theorem setHistogram (h : st.Sound) {id : MetricId Histogram} {a : Histogram}
    (ha : a.reservoir.Sound) : (st.setHistogram id a).Sound := by
  intro x
  rw [Source.held_setHistogram]
  split
  · exact ha
  · exact h x

/-- Setting a timer with a sound reservoir keeps the store sound. -/
theorem setTimer (h : st.Sound) {id : MetricId Timer} {t : Timer}
    (ht : t.histogram.reservoir.Sound) : (st.setTimer id t).Sound := by
  intro x
  rw [Source.held_setTimer]
  split
  · exact ht
  · exact h x

/-- A new metric keeps the store sound. -/
theorem put_fresh {w : World} (h : w.store.Sound) {b : Blueprint} (hb : b.Made) :
    (w.store.put (w.fresh b)).Sound := by
  cases b with
  | gauge g => exact fun x ↦ (x.held_setGauge w.store _ g).symm ▸ h x
  | counter => exact fun x ↦ (x.held_setCounter w.store _ _).symm ▸ h x
  | meter => exact fun x ↦ (x.held_setMeter w.store _ _).symm ▸ h x
  | histogram ρ => exact h.setHistogram hb.sound
  | timer ρ => exact h.setTimer hb.sound

/-- A legal action keeps all reservoirs sound. -/
theorem act {w : World} (h : w.store.Sound) {a : Action} (ha : a.Legal) :
    (a.run w).store.Sound := by
  match a, ha with
  | .advance _, _ | .setTimeOfDay _, _ | .registerSet _ _, _ | .remove _, _ => exact h
  | .make (.gauge g), _ => exact put_fresh (b := .gauge g) h trivial
  | .make .counter, _ => exact put_fresh (b := .counter) h trivial
  | .make .meter, _ => exact put_fresh (b := .meter) h trivial
  | .make (.histogram ρ), hρ => exact put_fresh (b := .histogram ρ) h hρ
  | .make (.timer ρ), hρ => exact put_fresh (b := .timer ρ) h hρ
  | .register name handle, _ => exact (Action.store_register w name handle).symm ▸ h
  | .get k name, _ =>
    rcases Action.run_get w k name with hrun | ⟨b, hb, hrun⟩
    · rw [hrun w.store]
      exact h
    · rw [hrun w.store]
      exact put_fresh h hb
  | .setGauge id g, _ => exact fun x ↦ (x.held_setGauge _ id g).symm ▸ h x
  | .updateCounter id f, _ => exact fun x ↦ (x.held_setCounter _ id _).symm ▸ h x
  | .mark id n, _ => exact fun x ↦ (x.held_setMeter _ id _).symm ▸ h x
  | .updateHistogram id v, _ => exact h.setHistogram ((h (.histogram id)).update v)
  | .updateTimer id d, _ => exact h.setTimer ((h (.timer id)).update d.word)
  | .record (.histogram id) v, _ => exact h.setHistogram ((h (.histogram id)).record v)
  | .record (.timer id) v, _ => exact h.setTimer ((h (.timer id)).record v)
  | .take (.histogram id), _ => exact h.setHistogram (h (.histogram id)).read.2
  | .take (.timer id), _ => exact h.setTimer (h (.timer id)).read.2
  | .give (.histogram id) _, ⟨ρ, hρ, hr⟩ =>
    exact h.setHistogram ((h (.histogram id)).restore (hr ▸ hρ.sound.read.1))
  | .give (.timer id) _, ⟨ρ, hρ, hr⟩ =>
    exact h.setTimer ((h (.timer id)).restore (hr ▸ hρ.sound.read.1))

/-- A tick leaves the reservoirs sound. -/
theorem tick (h : s.world.store.Sound) (t : Tick) : (s.step (.tick t)).world.store.Sound := by
  intro x
  obtain ⟨cause, -, htick⟩ | ⟨code, d, -, htick⟩ := s.tick_cases t
  · obtain ⟨rs, ρ, hreads, hheld⟩ := htick.held x
    obtain ⟨hρ, hrs⟩ := hreads.sound (h x)
    rw [hheld, Histogram.foldl_restore, Histogram.foldl_update]
    exact (hρ.foldl_update _).foldl_restore hrs
  · obtain ⟨ρ, hreads, hheld⟩ := htick.held x
    rw [hheld, Histogram.foldl_update]
    exact (hreads.sound (h x)).1.foldl_update _

theorem step (h : s.world.store.Sound) {e : Event} (he : e.Legal) :
    (s.step e).world.store.Sound := by
  cases e with
  | act a => exact h.act he
  | tick t => exact h.tick t
  | setFilter f => exact h

/-- **All reservoirs are sound after any legal events.** -/
theorem run (h : s.world.store.Sound) {events : List Event} (hlegal : ∀ e ∈ events, e.Legal) :
    (s.run events).world.store.Sound := by
  induction events generalizing s with
  | nil => exact h
  | cons e events ih =>
    exact ih (h.step (hlegal e List.mem_cons_self)) fun e' he' ↦
      hlegal e' (List.mem_cons_of_mem _ he')

end Store.Sound

theorem World.Reachable.sound (h : w.Reachable) : w.store.Sound := by
  induction h with
  | empty =>
    intro x
    cases x <;> exact Reservoir.made_default.sound
  | act _ ha ih => exact ih.act ha

/-- What a new reporter is, and what it adds to the world. -/
theorem Reporter.create_eq_ok_iff {settings : Settings} {w w' : World} {r : Reporter} :
    Reporter.create settings w = .ok (r, w') ↔ settings.check = .ok () ∧
      ∃ transport, Transport.create settings = .ok transport ∧
        r = { presentation := settings.presentation, transport
              stats := (Stats.create w.now w.store).1, ledger := .new settings.skipUnchanged } ∧
        w' = { w with store := (Stats.create w.now w.store).2 } := by
  unfold Reporter.create
  rcases settings.check with cause | -
  · simp [bind, Except.bind]
  · rcases Transport.create settings with cause | transport
    · simp [bind, Except.bind]
    · simp only [bind, Except.bind, pure, Except.pure, Except.ok.injEq, Prod.mk.injEq, true_and,
        exists_eq_left', eq_comm]

/-- The metrics of a new reporter are sound. -/
theorem Store.Sound.create {st : Store} (h : st.Sound) (now : Span) :
    (Stats.create now st).2.Sound := by
  intro x
  show (x.held (Store.setGauge _ _ _)).reservoir.Sound
  rw [Source.held_setGauge, Source.held_setCounter]
  refine Store.Sound.setHistogram ?_ (Reservoir.sound_ofLayout _ (by decide)) x
  intro y
  rw [Source.held_setMeter]
  exact h.setTimer Reservoir.made_default.sound y

/-- **All reservoirs of a reachable system are sound.** -/
theorem System.Reachable.sound (h : s.Reachable) : s.world.store.Sound := by
  induction h with
  | create hw hr =>
    obtain ⟨-, _, -, rfl, rfl⟩ := Reporter.create_eq_ok_iff.1 hr
    exact hw.sound.create _
  | step _ he ih => exact ih.step he

end Telemetry
