import Mathlib
import Telemetry.Proofs.Draft.Filtered
import Telemetry.Proofs.Run.Accounting
import Telemetry.Proofs.Run.Sharing

/-!
# What a filter rejects stays as it is

A filtered tick is about the catalogue of the registry behind the filter. So it enters no rejected
name into the ledger (`System.last?_tick`), and writes to no rejected metric, unless the reporter
keeps that about itself (`System.cell_tick`).

**Runs.** Registrations, and changes of the filter, may move a metric in and out of sight. As long as
each tick of a run rejects a name, the ledger says of it what it said before. As long as each tick
rejects a source, the run does nothing to it but feed it, so that all its values stay pending
(`System.held_run`).
-/

namespace Telemetry

namespace Event

/-- A tick is about the metrics of the registry, and looks at them through a filter which rejects the
name. -/
def RejectsName (name : String) (s : System) : Event → Prop
  | tick t => t.catalogue = none ∧ ∃ f, s.reporter.filter = some f ∧
    s.world.registry.RejectsName f name
  | _ => True

/-- A tick is about the metrics of the registry, and looks at them through a filter which rejects the
metric. -/
def RejectsMetric (h : Handle) (s : System) : Event → Prop
  | tick t => t.catalogue = none ∧ ∃ f, s.reporter.filter = some f ∧
    s.world.registry.RejectsMetric f h
  | _ => True

end Event

namespace System

variable {s : System} {events : List Event} {t : Tick} {f : Filter} {name : String} {h : Handle}
  {x : Source}

theorem subject_of_filter (ht : t.catalogue = none) (hf : s.reporter.filter = some f) :
    s.reporter.subject t s.world = s.world.registry.catalogueWhere f := by
  rw [Reporter.subject, ht, Option.getD_none, Reporter.catalogue, hf]

/-- **No rejected name enters the ledger.** -/
theorem last?_tick (hname : Event.RejectsName name s (.tick t)) :
    (s.step (.tick t)).reporter.ledger.last? name = s.reporter.ledger.last? name := by
  obtain ⟨ht, f, hf, hname⟩ := hname
  obtain ⟨cause, -, htick⟩ | ⟨code, d, -, htick⟩ := s.tick_cases t
  · rw [htick.reporter]
  · rw [htick.reporter]
    refine Ledger.last?_commit_of_unnamed fun hmem ↦ hname.not_mem ?_
    have hd := htick.drafted
    rw [subject_of_filter ht hf] at hd
    exact hd.names_subset (hd.staged_subset hmem)

/-- **A rejected metric is as it was**, unless the reporter keeps it about itself. -/
theorem cell_tick (hh : Event.RejectsMetric h s (.tick t)) (hown : ¬s.reporter.stats.Owns h) :
    (s.step (.tick t)).world.store.cell h = s.world.store.cell h := by
  obtain ⟨ht, f, hf, hh⟩ := hh
  let P (y : Handle) : Prop := s.reporter.stats.Owns y ∨ y ∈ (s.reporter.subject t s.world).handles
  have hwrites : s.world.store.Writes P (s.step (.tick t)).world.store :=
    (s.reporter.tick_spec t s.world).writes (fun _ ↦ .inl) fun _ ↦ .inr
  refine hwrites.cell_eq ?_
  rintro (hmem | hmem)
  · exact hown hmem
  · rw [subject_of_filter ht hf] at hmem
    exact hh.not_mem hmem

theorem held_of_cell_eq {st st' : Store} (hcell : st'.cell x.handle = st.cell x.handle) :
    x.held st' = x.held st := by
  cases x with
  | histogram id => exact (Cell.histogram.inj hcell).2
  | timer id => exact congrArg Timer.histogram (Cell.timer.inj hcell).2

/-- **A name that each tick rejects does not enter the ledger.** -/
theorem last?_run (hname : s.Along (Event.RejectsName name) events) :
    (s.run events).reporter.ledger.last? name = s.reporter.ledger.last? name := by
  induction events using List.reverseRecOn with
  | nil => rfl
  | append_singleton events e ih =>
    obtain ⟨hevents, he⟩ := along_concat.1 hname
    rw [run_concat, ← ih hevents]
    cases e with
    | act a => rfl
    | tick t => exact last?_tick he
    | setFilter f => rfl

/-- **A source that each tick rejects is only fed.** -/
theorem held_run (hx : x.handle.In s.world.store) (hown : ¬s.reporter.stats.Owns x.handle)
    (hspares : s.Along (Event.Spares x) events)
    (hrejects : s.Along (Event.RejectsMetric x.handle) events) :
    x.held (s.run events).world.store =
      (s.fed x events).foldl Histogram.update (x.held s.world.store) := by
  induction events using List.reverseRecOn with
  | nil => rfl
  | append_singleton events e ih =>
    obtain ⟨hspares, he⟩ := along_concat.1 hspares
    obtain ⟨hrejects, he'⟩ := along_concat.1 hrejects
    rw [run_concat, fed, collect_concat, List.foldl_append]
    rw [fed] at ih
    rw [← ih hspares hrejects]
    cases e with
    | act a => exact held_act (isIn_run hx events) he
    | tick t =>
      have hown' : ¬(s.run events).reporter.stats.Owns x.handle := by rwa [stats_run]
      rw [feeds_tick_of_not_owns hown']
      exact held_of_cell_eq (cell_tick he' hown')
    | setFilter f => rfl

end System

/-! ### A filter in place of another registry -/

namespace Reporter

variable {f : Filter} {r' : Registry} {w : World}

/-- What a tick comes to, with another filter and another registry. -/
def exchange (filter : Option Filter) (registry : Registry) (result : Outcome × Reporter × World) :
    Outcome × Reporter × World :=
  (result.1, { result.2.1 with filter }, { result.2.2 with registry })

/-- Sending looks at neither filter nor registry. -/
theorem deliver_exchange (r : Reporter) (filter : Option Filter) (registry : Registry)
    (reply : Reply) (elapsed : Span) (d : Draft) (w : World) :
    { r with filter }.deliver reply elapsed d { w with registry } =
      exchange filter registry (r.deliver reply elapsed d w) := by
  unfold deliver
  dsimp only [Transport.send]
  cases reply with
  | status code =>
    dsimp only [verdict]
    split <;> rfl
  | _ => rfl

/-- **A tick behind a filter is a tick on a registry that holds what the filter accepts**, with the
filter and the registry exchanged. -/
theorem tick_filter (r : Reporter) (t : Tick) (hr' : r'.HoldsAccepted w.registry f) :
    { r with filter := some f }.tick t w =
      exchange (some f) w.registry ({ r with filter := none }.tick t { w with registry := r' }) := by
  have hsame : { r with filter := some f }.drafting t w =
      { r with filter := none }.drafting t { w with registry := r' } := by
    have hcatalogue := Registry.catalogueWhere_eq_catalogue hr'
    show r.presentation.draft _ _ _ _ (t.catalogue.getD (w.registry.catalogueWhere f)) _ = _
    rw [hcatalogue]
    rfl
  rcases hdraft : { r with filter := none }.drafting t { w with registry := r' } with
    ⟨cause | d, st⟩
  · rw [tick_of_error _ _ _ hdraft, tick_of_error _ _ _ (hsame.trans hdraft)]
    rfl
  · rw [tick_of_ok _ _ _ hdraft, tick_of_ok _ _ _ (hsame.trans hdraft)]
    exact deliver_exchange { r with filter := none } (some f) w.registry t.reply t.elapsed d
      { w with store := st, registry := r' }

end Reporter

/-! ### All of it -/

namespace System

/-- What does not depend on the metrics that a filter rejects, and does not touch them, in the state
of a system. -/
structure SparesRejected (s : System) (f : Filter) (r' : Registry) : Prop where
  /-- Whoever puts a report together behind the filter gets the one on the registry without the
  rejected metrics. -/
  draft_eq : ∀ (p : Presentation) (e : Presentation.Setting) timestamp status alerts,
    p.draft e timestamp status alerts (s.world.registry.catalogueWhere f) s.world.store =
      p.draft e timestamp status alerts r'.catalogue s.world.store
  /-- It leaves them alone, whether it comes about or not. -/
  drafts : ∀ (p : Presentation) (e : Presentation.Setting) timestamp status alerts,
    p.FilteredDraft e s.world.registry f s.world.store
      (p.draft e timestamp status alerts (s.world.registry.catalogueWhere f) s.world.store)
  /-- A tick behind the filter is one on the registry without the rejected metrics. -/
  tick_eq : ∀ t, { s.reporter with filter := some f }.tick t s.world =
    Reporter.exchange (some f) s.world.registry
      ({ s.reporter with filter := none }.tick t { s.world with registry := r' })
  /-- It leaves them alone, whatever becomes of it. -/
  ticks : ∀ t h, t.catalogue = none → s.world.registry.RejectsMetric f h →
    ¬s.reporter.stats.Owns h →
    ({ s.reporter with filter := some f }.tick t s.world).2.2.store.cell h = s.world.store.cell h

/-- In every state, filtering is having a registry of what the filter accepts. -/
theorem sparesRejected {s : System} {f : Filter} {r' : Registry}
    (hr' : r'.HoldsAccepted s.world.registry f) : s.SparesRejected f r' where
  draft_eq p e timestamp status alerts := by rw [Registry.catalogueWhere_eq_catalogue hr']
  drafts p e timestamp status alerts := p.filteredDraft e s.world.registry f s.world.store _ _ _
  tick_eq t := s.reporter.tick_filter t hr'
  ticks t h ht hh hown :=
    cell_tick (s := s.step (.setFilter f)) (t := t) ⟨ht, f, rfl, hh⟩ hown

/-- **Filtering commutes with reporting and touches nothing else.** In the state of a system after
any run, a report on what a filter accepts is the one on a registry that holds nothing else, and
leaves the rest alone. Over the run, a name that each tick rejects does not enter the ledger, and a
source that each tick rejects is only fed, so that all values stay pending. -/
theorem filtering_spares {s : System} {events : List Event} {f : Filter} {r' : Registry}
    (hr' : r'.HoldsAccepted (s.run events).world.registry f) {name : String}
    (hname : s.Along (Event.RejectsName name) events) {x : Source}
    (hx : x.handle.In s.world.store) (hown : ¬s.reporter.stats.Owns x.handle)
    (hspares : s.Along (Event.Spares x) events)
    (hrejects : s.Along (Event.RejectsMetric x.handle) events) :
    (s.run events).SparesRejected f r' ∧
      (s.run events).reporter.ledger.last? name = s.reporter.ledger.last? name ∧
      x.held (s.run events).world.store =
        (s.fed x events).foldl Histogram.update (x.held s.world.store) ∧
      ∀ l, (x.held s.world.store).reservoir.CountsBy l → ∀ i,
        (s.run events).pending x i = min (s.pending x i + s.fedTo x l events i) maxWord := by
  have hheld := held_run hx hown hspares hrejects
  refine ⟨sparesRejected hr', last?_run hname, hheld, fun l hl i ↦ ?_⟩
  rw [pending, hheld, Histogram.foldl_update]
  exact Reservoir.pending_foldl_update hl _ i

/-- Only counters are accepted, so a value of the histogram stays pending when a report is
delivered. -/
theorem filtering_spares_small :
    let s := small true
    let events : List Event :=
      [.setFilter (Filter.ofKind .counter), .act (.updateHistogram ⟨0⟩ 7), .tick {}]
    (s.run events).SparesRejected (Filter.ofKind .counter)
        ⟨s.world.registry.names.filter (Filter.ofKind .counter)⟩ ∧
      (s.run events).reporter.ledger.last? "h" = none ∧
      (s.run events).pending (.histogram ⟨0⟩) 7 = 1 := by
  intro s events
  let before : System := s.run [.setFilter (Filter.ofKind .counter), .act (.updateHistogram ⟨0⟩ 7)]
  have hregistry : (s.run events).world.registry = s.world.registry := by
    obtain ⟨store, hworld⟩ := world_tick before {}
    exact (congrArg World.registry hworld :)
  have hr' : (⟨s.world.registry.names.filter (Filter.ofKind .counter)⟩ : Registry).HoldsAccepted
      (s.run events).world.registry (Filter.ofKind .counter) := fun name ↦ by
    rw [hregistry]
    exact s.world.registry.find?_filter _ name
  have hname : s.Along (Event.RejectsName "h") events := by
    refine along_cons.2 ⟨trivial, along_cons.2 ⟨trivial, along_cons.2 ⟨⟨rfl, _, rfl, ?_⟩,
      along_nil _ _⟩⟩⟩
    intro h hh
    obtain rfl : Handle.histogram ⟨0⟩ = h := Option.some.inj hh
    rfl
  have hmetric : s.Along (Event.RejectsMetric (.histogram ⟨0⟩)) events :=
    along_cons.2 ⟨trivial, along_cons.2 ⟨trivial, along_cons.2
      ⟨⟨rfl, _, rfl, fun _ _ ↦ rfl⟩, along_nil _ _⟩⟩⟩
  have hspares : s.Along (Event.Spares (.histogram ⟨0⟩)) events := by
    simp [events, along_cons, along_nil, Event.Spares, Action.Spares]
  have hown : Handle.histogram ⟨0⟩ ∉ s.reporter.stats.set.map (·.2) := by decide
  obtain ⟨hsystem, hledger, -, hpending⟩ := filtering_spares (x := .histogram ⟨0⟩) hr' hname
    (small_isIn true) hown hspares hmetric
  exact ⟨hsystem, hledger, (hpending _ (small_countsBy true) 7).trans (by decide)⟩

end System

end Telemetry
