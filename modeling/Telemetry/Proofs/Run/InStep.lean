import Mathlib
import Telemetry.Proofs.Run.View

/-!
# Ledger and reservoirs stay in step

With suppression, a source whose count is the one last delivered is left out, its reservoir unread.
That this loses nothing rests on a relation between three things kept apart: the count of the
source, the count that the ledger has under its name, and the number of values pending in its
reservoir.

`Histogram.InStep` says that the values pending are those counted since the ledger was last told. A
step adds to both sides the values fed; a tick that is acknowledged and had the source in its report
empties the reservoir and tells the ledger the count (`Drafted.latest_counts`); any other tick
leaves both alone, or gives back what it took.

The relation needs that one name and one source belong together in every catalogue reported
(`Catalogue.OnlyName`).
-/

namespace Telemetry

/-- Among the metrics of a catalogue that have a count, a name leads to a source, and no other name
does. -/
structure Catalogue.OnlyName (c : Catalogue) (x : Source) (name : String) : Prop where
  counters : ∀ e ∈ c.counters, e.1 ≠ name
  meters : ∀ e ∈ c.meters, e.1 ≠ name
  sources : ∀ e ∈ Presentation.sources c, e.1 = name ↔ e.2 = x

namespace Presentation

/-- A counter that is seen stands in the list under that name. -/
theorem mem_countersSeen {e : Setting} {s : Store} {l : List (String × MetricId Counter)}
    {v : String × UInt64} (hv : v ∈ countersSeen e s l) : ∃ id, (v.1, id) ∈ l := by
  induction l generalizing s with
  | nil => exact absurd hv List.not_mem_nil
  | cons c l ih =>
    obtain ⟨name, id⟩ := c
    rw [countersSeen] at hv
    rcases List.mem_cons.1 hv with rfl | hv
    · exact ⟨id, List.mem_cons_self⟩
    · obtain ⟨id', hid'⟩ := ih hv
      exact ⟨id', List.mem_cons_of_mem _ hid'⟩

theorem mem_metersSeen {s : Store} {l : List (String × MetricId Meter)} {v : String × UInt64}
    (hv : v ∈ metersSeen s l) : ∃ id, (v.1, id) ∈ l := by
  obtain ⟨m, hm, rfl⟩ := List.mem_map.1 hv
  exact ⟨m.2, hm⟩

variable {p : Presentation} {e : Setting} {c : Catalogue} {s : Store} {d : Draft} {x : Source}
  {name : String}

/-- A count under the name of a source is the count of the source. -/
theorem Drafted.eq_of_mem_counts (hd : p.Drafted e c s d) (hc : c.OnlyName x name)
    {v : String × UInt64} (hv : v ∈ d.report.counts) (hname : v.1 = name) :
    v.2 = x.count s ∧ ∃ r ∈ d.report.sourceRecords, r.name = name := by
  rcases List.mem_append.1 hv with hv | hv
  · rcases List.mem_append.1 hv with hv | hv
    · rw [hd.counters] at hv
      obtain ⟨id, hid⟩ := mem_countersSeen (List.mem_filter.1 hv).1
      exact absurd hname (hc.counters _ hid)
    · rw [hd.meters] at hv
      obtain ⟨id, hid⟩ := mem_metersSeen (List.mem_filter.1 hv).1
      exact absurd hname (hc.meters _ hid)
  · have hrecord := hv
    rw [hd.sampled, seen_sources] at hv
    obtain ⟨y, hy, rfl⟩ := List.mem_map.1 (List.mem_filter.1 hv).1
    obtain ⟨r, hr, hrname⟩ := List.mem_map.1 hrecord
    refine ⟨by rw [(hc.sources y hy).1 hname], r, hr, ?_⟩
    rw [← hname, ← hrname]

/-- **The report has a count under the name of a source if and only if the source was read**, and
it is the count of the source. -/
theorem Drafted.latest_counts (hd : p.Drafted e c s d) (hc : c.OnlyName x name) :
    latest d.report.counts name = if x.readings d.taken = [] then none else some (x.count s) := by
  split
  · next hnone =>
    refine latest_eq_none fun v hv hname ↦ ?_
    obtain ⟨-, r, hr, hrname⟩ := hd.eq_of_mem_counts hc hv hname
    obtain ⟨t, ht, hrt⟩ := hd.exists_reading hr
    have htx : t.1 = x := (hc.sources _ hrt.mem).1 hrname
    have hmem : t.2 ∈ x.readings d.taken :=
      List.mem_map.2 ⟨t, List.mem_filter.2 ⟨ht, by simpa using htx⟩, rfl⟩
    rw [hnone] at hmem
    exact absurd hmem List.not_mem_nil
  · next hsome =>
    obtain ⟨a, ha⟩ := List.exists_mem_of_ne_nil _ hsome
    obtain ⟨t, ht, -⟩ := List.mem_map.1 ha
    obtain ⟨ht, htx⟩ := List.mem_filter.1 ht
    obtain ⟨r, hr, hrt⟩ := hd.exists_record ht
    have hrname : r.name = name := (hc.sources _ hrt.mem).2 (by simpa using htx)
    have hmem : (r.name, r.count) ∈ d.report.counts :=
      List.mem_append_right _ (List.mem_map.2 ⟨r, hr, rfl⟩)
    have hcount := (hd.eq_of_mem_counts hc hmem hrname).1
    rw [hrname, show r.count = x.count s from hcount] at hmem
    exact latest_eq_some hmem fun v hv hname ↦ (hd.eq_of_mem_counts hc hv hname).1

end Presentation

/-- In every catalogue that is reported, a name leads to a source and no other name does. -/
def Event.OnlyName (x : Source) (name : String) (s : System) : Event → Prop
  | tick t => (s.reporter.subject t s.world).OnlyName x name
  | _ => True

/-- What a tick is about has no metric with a count under the name. -/
def Event.Unnamed (name : String) (s : System) : Event → Prop
  | tick t => name ∉ (s.reporter.subject t s.world).countedNames
  | _ => True

/-- The count that the ledger has under a name, zero if it has none. -/
def Ledger.committed (l : Ledger) (name : String) : Nat :=
  ((l.last? name).getD 0).toNat

/-- The values pending in a histogram are those counted since a ledger was last told under a
name. -/
structure Histogram.InStep (h : Histogram) (ledger : Ledger) (name : String) (l : Hdr.Layout) :
    Prop where
  enabled : ledger.isEnabled
  countsBy : h.reservoir.CountsBy l
  balance : h.reservoir.pendingTotal + ledger.committed name = h.count.toNat

namespace Histogram.InStep

variable {h h' : Histogram} {ledger : Ledger} {name : String} {l : Hdr.Layout} {rs : List Reading}
  {ρ : Reservoir}

/-- Values that are fed change both sides of the balance alike, as long as the count is a word. -/
theorem of_fed (hh : h.InStep ledger name l) {vs : List UInt64}
    (hcount : h'.count = h.count + .ofNat vs.length) (hl : h'.reservoir.CountsBy l)
    (hpending : ∀ i, h'.reservoir.pending i =
      min (h.reservoir.pending i + vs.countP fun v ↦ l.index v.toNat = i) maxWord)
    (hfew : h.count.toNat + vs.length < 2 ^ 64) : h'.InStep ledger name l := by
  have hbalance := hh.balance
  have hmax : maxWord = 2 ^ 64 - 1 := rfl
  have htotal : h'.reservoir.pendingTotal = h.reservoir.pendingTotal + vs.length := by
    refine Reservoir.pendingTotal_add (f := fun v ↦ l.index v.toNat) fun i ↦ ?_
    have h₁ := h.reservoir.pending_le_total i
    have h₂ : vs.countP (fun v ↦ l.index v.toNat = i) ≤ vs.length := List.countP_le_length
    rw [hpending, Nat.min_eq_left (by omega)]
  have hword : h'.count.toNat = h.count.toNat + vs.length := by
    have hlength : (UInt64.ofNat vs.length).toNat = vs.length :=
      UInt64.toNat_ofNat_of_lt' (show vs.length < 2 ^ 64 by omega)
    rw [hcount, UInt64.toNat_add, hlength, Nat.mod_eq_of_lt hfew]
  exact ⟨hh.enabled, hl, by omega⟩

theorem foldl_update (hh : h.InStep ledger name l) {vs : List UInt64}
    (hfew : h.count.toNat + vs.length < 2 ^ 64) :
    (vs.foldl Histogram.update h).InStep ledger name l := by
  rw [Histogram.foldl_update]
  exact hh.of_fed rfl (hh.countsBy.foldl_update vs)
    (Reservoir.pending_foldl_update hh.countsBy vs) hfew

/-- What is taken and given back does not show. -/
theorem of_failed (hh : h.InStep ledger name l) (hreads : h.reservoir.Reads rs ρ)
    {vs : List UInt64} (hfew : h.count.toNat + vs.length < 2 ^ 64) :
    (rs.foldl Histogram.restore (vs.foldl Histogram.update ⟨h.count, ρ⟩)).InStep ledger name l := by
  obtain ⟨hρ, hrs⟩ := hreads.countsBy hh.countsBy
  have hfed := hρ.foldl_update vs
  rw [Histogram.foldl_restore, Histogram.foldl_update]
  refine hh.of_fed rfl (hfed.foldl_restore hrs) (fun i ↦ ?_) hfew
  have h₁ := hreads.covered_add_pending hh.countsBy i
  have h₂ := Reservoir.pending_foldl_update hρ vs i
  have h₃ := Reservoir.pending_foldl_restore hfed hrs i
  rw [h₃, h₂]
  omega

/-- **What is taken for good is told to the ledger.** -/
theorem of_delivered (hh : h.InStep ledger name l) (hreads : h.reservoir.Reads rs ρ)
    {staged : Staged}
    (htold : latest staged.entries name = if rs = [] then none else some h.count) :
    Histogram.InStep ⟨h.count, ρ⟩ (ledger.commit staged) name l := by
  refine ⟨(Ledger.isEnabled_commit _ _).trans hh.enabled, (hreads.countsBy hh.countsBy).1, ?_⟩
  rw [Ledger.committed, Ledger.last?_commit hh.enabled, htold]
  by_cases hnone : rs = []
  · rw [if_pos hnone]
    subst hnone
    cases hreads
    exact hh.balance
  · rw [if_neg hnone]
    have hempty := Reservoir.pendingTotal_eq_zero fun i ↦
      hreads.pending_eq_zero hh.countsBy hnone i
    rw [hempty]
    exact Nat.zero_add _

/-- A source that is left out has nothing pending. -/
theorem pendingTotal_eq_zero (hh : h.InStep ledger name l)
    (hsame : ledger.unchanged name h.count) : h.reservoir.pendingTotal = 0 := by
  have hbalance := hh.balance
  rw [Ledger.committed, Ledger.unchanged_iff.1 hsame, Option.getD_some] at hbalance
  omega

end Histogram.InStep

namespace System

variable {s : System} {x : Source} {l : Hdr.Layout} {name : String} {events : List Event}
  {e : Event}

/-- The count of a source moves with the values that it is fed. -/
theorem count_step (hx : x.handle.In s.world.store) (hspares : e.Spares x s) :
    (x.held (s.step e).world.store).count =
      (x.held s.world.store).count + .ofNat (s.feeds x e).length := by
  cases e with
  | act a =>
    have hheld := held_act hx hspares
    rw [Histogram.foldl_update] at hheld
    exact congrArg Histogram.count hheld
  | setFilter f => exact (UInt64.add_zero _).symm
  | tick t =>
    obtain ⟨cause, -, htick⟩ | ⟨code, d, -, htick⟩ := s.tick_cases t
    · obtain ⟨rs, ρ, -, hheld⟩ := htick.held x
      rw [Histogram.foldl_restore, Histogram.foldl_update] at hheld
      exact congrArg Histogram.count hheld
    · obtain ⟨ρ, -, hheld⟩ := htick.held x
      rw [Histogram.foldl_update] at hheld
      exact congrArg Histogram.count hheld

/-- **Every step keeps ledger and reservoir in step.** -/
theorem inStep_step (h : (x.held s.world.store).InStep s.reporter.ledger name l)
    (hx : x.handle.In s.world.store) (hspares : e.Spares x s) (hname : e.OnlyName x name s)
    (hfew : (x.held s.world.store).count.toNat + (s.feeds x e).length < 2 ^ 64) :
    (x.held (s.step e).world.store).InStep (s.step e).reporter.ledger name l := by
  cases e with
  | act a =>
    show (x.held (a.run s.world).store).InStep s.reporter.ledger name l
    rw [held_act hx hspares]
    exact h.foldl_update hfew
  | setFilter f => exact h
  | tick t =>
    obtain ⟨cause, -, htick⟩ | ⟨code, d, -, htick⟩ := s.tick_cases t
    · obtain ⟨rs, ρ, hreads, hheld⟩ := htick.held x
      rw [hheld, htick.reporter]
      exact h.of_failed hreads hfew
    · obtain ⟨ρ, hreads, hheld⟩ := htick.held x
      have htold := htick.drafted.latest_counts hname
      rw [← htick.drafted.entries_staged h.enabled, x.count_eq] at htold
      rw [hheld, htick.reporter]
      exact (h.of_delivered hreads htold).foldl_update hfew

/-- A source that is fresh, and of whose name the ledger knows nothing, stays in step with the
ledger, and its count is the number of values that it is fed. -/
theorem inStep_run (hon : s.reporter.ledger.isEnabled)
    (hnew : s.reporter.ledger.last? name = none) (hx : x.handle.In s.world.store)
    (hl : (x.held s.world.store).reservoir.CountsBy l)
    (hempty : ∀ i, (x.held s.world.store).reservoir.pending i = 0)
    (hcount : x.count s.world.store = 0) (hspares : s.Along (Event.Spares x) events)
    (hname : s.Along (Event.OnlyName x name) events) (hfew : (s.fed x events).length < 2 ^ 64) :
    (x.held (s.run events).world.store).InStep (s.run events).reporter.ledger name l ∧
      (x.held (s.run events).world.store).count.toNat = (s.fed x events).length := by
  rw [x.count_eq] at hcount
  induction events using List.reverseRecOn with
  | nil =>
    refine ⟨⟨hon, hl, ?_⟩, by rw [run_nil, hcount]; rfl⟩
    rw [run_nil, Reservoir.pendingTotal_eq_zero hempty, Ledger.committed, hnew, hcount]
    rfl
  | append_singleton events e ih =>
    obtain ⟨hspares, hspares'⟩ := along_concat.1 hspares
    obtain ⟨hname, hname'⟩ := along_concat.1 hname
    have hfed : s.fed x (events ++ [e]) = s.fed x events ++ (s.run events).feeds x e :=
      collect_concat _ s events e
    rw [hfed, List.length_append] at hfew
    obtain ⟨hstep, hfed'⟩ := ih hspares hname (by omega)
    have hx' := isIn_run hx events
    rw [run_concat, hfed, List.length_append]
    refine ⟨inStep_step hstep hx' hspares' hname' (by omega), ?_⟩
    -- the count is a word and does not wrap around, as too few values are fed
    have hlength : (UInt64.ofNat ((s.run events).feeds x e).length).toNat =
        ((s.run events).feeds x e).length :=
      UInt64.toNat_ofNat_of_lt' (show _ < 2 ^ 64 by omega)
    rw [count_step hx' hspares', UInt64.toNat_add, hlength, hfed', Nat.mod_eq_of_lt hfew]

/-- Of a name under which nothing was reported the collector knows nothing. -/
theorem view_eq_none_of_unnamed (h : s.Along (Event.Unnamed name) events) :
    s.view events name = none := by
  induction events using List.reverseRecOn with
  | nil => rfl
  | append_singleton events e ih =>
    obtain ⟨hbefore, he⟩ := along_concat.1 h
    cases e with
    | act a => rw [view_of_silent (e := .act a) rfl, ih hbefore]
    | setFilter f => rw [view_of_silent (e := .setFilter f) rfl, ih hbefore]
    | tick t =>
      obtain ⟨cause, -, htick⟩ | ⟨code, d, -, htick⟩ := (s.run events).tick_cases t
      · rw [view_of_silent htick.deliveries, ih hbefore]
      · have hnone : latest d.report.counts name = none := by
          refine latest_eq_none fun v hv hname ↦ he ?_
          rw [htick.drafted.counts] at hv
          rw [← names_seen, ← hname]
          exact List.mem_map_of_mem (List.mem_filter.1 hv).1
        rw [view_concat, htick.deliveries, List.flatMap_singleton, hnone, ih hbefore]
        rfl

/-- **Ledger and reservoir stay in step.** Let a source be fresh at some point in the run of a
suppressing reporter, and let nothing have been reported under its name until then. From then on the
values pending are at every point those counted since the ledger was last told, and when the source
is left out as unchanged there are none. -/
theorem pending_eq_count_sub_committed {before : List Event}
    (hfresh : s.reporter.ledger = .new true) (hunnamed : s.Along (Event.Unnamed name) before)
    (hx : x.handle.In (s.run before).world.store)
    (hl : (x.held (s.run before).world.store).reservoir.CountsBy l)
    (hempty : ∀ i, (x.held (s.run before).world.store).reservoir.pending i = 0)
    (hcount : x.count (s.run before).world.store = 0)
    (hspares : (s.run before).Along (Event.Spares x) events)
    (hname : (s.run before).Along (Event.OnlyName x name) events)
    (hfew : ((s.run before).fed x events).length < 2 ^ 64) :
    (x.held (s.run (before ++ events)).world.store).reservoir.pendingTotal =
        (x.count (s.run (before ++ events)).world.store).toNat -
          (s.run (before ++ events)).reporter.ledger.committed name ∧
      (s.run (before ++ events)).reporter.ledger.committed name ≤
        (x.count (s.run (before ++ events)).world.store).toNat ∧
      ((s.run (before ++ events)).reporter.ledger.unchanged name
          (x.count (s.run (before ++ events)).world.store) →
        (x.held (s.run (before ++ events)).world.store).reservoir.pendingTotal = 0) := by
  obtain ⟨hon, hledger⟩ := ledger_run hfresh before
  have hnew : (s.run before).reporter.ledger.last? name = none := by
    rw [hledger, view_eq_none_of_unnamed hunnamed]
  obtain ⟨hstep, -⟩ := inStep_run hon hnew hx hl hempty hcount hspares hname hfew
  have hbalance := hstep.balance
  rw [run_append, x.count_eq]
  exact ⟨by omega, by omega, hstep.pendingTotal_eq_zero⟩

/-- Two values of three were delivered, the first of them at the second attempt. -/
theorem pending_eq_count_sub_committed_small :
    let before := [.tick { catalogue := some {} }]
    let events := [.act (.updateHistogram ⟨0⟩ 7), .tick { reply := .status 503 },
      .act (.updateHistogram ⟨0⟩ 9), .tick {}, .act (.updateHistogram ⟨0⟩ 9)]
    ((Source.histogram ⟨0⟩).held
      ((small true).run (before ++ events)).world.store).reservoir.pendingTotal = 3 - 2 := by
  intro before events
  have hunnamed : (small true).Along (Event.Unnamed "h") before := by
    simp only [before, along_cons, along_nil, Event.Unnamed, and_true]
    decide
  have hspares : ((small true).run before).Along (Event.Spares (.histogram ⟨0⟩)) events := by
    simp [events, along_cons, along_nil, Event.Spares, Action.Spares]
  have hname : ((small true).run before).Along (Event.OnlyName (.histogram ⟨0⟩) "h") events := by
    simp only [events, along_cons, along_nil, Event.OnlyName, true_and, and_true]
    exact ⟨⟨by decide, by decide, by decide⟩, by decide, by decide, by decide⟩
  have hfew := length_fed_le ((small true).run before) (.histogram ⟨0⟩) events
  have hempty : ∀ i, ((Source.histogram ⟨0⟩).held
      ((small true).run before).world.store).reservoir.pending i = 0 := fun i ↦ rfl
  have hl : ((Source.histogram ⟨0⟩).held ((small true).run before).world.store).reservoir.CountsBy
      BinnedReservoir.defaultLayout := ⟨rfl, rfl, fun i ↦ Nat.zero_le _⟩
  have h := pending_eq_count_sub_committed rfl hunnamed (isIn_run (small_isIn true) before) hl
    hempty rfl hspares hname (Nat.lt_of_le_of_lt hfew (by decide))
  exact h.1.trans (by decide)

end System

end Telemetry
