import Mathlib
import Telemetry.Proofs.Catalogue
import Telemetry.Proofs.Hdr.Payload

/-!
# Every sample is delivered once

A reporter that sends counts since the last reading has three places for a sample: the reservoir,
the readings taken for the report under way, and the reports that were acknowledged. Ticks move
samples from the first to the second, and from there to the third or back to the first.

**The account of a source.** For each bin, `System.pending` is what the reservoir holds,
`System.delivered` what the payloads of acknowledged reports say under the names of the source, and
`System.fedTo` the values it was fed. No step of a run changes the balance
(`pending_add_delivered_step`), so it holds at every point of a run (`pending_add_delivered_run`).

Records are told apart by their names, so the names of each kind have to be distinct in a catalogue
that a tick is given (`Event.Keyed`); in those of a registry they are.
-/

namespace Telemetry

/-! ### What a report says of a bin -/

namespace Presentation

/-- What the payload of a record says of a bin. -/
def SourceRecord.binCount (r : SourceRecord) (i : Nat) : Nat :=
  ((r.payload.bind Hdr.Payload.decode?).map fun c ↦ c.counts.getD i 0).getD 0

/-- **The payload of a record says what the reading took.** -/
theorem IsRecordOf.binCount_eq {p : Presentation} {l : List (String × Source)} {r : SourceRecord}
    {t : Source × Reading} (h : p.IsRecordOf l r t) (hmode : p.mode = .snapshot) (ht : t.2.Sound)
    (i : Nat) : r.binCount i = t.2.covered i := by
  obtain ⟨d, hdigest, hpayload⟩ := h.digest
  rw [SourceRecord.binCount, hpayload]
  revert hdigest ht
  cases t.2 with
  | sampled values =>
    intro _ hdigest
    cases hdigest
    rfl
  | binned total sinceLast =>
    intro hs hdigest
    rw [hmode] at hdigest
    simp only [Reading.digest, Reading.projection, reduceCtorEq, if_false] at hdigest
    rcases hencode : Hdr.Payload.encode? sinceLast with - | payload
    · rw [hencode] at hdigest
      cases hdigest
    · rw [hencode] at hdigest
      cases hdigest
      obtain ⟨content, hdecode, -, hcounts⟩ := Hdr.Payload.decode_encode hs.2 hencode
      show ((Hdr.Payload.decode? payload).map _).getD 0 = sinceLast.count i
      rw [hdecode]
      exact hcounts i

end Presentation

namespace Report

/-- The records that a report has of a source, under the names it has in a catalogue. -/
def recordsOf (r : Report) (c : Catalogue) (x : Source) : List Presentation.SourceRecord :=
  r.sourceRecords.filter fun a ↦ a.kind = x.handle.kind ∧ (a.name, x) ∈ Presentation.sources c

section Records

variable {p : Presentation} {e : Presentation.Setting} {c : Catalogue} {s : Store} {d : Draft}
  {x : Source}

/-- A source that readings were taken of has records in the report. -/
theorem recordsOf_ne_nil (hd : p.Drafted e c s d) (hx : x.readings d.taken ≠ []) :
    d.report.recordsOf c x ≠ [] := by
  obtain ⟨reading, hreading⟩ := List.exists_mem_of_ne_nil _ hx
  obtain ⟨u, hu, -⟩ := List.mem_map.1 hreading
  obtain ⟨hu, hux⟩ := List.mem_filter.1 hu
  obtain ⟨a, ha, hrecord⟩ := hd.exists_record hu
  obtain rfl : u.1 = x := by simpa using hux
  exact List.ne_nil_of_mem (List.mem_filter.2 ⟨ha, by simpa using ⟨hrecord.kind, hrecord.mem⟩⟩)

/-- No other source has, if names of each kind are distinct. -/
theorem recordsOf_eq_nil (hc : c.Keyed) (hd : p.Drafted e c s d) (hx : x.readings d.taken = []) :
    d.report.recordsOf c x = [] := by
  by_contra hne
  obtain ⟨a, ha⟩ := List.exists_mem_of_ne_nil _ hne
  obtain ⟨ha, habout⟩ := List.mem_filter.1 ha
  obtain ⟨hkind, hmem⟩ : a.kind = x.handle.kind ∧ (a.name, x) ∈ Presentation.sources c := by
    simpa using habout
  obtain ⟨u, hu, hrecord⟩ := hd.exists_reading ha
  obtain rfl := hc.eq_of_mem hrecord.mem hmem (hrecord.kind.symm.trans hkind)
  exact List.ne_nil_of_mem (List.mem_map.2 ⟨u, List.mem_filter.2 ⟨hu, by simp⟩, rfl⟩) hx

end Records

/-- What the payloads of a report say of a bin of a source. -/
def binCount (r : Report) (c : Catalogue) (x : Source) (i : Nat) : Nat :=
  ((r.recordsOf c x).map fun a ↦ a.binCount i).sum

/-- **The payloads under the names of a source say what the readings of it took.** -/
theorem binCount_eq {p : Presentation} {c : Catalogue} (hc : c.Keyed) (hmode : p.mode = .snapshot)
    {r : Report} {taken : List (Source × Reading)}
    (hpairs : List.Forall₂ (p.IsRecordOf (Presentation.sources c)) r.sourceRecords taken)
    (hsound : ∀ t ∈ taken, t.2.Sound) (x : Source) (i : Nat) :
    r.binCount c x i = ((x.readings taken).map fun a ↦ a.covered i).sum := by
  rw [binCount, recordsOf]
  generalize r.sourceRecords = records at hpairs
  induction hpairs with
  | nil => rfl
  | @cons a t records taken hat _ ih =>
    have ih := ih fun u hu ↦ hsound u (List.mem_cons_of_mem _ hu)
    -- names are distinct, so the record is about the source if and only if the reading is of it
    have hiff : (a.kind = x.handle.kind ∧ (a.name, x) ∈ Presentation.sources c) ↔ t.1 = x := by
      constructor
      · rintro ⟨hkind, hmem⟩
        exact hc.eq_of_mem hat.mem hmem (hat.kind.symm.trans hkind)
      · rintro rfl
        exact ⟨hat.kind, hat.mem⟩
    rw [Source.readings_cons x t.1 t.2 taken]
    by_cases hx : t.1 = x
    · rw [List.filter_cons_of_pos (by simpa using hiff.2 hx), if_pos hx, List.map_cons,
        List.sum_cons, List.map_cons, List.sum_cons, ih,
        hat.binCount_eq hmode (hsound t List.mem_cons_self)]
    · rw [List.filter_cons_of_neg (by simpa using fun h₁ h₂ ↦ hx (hiff.1 ⟨h₁, h₂⟩)), if_neg hx, ih]

end Report

/-! ### The account of a source -/

namespace System

/-- What a bin of a source holds since the last reading. -/
def pending (s : System) (x : Source) (i : Nat) : Nat :=
  (x.held s.world.store).reservoir.pending i

/-- What the acknowledged reports of a run say of a bin of a source. -/
def delivered (s : System) (x : Source) (events : List Event) (i : Nat) : Nat :=
  ((s.acknowledged events).map fun a ↦ a.2.binCount a.1 x i).sum

/-- How many of the values that a source was fed in a run fall into a bin. -/
def fedTo (s : System) (x : Source) (l : Hdr.Layout) (events : List Event) (i : Nat) : Nat :=
  (s.fed x events).countP fun v ↦ l.index v.toNat = i

/-- At no point of a run would a bin have to hold more than a word can tell. -/
def HasRoom (s : System) (x : Source) (l : Hdr.Layout) (events : List Event) : Prop :=
  ∀ before after, events = before ++ after → ∀ i,
    s.pending x i + s.fedTo x l before i ≤ s.delivered x before i + maxWord

variable {s : System} {x : Source} {l : Hdr.Layout} {events : List Event} {e : Event}

theorem delivered_concat (s : System) (x : Source) (events : List Event) (e : Event) (i : Nat) :
    s.delivered x (events ++ [e]) i =
      s.delivered x events i + (((s.run events).deliveries e).map fun a ↦ a.2.binCount a.1 x i).sum := by
  rw [delivered, acknowledged, collect_concat, List.map_append, List.sum_append]
  rfl

theorem fedTo_concat (s : System) (x : Source) (l : Hdr.Layout) (events : List Event) (e : Event)
    (i : Nat) :
    s.fedTo x l (events ++ [e]) i =
      s.fedTo x l events i + ((s.run events).feeds x e).countP fun v ↦ l.index v.toNat = i := by
  rw [fedTo, fed, collect_concat, List.countP_append]
  rfl

/-- A step keeps how the reservoir of a source counts, and what it takes from a bin it delivers. -/
structure Balances (s : System) (x : Source) (l : Hdr.Layout) (e : Event) : Prop where
  counts : (x.held (s.step e).world.store).reservoir.CountsBy l
  balance (i : Nat) :
    s.pending x i + ((s.feeds x e).countP fun v ↦ l.index v.toNat = i) ≤
        ((s.deliveries e).map fun a ↦ a.2.binCount a.1 x i).sum + maxWord →
      (s.step e).pending x i + ((s.deliveries e).map fun a ↦ a.2.binCount a.1 x i).sum =
        s.pending x i + (s.feeds x e).countP fun v ↦ l.index v.toNat = i

/-- An action that does not take from the source feeds it at most. -/
theorem balances_act {a : Action} (hx : x.handle.In s.world.store)
    (hl : (x.held s.world.store).reservoir.CountsBy l) (hspares : Event.Spares x s (.act a)) :
    s.Balances x l (.act a) := by
  have hheld := held_act hx hspares
  rw [Histogram.foldl_update] at hheld
  refine ⟨by rw [step, hheld]; exact hl.foldl_update _, fun i hroom ↦ ?_⟩
  have hpending := Reservoir.pending_foldl_update hl (a.feeds x) i
  simp only [deliveries, feeds, List.map_nil, List.sum_nil, pending] at hroom ⊢
  rw [step, hheld, hpending]
  omega

/-- A tick that fails puts back what it took, so nothing is told of and nothing is missing. -/
theorem FailedTick.balances {t : Tick} (h : s.FailedTick t)
    (hl : (x.held s.world.store).reservoir.CountsBy l) : s.Balances x l (.tick t) := by
  obtain ⟨rs, ρ, hreads, hheld⟩ := h.held x
  obtain ⟨hρ, hrs⟩ := hreads.countsBy hl
  rw [Histogram.foldl_restore, Histogram.foldl_update] at hheld
  have hfed := hρ.foldl_update (s.feeds x (.tick t))
  refine ⟨by rw [hheld]; exact hfed.foldl_restore hrs, fun i hroom ↦ ?_⟩
  have h₁ := hreads.covered_add_pending hl i
  have h₂ := Reservoir.pending_foldl_update hρ (s.feeds x (.tick t)) i
  have h₃ := Reservoir.pending_foldl_restore hfed hrs i
  rw [h.deliveries] at hroom ⊢
  simp only [pending, List.map_nil, List.sum_nil] at hroom ⊢
  rw [hheld, h₃, h₂]
  omega

/-- A tick that delivers tells of what it took. -/
theorem DeliveredTick.balances {t : Tick} {d : Draft} (h : s.DeliveredTick t d)
    (hmode : s.reporter.presentation.mode = .snapshot) (hsound : s.world.store.Sound)
    (hkeyed : (s.reporter.subject t s.world).Keyed)
    (hl : (x.held s.world.store).reservoir.CountsBy l) : s.Balances x l (.tick t) := by
  obtain ⟨ρ, hreads, hheld⟩ := h.held x
  obtain ⟨hρ, -⟩ := hreads.countsBy hl
  rw [Histogram.foldl_update] at hheld
  refine ⟨by rw [hheld]; exact hρ.foldl_update _, fun i hroom ↦ ?_⟩
  have htaken : ∀ u ∈ d.taken, u.2.Sound := by
    intro u hu
    obtain ⟨ρ', hreads', -⟩ := h.held u.1
    refine (hreads'.sound (hsound u.1)).2 u.2 ?_
    exact List.mem_map.2 ⟨u, List.mem_filter.2 ⟨hu, by simp⟩, rfl⟩
  have hbins := d.report.binCount_eq hkeyed hmode h.drafted.pairs htaken x i
  have h₁ := hreads.covered_add_pending hl i
  have h₂ := Reservoir.pending_foldl_update hρ (s.feeds x (.tick t)) i
  rw [h.deliveries] at hroom ⊢
  simp only [pending, List.map_cons, List.map_nil, List.sum_cons, List.sum_nil, hbins] at hroom ⊢
  rw [hheld, h₂]
  omega

/-- **No step changes the balance** of what is pending and delivered against what was fed. -/
theorem pending_add_delivered_step (hmode : s.reporter.presentation.mode = .snapshot)
    (hsound : s.world.store.Sound) (hx : x.handle.In s.world.store)
    (hl : (x.held s.world.store).reservoir.CountsBy l) (hspares : e.Spares x s)
    (hkeyed : e.Keyed s) : s.Balances x l e := by
  cases e with
  | act a => exact balances_act hx hl hspares
  | setFilter f =>
    refine ⟨hl, fun i _ ↦ ?_⟩
    simp [deliveries, feeds, pending, step]
  | tick t =>
    obtain ⟨cause, -, htick⟩ | ⟨code, d, -, htick⟩ := s.tick_cases t
    · exact htick.balances hl
    · exact htick.balances hmode hsound (Reporter.keyed_subject hkeyed) hl

/-- **Every sample is delivered once.** At every point of a run, what a bin of a source holds and
what acknowledged reports said of it are together what it held in the beginning and what it was fed
since, as long as its counts are words. -/
theorem pending_add_delivered_run (hs : s.Reachable)
    (hmode : s.reporter.presentation.mode = .snapshot) (hx : x.handle.In s.world.store)
    (hl : (x.held s.world.store).reservoir.CountsBy l) (hlegal : ∀ e ∈ events, e.Legal)
    (hspares : s.Along (Event.Spares x) events) (hkeyed : s.Along Event.Keyed events)
    (hroom : s.HasRoom x l events) (i : Nat) :
    (s.run events).pending x i + s.delivered x events i =
      s.pending x i + s.fedTo x l events i := by
  suffices h : (x.held (s.run events).world.store).reservoir.CountsBy l ∧
      ∀ i, (s.run events).pending x i + s.delivered x events i =
        s.pending x i + s.fedTo x l events i from h.2 i
  induction events using List.reverseRecOn with
  | nil => exact ⟨hl, fun i ↦ rfl⟩
  | append_singleton events e ih =>
    obtain ⟨hspares, hspares'⟩ := along_concat.1 hspares
    obtain ⟨hkeyed, hkeyed'⟩ := along_concat.1 hkeyed
    obtain ⟨hcounts, hbalance⟩ := ih (fun e' he' ↦ hlegal e' (List.mem_append_left _ he')) hspares
      hkeyed fun before after h ↦ hroom before (after ++ [e]) (by rw [h, List.append_assoc])
    have hsound : (s.run events).world.store.Sound :=
      hs.sound.run fun e' he' ↦ hlegal e' (List.mem_append_left _ he')
    obtain ⟨hcounts', hstep⟩ := pending_add_delivered_step (e := e)
      ((congrArg Presentation.mode (presentation_run s events)).trans hmode) hsound
      (isIn_run hx events) hcounts hspares' hkeyed'
    rw [run_concat]
    refine ⟨hcounts', fun i ↦ ?_⟩
    have hlast := hroom (events ++ [e]) [] (List.append_nil _).symm i
    have hbefore := hbalance i
    have hafter := hstep i
    rw [delivered_concat, fedTo_concat] at hlast ⊢
    omega

/-- There is room where there are few enough steps, since no step feeds more than one value. -/
theorem hasRoom_of_length_le (h : ∀ i, s.pending x i + events.length ≤ maxWord) :
    s.HasRoom x l events := by
  intro before after hsplit i
  have hfed : s.fedTo x l before i ≤ before.length :=
    List.countP_le_length.trans (length_fed_le s x before)
  have hlength : before.length ≤ events.length := by
    rw [hsplit, List.length_append]
    exact Nat.le_add_right _ _
  have := h i
  omega

/-- Two values of one bin, the first of which was read in vain before. -/
theorem pending_add_delivered_small :
    let events := [.act (.updateHistogram ⟨0⟩ 7), .tick { reply := .status 503 },
      .act (.updateHistogram ⟨0⟩ 7), .tick {}]
    ((small true).run events).pending (.histogram ⟨0⟩) 7 +
      (small true).delivered (.histogram ⟨0⟩) events 7 = 2 := by
  intro events
  have hlegal : ∀ e ∈ events, e.Legal := by simp [events, Event.Legal, Action.Legal]
  have hspares : (small true).Along (Event.Spares (.histogram ⟨0⟩)) events := by
    simp [events, along_cons, along_nil, Event.Spares, Action.Spares]
  have hkeyed : (small true).Along Event.Keyed events := by
    simp [events, along_cons, along_nil, Event.Keyed]
  have hroom : (small true).HasRoom (.histogram ⟨0⟩) BinnedReservoir.defaultLayout events :=
    hasRoom_of_length_le fun _ ↦ show 0 + 4 ≤ maxWord by decide
  have h := pending_add_delivered_run (small_reachable true) rfl (small_isIn true)
    (small_countsBy true) hlegal hspares hkeyed hroom 7
  exact h.trans (by decide)

end System

end Telemetry
