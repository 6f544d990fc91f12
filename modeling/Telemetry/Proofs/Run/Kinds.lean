import Mathlib
import Telemetry.Proofs.Run.View

/-!
# What a collector knows of metrics of a kind

A name may lead to metrics of different kinds at different times, and counts are remembered by name
alone. So a metric is left out if its count is the last that was acknowledged *under its name*,
though it may have been told of a metric of another kind (`System.NotTold.left_out`). What is left
out is known by name, and it is known by kind and name if the last record under the name was of this
kind (`System.NotTold.known`).

The two views differ if a name is removed and comes back as another kind with the same count: the
metric is left out then, though no report had a record of it (`System.not_told_of_kind_small`).
-/

namespace Telemetry

/-! ### Records and their kinds -/

namespace Report

/-- What the records of a report are about, gauges aside: kinds, names and counts. -/
def entries (r : Report) : List (Kind × String × UInt64) :=
  r.counters.map (fun x ↦ (.counter, x.name, x.count)) ++
    r.meters.map (fun x ↦ (.meter, x.name, x.count)) ++
    (r.histograms.map (fun x ↦ (.histogram, x.name, x.count)) ++
      r.timers.map fun x ↦ (.timer, x.name, x.count))

theorem snd_entries (r : Report) : r.entries.map Prod.snd = r.counts := by
  simp only [entries, counts, sourceRecords, List.map_append, List.map_map]
  rfl

end Report

/-- In a list of what records are about, this is the last one under its name. -/
def IsLast (l : List (Kind × String × UInt64)) (k : Kind) (v : String × UInt64) : Prop :=
  ∃ before after, l = before ++ (k, v) :: after ∧ ∀ u ∈ after, u.2.1 ≠ v.1

namespace IsLast

variable {l l' : List (Kind × String × UInt64)} {k : Kind} {v : String × UInt64}

theorem mem (h : IsLast l k v) : (k, v) ∈ l := by
  obtain ⟨before, after, rfl, -⟩ := h
  simp

/-- The last count of a kind, if none of another kind follows it, is the last count under its name.
-/
theorem latest_map (h : IsLast l k v) : latest (l.map Prod.snd) v.1 = some v.2 := by
  obtain ⟨before, after, rfl, hafter⟩ := h
  have hnone : latest (after.map Prod.snd) v.1 = none := by
    refine latest_eq_none fun u hu ↦ ?_
    obtain ⟨w, hw, rfl⟩ := List.mem_map.1 hu
    exact hafter w hw
  rw [List.map_append, List.map_cons, List.append_cons, latest_append, hnone, latest_concat,
    if_pos rfl]
  rfl

/-- Where a name has a latest count, there is a last record under it. -/
theorem exists_of_latest (h : latest (l.map Prod.snd) v.1 = some v.2) : ∃ k, IsLast l k v := by
  induction l using List.reverseRecOn with
  | nil => cases h
  | append_singleton l u ih =>
    rw [List.map_append, List.map_singleton, latest_concat] at h
    by_cases hname : v.1 = u.2.1
    · rw [if_pos hname] at h
      have hv : u = (u.1, v) := Prod.ext rfl (Prod.ext hname.symm (Option.some.inj h))
      exact ⟨u.1, l, [], by rw [← hv], nofun⟩
    · rw [if_neg hname] at h
      obtain ⟨k, before, after, rfl, hafter⟩ := ih h
      refine ⟨k, before, after ++ [u], by simp, fun w hw ↦ ?_⟩
      rcases List.mem_append.1 hw with hw | hw
      · exact hafter w hw
      · rw [List.mem_singleton.1 hw]
        exact Ne.symm hname

/-- The last of its name is the last of its name and kind. -/
theorem filter (h : IsLast l k v) : IsLast (l.filter fun u ↦ u.1 = k) k v := by
  obtain ⟨before, after, rfl, hafter⟩ := h
  refine ⟨before.filter fun u ↦ u.1 = k, after.filter fun u ↦ u.1 = k, ?_, fun u hu ↦
    hafter u (List.mem_filter.1 hu).1⟩
  rw [List.filter_append, List.filter_cons_of_pos (by simp)]

/-- The last of two lists is in the second one, or the last of the first one. -/
theorem mem_or_of_append (h : IsLast (l ++ l') k v) : (k, v) ∈ l' ∨ IsLast l k v := by
  obtain ⟨before, after, heq, hafter⟩ := h
  obtain ⟨rest, rfl, hrest⟩ | ⟨rest, rfl, hrest⟩ := List.append_eq_append_iff.1 heq
  · exact .inl (by simp [hrest])
  · cases rest with
    | nil =>
      rw [List.nil_append] at hrest
      exact .inl (hrest ▸ List.mem_cons_self)
    | cons u rest =>
      obtain ⟨rfl, rfl⟩ := List.cons.inj hrest
      exact .inr ⟨before, rest, rfl, fun u hu ↦ hafter u (List.mem_append_left _ hu)⟩

end IsLast

/-! ### Runs -/

namespace System

/-- What a tick meets, gauges aside: kinds, names and counts. -/
def metrics (s : System) (t : Tick) : List (Kind × String × UInt64) :=
  let e := s.reporter.setting s.world
  let c := s.reporter.subject t s.world
  (Presentation.countersSeen e s.world.store c.counters).map (Prod.mk .counter) ++
    (Presentation.metersSeen s.world.store c.meters).map (Prod.mk .meter) ++
    ((Presentation.histogramsSeen s.world.store c.histograms).map (Prod.mk .histogram) ++
      (Presentation.timersSeen s.world.store c.timers).map (Prod.mk .timer))

/-- What the acknowledged reports of a run told, one record after the other. -/
def told (s : System) (events : List Event) : List (Kind × String × UInt64) :=
  (s.acknowledged events).flatMap fun a ↦ a.2.entries

/-- What a collector knows that keeps the latest count for each kind and name. -/
def kindView (s : System) (events : List Event) (k : Kind) : String → Option UInt64 :=
  latest (((s.told events).filter fun u ↦ u.1 = k).map Prod.snd)

variable {s : System} {events : List Event} {t : Tick}

theorem snd_metrics (s : System) (t : Tick) : (s.metrics t).map Prod.snd = s.seen t := by
  simp [metrics, seen, Presentation.seen, List.map_append, Function.comp_def]

theorem view_eq (s : System) (events : List Event) :
    s.view events = latest ((s.told events).map Prod.snd) := by
  rw [view, told, List.map_flatMap]
  simp only [Report.snd_entries]

/-- The records of a report are about the metrics that it picks. -/
theorem Picks.entries {p : String × UInt64 → Bool} {report : Report} (h : s.Picks t p report) :
    report.entries = (s.metrics t).filter fun v ↦ p v.2 := by
  have hpart : ∀ {α : Type} {l : List α} {k : Kind} {f : α → String × UInt64}
      {seen : List (String × UInt64)}, l.map f = seen.filter p →
        l.map (fun x ↦ (k, f x)) = (seen.map (Prod.mk k)).filter fun v ↦ p v.2 := by
    intro α l k f seen hl
    rw [List.filter_map]
    exact (List.map_map (f := f) (g := Prod.mk k)).symm.trans (congrArg (List.map _) hl)
  simp only [metrics, List.filter_append]
  exact congrArg₂ (· ++ ·) (congrArg₂ (· ++ ·) (hpart h.counters) (hpart h.meters))
    (congrArg₂ (· ++ ·) (hpart h.histograms) (hpart h.timers))

/-- What a report that is made after some events leaves out, and what is known once it was
acknowledged. -/
structure NotTold (s : System) (before : List Event) (t : Tick) : Prop where
  /-- A metric is left out only if its count is in the last record that was acknowledged under its
  name, of whatever kind that was. -/
  left_out : ∀ report, ((s.run before).outcome t).report = some report →
    ∀ v ∈ (s.run before).metrics t, v ∉ report.entries →
      ∃ k, IsLast (s.told before) k v.2 ∧ (k, v.2) ∈ s.told before
  /-- Once the report is acknowledged, the last record under the name of a metric has its count. It
  is of its kind, or stood there before, and if it is of its kind the view by kinds has the count
  too. -/
  known : Event.Distinct (s.run before) (.tick t) →
    ∀ code, ((s.run before).outcome t).result = .ok code → ∀ v ∈ (s.run before).metrics t,
      ∃ k, IsLast (s.told (before ++ [.tick t])) k v.2 ∧
        (k = v.1 ∨ IsLast (s.told before) k v.2) ∧
        (k = v.1 → s.kindView (before ++ [.tick t]) v.1 v.2.1 = some v.2.2)

/-- **What is not told was told before under the same name.** -/
theorem notTold (hfresh : s.reporter.ledger = .new true) (before : List Event) (t : Tick) :
    s.NotTold before t := by
  have htick := suppressedTick hfresh before t
  refine ⟨fun report hreport v hv hout ↦ ?_, fun hdistinct code hresult v hv ↦ ?_⟩
  · have hview : s.view before v.2.1 = some v.2.2 := by
      by_contra hnews
      refine hout ((htick.report report hreport).entries ▸ List.mem_filter.2 ⟨hv, ?_⟩)
      simpa [isNews] using hnews
    rw [view_eq] at hview
    obtain ⟨k, hlast⟩ := IsLast.exists_of_latest hview
    exact ⟨k, hlast, hlast.mem⟩
  · have hseen : v.2 ∈ (s.run before).seen t := snd_metrics _ t ▸ List.mem_map_of_mem hv
    have hview := htick.view hdistinct code hresult v.2 hseen
    rw [view_eq] at hview
    obtain ⟨k, hlast⟩ := IsLast.exists_of_latest hview
    refine ⟨k, hlast, ?_, ?_⟩
    · obtain ⟨d, hdelivered⟩ := deliveredTick hresult
      have htold : s.told (before ++ [.tick t]) = s.told before ++ d.report.entries := by
        rw [told, acknowledged, collect_concat, hdelivered.deliveries, List.flatMap_append,
          List.flatMap_singleton]
        rfl
      rw [htold] at hlast
      refine hlast.mem_or_of_append.imp_left fun hmem ↦ ?_
      -- names stand once, so the record in this report is that of the metric itself
      rw [(htick.report d.report hdelivered.report).entries] at hmem
      have hnames : (((s.run before).metrics t).map fun u ↦ u.2.1).Nodup := by
        have := Reporter.distinct_subject (r := (s.run before).reporter)
          (w := (s.run before).world) hdistinct
        rwa [Catalogue.Distinct, ← names_seen, ← snd_metrics, List.map_map] at this
      exact congrArg Prod.fst (List.inj_on_of_nodup_map hnames (List.mem_filter.1 hmem).1 hv rfl)
    · rintro rfl
      exact hlast.filter.latest_map

/-- A counter whose name comes back as a meter with the same count, after it was reported. -/
def renamed : List Event :=
  [.tick {}, .act (.remove "c"), .act (.get .meter "c")]

/-- The meter is left out, and what was told under its name was a counter. -/
theorem notTold_small :
    ∃ k, IsLast ((small true).told renamed) k ("c", 0) ∧
      (k, "c", 0) ∈ (small true).told renamed := by
  obtain ⟨report, hreport⟩ :
      ∃ report, (((small true).run renamed).outcome {}).report = some report := by
    refine Option.isSome_iff_exists.1 ?_
    decide +kernel
  have hleft : ∀ r ∈ (((small true).run renamed).outcome {}).report,
      (.meter, "c", 0) ∉ r.entries := by
    decide +kernel
  exact (notTold (s := small true) rfl renamed {}).left_out report hreport (.meter, "c", 0)
    (by decide +kernel) (hleft report hreport)

/-- **A metric may be left out though no report had a record of its kind and name.** -/
theorem not_told_of_kind_small :
    (small true).reporter.ledger = .new true ∧
      (.meter, "c", 0) ∈ ((small true).run renamed).metrics {} ∧
      (((small true).run renamed).outcome {}).report.any (fun r ↦
        (.meter, "c", 0) ∉ r.entries) = true ∧
      ∀ u ∈ (small true).told renamed, u.1 ≠ .meter :=
  ⟨rfl, by decide +kernel⟩

end System

end Telemetry
