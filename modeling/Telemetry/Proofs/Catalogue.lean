import Mathlib
import Telemetry.Proofs.Run.Step

/-!
# Names of a catalogue

In the catalogue of a registry no name stands twice, whatever the filter. The names of one kind are
those of the registry with others left out (`Catalogue.select_sublist`), and no metric is of two
kinds, so no name is found under two of them.

Two grades of this are needed. Records of one kind are told apart by their names if those of each
kind are distinct (`Catalogue.Keyed`). Counts are remembered by name alone, so for them the names of
all metrics with a count have to be distinct (`Catalogue.Distinct`).
-/

namespace Telemetry

namespace Catalogue

variable {c : Catalogue} {entries : List (String × Handle)} {name : String} {x y : Source}

/-- No two histograms of the catalogue have one name, and no two timers. -/
structure Keyed (c : Catalogue) : Prop where
  histograms : (c.histograms.map (·.1)).Nodup
  timers : (c.timers.map (·.1)).Nodup

/-- The names of all metrics that have a count. -/
def countedNames (c : Catalogue) : List String :=
  c.counters.map (·.1) ++ c.meters.map (·.1) ++ (Presentation.sources c).map (·.1)

/-- No two metrics of the catalogue that have a count have one name. -/
def Distinct (c : Catalogue) : Prop :=
  c.countedNames.Nodup

/-- A choice among metrics picks those of one kind. -/
def Picks {α : Type} (pick : Handle → Option (MetricId α)) (k : Kind) : Prop :=
  ∀ h, (pick h).isSome → h.kind = k

theorem picks_counter : Picks Handle.counter? .counter := by
  rintro (_ | _ | _ | _ | _) h <;> first | rfl | cases h

theorem picks_meter : Picks Handle.meter? .meter := by
  rintro (_ | _ | _ | _ | _) h <;> first | rfl | cases h

theorem picks_histogram : Picks Handle.histogram? .histogram := by
  rintro (_ | _ | _ | _ | _) h <;> first | rfl | cases h

theorem picks_timer : Picks Handle.timer? .timer := by
  rintro (_ | _ | _ | _ | _) h <;> first | rfl | cases h

/-- The names of the metrics picked are some of the names, in the same order. -/
theorem select_sublist {α : Type} (pick : Handle → Option (MetricId α))
    (entries : List (String × Handle)) :
    ((select pick entries).map (·.1)).Sublist (entries.map (·.1)) := by
  induction entries with
  | nil => exact .slnil
  | cons e entries ih =>
    rw [select, List.filterMap_cons]
    cases pick e.2 with
    | none => exact ih.cons _
    | some id => exact ih.cons_cons _

/-- A name among them is that of a metric that was picked. -/
theorem mem_names_select {α : Type} {pick : Handle → Option (MetricId α)}
    (hname : name ∈ (select pick entries).map (·.1)) :
    ∃ h, (name, h) ∈ entries ∧ (pick h).isSome := by
  obtain ⟨e, he, rfl⟩ := List.mem_map.1 hname
  obtain ⟨e', he', hpick⟩ := List.mem_filterMap.1 he
  obtain ⟨id, hid, rfl⟩ := Option.map_eq_some_iff.1 hpick
  exact ⟨e'.2, he', by rw [hid]; rfl⟩

/-- The names of two kinds have nothing in common. -/
theorem names_ne {α β : Type} {pick : Handle → Option (MetricId α)}
    {pick' : Handle → Option (MetricId β)} {k k' : Kind} (hpick : Picks pick k)
    (hpick' : Picks pick' k') (hk : k ≠ k') (hentries : (entries.map (·.1)).Nodup) :
    ∀ a ∈ (select pick entries).map (·.1), ∀ b ∈ (select pick' entries).map (·.1), a ≠ b := by
  rintro a ha _ hb rfl
  obtain ⟨h, hmem, hsome⟩ := mem_names_select ha
  obtain ⟨h', hmem', hsome'⟩ := mem_names_select hb
  have heq : h = h' := congrArg Prod.snd (List.inj_on_of_nodup_map hentries hmem hmem' rfl)
  exact hk ((hpick h hsome).symm.trans (heq ▸ hpick' h' hsome'))

/-- The names of sources are those of histograms and those of timers. -/
theorem names_sources (c : Catalogue) :
    (Presentation.sources c).map (·.1) = c.histograms.map (·.1) ++ c.timers.map (·.1) := by
  rw [Presentation.sources, List.map_append, List.map_map, List.map_map]
  rfl

theorem keyed_ofEntries (h : (entries.map (·.1)).Nodup) : (ofEntries entries).Keyed :=
  ⟨h.sublist (select_sublist _ entries), h.sublist (select_sublist _ entries)⟩

/-- If names are distinct, those of metrics with a count are, whatever their kinds. -/
theorem distinct_ofEntries (h : (entries.map (·.1)).Nodup) : (ofEntries entries).Distinct := by
  have hsub : ∀ {α : Type} (pick : Handle → Option (MetricId α)),
      ((select pick entries).map (·.1)).Nodup := fun pick ↦ h.sublist (select_sublist pick entries)
  rw [Distinct, countedNames, names_sources]
  refine List.nodup_append.2 ⟨List.nodup_append.2 ⟨hsub _, hsub _, ?_⟩,
    List.nodup_append.2 ⟨hsub _, hsub _, ?_⟩, ?_⟩
  · exact names_ne picks_counter picks_meter (by decide) h
  · exact names_ne picks_histogram picks_timer (by decide) h
  · intro a ha b hb
    rcases List.mem_append.1 ha with ha | ha <;> rcases List.mem_append.1 hb with hb | hb
    · exact names_ne picks_counter picks_histogram (by decide) h a ha b hb
    · exact names_ne picks_counter picks_timer (by decide) h a ha b hb
    · exact names_ne picks_meter picks_histogram (by decide) h a ha b hb
    · exact names_ne picks_meter picks_timer (by decide) h a ha b hb

/-- One name of a kind leads to one source. -/
theorem Keyed.eq_of_mem (h : c.Keyed) (hx : (name, x) ∈ Presentation.sources c)
    (hy : (name, y) ∈ Presentation.sources c) (hkind : x.handle.kind = y.handle.kind) : x = y := by
  have key : ∀ {α : Type} {l : List (String × α)} {a b : α}, (l.map (·.1)).Nodup →
      (name, a) ∈ l → (name, b) ∈ l → a = b := by
    intro α l a b hl ha hb
    exact congrArg Prod.snd (List.inj_on_of_nodup_map hl ha hb rfl)
  cases x with
  | histogram a =>
    cases y with
    | histogram b =>
      have hmem : ∀ {id}, (name, Source.histogram id) ∈ Presentation.sources c →
          (name, id) ∈ c.histograms := by
        intro id hid
        simpa [Presentation.sources] using hid
      rw [key h.histograms (hmem hx) (hmem hy)]
    | timer b => exact absurd hkind (by simp [Source.handle, Handle.kind])
  | timer a =>
    cases y with
    | histogram b => exact absurd hkind (by simp [Source.handle, Handle.kind])
    | timer b =>
      have hmem : ∀ {id}, (name, Source.timer id) ∈ Presentation.sources c →
          (name, id) ∈ c.timers := by
        intro id hid
        simpa [Presentation.sources] using hid
      rw [key h.timers (hmem hx) (hmem hy)]

end Catalogue

/-- The names that a draft meets are those of the metrics that have a count. -/
theorem Presentation.names_seen (e : Setting) (s : Store) (c : Catalogue) :
    (seen e s c).map (·.1) = c.countedNames := by
  rw [seen, List.map_append, List.map_append, names_countersSeen, Catalogue.countedNames, metersSeen,
    seen_sources, List.map_map, List.map_map]
  rfl

/-! ### What a tick is about -/

namespace Reporter

variable {r : Reporter} {t : Tick} {w : World}

/-- What is true of the entries of every registry is true of what a tick without a catalogue of its
own is about. -/
theorem subject_of_ofEntries {P : Catalogue → Prop}
    (hP : ∀ entries : List (String × Handle), (entries.map (·.1)).Nodup → P (.ofEntries entries))
    (h : ∀ c, t.catalogue = some c → P c) : P (r.subject t w) := by
  unfold subject
  cases hc : t.catalogue with
  | some c => exact h c hc
  | none =>
    show P (r.catalogue w)
    unfold catalogue
    split
    · exact hP _ (Name.Map.nodup_names _ List.filter_sublist)
    · exact hP _ (Name.Map.nodup_names _ (List.Sublist.refl _))

/-- **The names in a registry are distinct**, so those that a tick is about are if those of a
catalogue that it is given are. -/
theorem keyed_subject (h : ∀ c, t.catalogue = some c → c.Keyed) : (r.subject t w).Keyed :=
  subject_of_ofEntries (fun _ ↦ Catalogue.keyed_ofEntries) h

/-- **So no two metrics with a count that a tick is about have one name**, if none in a catalogue
that it is given have. -/
theorem distinct_subject (h : ∀ c, t.catalogue = some c → c.Distinct) :
    (r.subject t w).Distinct :=
  subject_of_ofEntries (fun _ ↦ Catalogue.distinct_ofEntries) h

end Reporter

namespace Event

/-- In a catalogue that a tick is given, no two sources of a kind have one name. -/
def Keyed (_ : System) : Event → Prop
  | tick t => ∀ c, t.catalogue = some c → c.Keyed
  | _ => True

/-- In a catalogue that a tick is given, no two metrics with a count have one name. -/
def Distinct (_ : System) : Event → Prop
  | tick t => ∀ c, t.catalogue = some c → c.Distinct
  | _ => True

end Event

end Telemetry
