import Mathlib
import Telemetry.Proofs.Registry.Call

/-!
# What names and catalogues come to

Between calls to the registry, programs make metrics that have no name yet and write to metrics that
they hold on to, and time goes by (`World.Moment`). All metrics that such a run is about exist:
names lead to metrics of the store only (`World.Closed`).

**A name keeps its metric** until it is removed, so all who ask for it meanwhile get that very
metric (`World.names_after`). When it is given again later, then to a metric that is new.

**A catalogue that was kept shows what its metrics are now.** Nothing that happens to names changes
a metric, so a metric is what was last written to it, under whichever name (`World.cell_after`).
-/

namespace Telemetry

namespace World

/-- What happens to a world with a registry. -/
inductive Moment where
  | call (c : Registry.Call)
  /-- A new metric, under no name yet. -/
  | make (b : Blueprint)
  /-- Somebody who holds on to a metric writes to it. -/
  | write (c : Cell)
  | advance (d : Span)

/-- The world after a moment. -/
def next (w : World) : Moment → World
  | .call c => (w.call c).2
  | .make b => { w with store := w.store.put (w.fresh b) }
  | .write c => { w with store := w.store.put c }
  | .advance d => w.advance d

/-- The world after some moments. -/
def after (w : World) (moments : List Moment) : World :=
  moments.foldl next w

/-- The metrics that a moment brings along are those of the store. -/
def Moment.Legal (w : World) : Moment → Prop
  | .call c => ∀ h ∈ c.brings, h.In w.store
  | .write c => c.handle.In w.store
  | _ => True

/-- Moments follow one another in which only metrics of the store are brought along. -/
def Legal (w : World) : List Moment → Prop
  | [] => True
  | m :: moments => m.Legal w ∧ (w.next m).Legal moments

/-- Names lead to metrics of the store. -/
def Closed (w : World) : Prop :=
  ∀ name h, w.names name = some h → h.In w.store

/-- What a moment writes to a metric. -/
def Moment.written (h : Handle) : Moment → Option Cell
  | .write c => if h = c.handle then some c else none
  | _ => none

/-- What a metric was last written to be, or else was at first. -/
def lastWritten (h : Handle) (first : Cell) (moments : List Moment) : Cell :=
  (moments.filterMap (Moment.written h)).getLastD first

variable {w : World} {m : Moment} {moments : List Moment} {c : Registry.Call} {name : String}
  {h : Handle}

/-! ### Moments -/

/-- What is in the store stays there when another metric comes. -/
theorem isIn_put {s : Store} (c : Cell) (hh : h.In s) : h.In (s.put c) :=
  (Store.Writes.one (P := fun _ ↦ True) trivial).isIn hh

/-- What is in the store stays there in every moment. -/
theorem isIn_next (m : Moment) (hh : h.In w.store) : h.In (w.next m).store := by
  cases m with
  | call c =>
    rcases w.store_call c with hstore | ⟨b, hstore⟩
    · exact hstore ▸ hh
    · exact hstore ▸ isIn_put _ hh
  | make b => exact isIn_put _ hh
  | write c => exact isIn_put _ hh
  | advance d => exact hh

/-- No moment makes a name lead elsewhere than to metrics in the store. -/
theorem Closed.next (hw : w.Closed) (hm : m.Legal w) : (w.next m).Closed := by
  intro name h hh
  cases m with
  | call c =>
    rcases (w.answers_call c).held_cases hh with hheld | hnew | hbrought
    · exact isIn_next _ (hw name h hheld)
    · exact hnew.2
    · exact isIn_next (.call c) (hm h hbrought)
  | make | write | advance => exact isIn_next _ (hw name h hh)

theorem cell_put_fresh (b : Blueprint) (hh : h.In w.store) :
    (w.store.put (w.fresh b)).cell h = w.store.cell h := by
  rw [Store.cell_put, if_neg (w.handle_fresh_ne b hh).symm]

/-- **Only who writes to a metric changes it.** -/
theorem cell_next (m : Moment) (hh : h.In w.store) :
    (w.next m).store.cell h = (m.written h).getD (w.store.cell h) := by
  cases m with
  | call c =>
    rcases w.store_call c with hstore | ⟨b, hstore⟩
    · exact congrArg (Store.cell · h) hstore
    · exact (congrArg (Store.cell · h) hstore).trans (cell_put_fresh b hh)
  | make b => exact cell_put_fresh b hh
  | write c =>
    rw [next, Store.cell_put, Moment.written]
    split <;> rfl
  | advance d => rfl

/-- A name keeps its metric in every moment but that of its removal. -/
theorem names_next (hm : m ≠ .call (.remove name)) (hh : w.names name = some h) :
    (w.next m).names name = some h := by
  cases m with
  | call c => exact (w.answers_call c).kept (fun hc ↦ hm (hc ▸ rfl)) hh
  | make | write | advance => exact hh

/-! ### Runs -/

/-- **Names lead to metrics in the store after any moments.** -/
theorem Closed.after (hw : w.Closed) (hm : w.Legal moments) : (w.after moments).Closed := by
  induction moments generalizing w with
  | nil => exact hw
  | cons m moments ih => exact ih (hw.next hm.1) hm.2

/-- **A metric is what was last written to it.** -/
theorem cell_after (moments : List Moment) (hh : h.In w.store) :
    (w.after moments).store.cell h = lastWritten h (w.store.cell h) moments := by
  induction moments generalizing w with
  | nil => rfl
  | cons m moments ih =>
    refine (ih (isIn_next m hh)).trans ?_
    rw [cell_next m hh, lastWritten, lastWritten, List.filterMap_cons]
    cases m.written h with
    | none => rfl
    | some c => rw [List.getLastD_cons]; rfl

/-- **A name keeps its metric** until it is removed. -/
theorem names_after (hkept : .call (.remove name) ∉ moments) (hh : w.names name = some h) :
    (w.after moments).names name = some h := by
  induction moments generalizing w with
  | nil => exact hh
  | cons m moments ih =>
    obtain ⟨hm, hmoments⟩ := not_or.1 (List.mem_cons.not.1 hkept)
    exact ih hmoments (names_next (Ne.symm hm) hh)

/-! ### All together -/

/-- What holds of the names of a world and of what it is asked later. -/
structure Faithful (w : World) : Prop where
  /-- The registry is a finite map. -/
  answers : ∀ c, w.Answers c
  /-- What is refused changes nothing. -/
  refused : ∀ c e, (∀ group entries, c ≠ .registerSet group entries) → (w.call c).1 = .refused e →
    (w.call c).2 = w
  /-- A name keeps its metric until it is removed. -/
  kept : ∀ name h later, w.names name = some h → .call (.remove name) ∉ later →
    (w.after later).names name = some h
  /-- Who asks for a name meanwhile gets that metric or is told its kind. -/
  found : ∀ name h later c k, w.names name = some h → .call (.remove name) ∉ later →
    c.asks = some (k, name) → (w.after later).call c =
      (if h.kind = k then .metric h else .refused (.kindMismatch name h.kind), w.after later)
  /-- All metrics are shown, each in the list of its kind and in the order of names. -/
  shows : w.registry.catalogue.Shows w.names
  len : w.registry.catalogue.len = w.registry.len
  /-- A filter lets a part of them through. -/
  filtered : ∀ f, w.registry.catalogueWhere f = w.registry.catalogue.filter f
  /-- Catalogues do not tell how names came to their metrics. -/
  unordered : ∀ w' : World, w'.names = w.names → w'.registry.catalogue = w.registry.catalogue
  /-- The order in which metrics are registered does not matter. -/
  permuted : ∀ group entries entries', entries.Perm entries' →
    (w.call (.registerSet group entries)).1 = .done →
    w.call (.registerSet group entries') = w.call (.registerSet group entries)
  /-- A catalogue shows its metrics as they are whenever it is looked at. -/
  stored : ∀ c shown later k e, (w.call c).1 = .shown shown → e ∈ shown.part k →
    (w.after later).store.cell e.2 = lastWritten e.2 (w.store.cell e.2) later

/-- **What a registry tells is true and stays so**, if names lead to metrics in the store: what it
answers is what a finite map would, a name keeps its metric until it is removed, and a metric that
was shown is found as it was last written. -/
theorem Closed.faithful (hw : w.Closed) : w.Faithful where
  answers := w.answers_call
  refused c e hc h := call_refused hc h
  kept name h later hh hkept := names_after hkept hh
  found name h later c k hh hkept hasks := call_of_held hasks (names_after hkept hh)
  shows := w.registry.shows_catalogue
  len := w.registry.len_catalogue
  filtered := w.registry.catalogueWhere_eq
  unordered w' hnames := by
    have hshows : w'.registry.catalogue.Shows w'.names := w'.registry.shows_catalogue
    rw [hnames] at hshows
    exact hshows.unique w.registry.shows_catalogue
  permuted group entries entries' hp hdone := by
    have hnone : (w.registry.registerSet group entries).2 = none := by
      cases herror : (w.registry.registerSet group entries).2 with
      | none => rfl
      | some e =>
        rw [call, herror] at hdone
        cases hdone
    rw [call, call, Registry.registerSet_perm w.registry hp hnone]
  stored c shown later k e hc he := by
    have ha := w.answers_call c
    rw [Answers, hc] at ha
    exact cell_after later (hw e.1 e.2 (ha.held_of_shown he))

/-- **A registry is a finite map from names to metrics**, and what it has told stays true, whichever
moments lead to a world and whichever follow. -/
theorem faithful_after (h : Legal {} moments) : (World.after {} moments).Faithful :=
  Closed.faithful (Closed.after (fun _ _ hh ↦ nomatch hh) h)

/-- A counter under two names, one of them from a group, is written to and shown. Then one name is
removed and asked for again. -/
theorem faithful_after_small :
    let moments : List Moment := [.call (.counter "a"),
      .call (.registerSet "group" [("b", .counter ⟨0⟩)]), .write (.counter ⟨0⟩ ⟨5⟩), .call .snapshot,
      .call (.remove "a"), .call (.counter "a"), .call (.snapshotWhere (.ofKind .counter))]
    Legal {} moments ∧ (World.after {} moments).Faithful ∧
      (World.after {} moments).names "a" = some (.counter ⟨1⟩) ∧
      (World.after {} moments).names "group.b" = some (.counter ⟨0⟩) ∧
      (World.after {} moments).registry.catalogue.counters = [("a", ⟨1⟩), ("group.b", ⟨0⟩)] :=
  have h : Legal {} [.call (.counter "a"), .call (.registerSet "group" [("b", .counter ⟨0⟩)]),
      .write (.counter ⟨0⟩ ⟨5⟩), .call .snapshot, .call (.remove "a"), .call (.counter "a"),
      .call (.snapshotWhere (.ofKind .counter))] :=
    ⟨List.forall_mem_nil _, List.forall_mem_singleton.2 Nat.zero_lt_one, Nat.zero_lt_one,
      List.forall_mem_nil _, List.forall_mem_nil _, List.forall_mem_nil _, List.forall_mem_nil _,
      trivial⟩
  ⟨h, faithful_after h, by decide, by decide, by decide⟩

end World

end Telemetry
