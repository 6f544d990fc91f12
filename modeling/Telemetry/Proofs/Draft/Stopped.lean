import Mathlib
import Telemetry.Proofs.Digest
import Telemetry.Proofs.Draft.Outcome
import Telemetry.Proofs.Run.Step

/-!
# When a draft cannot be made

**A draft is stopped by the first source that refuses** (`Presentation.stopped_iff`): one whose
count has changed and whose reading, at the moment when it is taken, has a count that is too large to
be written. A source that has stood in the list before, under another name, and was read there, shows
then what is left after that reading (`Source.shown`).

A draft that was stopped has given back what it took, that of the refusing source included. So all
reservoirs show what they showed before, values that waited counted in
(`Presentation.alike_of_stopped`). Since counts have not changed either, and the ledger is not
touched, the same source refuses again whenever it is tried again (`Presentation.stopping`).
-/

namespace Telemetry

/-! ### The first of a list -/

/-- The element of a list is the first of which something holds, given those before it. -/
def IsFirst {α : Type} (Q : List α → α → Prop) (l : List α) (y : α) : Prop :=
  ∃ before after, l = before ++ y :: after ∧ Q before y ∧
    ∀ b z a, before = b ++ z :: a → ¬Q b z

namespace IsFirst

variable {α : Type} {Q : List α → α → Prop} {l : List α} {x y : α}

theorem nil : ¬IsFirst Q [] y := by
  rintro ⟨before, after, h, -⟩
  simp at h

/-- The first of a list is its head, or the first of the rest. -/
theorem cons_iff : IsFirst Q (x :: l) y ↔
    Q [] x ∧ y = x ∨ ¬Q [] x ∧ IsFirst (fun before ↦ Q (x :: before)) l y := by
  constructor
  · rintro ⟨before, after, hl, hy, hbefore⟩
    cases before with
    | nil =>
      obtain ⟨rfl, rfl⟩ := List.cons.inj hl
      exact .inl ⟨hy, rfl⟩
    | cons z before =>
      obtain ⟨rfl, rfl⟩ := List.cons.inj hl
      exact .inr ⟨hbefore [] x before rfl, before, after, rfl, hy, fun b z a h ↦
        hbefore (x :: b) z a (congrArg (x :: ·) h)⟩
  · rintro (⟨hx, rfl⟩ | ⟨hx, before, after, rfl, hy, hbefore⟩)
    · exact ⟨[], l, rfl, hx, fun b z a h ↦ absurd h (by simp)⟩
    · refine ⟨x :: before, after, rfl, hy, fun b z a h ↦ ?_⟩
      cases b with
      | nil =>
        obtain ⟨rfl, -⟩ := List.cons.inj h
        exact hx
      | cons w b =>
        obtain ⟨rfl, hrest⟩ := List.cons.inj h
        exact hbefore b z a hrest

/-- Where something holds of an element, given those before it, there is a first. -/
theorem exists_iff :
    (∃ y, IsFirst Q l y) ↔ ∃ before y after, l = before ++ y :: after ∧ Q before y := by
  constructor
  · rintro ⟨y, before, after, hl, hy, -⟩
    exact ⟨before, y, after, hl, hy⟩
  · rintro ⟨before, y, after, rfl, hy⟩
    induction before generalizing Q with
    | nil => exact ⟨y, cons_iff.2 (.inl ⟨hy, rfl⟩)⟩
    | cons x before ih =>
      by_cases hx : Q [] x
      · exact ⟨x, cons_iff.2 (.inl ⟨hx, rfl⟩)⟩
      · obtain ⟨z, hz⟩ := ih (Q := fun before ↦ Q (x :: before)) hy
        exact ⟨z, cons_iff.2 (.inr ⟨hx, hz⟩)⟩

end IsFirst

namespace Presentation

variable (p : Presentation) (e : Setting) (s : Store)

/-! ### Sources that refuse -/

/-- What a source shows when a walk comes to it: if it was read before under another name, what that
left. -/
def shown (before : List (String × Source)) (x : Source) : Reading :=
  if before.any fun y ↦ y.2 = x && e.changed (y.1, x.count s) then
    (x.held s).reservoir.read.1.drained
  else (x.held s).reservoir.read.1

/-- The count of a source has changed, and what it shows has a count that is too large to be
written. -/
def Refuses (before : List (String × Source)) (y : String × Source) : Prop :=
  e.changed (y.1, y.2.count s) = true ∧ (shown e s before y.2).Overflows p.mode

variable {p e s} {s' : Store} {before : List (String × Source)} {y : String × Source} {x : Source}

theorem shown_nil (x : Source) : shown e s [] x = (x.held s).reservoir.read.1 :=
  rfl

/-- Sources of the same counts whose reservoirs are alike refuse alike. -/
theorem refuses_congr (hcount : ∀ x : Source, x.count s' = x.count s)
    (halike : ∀ x : Source, (x.held s').reservoir.Alike (x.held s).reservoir) :
    p.Refuses e s' before y ↔ p.Refuses e s before y := by
  have hread := (halike y.2).read.1
  rw [Refuses, Refuses, shown, shown, hcount]
  refine and_congr_right fun _ ↦ ?_
  split
  · exact hread.drained.overflows_iff
  · exact hread.overflows_iff

/-- A source that was left out before makes no difference. -/
theorem shown_cons_of_same {name : String} (hsame : e.changed (name, x.count s) = false)
    (z : Source) : shown e s ((name, x) :: before) z = shown e s before z := by
  have hhead : (decide (x = z) && e.changed (name, z.count s)) = false := by
    by_cases h : x = z
    · subst h
      simp [hsame]
    · simp [h]
  rw [shown, shown, List.any_cons, hhead, Bool.false_or]

/-- A source that was read before shows what this left. -/
theorem shown_cons_of_changed {name : String} (hchanged : e.changed (name, x.count s) = true)
    (hcount : ∀ z : Source, z.count s' = z.count s)
    (hheld : ∀ z : Source, (z.held s').reservoir =
      if z = x then (z.held s).reservoir.read.2 else (z.held s).reservoir)
    (z : Source) : shown e s ((name, x) :: before) z = shown e s' before z := by
  rw [shown, shown, List.any_cons, hcount, hheld]
  by_cases h : z = x
  · subst h
    simp only [decide_true, hchanged, Bool.and_self, Bool.true_or, if_true,
      Reservoir.reading_read, Reading.drained_drained, ite_self]
  · have hne : decide (x = z) = false := by simpa using Ne.symm h
    simp only [hne, Bool.false_and, Bool.false_or, if_neg h]

/-- The first source of a walk refuses if it is not left out and its reading has no digest. -/
theorem refuses_nil_iff {name : String} :
    p.Refuses e s [] (name, x) ↔ e.changed (name, x.count s) = true ∧
      (x.read s).1.digest p.mode (p.scale x) = .error .countTooLarge := by
  rw [Refuses, shown_nil, ← x.reading_eq, Reading.digest_eq_error_iff]

/-- Behind a source that is left out, sources refuse as they do after it was left out. -/
theorem refuses_cons_of_same {name : String} (hsame : e.changed (name, x.count s) = false) :
    (fun before ↦ p.Refuses e s ((name, x) :: before)) = p.Refuses e (e.skip s) := by
  funext before y
  have hskip : p.Refuses e (e.skip s) before y ↔ p.Refuses e s before y :=
    refuses_congr (fun z ↦ by cases z <;> rfl) fun z ↦ held_skip e s z ▸ .refl _
  rw [hskip, Refuses, Refuses, shown_cons_of_same hsame]

/-- Behind a source that is recorded, sources refuse as they do after it was recorded. -/
theorem refuses_cons_of_changed {name : String} (hchanged : e.changed (name, x.count s) = true)
    (d : Digest) :
    (fun before ↦ p.Refuses e s ((name, x) :: before)) =
      p.Refuses e (p.record e.now name (x.count s) d (x.read s).2 x).2 := by
  funext before y
  have hkept := kept_recorded p e s name (x.count s) d x
  have hcount : ∀ z : Source, z.count (p.record e.now name (x.count s) d (x.read s).2 x).2 =
      z.count s := fun z ↦ hkept.count z not_false
  rw [Refuses, Refuses, hcount, shown_cons_of_changed hchanged hcount fun z ↦ ?_]
  rw [held_record, Source.held_read]
  split <;> rfl

/-! ### Walks -/

/-- **A walk over sources is stopped by the first that refuses.** -/
theorem walkSources_stopped_iff {l : List (String × Source)} {cause : DraftError} :
    (walkSources p e s l).stopped = some cause ↔
      ∃ y, IsFirst (p.Refuses e s) l y ∧ cause = .digest y.1 .countTooLarge := by
  induction l generalizing s with
  | nil =>
    refine ⟨nofun, ?_⟩
    rintro ⟨y, hy, -⟩
    exact absurd hy IsFirst.nil
  | cons y l ih =>
    obtain ⟨name, x⟩ := y
    simp only [IsFirst.cons_iff, refuses_nil_iff]
    rw [walkSources_cons]
    split
    · next hsame =>
      have hsame : e.changed (name, x.count s) = false := by simpa [Setting.changed] using hsame
      simp only [hsame, Bool.false_eq_true, false_and, false_or, not_false_eq_true, true_and,
        refuses_cons_of_same hsame]
      exact ih
    · next hchanged =>
      have hchanged : e.changed (name, x.count s) = true := by
        simpa [Setting.changed] using hchanged
      rcases (x.read s).1.digest p.mode (p.scale x) with ⟨⟨⟩⟩ | d
      · simp only [hchanged, true_and, not_true_eq_false, false_and, or_false, exists_eq_left,
          Option.some.injEq, eq_comm]
      · simp only [reduceCtorEq, and_false, false_and, false_or, not_false_eq_true, true_and,
          refuses_cons_of_changed hchanged d]
        exact ih

/-! ### Drafts -/

variable {c : Catalogue} {cause : DraftError} {timestamp : Int64} {status : Option String}
  {alerts : List Alert}

/-- **A draft is stopped by the first source of the catalogue that refuses.** -/
theorem stopped_iff : (p.survey e c s).stopped = some cause ↔
    ∃ y, IsFirst (p.Refuses e s) (sources c) y ∧ cause = .digest y.1 .countTooLarge := by
  have hheld : ∀ x : Source,
      x.held (p.walkMeters e (walkCounters e s c.counters).store c.meters).store = x.held s :=
    fun x ↦ by rw [held_walkMeters, held_walkCounters]
  have hrefuses : p.Refuses e (p.walkMeters e (walkCounters e s c.counters).store c.meters).store =
      p.Refuses e s := by
    funext before y
    refine propext (refuses_congr (fun x ↦ ?_) fun x ↦ hheld x ▸ .refl _)
    rw [x.count_eq, x.count_eq, hheld]
  rw [survey, walkSources_stopped_iff, hrefuses]

/-- A draft fails just if its walks were stopped, and for the same reason. -/
theorem fst_draft_eq_error_iff (timestamp : Int64) (status : Option String) (alerts : List Alert) :
    (p.draft e timestamp status alerts c s).1 = .error cause ↔
      (p.survey e c s).stopped = some cause := by
  obtain ⟨cause', hstopped, hdraft⟩ | ⟨d, hmade, hdraft, -⟩ :=
    p.draft_cases e c s timestamp status alerts
  · simp [hdraft, hstopped]
  · simp [hdraft, hmade]

/-- **A draft that was stopped has given back what it took**, so that sources are what they were. -/
theorem alike_of_stopped (hs : s.Sound)
    (h : p.draft e timestamp status alerts c s = (.error cause, s')) (x : Source) :
    x.count s' = x.count s ∧ (x.held s').reservoir.Alike (x.held s).reservoir := by
  obtain ⟨-, rfl⟩ := stopped_of_error h
  rw [x.count_eq, x.count_eq, Source.held_restoreAll, Histogram.foldl_restore, held_survey]
  exact ⟨rfl, (p.survey_reads e c s x).restore_alike (hs x)⟩

/-- When a draft is stopped, and what it leaves behind. -/
structure Stopping (p : Presentation) (e : Setting) (timestamp : Int64) (status : Option String)
    (alerts : List Alert) (c : Catalogue) (s : Store) : Prop where
  /-- A draft is stopped just if a source refuses. -/
  iff : (∃ cause s', p.draft e timestamp status alerts c s = (.error cause, s')) ↔
    ∃ before y after, sources c = before ++ y :: after ∧ p.Refuses e s before y
  /-- The error names the first that does. -/
  first : ∀ cause s', p.draft e timestamp status alerts c s = (.error cause, s') →
    ∃ y, IsFirst (p.Refuses e s) (sources c) y ∧ cause = .digest y.1 .countTooLarge
  /-- Sources are what they were: the total of a reservoir is the same, and so are the bins since the
  last reading, their number, least and largest value, if values that waited are counted in. -/
  back : ∀ cause s', p.draft e timestamp status alerts c s = (.error cause, s') →
    ∀ x : Source, x.count s' = x.count s ∧ (x.held s').reservoir.Alike (x.held s).reservoir
  /-- Later drafts that go by the same ledger are stopped by the same source. -/
  again : ∀ cause s', p.draft e timestamp status alerts c s = (.error cause, s') →
    ∀ now timestamp' status' alerts',
      (p.draft { e with now } timestamp' status' alerts' c s').1 = .error cause

/-- **When a draft is stopped, and what it leaves behind**, if reservoirs are such as are made by
the operations on them. -/
theorem stopping (hmade : ∀ x : Source, (x.held s).reservoir.Made) :
    p.Stopping e timestamp status alerts c s := by
  have herror : ∀ cause, (∃ s', p.draft e timestamp status alerts c s = (.error cause, s')) ↔
      (p.survey e c s).stopped = some cause := by
    intro cause
    rw [← fst_draft_eq_error_iff timestamp status alerts]
    exact ⟨fun ⟨s', h⟩ ↦ congrArg Prod.fst h, fun h ↦ ⟨_, Prod.ext h rfl⟩⟩
  have hback : ∀ cause s', p.draft e timestamp status alerts c s = (.error cause, s') →
      ∀ x : Source, x.count s' = x.count s ∧ (x.held s').reservoir.Alike (x.held s).reservoir :=
    fun cause s' h x ↦ alike_of_stopped (fun x ↦ (hmade x).sound) h x
  refine ⟨?_, fun cause s' h ↦ stopped_iff.1 ((herror cause).1 ⟨s', h⟩), hback,
    fun cause s' h now timestamp' status' alerts' ↦ ?_⟩
  · simp only [herror, stopped_iff]
    rw [← IsFirst.exists_iff]
    exact ⟨fun ⟨_, y, hy, _⟩ ↦ ⟨y, hy⟩, fun ⟨y, hy⟩ ↦ ⟨_, y, hy, rfl⟩⟩
  · have hrefuses : p.Refuses { e with now } s' = p.Refuses e s := by
      funext before y
      exact propext (refuses_congr (e := e) (fun x ↦ (hback cause s' h x).1)
        fun x ↦ (hback cause s' h x).2)
    rw [fst_draft_eq_error_iff, stopped_iff, hrefuses]
    exact stopped_iff.1 ((herror cause).1 ⟨s', h⟩)

/-! ### A count that is too large -/

/-- A reservoir with one value, which got back what it had as often as said. -/
def heaped : Nat → Reservoir
  | 0 => (default : Reservoir).update 9
  | n + 1 => (heaped n).restore (heaped n).read.1

/-- Such a reservoir comes about by giving readings back again and again. -/
theorem made_heaped (n : Nat) : (heaped n).Made := by
  induction n with
  | zero => exact Reservoir.made_default.update 9
  | succ n ih => exact ih.restore ih

/-- A store with as many values in its first histogram as can no longer be written. -/
def heapedStore : Store :=
  ({} : Store).setHistogram ⟨0⟩ ⟨1, heaped 63⟩

/-- Every reservoir in that store comes about. -/
theorem made_heapedStore (x : Source) : (x.held heapedStore).reservoir.Made := by
  rw [heapedStore, Source.held_setHistogram]
  split
  · exact made_heaped 63
  · cases x <;> exact Reservoir.made_default

/-- The histogram cannot be written, and keeps all of its values. -/
theorem stopping_heaped :
    let e : Setting := ⟨{}, .new true, ⟨1⟩⟩
    ∃ cause s', ({} : Presentation).draft e 7 none [] World.small.registry.catalogue heapedStore =
        (.error cause, s') ∧
      ∀ x : Source, (x.held s').reservoir.Alike (x.held heapedStore).reservoir := by
  intro e
  have hstopping : ({} : Presentation).Stopping e 7 none [] World.small.registry.catalogue
      heapedStore := stopping made_heapedStore
  have hover : ({} : Presentation).Refuses e heapedStore [] ("h", .histogram ⟨0⟩) :=
    ⟨by decide +kernel, by decide, 9, by decide +kernel⟩
  obtain ⟨cause, s', hdraft⟩ := hstopping.iff.2 ⟨[], ("h", .histogram ⟨0⟩), [], rfl, hover⟩
  exact ⟨cause, s', hdraft, fun x ↦ (hstopping.back cause s' hdraft x).2⟩

end Presentation

end Telemetry
