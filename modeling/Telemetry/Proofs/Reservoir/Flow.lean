import Mathlib
import Telemetry.Proofs.Hdr.Room
import Telemetry.Proofs.Reservoir.Steps

/-!
# Every value is in its bin, and in no other

A reading shows two counts of each bin. The one over the whole life is the number of values that
came in and fall into the bin. The other one is the number of those that came in since the reading
before, and in addition, for everything given back since then, what that counts in bins whose lowest
value falls into the bin. This is the flow law (`counts_flow`); counts are words, so each of them
stops at the largest.

The proof goes along the steps in reverse, since only the steps behind the last reading matter for
the second count (`sinceRead`), and needs of each step just its effect on the shapes.

**Nothing is clamped.** `run?` is a run that gives up where a histogram would have no room for a
value. It never does (`run?_eq_some`), and so it is the run without such checks.

**What makes no difference.** Nothing that a reading shows, the ceilings aside, depends on when
queues are folded in, nor on the order in which values and what is given back come in between two
readings (`Shows`). A ceiling may depend on it, as it is raised to the end of a range by a value and
only to the greatest value of what is given back; no count and no statistic looks at it.
-/

namespace Telemetry

namespace BinnedReservoir

variable {r : BinnedReservoir} {l : Hdr.Layout} {limit : Nat}

/-! ### Counts -/

/-- The value that a step brings. -/
def Step.value? : Step → Option UInt64
  | .update v | .record v | .queue v => some v
  | .fold | .read | .restore _ => none

/-- What a step gives back. -/
def Step.given? : Step → Option Hdr
  | .restore o => some o
  | _ => none

/-- The steps behind the last reading. -/
def sinceRead (steps : List Step) : List Step :=
  steps.rtakeWhile fun x ↦ !x.isRead

/-- The number of values of some steps that fall into a bin. -/
def valuesIn (l : Hdr.Layout) (steps : List Step) (i : Nat) : Nat :=
  (steps.filterMap Step.value?).countP fun v ↦ l.index v.toNat = i

/-- What some steps give back to a bin: all counts of bins whose lowest value falls into it. -/
def givenTo (l : Hdr.Layout) (steps : List Step) (i : Nat) : Nat :=
  ((steps.filterMap Step.given?).map fun o ↦
    Hdr.gain (fun j ↦ l.index (o.layout.lowest j)) o.counts.toList i).sum

theorem sinceRead_concat (steps : List Step) (x : Step) :
    sinceRead (steps ++ [x]) = if x.isRead then [] else sinceRead steps ++ [x] := by
  rw [sinceRead, List.rtakeWhile_concat]
  cases hx : x.isRead <;> simp [sinceRead]

theorem valuesIn_concat (l : Hdr.Layout) (steps : List Step) (x : Step) (i : Nat) :
    valuesIn l (steps ++ [x]) i = valuesIn l steps i + valuesIn l [x] i := by
  rw [valuesIn, List.filterMap_append, List.countP_append]
  rfl

theorem givenTo_concat (l : Hdr.Layout) (steps : List Step) (x : Step) (i : Nat) :
    givenTo l (steps ++ [x]) i = givenTo l steps i + givenTo l [x] i := by
  rw [givenTo, List.filterMap_append, List.map_append, List.sum_append]
  rfl

/-- What a step puts into the bins. -/
theorem Step.counts_effect {x : Step} (hx : ∀ o, x = .restore o → o.Tight) {s : Shapes} {i : Nat}
    (htotal : s.total.counts i ≤ maxWord) (hinterval : s.interval.counts i ≤ maxWord) :
    (x.effect l s).total.counts i = min (s.total.counts i + valuesIn l [x] i) maxWord ∧
      (x.effect l s).interval.counts i =
        if x.isRead then 0
        else min (s.interval.counts i + (valuesIn l [x] i + givenTo l [x] i)) maxWord := by
  have hvalue : ∀ (v : UInt64) (a : Hdr.Shape), (a.join (.ofValues l [v])).counts i =
      min (a.counts i + [v].countP fun v ↦ l.index v.toNat = i) maxWord := by
    intro v a
    show addWords (a.counts i) ((Hdr.Shape.ofValues l [v]).counts i) = _
    rw [Hdr.Shape.counts_ofValues, addWords]
    omega
  cases x with
  | update v => exact ⟨hvalue v _, hvalue v _⟩
  | record v => exact ⟨hvalue v _, hvalue v _⟩
  | queue v => exact ⟨hvalue v _, hvalue v _⟩
  | fold => exact ⟨(min_eq_left htotal).symm, (min_eq_left hinterval).symm⟩
  | read => exact ⟨(min_eq_left htotal).symm, rfl⟩
  | restore o =>
    refine ⟨(min_eq_left htotal).symm, ?_⟩
    show addWords (s.interval.counts i) ((o.carried l).counts i) =
      min (s.interval.counts i +
        (0 + (Hdr.gain (fun j ↦ l.index (o.layout.lowest j)) o.counts.toList i + 0))) maxWord
    rw [(hx o rfl).counts_carried, addWords]
    omega

/-- **The flow law**, for a reservoir that starts without counts. -/
theorem counts_flow (h : r.TightBy l) (hzero : ∀ i, r.shapes.total.counts i = 0 ∧
    r.shapes.interval.counts i = 0) {steps : List Step} (hsteps : ∀ x ∈ steps, x.Legal) (i : Nat) :
    (r.run steps).read.1.1.count i = min (valuesIn l steps i) maxWord ∧
      (r.run steps).read.1.2.count i =
        min (valuesIn l (sinceRead steps) i + givenTo l (sinceRead steps) i) maxWord := by
  show (r.run steps).shapes.total.counts i = _ ∧ (r.run steps).shapes.interval.counts i = _
  rw [h.shapes_run hsteps]
  induction steps using List.reverseRecOn with
  | nil => exact hzero i
  | append_singleton steps x ih =>
    obtain ⟨htotal, hinterval⟩ := ih fun y hy ↦ hsteps y (List.mem_append_left _ hy)
    have hx := (hsteps x (List.mem_append_right _ List.mem_cons_self)).tight
    obtain ⟨htotal', hinterval'⟩ := Step.counts_effect (l := l) hx (i := i)
      (s := steps.foldl (Step.effect l) r.shapes)
      (htotal ▸ Nat.min_le_right _ _) (hinterval ▸ Nat.min_le_right _ _)
    rw [List.foldl_append, List.foldl_cons, List.foldl_nil, htotal', hinterval', htotal, hinterval,
      sinceRead_concat, valuesIn_concat]
    refine ⟨by omega, ?_⟩
    split
    · rfl
    · rw [valuesIn_concat, givenTo_concat]
      omega

/-! ### Room -/

/-- Counting that gives up when there is no room for the value. -/
def count? (limit : Nat) (r : BinnedReservoir) (v : UInt64) : Option BinnedReservoir :=
  (r.total.recordMany? limit v.toNat 1).bind fun total ↦
    (r.interval.recordMany? limit v.toNat 1).map fun interval ↦ { r with total, interval }

/-- Folding in that gives up when there is no room for a value. -/
def refresh? (limit : Nat) (r : BinnedReservoir) : Option BinnedReservoir :=
  r.backlog.toList.foldlM (count? limit) { r with backlog := #[] }

/-- A step that gives up when there is no room for a value. -/
def step? (limit : Nat) (r : BinnedReservoir) : Step → Option BinnedReservoir
  | .update v => (r.refresh? limit).bind fun r ↦ r.count? limit v
  | .record v =>
    let r := { r with backlog := r.backlog.push v }
    if backlogLimit ≤ r.backlog.size then r.refresh? limit else some r
  | .queue v => some { r with backlog := r.backlog.push v }
  | .fold => r.refresh? limit
  | .read => (r.refresh? limit).map fun r ↦ { r with interval := r.interval.reset }
  | .restore o => (r.interval.add? limit o).map fun interval ↦ { r with interval }

/-- A run that gives up when there is no room for a value. -/
def run? (limit : Nat) (r : BinnedReservoir) (steps : List Step) : Option BinnedReservoir :=
  steps.foldlM (step? limit) r

theorem count?_eq_some (h : r.TightBy l) (hlimit : 2 ^ 24 ≤ limit) (v : UInt64) :
    r.count? limit v = some (r.count v) := by
  have hv := Nat.le_of_lt_succ v.toNat_lt
  rw [count?, Hdr.recordMany?_eq_some h.total.sound hlimit hv,
    Hdr.recordMany?_eq_some h.interval.sound hlimit hv]
  rfl

/-- Folding in the queue finds a place for every value. -/
theorem refresh?_eq_some (h : r.TightBy l) (hlimit : 2 ^ 24 ≤ limit) :
    r.refresh? limit = some r.refresh := by
  have hfold : ∀ (vs : List UInt64) (r : BinnedReservoir), r.TightBy l →
      vs.foldlM (count? limit) r = some (vs.foldl count r) := by
    intro vs
    induction vs with
    | nil => exact fun r _ ↦ rfl
    | cons v vs ih =>
      intro r h
      rw [List.foldlM_cons, count?_eq_some h hlimit]
      exact ih (r.count v) (h.count v)
  rw [refresh?, refresh, hfold _ _ (h.queued #[]), Array.foldl_toList]

/-- **No step is in want of room**, if what is given back is tight. -/
theorem step?_eq_some (h : r.TightBy l) (hlimit : 2 ^ 24 ≤ limit) {x : Step}
    (hx : ∀ o, x = .restore o → o.Tight) : r.step? limit x = some (r.step x) := by
  cases x with
  | update v =>
    rw [step?, refresh?_eq_some h hlimit]
    exact count?_eq_some h.refresh hlimit v
  | record v =>
    show (if _ then _ else _) = some (if _ then _ else _)
    split
    · exact refresh?_eq_some (h.queued _) hlimit
    · rfl
  | queue v => rfl
  | fold => exact refresh?_eq_some h hlimit
  | read =>
    rw [step?, refresh?_eq_some h hlimit]
    rfl
  | restore o =>
    rw [step?, Hdr.add?_eq_some h.interval.sound (hx o rfl).sound hlimit]
    rfl

/-- **There is room for every value.** -/
theorem run?_eq_some (h : r.TightBy l) (hlimit : 2 ^ 24 ≤ limit) {steps : List Step}
    (hsteps : ∀ x ∈ steps, x.Legal) : r.run? limit steps = some (r.run steps) := by
  induction steps generalizing r with
  | nil => rfl
  | cons x steps ih =>
    have hx := (hsteps x List.mem_cons_self).tight
    rw [run?, List.foldlM_cons, step?_eq_some h hlimit hx]
    exact ih (h.step hx) fun y hy ↦ hsteps y (List.mem_cons_of_mem _ hy)

/-! ### Readings that show the same -/

/-- Nothing shown tells the readings of two reservoirs apart, the ceilings aside. -/
def Shows (a b : BinnedReservoir) : Prop :=
  a.read.1.1.Alike b.read.1.1 ∧ a.read.1.2.Alike b.read.1.2

theorem TightBy.shows {s : BinnedReservoir} (hr : r.TightBy l) (hs : s.TightBy l)
    (h : r.shapes = s.shapes) : r.Shows s :=
  ⟨Hdr.alike_iff.2 ⟨hr.refresh.layout_total.trans hs.refresh.layout_total.symm,
      congrArg Shapes.total h⟩,
    Hdr.alike_iff.2 ⟨hr.refresh.layout_interval.trans hs.refresh.layout_interval.symm,
      congrArg Shapes.interval h⟩⟩

/-- What settles of a legal step is legal. -/
theorem Step.Legal.settled {x y : Step} (hx : x.Legal) (hy : x.settled = some y) : y.Legal := by
  cases x with
  | fold => cases hy
  | restore o =>
    cases hy
    exact hx
  | _ =>
    cases hy
    trivial

/-- **It does not show when queues are folded in.** -/
theorem TightBy.shows_settled (h : r.TightBy l) {steps : List Step}
    (hsteps : ∀ x ∈ steps, x.Legal) :
    (r.run steps).Shows (r.run (steps.filterMap Step.settled)) := by
  have hsettled : ∀ y ∈ steps.filterMap Step.settled, y.Legal := by
    intro y hy
    obtain ⟨x, hx, hxy⟩ := List.mem_filterMap.1 hy
    exact (hsteps x hx).settled hxy
  refine (h.run hsteps).shows (h.run hsettled) ?_
  rw [h.shapes_run hsteps, h.shapes_run hsettled, foldl_effect_settled]

/-- **It does not show in which order things came in between two readings.** -/
theorem TightBy.shows_perm (h : r.TightBy l) {before after a b : List Step}
    (hsteps : ∀ x ∈ before ++ a ++ after, x.Legal) (hab : a.Perm b)
    (hread : ∀ x ∈ a, x.isRead = false) :
    (r.run (before ++ a ++ after)).Shows (r.run (before ++ b ++ after)) := by
  have hsteps' : ∀ x ∈ before ++ b ++ after, x.Legal := fun x hx ↦
    hsteps x ((((hab.append_left before).append_right after).mem_iff).2 hx)
  refine (h.run hsteps).shows (h.run hsteps') ?_
  rw [h.shapes_run hsteps, h.shapes_run hsteps', List.foldl_append, List.foldl_append,
    List.foldl_append, List.foldl_append, foldl_effect_perm hab hread]

/-! ### All of it -/

/-- **What comes into a reservoir is in its readings.** However a reservoir of some digits was
created, and whatever has happened to it since,

* each bin counts the values that came in and fall into it, and since the last reading also what was
  given back to it, up to the largest word;
* no value was clamped for want of room;
* it does not show when queues were folded in, nor in which order values and what was given back
  came in between two readings. -/
theorem reading_of_run {digits : Nat} {ceiling : UInt64} {r : BinnedReservoir}
    (hr : create digits ceiling.toNat = .ok r) {steps : List Step}
    (hsteps : ∀ x ∈ steps, x.Legal) :
    let l := r.total.layout
    let reading := (r.run steps).read.1
    l.digits = digits ∧ reading.1.layout = l ∧ reading.2.layout = l ∧
      (∀ i, reading.1.count i = min (valuesIn l steps i) maxWord) ∧
      (∀ i, reading.2.count i =
        min (valuesIn l (sinceRead steps) i + givenTo l (sinceRead steps) i) maxWord) ∧
      r.run? maxWord steps = some (r.run steps) ∧
      (r.run steps).Shows (r.run (steps.filterMap Step.settled)) ∧
      ∀ before a b after, steps = before ++ a ++ after → a.Perm b → (∀ x ∈ a, x.isRead = false) →
        (r.run steps).Shows (r.run (before ++ b ++ after)) := by
  have htight := tightBy_create hr
  obtain ⟨hd, rfl⟩ := create_eq hr
  have hafter := (htight.run hsteps).refresh
  have hcounts := counts_flow htight (fun _ ↦ ⟨rfl, rfl⟩) hsteps
  refine ⟨rfl, hafter.layout_total, hafter.layout_interval, fun i ↦ (hcounts i).1,
    fun i ↦ (hcounts i).2, run?_eq_some htight (by decide) hsteps, htight.shows_settled hsteps, ?_⟩
  rintro before a b after rfl hab hread
  exact htight.shows_perm hsteps hab hread

/-- The value `70001` of a reservoir of two digits is given back to one of three, which counts it
with the values from `69632` on, as that is where its bin begins. -/
theorem reading_of_run_given_back :
    let r := ofLayout defaultLayout 2
    let other := (ofLayout ⟨2, by decide⟩ 1000).step (.update 70001)
    let steps : List Step := [.record 5, .update 70000, .restore other.read.1.2, .fold]
    create 3 (2 : UInt64).toNat = .ok r ∧ (∀ x ∈ steps, x.Legal) ∧
      (r.run steps).read.1.1.count 7232 = 0 ∧ (r.run steps).read.1.2.count 7232 = 1 := by
  intro r other steps
  have hr : create 3 (2 : UInt64).toNat = .ok r := rfl
  have hother : other.Made := .update (@Made.create 2 1000 _ rfl) 70001
  have hsteps : ∀ x ∈ steps, x.Legal := by
    simp only [steps, List.forall_mem_cons]
    exact ⟨trivial, trivial, ⟨other, hother, rfl⟩, trivial, nofun⟩
  obtain ⟨-, -, -, htotal, hinterval, -⟩ := reading_of_run hr hsteps
  exact ⟨hr, hsteps, (htotal 7232).trans (by decide +kernel),
    (hinterval 7232).trans (by decide +kernel)⟩

end BinnedReservoir

end Telemetry
