import Mathlib
import Telemetry.Proofs.Hdr.Adding
import Telemetry.Proofs.Reservoir.Sound

/-!
# What happens to a reservoir of bins

A reservoir of bins sees values that are counted at once or queued, queues that are folded in at
some time or other, readings, and readings given back, its own or those of other reservoirs
(`Step`). Everything that its next reading would show is in the shapes of its two counts with the
queue folded in (`shapes`), and there a step is a plain operation (`Step.effect`, `shapes_step`): a
value is joined to both shapes whether it was counted or queued, folding in does nothing, a reading
empties the second shape but for its range, and what is given back is joined to it.

**Which steps commute.** Joining is commutative, so all steps but readings can change places
(`Step.effect_right_comm`). This is why it does not matter when a queue is folded in
(`foldl_effect_settled`) nor in which order things come in between two readings
(`foldl_effect_perm`).

What is given back has to come from a reservoir that was made by such steps (`Made`); its counts are
then tight, and tight counts are all that `shapes_step` asks for.
-/

namespace Telemetry

namespace Hdr.Shape

variable {l : Layout}

/-- The shape of values that are counted once each. -/
def ofValues (l : Layout) (vs : List UInt64) : Shape :=
  ofBins l id (vs.map fun v ↦ (v.toNat, 1))

/-- The shape of two lists of values is made of the shapes of both. -/
theorem ofValues_append (a b : List UInt64) :
    ofValues l (a ++ b) = (ofValues l a).join (ofValues l b) := by
  induction a with
  | nil =>
    -- the shapes of values are put together from the range of no bins, which is there only once
    have hrange : ∀ vs : List UInt64, (range 0).join (ofValues l vs) = ofValues l vs := by
      intro vs
      induction vs with
      | nil => rfl
      | cons v vs ih =>
        show (range 0).join ((ofValue l v.toNat 1).join (ofValues l vs)) = _
        rw [← join_assoc, join_comm (range 0), join_assoc, ih]
        rfl
    exact (hrange b).symm
  | cons v a ih =>
    show (ofValue l v.toNat 1).join (ofValues l (a ++ b)) = _
    rw [ih, ← join_assoc]
    rfl

/-- The values in a bin are counted there. -/
theorem counts_ofValues (vs : List UInt64) (i : Nat) :
    (ofValues l vs).counts i = min (vs.countP fun v ↦ l.index v.toNat = i) maxWord := by
  have hgain : gain (fun j ↦ l.index (id j)) (vs.map fun v ↦ (v.toNat, 1)) i =
      vs.countP fun v ↦ l.index v.toNat = i := by
    induction vs with
    | nil => rfl
    | cons v vs ih =>
      rw [List.map_cons, gain_cons, ih, List.countP_cons]
      simp only [id_eq, decide_eq_true_eq]
      exact Nat.add_comm _ _
  rw [ofValues, counts_ofBins, hgain]

end Hdr.Shape

namespace BinnedReservoir

variable {r s : BinnedReservoir} {l : Hdr.Layout}

/-! ### Steps -/

/-- What can happen to a reservoir. -/
inductive Step where
  | update (v : UInt64)
  | record (v : UInt64)
  /-- A value is queued and the queue is left as it is, however long. -/
  | queue (v : UInt64)
  /-- The queue is folded in. -/
  | fold
  | read
  /-- The counts of a reading are given back. -/
  | restore (sinceLast : Hdr)

/-- The reservoir after a step. -/
def step (r : BinnedReservoir) : Step → BinnedReservoir
  | .update v => r.update v
  | .record v => r.record v
  | .queue v => { r with backlog := r.backlog.push v }
  | .fold => r.refresh
  | .read => r.read.2
  | .restore sinceLast => r.restore sinceLast

/-- The reservoir after some steps. -/
def run (r : BinnedReservoir) (steps : List Step) : BinnedReservoir :=
  steps.foldl step r

/-- Reservoirs that come about by steps. -/
inductive Made : BinnedReservoir → Prop where
  | create {digits : Nat} {ceiling : UInt64} {r : BinnedReservoir}
      (h : create digits ceiling.toNat = .ok r) : Made r
  | update {r : BinnedReservoir} (h : r.Made) (v : UInt64) : (r.step (.update v)).Made
  | record {r : BinnedReservoir} (h : r.Made) (v : UInt64) : (r.step (.record v)).Made
  | queue {r : BinnedReservoir} (h : r.Made) (v : UInt64) : (r.step (.queue v)).Made
  | fold {r : BinnedReservoir} (h : r.Made) : (r.step .fold).Made
  | read {r : BinnedReservoir} (h : r.Made) : (r.step .read).Made
  /-- What is given back may come from any reservoir, at any time and as often as one likes. -/
  | restore {r s : BinnedReservoir} (h : r.Made) (hs : s.Made) :
      (r.step (.restore s.read.1.2)).Made

/-- What the step gives back, if it does, was read from some reservoir. -/
def Step.Legal : Step → Prop
  | .restore sinceLast => ∃ s : BinnedReservoir, s.Made ∧ sinceLast = s.read.1.2
  | _ => True

/-! ### Tight counts -/

/-- Both counts are tight, and by the same layout. -/
structure TightBy (l : Hdr.Layout) (r : BinnedReservoir) : Prop where
  total : r.total.Tight
  interval : r.interval.Tight
  layout_total : r.total.layout = l
  layout_interval : r.interval.layout = l

theorem TightBy.count (h : r.TightBy l) (v : UInt64) : (r.count v).TightBy l where
  total := h.total.recordMany (Nat.le_of_lt_succ v.toNat_lt) one_ne_zero
  interval := h.interval.recordMany (Nat.le_of_lt_succ v.toNat_lt) one_ne_zero
  layout_total := (Hdr.layout_record _ _).trans h.layout_total
  layout_interval := (Hdr.layout_record _ _).trans h.layout_interval

theorem TightBy.queued (h : r.TightBy l) (vs : Array UInt64) :
    ({ r with backlog := vs } : BinnedReservoir).TightBy l :=
  { h with }

theorem TightBy.foldl_count (h : r.TightBy l) (vs : List UInt64) :
    (vs.foldl BinnedReservoir.count r).TightBy l :=
  List.foldlRecOn vs _ h fun _ hr v _ ↦ hr.count v

theorem TightBy.refresh (h : r.TightBy l) : r.refresh.TightBy l := by
  rw [BinnedReservoir.refresh, ← Array.foldl_toList]
  exact (h.queued #[]).foldl_count _

/-- **Steps keep both counts tight**, if what is given back is. -/
theorem TightBy.step (h : r.TightBy l) {x : Step} (hx : ∀ o, x = .restore o → o.Tight) :
    (r.step x).TightBy l := by
  cases x with
  | update v => exact h.refresh.count v
  | record v =>
    show TightBy l (if _ then _ else _)
    split
    · exact (h.queued _).refresh
    · exact h.queued _
  | queue v => exact h.queued _
  | fold => exact h.refresh
  | read =>
    have h := h.refresh
    exact ⟨h.total, h.interval.reset, h.layout_total, h.layout_interval⟩
  | restore o =>
    have ho := hx o rfl
    refine ⟨h.total, h.interval.add ho, h.layout_total, ?_⟩
    exact (r.interval.add_spec o (h.interval.sound.count_le 0)).1.trans h.layout_interval

theorem tightBy_ofLayout (l : Hdr.Layout) {ceiling : Nat} (h : ceiling ≤ maxWord) :
    (ofLayout l ceiling).TightBy l :=
  ⟨Hdr.tight_covering l h, Hdr.tight_covering l h, rfl, rfl⟩

/-- A reservoir that is created is empty, by the layout of the digits asked for. -/
theorem create_eq {digits ceiling : Nat} (h : create digits ceiling = .ok r) :
    ∃ hd : digits ≤ 5, r = ofLayout ⟨digits, hd⟩ ceiling := by
  unfold create at h
  split at h
  · cases h
  · split at h
    · next hd => exact ⟨hd, (Except.ok.inj h).symm⟩
    · cases h

theorem tightBy_create {digits : Nat} {ceiling : UInt64} (h : create digits ceiling.toNat = .ok r) :
    r.TightBy r.total.layout := by
  obtain ⟨hd, rfl⟩ := create_eq h
  exact tightBy_ofLayout _ (Nat.le_of_lt_succ ceiling.toNat_lt)

/-- **Reservoirs that come about by steps are tight.** -/
theorem Made.tightBy (h : r.Made) : ∃ l, r.TightBy l := by
  induction h with
  | create h => exact ⟨_, tightBy_create h⟩
  | update _ v ih => exact ih.imp fun l h ↦ h.step nofun
  | record _ v ih => exact ih.imp fun l h ↦ h.step nofun
  | queue _ v ih => exact ih.imp fun l h ↦ h.step nofun
  | fold _ ih => exact ih.imp fun l h ↦ h.step nofun
  | read _ ih => exact ih.imp fun l h ↦ h.step nofun
  | restore _ _ ih ihs =>
    obtain ⟨l', hs⟩ := ihs
    refine ih.imp fun l h ↦ h.step ?_
    rintro o ⟨⟩
    exact hs.refresh.interval

theorem Step.Legal.tight {x : Step} (hx : x.Legal) : ∀ o, x = .restore o → o.Tight := by
  rintro o rfl
  obtain ⟨s, hs, rfl⟩ := hx
  obtain ⟨l, hs⟩ := hs.tightBy
  exact hs.refresh.interval

theorem TightBy.run (h : r.TightBy l) {steps : List Step} (hsteps : ∀ x ∈ steps, x.Legal) :
    (r.run steps).TightBy l :=
  List.foldlRecOn steps _ h fun _ hr x hx ↦ hr.step (hsteps x hx).tight

/-! ### What readings would show -/

/-- The shapes of both counts. -/
@[ext]
structure Shapes where
  total : Hdr.Shape
  interval : Hdr.Shape

/-- What a reading would show of both counts. -/
def shapes (r : BinnedReservoir) : Shapes :=
  ⟨r.refresh.total.shape, r.refresh.interval.shape⟩

/-- What a step does to what a reading would show. -/
def Step.effect (l : Hdr.Layout) (s : Shapes) : Step → Shapes
  | .update v | .record v | .queue v =>
    ⟨s.total.join (.ofValues l [v]), s.interval.join (.ofValues l [v])⟩
  | .fold => s
  | .read => ⟨s.total, .range s.interval.stretches⟩
  | .restore o => ⟨s.total, s.interval.join (o.carried l)⟩

/-- Either count of a reservoir takes in the values by itself. -/
theorem total_foldl_count (vs : List UInt64) (r : BinnedReservoir) :
    (vs.foldl count r).total =
      (vs.map fun v ↦ (v.toNat, 1)).foldl (fun h e ↦ h.recordMany (id e.1) e.2) r.total := by
  induction vs generalizing r with
  | nil => rfl
  | cons v vs ih => exact ih (r.count v)

theorem interval_foldl_count (vs : List UInt64) (r : BinnedReservoir) :
    (vs.foldl count r).interval =
      (vs.map fun v ↦ (v.toNat, 1)).foldl (fun h e ↦ h.recordMany (id e.1) e.2) r.interval := by
  induction vs generalizing r with
  | nil => rfl
  | cons v vs ih => exact ih (r.count v)

/-- Counting values joins their shapes. -/
theorem TightBy.shape_foldl_count (h : r.TightBy l) (vs : List UInt64) :
    (vs.foldl BinnedReservoir.count r).total.shape = r.total.shape.join (.ofValues l vs) ∧
      (vs.foldl BinnedReservoir.count r).interval.shape =
        r.interval.shape.join (.ofValues l vs) := by
  have hwords : ∀ e ∈ vs.map fun v ↦ (v.toNat, 1), id e.1 ≤ maxWord := by
    intro e he
    obtain ⟨v, -, rfl⟩ := List.mem_map.1 he
    exact Nat.le_of_lt_succ v.toNat_lt
  rw [total_foldl_count, interval_foldl_count, Hdr.shape_foldl_recordMany id h.total.sound hwords,
    Hdr.shape_foldl_recordMany id h.interval.sound hwords, h.layout_total, h.layout_interval]
  exact ⟨rfl, rfl⟩

/-- Values that wait are shown as if they had been counted. -/
theorem TightBy.shapes_eq (h : r.TightBy l) :
    r.shapes = ⟨r.total.shape.join (.ofValues l r.backlog.toList),
      r.interval.shape.join (.ofValues l r.backlog.toList)⟩ := by
  obtain ⟨htotal, hinterval⟩ := (h.queued #[]).shape_foldl_count r.backlog.toList
  rw [shapes, BinnedReservoir.refresh, ← Array.foldl_toList, htotal, hinterval]

theorem shapes_refresh (r : BinnedReservoir) : r.refresh.shapes = r.shapes := by
  rw [shapes, refresh_of_empty r.backlog_refresh]
  rfl

theorem TightBy.shapes_push (h : r.TightBy l) (v : UInt64) :
    shapes { r with backlog := r.backlog.push v } = Step.effect l r.shapes (.queue v) := by
  rw [(h.queued _).shapes_eq, h.shapes_eq, Array.toList_push, Hdr.Shape.ofValues_append,
    ← Hdr.Shape.join_assoc, ← Hdr.Shape.join_assoc]
  rfl

/-- **What a step does to what a reading would show.** -/
theorem TightBy.shapes_step (h : r.TightBy l) {x : Step} (hx : ∀ o, x = .restore o → o.Tight) :
    (r.step x).shapes = x.effect l r.shapes := by
  cases x with
  | update v =>
    have hempty : (r.refresh.count v).backlog = #[] := r.backlog_refresh
    obtain ⟨htotal, hinterval⟩ := h.refresh.shape_foldl_count [v]
    show (r.refresh.count v).shapes = _
    rw [shapes, refresh_of_empty hempty]
    exact Shapes.ext htotal hinterval
  | record v =>
    refine Eq.trans ?_ (h.shapes_push v)
    show shapes (if _ then _ else _) = _
    split
    · exact shapes_refresh _
    · rfl
  | queue v => exact h.shapes_push v
  | fold => exact r.shapes_refresh
  | read =>
    show r.read.2.shapes = _
    rw [shapes, r.refresh_read]
    exact Shapes.ext rfl (Hdr.shape_reset _)
  | restore o =>
    -- the queue is folded in behind what was given back, which is joined in either order
    have ho := hx o rfl
    have hadd := Hdr.shape_add h.interval.sound ho
    rw [h.layout_interval] at hadd
    rw [(h.step hx).shapes_eq, h.shapes_eq]
    show Shapes.mk _ ((r.interval.add o).shape.join _) = ⟨_, _⟩
    rw [hadd, Hdr.Shape.join_right_comm]
    rfl

/-- **What a run does to what a reading would show.** -/
theorem TightBy.shapes_run (h : r.TightBy l) {steps : List Step} (hsteps : ∀ x ∈ steps, x.Legal) :
    (r.run steps).shapes = steps.foldl (Step.effect l) r.shapes := by
  induction steps generalizing r with
  | nil => rfl
  | cons x steps ih =>
    have hx := (hsteps x List.mem_cons_self).tight
    rw [BinnedReservoir.run, List.foldl_cons, List.foldl_cons, ← h.shapes_step hx]
    exact ih (h.step hx) fun y hy ↦ hsteps y (List.mem_cons_of_mem _ hy)

/-! ### What does not show -/

/-- The step with queueing replaced by counting at once, which leaves nothing to fold in. -/
def Step.settled : Step → Option Step
  | .update v | .record v | .queue v => some (.update v)
  | .fold => none
  | .read => some .read
  | .restore o => some (.restore o)

/-- Whether the step is a reading. -/
def Step.isRead : Step → Bool
  | .read => true
  | _ => false

/-- Steps that are no readings can change places. -/
theorem Step.effect_right_comm {x y : Step} (hx : x.isRead = false) (hy : y.isRead = false)
    (s : Shapes) : y.effect l (x.effect l s) = x.effect l (y.effect l s) := by
  have hcomm := fun a : Hdr.Shape ↦ a.join_right_comm
  cases x <;> cases y <;> first | contradiction | simp only [effect, hcomm]

/-- It does not show when values are folded in. -/
theorem foldl_effect_settled (steps : List Step) (s : Shapes) :
    (steps.filterMap Step.settled).foldl (Step.effect l) s = steps.foldl (Step.effect l) s := by
  rw [List.foldl_filterMap]
  congr 1
  funext s x
  cases x <;> rfl

/-- It does not show in which order things come in between two readings. -/
theorem foldl_effect_perm {a b : List Step} (hab : a.Perm b) (ha : ∀ x ∈ a, x.isRead = false)
    (s : Shapes) : a.foldl (Step.effect l) s = b.foldl (Step.effect l) s :=
  hab.foldl_eq' (fun _ hx _ hy s ↦ Step.effect_right_comm (ha _ hx) (ha _ hy) s) s

end BinnedReservoir

end Telemetry
