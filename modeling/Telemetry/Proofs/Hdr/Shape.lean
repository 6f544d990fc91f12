import Mathlib
import Telemetry.Proofs.Hdr.Rounding
import Telemetry.Proofs.Hdr.Sound

/-!
# What can be seen of a histogram

A histogram keeps its counts, its range and its extremes apart. Of all this only the `Shape` can be
seen from outside: the range, the counts, and the extremes as they are shown, rounded to their bins.
Two histograms of one layout are alike if and only if their shapes are equal (`alike_iff`).

Two shapes are put together by `Shape.join`: counts are added, ranges and extremes widen. This is
commutative and associative, and recording a value joins the shape of that value
(`shape_recordMany`). So what a histogram shows does not depend on the order in which values came
into it.

**Tight shapes.** The extremes are kept beside the counts and could say anything. In fact they are
those of the bins with counts (`Shape.Tight`), which `join` keeps up, and so shapes with the same
counts show the same extremes (`Tight.extremes_eq`). The one exception is the largest word, which is
shown as it is and not as the end of its bin, so that the bins do not tell whether it was there.
-/

namespace Telemetry.Hdr

/-! ### Shapes -/

/-- What can be seen of a histogram, apart from its layout and its ceiling. -/
@[ext]
structure Shape where
  stretches : Nat
  counts : Nat → Nat
  /-- The greatest value shown. -/
  peak : Nat
  /-- The least positive value shown. -/
  foot : Nat

namespace Shape

/-- Both shapes together. -/
def join (a b : Shape) : Shape where
  stretches := max a.stretches b.stretches
  counts i := addWords (a.counts i) (b.counts i)
  peak := max a.peak b.peak
  foot := min a.foot b.foot

/-- Shapes can be put together in either order. -/
theorem join_comm (a b : Shape) : a.join b = b.join a := by
  refine Shape.ext (max_comm _ _) (funext fun i ↦ ?_) (max_comm _ _) (min_comm _ _)
  show addWords _ _ = addWords _ _
  rw [addWords, addWords, Nat.add_comm]

/-- Three shapes can be put together in pairs from either end. -/
theorem join_assoc (a b c : Shape) : (a.join b).join c = a.join (b.join c) := by
  refine Shape.ext (max_assoc _ _ _) (funext fun i ↦ ?_) (max_assoc _ _ _) (min_assoc _ _ _)
  simp only [join, addWords]
  omega

theorem join_right_comm (a b c : Shape) : (a.join b).join c = (a.join c).join b := by
  rw [join_assoc, join_comm b, join_assoc]

/-- The shape of a range without counts. -/
def range (stretches : Nat) : Shape where
  stretches := stretches
  counts _ := 0
  peak := 0
  foot := maxWord

/-- The shape of a value that is counted `n` times. -/
def ofValue (l : Layout) (v n : Nat) : Shape where
  stretches := l.stretches v
  counts i := if l.index v = i then n else 0
  peak := l.roundUp v
  foot := if v = 0 then maxWord else l.roundDown v

/-- The shape of a list of bins, each counted as so many of one value. -/
def ofBins (l : Layout) (value : Nat → Nat) : List (Nat × Nat) → Shape
  | [] => range 0
  | e :: bins => (ofValue l (value e.1) e.2).join (ofBins l value bins)

end Shape

/-- The shape of a histogram. -/
def shape (h : Hdr) : Shape where
  stretches := h.stretches
  counts := h.count
  peak := h.maxValue
  foot := h.leastPositive

/-- **Histograms are alike if their layouts and shapes are the same.** -/
theorem alike_iff {a b : Hdr} : a.Alike b ↔ a.layout = b.layout ∧ a.shape = b.shape := by
  constructor
  · rintro ⟨hlayout, hstretches, hcounts, hmax, hleast⟩
    refine ⟨hlayout, Shape.ext hstretches (funext fun i ↦ ?_) hmax hleast⟩
    show a.count i = b.count i
    rw [count, count, hcounts]
  · rintro ⟨hlayout, hshape⟩
    have hcount : ∀ i, a.count i = b.count i := fun i ↦ congrFun (congrArg Shape.counts hshape) i
    exact ⟨hlayout, congrArg Shape.stretches hshape, Tally.ext hcount,
      congrArg Shape.peak hshape, congrArg Shape.foot hshape⟩

/-- Without its counts, a histogram has the shape of its range. -/
theorem shape_reset (h : Hdr) : h.reset.shape = .range h.stretches := by
  exact Shape.ext rfl (funext fun i ↦ h.count_reset i) rfl rfl

/-- An empty range adds nothing to a sound histogram that has that range. -/
theorem shape_join_range {h : Hdr} (hs : h.Sound) {n : Nat} (hn : n ≤ h.stretches) :
    h.shape.join (.range n) = h.shape := by
  have hleast := leastPositive_le hs.smallest_le
  refine Shape.ext (max_eq_left hn) (funext fun i ↦ ?_) (max_eq_left (Nat.zero_le _))
    (min_eq_left hleast)
  have := hs.count_le i
  show addWords (h.count i) 0 = h.count i
  rw [addWords]
  omega

/-! ### Recording -/

/-- Covering a value widens the range to the stretch of the value. -/
theorem stretches_cover (h : Hdr) (v : Nat) :
    (h.cover v).stretches = max h.stretches (h.layout.stretches v) := by
  unfold cover
  split
  · next hlt => exact (max_eq_left hlt).symm
  · next hge =>
    refine (max_eq_right ?_).symm
    show h.stretches ≤ h.layout.exponent v + 1
    omega

/-- **Recording joins the shape of the value.** -/
theorem shape_recordMany {h : Hdr} (hs : h.Sound) {v : Nat} (hv : v ≤ maxWord) (n : Nat) :
    (h.recordMany v n).shape = h.shape.join (.ofValue h.layout v n) := by
  have hlargest : (h.cover v).largest = h.largest := by
    unfold cover
    split <;> rfl
  have hsmallest : (h.cover v).smallest = h.smallest := by
    unfold cover
    split <;> rfl
  refine Shape.ext (h.stretches_cover v) (funext fun i ↦ ?_) ?_ ?_
  · have hle := hs.count_le i
    show (h.recordMany v n).count i = addWords (h.count i) (if h.layout.index v = i then n else 0)
    rw [count_recordMany]
    by_cases hi : i = h.layout.index v
    · rw [if_pos hi, if_pos hi.symm, addWords, addWords, Nat.add_comm]
    · rw [if_neg hi, if_neg (Ne.symm hi), addWords]
      omega
  · show (h.cover v).layout.roundUp (max (h.cover v).largest v) =
      max (h.layout.roundUp h.largest) (h.layout.roundUp v)
    rw [layout_cover, hlargest, Layout.roundUp_max hs.largest_le hv]
  · show (h.cover v).layout.roundDown (if v = 0 then (h.cover v).smallest
        else min (h.cover v).smallest v) =
      min (h.layout.roundDown h.smallest) (if v = 0 then maxWord else h.layout.roundDown v)
    rw [layout_cover, hsmallest]
    split
    · have hle := Layout.roundDown_le (l := h.layout) h.smallest
      rw [min_eq_left (hle.trans hs.smallest_le)]
    · exact Layout.roundDown_min hs.smallest_le hv

/-- Recording a list of bins joins the shapes of their values. -/
theorem shape_foldl_recordMany (value : Nat → Nat) {bins : List (Nat × Nat)} {h : Hdr}
    (hs : h.Sound) (hwords : ∀ e ∈ bins, value e.1 ≤ maxWord) :
    (bins.foldl (fun h e ↦ h.recordMany (value e.1) e.2) h).shape =
      h.shape.join (.ofBins h.layout value bins) := by
  induction bins generalizing h with
  | nil => exact (shape_join_range hs (Nat.zero_le _)).symm
  | cons e bins ih =>
    have hv := hwords e List.mem_cons_self
    rw [List.foldl_cons,
      ih (hs.recordMany hv e.2) fun e' he' ↦ hwords e' (List.mem_cons_of_mem _ he'),
      shape_recordMany hs hv, layout_recordMany, Shape.join_assoc]
    rfl

/-! ### Extremes that are those of the bins -/

namespace Shape

/-- The extremes shown are rounded to bins with counts, and no bin with a count is beyond them. -/
structure Tight (l : Layout) (s : Shape) : Prop where
  peak_le : s.peak ≤ maxWord
  foot_le : s.foot ≤ maxWord
  foot_ne : s.foot ≠ 0
  roundUp_peak : l.roundUp s.peak = s.peak
  roundDown_foot : l.roundDown s.foot = s.foot
  le_index_peak : ∀ i, s.counts i ≠ 0 → i ≤ l.index s.peak
  count_peak : s.peak ≠ 0 → s.counts (l.index s.peak) ≠ 0
  index_foot_le : ∀ i, s.counts i ≠ 0 → i ≠ 0 → l.index s.foot ≤ i
  count_foot : s.foot ≠ maxWord → s.counts (l.index s.foot) ≠ 0
  /-- The largest word as the least positive value is the only one. -/
  peak_of_foot : s.foot = maxWord → s.peak = 0 ∨ s.peak = maxWord

variable {l : Layout} {a b : Shape}

/-- A range without counts is tight. -/
theorem tight_range (n : Nat) : (range n).Tight l where
  peak_le := Nat.zero_le _
  foot_le := le_rfl
  foot_ne := by
    show maxWord ≠ 0
    decide
  roundUp_peak := rfl
  roundDown_foot := rfl
  le_index_peak _ hi := absurd rfl hi
  count_peak h := absurd rfl h
  index_foot_le _ hi := absurd rfl hi
  count_foot h := absurd rfl h
  peak_of_foot _ := .inl rfl

/-- Only the bin of a value has a count. -/
theorem counts_ofValue_ne_zero {v n : Nat} (hn : n ≠ 0) {i : Nat} :
    (ofValue l v n).counts i ≠ 0 ↔ l.index v = i := by
  show (if l.index v = i then n else 0) ≠ 0 ↔ l.index v = i
  split <;> simp [*]

/-- The foot of a positive value is the start of its bin. -/
theorem foot_ofValue {v n : Nat} (h₀ : v ≠ 0) : (ofValue l v n).foot = l.roundDown v :=
  if_neg h₀

/-- The bin of the peak is the only one with a count. -/
theorem le_index_peak_ofValue {v n : Nat} (hv : v ≤ maxWord) (hn : n ≠ 0) {i : Nat}
    (hi : (ofValue l v n).counts i ≠ 0) : i ≤ l.index (ofValue l v n).peak := by
  show i ≤ l.index (l.roundUp v)
  rw [Layout.index_roundUp hv, (counts_ofValue_ne_zero hn).1 hi]

/-- The peak of a value is in the bin that has its count. -/
theorem count_peak_ofValue {v n : Nat} (hv : v ≤ maxWord) (hn : n ≠ 0) :
    (ofValue l v n).counts (l.index (ofValue l v n).peak) ≠ 0 :=
  (counts_ofValue_ne_zero hn).2 (Layout.index_roundUp hv).symm

/-- Zero is in the first bin, and there is no positive value. -/
theorem tight_ofValue_zero {n : Nat} (hn : n ≠ 0) : (ofValue l 0 n).Tight l where
  peak_le := l.roundUp_le 0
  foot_le := le_rfl
  foot_ne := by
    show maxWord ≠ 0
    decide
  roundUp_peak := Layout.roundUp_roundUp (Nat.zero_le _)
  roundDown_foot := rfl
  le_index_peak _ := le_index_peak_ofValue (Nat.zero_le _) hn
  count_peak _ := count_peak_ofValue (Nat.zero_le _) hn
  index_foot_le i hi hne := by
    have hindex : l.index 0 = i := (counts_ofValue_ne_zero hn).1 hi
    exact absurd (hindex.symm.trans (l.index_eq_zero.2 rfl)) hne
  count_foot h := absurd rfl h
  peak_of_foot _ := .inl rfl

/-- **A counted value makes a tight shape**: peak and foot are the ends of its bin. -/
theorem tight_ofValue {v n : Nat} (hv : v ≤ maxWord) (hn : n ≠ 0) : (ofValue l v n).Tight l := by
  rcases eq_or_ne v 0 with rfl | h₀
  · exact tight_ofValue_zero hn
  have hfoot : (ofValue l v n).foot = l.roundDown v := foot_ofValue h₀
  have hdown : l.index (ofValue l v n).foot = l.index v := by rw [hfoot, l.index_roundDown]
  have hle : l.roundDown v ≤ v := l.roundDown_le v
  exact
    { peak_le := l.roundUp_le v
      foot_le := hfoot.trans_le (hle.trans hv)
      foot_ne := fun h ↦ h₀ (l.index_eq_zero.1 (by rw [← hdown, l.index_eq_zero.2 h]))
      roundUp_peak := Layout.roundUp_roundUp hv
      roundDown_foot := by rw [hfoot, Layout.roundDown_roundDown hv]
      le_index_peak := fun _ ↦ le_index_peak_ofValue hv hn
      count_peak := fun _ ↦ count_peak_ofValue hv hn
      index_foot_le := fun i hi _ ↦ by rw [hdown, (counts_ofValue_ne_zero hn).1 hi]
      count_foot := fun _ ↦ (counts_ofValue_ne_zero hn).2 hdown.symm
      peak_of_foot := fun h ↦ by
        have hw : v = maxWord := le_antisymm hv (h.symm.trans_le (hfoot.trans_le hle))
        exact .inr (by rw [hw]; rfl) }

/-- A bin has a count in both shapes together if it has one in either. -/
theorem counts_join_ne_zero {i : Nat} :
    (a.join b).counts i ≠ 0 ↔ a.counts i ≠ 0 ∨ b.counts i ≠ 0 := by
  have hword : maxWord ≠ 0 := by decide
  show addWords _ _ ≠ 0 ↔ _
  simp only [addWords]
  omega

/-- **Two tight shapes together are tight.** The greater peak is the peak of both, the lesser foot the
foot, and each comes with a count of the shape that it is from. -/
theorem Tight.join (ha : a.Tight l) (hb : b.Tight l) : (a.join b).Tight l where
  peak_le := max_le ha.peak_le hb.peak_le
  foot_le := (min_le_left _ _).trans ha.foot_le
  foot_ne := by
    have h₁ := ha.foot_ne
    have h₂ := hb.foot_ne
    show min a.foot b.foot ≠ 0
    omega
  roundUp_peak := by
    show l.roundUp (max a.peak b.peak) = max a.peak b.peak
    rw [Layout.roundUp_max ha.peak_le hb.peak_le, ha.roundUp_peak, hb.roundUp_peak]
  roundDown_foot := by
    show l.roundDown (min a.foot b.foot) = min a.foot b.foot
    rw [Layout.roundDown_min ha.foot_le hb.foot_le, ha.roundDown_foot, hb.roundDown_foot]
  le_index_peak i hi := by
    show i ≤ l.index (max a.peak b.peak)
    rw [Layout.index_max]
    rcases counts_join_ne_zero.1 hi with hi | hi
    · exact (ha.le_index_peak i hi).trans (le_max_left _ _)
    · exact (hb.le_index_peak i hi).trans (le_max_right _ _)
  count_peak :=
    max_rec' (fun peak ↦ peak ≠ 0 → (a.join b).counts (l.index peak) ≠ 0)
      (fun h ↦ counts_join_ne_zero.2 (.inl (ha.count_peak h)))
      fun h ↦ counts_join_ne_zero.2 (.inr (hb.count_peak h))
  index_foot_le i hi h₀ := by
    show l.index (min a.foot b.foot) ≤ i
    rw [Layout.index_min]
    rcases counts_join_ne_zero.1 hi with hi | hi
    · exact (min_le_left _ _).trans (ha.index_foot_le i hi h₀)
    · exact (min_le_right _ _).trans (hb.index_foot_le i hi h₀)
  count_foot :=
    min_rec' (fun foot ↦ foot ≠ maxWord → (a.join b).counts (l.index foot) ≠ 0)
      (fun h ↦ counts_join_ne_zero.2 (.inl (ha.count_foot h)))
      fun h ↦ counts_join_ne_zero.2 (.inr (hb.count_foot h))
  peak_of_foot h := by
    have ha' := ha.foot_le
    have hb' := hb.foot_le
    have hmin : min a.foot b.foot = maxWord := h
    have h₁ := ha.peak_of_foot (by omega)
    have h₂ := hb.peak_of_foot (by omega)
    show max a.peak b.peak = 0 ∨ max a.peak b.peak = maxWord
    omega

/-- Bins counted as words make a tight shape. -/
theorem tight_ofBins {value : Nat → Nat} {bins : List (Nat × Nat)}
    (h : ∀ e ∈ bins, value e.1 ≤ maxWord ∧ e.2 ≠ 0) : (ofBins l value bins).Tight l := by
  induction bins with
  | nil => exact tight_range 0
  | cons e bins ih =>
    obtain ⟨hv, hn⟩ := h e List.mem_cons_self
    exact (tight_ofValue hv hn).join (ih fun e' he' ↦ h e' (List.mem_cons_of_mem _ he'))

/-- A peak other than the largest word is the end of its bin. -/
theorem Tight.peak_eq (ha : a.Tight l) (hw : a.peak ≠ maxWord) :
    a.peak = if l.index a.peak = 0 then 0 else l.highest (l.index a.peak) := by
  have hup := ha.roundUp_peak
  rw [Layout.roundUp, if_neg hw] at hup
  simp only [l.index_eq_zero]
  exact hup.symm

/-- A foot other than the largest word is the beginning of its bin. -/
theorem Tight.foot_eq (ha : a.Tight l) (hw : a.foot ≠ maxWord) :
    a.foot = l.lowest (l.index a.foot) := by
  rw [← Layout.roundDown_of_ne hw, ha.roundDown_foot]

/-- A shape with counts in no other bins than another one does not show a greater peak. -/
theorem Tight.index_peak_le (ha : a.Tight l) (hb : b.Tight l)
    (hcounts : ∀ i, a.counts i ≠ 0 → b.counts i ≠ 0) : l.index a.peak ≤ l.index b.peak := by
  by_cases h₀ : a.peak = 0
  · rw [h₀, l.index_eq_zero.2 rfl]
    exact Nat.zero_le _
  · exact hb.le_index_peak _ (hcounts _ (ha.count_peak h₀))

/-- A shape with counts in all bins of another one does not show a greater foot. -/
theorem Tight.index_foot_le_foot (ha : a.Tight l) (hb : b.Tight l)
    (hcounts : ∀ i, b.counts i ≠ 0 → a.counts i ≠ 0) (haw : a.peak ≠ maxWord)
    (hbw : b.foot ≠ maxWord) : a.foot ≠ maxWord ∧ l.index a.foot ≤ l.index b.foot := by
  have hcount := hcounts _ (hb.count_foot hbw)
  have hpos : l.index b.foot ≠ 0 := fun h ↦ hb.foot_ne (l.index_eq_zero.1 h)
  refine ⟨?_, ha.index_foot_le _ hcount hpos⟩
  -- the largest word as the foot would be alone, so nothing positive would be counted
  intro hw
  have hzero := (ha.peak_of_foot hw).resolve_right haw
  have hle := ha.le_index_peak _ hcount
  rw [hzero, l.index_eq_zero.2 rfl] at hle
  omega

/-- **The bins with counts determine the extremes**, unless the largest word is among the values. -/
theorem Tight.extremes_eq (ha : a.Tight l) (hb : b.Tight l)
    (hcounts : ∀ i, a.counts i = b.counts i) (haw : a.peak ≠ maxWord) (hbw : b.peak ≠ maxWord) :
    a.peak = b.peak ∧ a.foot = b.foot := by
  have hab : ∀ i, a.counts i ≠ 0 → b.counts i ≠ 0 := fun i hi ↦ hcounts i ▸ hi
  have hba : ∀ i, b.counts i ≠ 0 → a.counts i ≠ 0 := fun i hi ↦ (hcounts i).symm ▸ hi
  have hindex := le_antisymm (ha.index_peak_le hb hab) (hb.index_peak_le ha hba)
  refine ⟨by rw [ha.peak_eq haw, hb.peak_eq hbw, hindex], ?_⟩
  by_cases hbf : b.foot = maxWord
  · by_contra hne
    have haf : a.foot ≠ maxWord := fun h ↦ hne (h.trans hbf.symm)
    exact (hb.index_foot_le_foot ha hab hbw haf).1 hbf
  · obtain ⟨haf, hle⟩ := ha.index_foot_le_foot hb hba haw hbf
    obtain ⟨-, hge⟩ := hb.index_foot_le_foot ha hab hbw haf
    rw [ha.foot_eq haf, hb.foot_eq hbf, le_antisymm hle hge]

end Shape

end Telemetry.Hdr
