import Mathlib
import Telemetry.Proofs.Hdr.Shape

/-!
# Adding histograms joins their shapes

Adding another histogram goes one of two ways, by bins where the bins mean the same and by values
where they do not. `carried` is what the other histogram amounts to in a layout, and adding it joins
just that (`shape_add`), whichever way the adding goes. Joining is commutative and associative, so
it does not matter in which order histograms are added, or values recorded in between.

**Why the two ways agree.** By bins, the extremes come over as they are shown; by values, only the
lowest value of every bin does. For one layout both are rounded to the same bins, provided that the
extremes shown are those of the bins with counts, which is what `Tight` says, and unless the largest
word of all is among the values, as that one is not rounded. But then the range is the widest there
is, on both sides, and the adding goes by bins.
-/

namespace Telemetry.Hdr

/-! ### Tight histograms -/

/-- The parts of the histogram fit together, and its extremes are those of its bins. -/
structure Tight (h : Hdr) : Prop where
  sound : h.Sound
  shape : h.shape.Tight h.layout

theorem tight_covering (l : Layout) {ceiling : Nat} (h : ceiling ≤ maxWord) :
    (covering l ceiling).Tight :=
  ⟨sound_covering l h, Shape.tight_range (l.stretches ceiling)⟩

theorem Tight.reset {h : Hdr} (ht : h.Tight) : h.reset.Tight :=
  ⟨ht.sound.reset, h.shape_reset ▸ Shape.tight_range _⟩

/-- Recording a word keeps a histogram tight. -/
theorem Tight.recordMany {h : Hdr} (ht : h.Tight) {v n : Nat} (hv : v ≤ maxWord) (hn : n ≠ 0) :
    (h.recordMany v n).Tight where
  sound := ht.sound.recordMany hv n
  shape := by
    rw [shape_recordMany ht.sound hv, layout_recordMany]
    exact ht.shape.join (Shape.tight_ofValue hv hn)

/-! ### What is carried over -/

/-- Growing for another histogram widens the range to hold the values of that one as well. -/
theorem stretches_grownFor {h : Hdr} (hs : h.Sound) (other : Hdr) :
    (h.grownFor other).stretches = max h.stretches (h.layout.stretches other.maxValue) := by
  have hpos : 0 < h.stretches := Nat.zero_lt_of_lt hs.largest_covered
  unfold grownFor
  split
  · next hgrow =>
    -- in range and yet above the top is only the largest word, whose range is the widest
    refine (max_eq_right ?_).symm
    rcases Nat.lt_or_ge (h.layout.exponent other.maxValue) h.stretches with hlt | hge
    · have hword : other.maxValue = maxWord := by
        have := other.maxValue_le
        by_contra hne
        exact absurd (le_top (by omega) hlt) (by omega)
      rw [hword]
      exact hs.stretches_le
    · exact Nat.le_succ_of_le hge
  · next hle =>
    refine (max_eq_left ?_).symm
    have hlast := h.layout.lastIndex_eq h.stretches
    have hend := hs.bins_le
    have htop : h.layout.index h.top = h.layout.lastIndex h.stretches :=
      h.layout.index_highest (by omega)
    have hexp := (h.layout.exponent_lt_iff hpos h.top).2 (by omega)
    have hmono := h.layout.exponent_mono (Nat.le_of_not_lt hle)
    exact Nat.succ_le_of_lt (hmono.trans_lt hexp)

/-- Growing does not change the greatest value. -/
@[simp] theorem maxValue_grownFor (h other : Hdr) : (h.grownFor other).maxValue = h.maxValue := by
  rw [maxValue, layout_grownFor, largest_grownFor]
  rfl

/-- Growing does not change the least positive value. -/
@[simp] theorem leastPositive_grownFor (h other : Hdr) :
    (h.grownFor other).leastPositive = h.leastPositive := by
  rw [leastPositive, layout_grownFor, smallest_grownFor]
  rfl

/-- Growing for another histogram joins the range of that one's values. -/
theorem shape_grownFor {h : Hdr} (hs : h.Sound) (other : Hdr) :
    (h.grownFor other).shape = h.shape.join (.range (h.layout.stretches other.maxValue)) := by
  refine Shape.ext (stretches_grownFor hs other) (funext fun i ↦ ?_) ?_ ?_
  · have hle := hs.count_le i
    show (h.grownFor other).counts.count i = addWords (h.count i) 0
    rw [counts_grownFor, addWords, count] at *
    omega
  · exact (h.maxValue_grownFor other).trans (Nat.max_zero _).symm
  · exact (h.leastPositive_grownFor other).trans
      (min_eq_left (leastPositive_le hs.smallest_le)).symm

/-- What a histogram carries over when it is added to one of a layout. -/
def carried (l : Layout) (other : Hdr) : Shape :=
  if other.layout = l then { other.shape with stretches := l.stretches other.maxValue }
  else (Shape.range (l.stretches other.maxValue)).join
    (.ofBins l other.layout.lowest other.counts.toList)

/-- What is carried over into another layout is tight in that layout. -/
theorem Tight.carried {other : Hdr} (ho : other.Tight) (l : Layout) :
    (other.carried l).Tight l := by
  unfold Hdr.carried
  split
  · next hlayout =>
    subst hlayout
    exact { ho.shape with }
  · refine (Shape.tight_range _).join (Shape.tight_ofBins fun e he ↦ ⟨?_, ?_⟩)
    · exact (ho.sound.lowest_lt he).le
    · exact (other.counts.pos e he).ne'

/-- What a list of bins puts into a bin. -/
theorem Shape.counts_ofBins (l : Layout) (value : Nat → Nat) (bins : List (Nat × Nat)) (i : Nat) :
    (Shape.ofBins l value bins).counts i =
      min (gain (fun j ↦ l.index (value j)) bins i) maxWord := by
  induction bins with
  | nil => rfl
  | cons e bins ih =>
    show addWords (if l.index (value e.1) = i then e.2 else 0) ((ofBins l value bins).counts i) = _
    rw [ih, gain_cons, addWords]
    omega

/-- Bins that are sent to where their lowest values are stay where they are. -/
theorem gain_index_lowest (l : Layout) (t : Tally) (i : Nat) :
    gain (fun j ↦ l.index (l.lowest j)) t.toList i = t.count i := by
  simp only [Layout.index_lowest]
  exact t.gain_toList i

/-- **What is carried over to a bin** is the counts of the bins whose lowest values fall into it. -/
theorem Tight.counts_carried {other : Hdr} (ho : other.Tight) (l : Layout) (i : Nat) :
    (other.carried l).counts i =
      min (gain (fun j ↦ l.index (other.layout.lowest j)) other.counts.toList i) maxWord := by
  unfold Hdr.carried
  split
  · next hlayout =>
    subst hlayout
    rw [gain_index_lowest]
    exact (min_eq_left (ho.sound.count_le i)).symm
  · show addWords 0 ((Shape.ofBins l other.layout.lowest other.counts.toList).counts i) = _
    rw [Shape.counts_ofBins, addWords]
    omega

/-- A list of bins reaches as far as the bins do, and shows no maximum beyond their values'. -/
theorem Shape.ofBins_le {l : Layout} {value : Nat → Nat} {bins : List (Nat × Nat)} {n : Nat}
    (hn : ∀ e ∈ bins, l.stretches (value e.1) ≤ n) (hw : ∀ e ∈ bins, value e.1 < maxWord) :
    (Shape.ofBins l value bins).stretches ≤ n ∧ (Shape.ofBins l value bins).peak < maxWord := by
  induction bins with
  | nil => exact ⟨Nat.zero_le _, by show 0 < maxWord; decide⟩
  | cons e bins ih =>
    obtain ⟨hstretches, hpeak⟩ := ih (fun e' he' ↦ hn e' (List.mem_cons_of_mem _ he'))
      fun e' he' ↦ hw e' (List.mem_cons_of_mem _ he')
    exact ⟨max_le (hn e List.mem_cons_self) hstretches,
      max_lt (Layout.roundUp_lt (hw e List.mem_cons_self)) hpeak⟩

/-- Within one layout, a histogram without the largest word is carried over by values as it is by
bins. -/
theorem Tight.carried_eq {other : Hdr} (ho : other.Tight) (hw : other.maxValue ≠ maxWord) :
    other.carried other.layout =
      (Shape.range (other.layout.stretches other.maxValue)).join
        (.ofBins other.layout other.layout.lowest other.counts.toList) := by
  let l := other.layout
  have hbins : ∀ e ∈ other.counts.toList,
      l.stretches (l.lowest e.1) ≤ l.stretches other.maxValue := by
    intro e he
    obtain ⟨hc, hpos⟩ := Tally.mem_toList_iff.1 he
    have hindex : e.1 ≤ l.index other.maxValue := ho.shape.le_index_peak e.1 (by
      show other.counts.count e.1 ≠ 0
      omega)
    rw [← l.index_lowest e.1] at hindex
    simp only [Layout.stretches, Layout.exponent_eq]
    have := Nat.div_le_div_right (c := l.half) hindex
    omega
  obtain ⟨hstretches, hpeak⟩ := Shape.ofBins_le hbins fun e he ↦ ho.sound.lowest_lt he
  have hcounts : ∀ i, (Shape.ofBins l l.lowest other.counts.toList).counts i = other.count i := by
    intro i
    have hle := ho.sound.count_le i
    rw [Shape.counts_ofBins, gain_index_lowest]
    exact min_eq_left hle
  have htight : (Shape.ofBins l l.lowest other.counts.toList).Tight l :=
    Shape.tight_ofBins fun e he ↦ ⟨(ho.sound.lowest_lt he).le, (other.counts.pos e he).ne'⟩
  obtain ⟨hpeaks, hfoots⟩ :=
    ho.shape.extremes_eq htight (fun i ↦ (hcounts i).symm) hw (by omega)
  rw [Hdr.carried, if_pos rfl]
  refine Shape.ext (max_eq_left hstretches).symm (funext fun i ↦ ?_) ?_ ?_
  · have hle := ho.sound.count_le i
    show other.count i = addWords 0 ((Shape.ofBins l l.lowest other.counts.toList).counts i)
    rw [hcounts, addWords]
    omega
  · show other.shape.peak = max 0 (Shape.ofBins l l.lowest other.counts.toList).peak
    rw [Nat.zero_max, hpeaks]
  · show other.shape.foot = min maxWord (Shape.ofBins l l.lowest other.counts.toList).foot
    rw [min_eq_right htight.foot_le, hfoots]

/-- Adding by bins joins what the other histogram shows. -/
theorem shape_add_of_same {h other : Hdr} (hs : h.Sound) (ho : other.Tight)
    (hlayout : h.layout = other.layout)
    (hstretches : (h.grownFor other).stretches = other.stretches) :
    (h.add other).shape = h.shape.join (other.carried h.layout) := by
  have hcount : ∀ i, (h.add other).count i = addWords (h.count i) (other.count i) :=
    fun i ↦ count_add_of_layout_eq hlayout (hs.count_le i)
  have heq := add_of_same hlayout hstretches
  rw [maxValue_grownFor, leastPositive_grownFor] at heq
  -- the other extremes come over rounded, which rounding again does not change
  have hmax : h.layout.roundUp other.maxValue = other.maxValue := hlayout ▸ ho.shape.roundUp_peak
  have hleast : h.layout.roundDown other.leastPositive = other.leastPositive :=
    hlayout ▸ ho.shape.roundDown_foot
  rw [carried, if_pos hlayout.symm]
  refine Shape.ext ?_ (funext hcount) ?_ ?_
  · show (h.add other).stretches = _
    rw [heq]
    exact stretches_grownFor hs other
  · show (h.add other).layout.roundUp (h.add other).largest = max h.maxValue other.maxValue
    rw [heq]
    show (h.grownFor other).layout.roundUp
      (if h.maxValue < other.maxValue then max h.largest other.maxValue else h.largest) = _
    rw [layout_grownFor]
    split
    · rw [Layout.roundUp_max hs.largest_le other.maxValue_le, hmax]
      rfl
    · next hle => exact (max_eq_left (Nat.le_of_not_lt hle)).symm
  · show (h.add other).layout.roundDown (h.add other).smallest =
      min h.leastPositive other.leastPositive
    rw [heq]
    show (h.grownFor other).layout.roundDown
      (if other.leastPositive < h.leastPositive then min h.smallest other.leastPositive
        else h.smallest) = _
    rw [layout_grownFor]
    split
    · rw [Layout.roundDown_min hs.smallest_le (leastPositive_le ho.sound.smallest_le), hleast]
      rfl
    · next hle => exact (min_eq_left (Nat.le_of_not_lt hle)).symm

/-- Adding by values joins the lowest values of the bins. -/
theorem shape_add_of_ne {h other : Hdr} (hs : h.Sound) (ho : other.Tight)
    (hne : ¬(h.layout = other.layout ∧ (h.grownFor other).stretches = other.stretches)) :
    (h.add other).shape = h.shape.join (other.carried h.layout) := by
  have hbins : other.carried h.layout =
      (Shape.range (h.layout.stretches other.maxValue)).join
        (.ofBins h.layout other.layout.lowest other.counts.toList) := by
    by_cases hlayout : other.layout = h.layout
    · -- the largest word would have widened both ranges as far as ranges go
      have hw : other.maxValue ≠ maxWord := fun hw ↦ by
        have hcovered := ho.sound.largest_covered
        rw [← exponent_maxValue ho.sound.largest_le, hw] at hcovered
        have hle := ho.sound.stretches_le
        have hle' := hs.stretches_le
        have hmax := stretches_grownFor hs other
        rw [hw, ← hlayout] at hmax
        rw [← hlayout] at hle'
        have hsucc : other.layout.stretches maxWord = other.layout.exponent maxWord + 1 := rfl
        exact hne ⟨hlayout.symm, by omega⟩
      rw [← hlayout]
      exact ho.carried_eq hw
    · exact if_neg hlayout
  have hwords : ∀ e ∈ other.counts.toList, other.layout.lowest e.1 ≤ maxWord :=
    fun e he ↦ (ho.sound.lowest_lt he).le
  rw [add_of_ne hne, shape_foldl_recordMany _ (hs.grownFor other) hwords, shape_grownFor hs other,
    layout_grownFor, hbins, Shape.join_assoc]

/-- **Adding joins what the other histogram carries over**, whichever way the adding goes. -/
theorem shape_add {h other : Hdr} (hs : h.Sound) (ho : other.Tight) :
    (h.add other).shape = h.shape.join (other.carried h.layout) := by
  by_cases hsame : h.layout = other.layout ∧ (h.grownFor other).stretches = other.stretches
  · exact shape_add_of_same hs ho hsame.1 hsame.2
  · exact shape_add_of_ne hs ho hsame

/-- **Adding keeps a histogram tight.** -/
theorem Tight.add {h other : Hdr} (ht : h.Tight) (ho : other.Tight) : (h.add other).Tight where
  sound := ht.sound.add ho.sound
  shape := by
    rw [shape_add ht.sound ho, (h.add_spec other (ht.sound.count_le 0)).1]
    exact ht.shape.join (ho.carried h.layout)

end Telemetry.Hdr
