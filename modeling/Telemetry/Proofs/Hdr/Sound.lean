import Mathlib
import Telemetry.Proofs.Hdr.Counts
import Telemetry.Proofs.Hdr.Rounding

/-!
# Sound histograms, and giving counts back

A histogram keeps its range, its counts and its extremes apart, and nothing in the type says that
they fit together. `Sound` says it: the range is one of words, it reaches every bin with a count and
the largest value, and counts and extremes are words. Every operation keeps a histogram sound
(`sound_covering`, `Sound.recordMany`, `Sound.reset`, `Sound.add`).

**Giving back.** `add_reset_alike`: when a sound histogram is reset and its own counts are added to
it again, everything that can be read from it is as it was. What is remembered of the extremes does
change, to the bounds of their bins, and so may the ceiling; but the extremes are only ever shown
rounded to their bins. `Alike` is equality of all that is shown, the ceiling aside.

A histogram without counts can be given back as often as one likes (`add_of_empty`).
-/

namespace Telemetry.Hdr

/-- The parts of the histogram fit together. -/
structure Sound (h : Hdr) : Prop where
  stretches_le : h.stretches ≤ h.layout.stretches maxWord
  covered : ∀ i, h.count i ≠ 0 → i < (h.stretches + 1) * h.layout.half
  count_le : ∀ i, h.count i ≤ maxWord
  largest_le : h.largest ≤ maxWord
  largest_covered : h.layout.exponent h.largest < h.stretches
  smallest_le : h.smallest ≤ maxWord

/-- There are no bins behind those of the words. -/
theorem Sound.bins_le {h : Hdr} (hs : h.Sound) :
    (h.stretches + 1) * h.layout.half ≤ (h.layout.stretches maxWord + 1) * h.layout.half :=
  Nat.mul_le_mul_right _ (Nat.succ_le_succ hs.stretches_le)

/-- The bins with counts begin at words, of which the largest is none. -/
theorem Sound.lowest_lt {h : Hdr} (hs : h.Sound) {e : Nat × Nat} (he : e ∈ h.counts.toList) :
    h.layout.lowest e.1 < maxWord := by
  obtain ⟨hc, hpos⟩ := Tally.mem_toList_iff.1 he
  have hcovered := hs.covered e.1 (by simp only [count]; omega)
  exact h.layout.lowest_lt_maxWord (hcovered.trans_le hs.bins_le)

/-! ### The extremes -/

/-- The greatest value shown is in the bin of the greatest value counted. -/
theorem index_maxValue {h : Hdr} (hlargest : h.largest ≤ maxWord) :
    h.layout.index h.maxValue = h.layout.index h.largest :=
  Layout.index_roundUp hlargest

/-- The greatest value shown lies in the stretch of the greatest value recorded. -/
theorem exponent_maxValue {h : Hdr} (hlargest : h.largest ≤ maxWord) :
    h.layout.exponent h.maxValue = h.layout.exponent h.largest := by
  rw [Layout.exponent_eq, Layout.exponent_eq, index_maxValue hlargest]

/-- The greatest value shown is a word. -/
theorem maxValue_le (h : Hdr) : h.maxValue ≤ maxWord :=
  Layout.roundUp_le h.largest

/-- The least positive value shown is a word. -/
theorem leastPositive_le {h : Hdr} (hsmallest : h.smallest ≤ maxWord) :
    h.leastPositive ≤ maxWord :=
  (Layout.roundDown_le h.smallest).trans hsmallest

/-- What lies in the range and is not the largest word does not exceed the top. -/
theorem le_top {h : Hdr} {v : Nat} (hv : v < maxWord) (hcovered : h.layout.exponent v < h.stretches) :
    v ≤ h.top := by
  have hindex := (h.layout.exponent_lt_iff (Nat.zero_lt_of_lt hcovered) v).1 hcovered
  have hlast := h.layout.lastIndex_eq h.stretches
  exact (h.layout.le_highest_index hv).trans (h.layout.highest_mono (by omega))

/-! ### Every operation keeps histograms sound -/

/-- A new histogram is sound if its ceiling is a word. -/
theorem sound_covering (l : Layout) {ceiling : Nat} (h : ceiling ≤ maxWord) :
    (covering l ceiling).Sound where
  stretches_le := l.stretches_mono h
  covered _ hi := absurd rfl hi
  count_le _ := Nat.zero_le _
  largest_le := Nat.zero_le _
  largest_covered := Nat.lt_succ_of_le (l.exponent_mono (Nat.zero_le ceiling))
  smallest_le := le_rfl

/-- Taking the counts away keeps a histogram sound. -/
theorem Sound.reset {h : Hdr} (hs : h.Sound) : h.reset.Sound where
  stretches_le := hs.stretches_le
  covered _ hi := absurd rfl hi
  count_le _ := Nat.zero_le _
  largest_le := Nat.zero_le _
  largest_covered :=
    Nat.lt_of_le_of_lt (h.layout.exponent_mono (Nat.zero_le h.largest)) hs.largest_covered
  smallest_le := le_rfl

/-- A wider range of words keeps a histogram sound. -/
theorem Sound.widen {h : Hdr} (hs : h.Sound) {stretches ceiling : Nat}
    (hge : h.stretches ≤ stretches) (hle : stretches ≤ h.layout.stretches maxWord) :
    ({ h with stretches, ceiling } : Hdr).Sound where
  stretches_le := hle
  covered i hi :=
    Nat.lt_of_lt_of_le (hs.covered i hi) (Nat.mul_le_mul_right _ (Nat.succ_le_succ hge))
  count_le := hs.count_le
  largest_le := hs.largest_le
  largest_covered := Nat.lt_of_lt_of_le hs.largest_covered hge
  smallest_le := hs.smallest_le

/-- Covering a word keeps a histogram sound, and then the word has a bin. -/
theorem Sound.cover {h : Hdr} (hs : h.Sound) {v : Nat} (hv : v ≤ maxWord) :
    (h.cover v).Sound ∧ h.layout.exponent v < (h.cover v).stretches := by
  unfold Hdr.cover
  split
  · next hlt => exact ⟨hs, hlt⟩
  · next hge =>
    have hge' : h.stretches ≤ h.layout.stretches v := by
      simp only [Layout.stretches]
      omega
    exact ⟨hs.widen hge' (h.layout.stretches_mono hv), Nat.lt_succ_self _⟩

/-- **Recording keeps a histogram sound.** -/
theorem Sound.recordMany {h : Hdr} (hs : h.Sound) {v : Nat} (hv : v ≤ maxWord) (n : Nat) :
    (h.recordMany v n).Sound := by
  obtain ⟨hc, hcovered⟩ := hs.cover hv
  refine ⟨hc.stretches_le, fun i hi ↦ ?_, fun i ↦ ?_, ?_, ?_, ?_⟩
  · rw [count_recordMany] at hi
    show i < ((h.cover v).stretches + 1) * (h.cover v).layout.half
    split at hi
    · next hi' =>
      rw [hi', layout_cover]
      exact (h.layout.exponent_lt_iff (Nat.zero_lt_of_lt hcovered) v).1 hcovered
    · exact hc.covered i (by simpa [Hdr.count] using hi)
  · rw [count_recordMany]
    split
    · exact addWords_le _ _
    · exact hs.count_le i
  · exact max_le hc.largest_le hv
  · have hexponent : (h.cover v).layout.exponent v < (h.cover v).stretches := by rwa [layout_cover]
    exact max_rec' (fun u ↦ (h.cover v).layout.exponent u < (h.cover v).stretches)
      hc.largest_covered hexponent
  · show (if v = 0 then (h.cover v).smallest else min (h.cover v).smallest v) ≤ maxWord
    have := hc.smallest_le
    split <;> omega

/-- Recording words one after the other keeps a histogram sound. -/
theorem Sound.foldl_recordMany {h : Hdr} (hs : h.Sound) {value : Nat → Nat}
    {bins : List (Nat × Nat)} (hwords : ∀ e ∈ bins, value e.1 ≤ maxWord) :
    (bins.foldl (fun h e ↦ h.recordMany (value e.1) e.2) h).Sound :=
  List.foldlRecOn bins _ hs fun _ hs e he ↦ hs.recordMany (hwords e he) e.2

/-- Growing for another histogram keeps a histogram sound: what it grows to is a word. -/
theorem Sound.grownFor {h : Hdr} (hs : h.Sound) (other : Hdr) : (h.grownFor other).Sound := by
  unfold Hdr.grownFor
  split
  · next hgrow =>
    have hmax := other.maxValue_le
    refine hs.widen ?_ (h.layout.stretches_mono hmax)
    -- in range and yet above the top is only the largest word, whose range is the widest
    rcases Nat.lt_or_ge (h.layout.exponent other.maxValue) h.stretches with hlt | hge
    · have hword : other.maxValue = maxWord := by
        by_contra hne
        exact absurd (le_top (by omega) hlt) (by omega)
      rw [hword]
      exact hs.stretches_le
    · exact Nat.le_succ_of_le hge
  · exact hs

/-- Counts added bin by bin keep a histogram sound: it covers what the other one does, whose range
holds its greatest value. -/
theorem Sound.add_of_layout_eq {h other : Hdr} (hs : h.Sound) (ho : other.Sound)
    (hlayout : h.layout = other.layout)
    (hstretches : (h.grownFor other).stretches = other.stretches) : (h.add other).Sound := by
  have hg := hs.grownFor other
  have hcount : ∀ i, (h.add other).count i = min (h.count i + other.count i) maxWord :=
    fun i ↦ count_add_of_layout_eq hlayout (hs.count_le i)
  have hlargest : h.layout.exponent h.largest < (h.grownFor other).stretches := by
    have hcovered := hg.largest_covered
    rwa [layout_grownFor, largest_grownFor] at hcovered
  have hmaxValue : h.layout.exponent other.maxValue < (h.grownFor other).stretches := by
    rw [hlayout, exponent_maxValue ho.largest_le, hstretches]
    exact ho.largest_covered
  rw [add_of_same hlayout hstretches] at hcount ⊢
  refine ⟨hg.stretches_le, fun i hi ↦ ?_, fun i ↦ ?_, ?_, ?_, ?_⟩
  · rw [hcount] at hi
    by_cases hi' : h.count i = 0
    · have := ho.covered i (by omega)
      rwa [← hlayout, ← hstretches, ← layout_grownFor h other] at this
    · exact hg.covered i (by simpa [count] using hi')
  · rw [hcount]
    exact Nat.min_le_right _ _
  · have := hs.largest_le
    have := other.maxValue_le
    dsimp only
    split <;> omega
  · dsimp only
    rw [layout_grownFor]
    split
    · exact max_rec' (fun v ↦ h.layout.exponent v < (h.grownFor other).stretches) hlargest hmaxValue
    · exact hlargest
  · have := hs.smallest_le
    dsimp only
    split <;> omega

/-- **Adding keeps a histogram sound.** -/
theorem Sound.add {h other : Hdr} (hs : h.Sound) (ho : other.Sound) : (h.add other).Sound := by
  by_cases hsame : h.layout = other.layout ∧ (h.grownFor other).stretches = other.stretches
  · exact hs.add_of_layout_eq ho hsame.1 hsame.2
  · rw [add_of_ne hsame]
    -- otherwise the lowest values of its bins are recorded one after the other, and they are words
    exact (hs.grownFor other).foldl_recordMany fun e he ↦ (ho.lowest_lt he).le

/-! ### Giving counts back -/

/-- The same can be read from two histograms, their ceilings aside. -/
structure Alike (a b : Hdr) : Prop where
  layout : a.layout = b.layout
  stretches : a.stretches = b.stretches
  counts : a.counts = b.counts
  maxValue : a.maxValue = b.maxValue
  leastPositive : a.leastPositive = b.leastPositive

theorem Alike.refl (h : Hdr) : h.Alike h :=
  ⟨rfl, rfl, rfl, rfl, rfl⟩

theorem Alike.symm {a b : Hdr} (h : a.Alike b) : b.Alike a :=
  ⟨h.layout.symm, h.stretches.symm, h.counts.symm, h.maxValue.symm, h.leastPositive.symm⟩

theorem Alike.trans {a b c : Hdr} (h₁ : a.Alike b) (h₂ : b.Alike c) : a.Alike c :=
  ⟨h₁.layout.trans h₂.layout, h₁.stretches.trans h₂.stretches, h₁.counts.trans h₂.counts,
    h₁.maxValue.trans h₂.maxValue, h₁.leastPositive.trans h₂.leastPositive⟩

/-- Without their counts, histograms that are alike stay so. -/
theorem Alike.reset {a b : Hdr} (h : a.Alike b) : a.reset.Alike b.reset :=
  ⟨h.layout, h.stretches, rfl, rfl, rfl⟩

/-- Growing for one's own values leaves the range as it is. -/
theorem stretches_grownFor_reset {h : Hdr} (hs : h.Sound) :
    (h.reset.grownFor h).stretches = h.stretches := by
  unfold grownFor
  split
  · next hgrow =>
    have hexp := exponent_maxValue hs.largest_le
    have hcovered := hs.largest_covered
    have hword : h.maxValue = maxWord := by
      have := h.maxValue_le
      by_contra hne
      exact absurd (le_top (h := h.reset) (v := h.maxValue) (by omega) (hexp ▸ hcovered))
        (by omega)
    have hle := hs.stretches_le
    rw [← hword] at hle
    refine Nat.le_antisymm ?_ hle
    show h.layout.exponent h.maxValue + 1 ≤ h.stretches
    omega
  · rfl

/-- **Counts given back to where they were taken show what they showed before.** -/
theorem add_reset_alike {h : Hdr} (hs : h.Sound) : (h.reset.add h).Alike h := by
  have hstretches := stretches_grownFor_reset hs
  have hcounts : (h.reset.add h).counts = h.counts := Tally.ext fun i ↦ by
    have := count_add_of_layout_eq (show h.reset.layout = h.layout from rfl) (i := i) (Nat.zero_le _)
    have hle := hs.count_le i
    simp only [count_reset, Nat.zero_add, Nat.min_eq_left hle] at this
    exact this
  have heq := add_of_same (show h.reset.layout = h.layout from rfl) hstretches
  have hmax₀ : (h.reset.grownFor h).maxValue = 0 := by
    rw [maxValue, largest_grownFor]
    rfl
  have hleast₀ : (h.reset.grownFor h).leastPositive = maxWord := by
    rw [leastPositive, smallest_grownFor]
    rfl
  have hlargest : (h.reset.add h).largest = h.maxValue := by
    rw [heq]
    simp only [hmax₀]
    show (if 0 < h.maxValue then max 0 h.maxValue else 0) = h.maxValue
    split <;> omega
  have hsmallest : (h.reset.add h).smallest = h.leastPositive := by
    have := leastPositive_le hs.smallest_le
    rw [heq]
    simp only [hleast₀]
    show (if h.leastPositive < maxWord then min maxWord h.leastPositive else maxWord) =
      h.leastPositive
    split <;> omega
  have hlayout : (h.reset.add h).layout = h.layout := by
    rw [heq]
    exact layout_grownFor _ _
  refine ⟨hlayout, by rw [heq]; exact hstretches, hcounts, ?_, ?_⟩
  -- the extremes that are remembered are now those that were shown, and are shown as they are
  · show (h.reset.add h).layout.roundUp (h.reset.add h).largest = h.maxValue
    rw [hlayout, hlargest]
    exact Layout.roundUp_roundUp hs.largest_le
  · show (h.reset.add h).layout.roundDown (h.reset.add h).smallest = h.leastPositive
    rw [hlayout, hsmallest]
    exact Layout.roundDown_roundDown hs.smallest_le

/-- A histogram without counts adds nothing to one of the same range. -/
theorem add_of_empty {h other : Hdr} (hlayout : h.layout = other.layout)
    (hstretches : h.stretches = other.stretches) (hle : h.leastPositive ≤ maxWord) :
    h.add other.reset = h := by
  have hgrown : h.grownFor other.reset = h := if_neg (Nat.not_lt_zero _)
  have hsame : h.layout = other.reset.layout := hlayout
  rw [add_of_same hsame (hgrown.symm ▸ hstretches), hgrown]
  have hmax : ¬h.maxValue < other.reset.maxValue := Nat.not_lt_zero _
  have hleast : ¬other.reset.leastPositive < h.leastPositive := by
    show ¬maxWord < h.leastPositive
    omega
  simp only [if_neg hmax, if_neg hleast]
  rfl

end Telemetry.Hdr
