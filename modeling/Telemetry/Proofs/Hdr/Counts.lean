import Mathlib
import Telemetry.Hdr.Basic
import Telemetry.Proofs.Hdr.Layout

/-!
# What recording and adding do to the counts of bins

Counts stop at the largest word, and a minimum may be taken once at the end instead of after every
step. So each operation has one law, which says what a single bin holds afterwards:

* `count_recordMany`: the bin of the value gains the number recorded;
* `count_add`: bin `i` gains what lies in the bins of the other histogram whose lowest value falls
  into bin `i`. This holds on both ways that `Hdr.add` can go, which for one layout come to the same
  because the lowest value of a bin is in it (`count_add_of_layout_eq`);
* `count_reset`: nothing is left.

`gain` is what a bin receives from a list of bins that are sent elsewhere. Over all bins it adds up
to the counts of the list (`sum_gain`), which ties the counts of a tally to their total
(`Tally.total_eq_sum`).
-/

namespace Telemetry

theorem addWords_le (a b : Nat) : addWords a b ≤ maxWord :=
  Nat.min_le_right _ _

/-- A minimum with the largest word on the way does not show in the end. -/
theorem min_add_addWords (a b c : Nat) :
    min (addWords b a + c) maxWord = min (a + (b + c)) maxWord := by
  simp only [addWords]
  omega

namespace Hdr

/-- What bin `i` receives when the counts of a list of bins are sent to where `f` says. -/
def gain (f : Nat → Nat) (bins : List (Nat × Nat)) (i : Nat) : Nat :=
  ((bins.filter fun e ↦ f e.1 = i).map (·.2)).sum

@[simp] theorem gain_nil (f : Nat → Nat) (i : Nat) : gain f [] i = 0 := rfl

theorem gain_cons (f : Nat → Nat) (e : Nat × Nat) (bins : List (Nat × Nat)) (i : Nat) :
    gain f (e :: bins) i = (if f e.1 = i then e.2 else 0) + gain f bins i := by
  by_cases h : f e.1 = i <;> simp [gain, h]

/-- A bin to which nothing is sent receives nothing. -/
theorem gain_eq_zero {f : Nat → Nat} {bins : List (Nat × Nat)} {i : Nat}
    (h : ∀ e ∈ bins, f e.1 ≠ i) : gain f bins i = 0 := by
  have : (bins.filter fun e ↦ f e.1 = i) = [] :=
    List.filter_eq_nil_iff.2 fun e he ↦ by simpa using h e he
  rw [gain, this]
  rfl

/-- All bins together receive what the list holds. -/
theorem sum_gain {f : Nat → Nat} {bins : List (Nat × Nat)} {n : Nat} (h : ∀ e ∈ bins, f e.1 < n) :
    ∑ i ∈ Finset.range n, gain f bins i = (bins.map (·.2)).sum := by
  induction bins with
  | nil => simp
  | cons e bins ih =>
    simp only [gain_cons, Finset.sum_add_distrib, List.map_cons, List.sum_cons]
    rw [ih fun e' he' ↦ h e' (List.mem_cons_of_mem _ he'), Finset.sum_ite_eq,
      if_pos (Finset.mem_range.2 (h e List.mem_cons_self))]

/-- The values in the bins below a number are the values of these bins, counted together. -/
theorem sum_countP (f : UInt64 → Nat) (vs : List UInt64) (n : Nat) :
    ∑ i ∈ Finset.range n, vs.countP (fun v ↦ f v = i) = vs.countP fun v ↦ f v < n := by
  induction vs with
  | nil => simp
  | cons v vs ih =>
    simp only [List.countP_cons, decide_eq_true_eq, Finset.sum_add_distrib]
    rw [ih, Finset.sum_ite_eq]
    simp only [Finset.mem_range]

namespace Tally

/-- Of ascending bins, a listed one receives its count and nothing else. -/
theorem gain_of_mem {l : List (Nat × Nat)} (hl : l.Pairwise fun a b ↦ a.1 < b.1) {i c : Nat}
    (h : (i, c) ∈ l) : gain id l i = c := by
  induction l with
  | nil => exact absurd h List.not_mem_nil
  | cons e rest ih =>
    obtain ⟨he, hrest⟩ := List.pairwise_cons.1 hl
    rw [gain_cons, id_eq]
    rcases List.mem_cons.1 h with rfl | h
    · have hnone : gain id rest i = 0 := gain_eq_zero fun e' he' ↦ (he e' he').ne'
      rw [if_pos rfl, hnone, Nat.add_zero]
    · rw [if_neg (he _ h).ne, ih hrest h, Nat.zero_add]

/-- What a bin holds is what it receives when every bin stays where it is. -/
theorem gain_toList (t : Tally) (i : Nat) : gain id t.toList i = t.count i := by
  rcases Nat.eq_zero_or_pos (t.count i) with h | h
  · rw [h]
    refine gain_eq_zero fun e he hi ↦ ?_
    obtain ⟨hc, hpos⟩ := mem_toList_iff.1 (show (i, e.2) ∈ t.toList from hi ▸ he)
    omega
  · exact gain_of_mem t.sorted (mem_toList_iff.2 ⟨rfl, h⟩)

theorem total_eq_sum_map (t : Tally) : t.total = (t.toList.map (·.2)).sum := by
  rw [total, List.sum_eq_foldr, List.foldr_map]

/-- **The total is the sum of the counts**, over any range of bins outside of which there are
none. -/
theorem total_eq_sum {t : Tally} {n : Nat} (h : ∀ i, t.count i ≠ 0 → i < n) :
    t.total = ∑ i ∈ Finset.range n, t.count i := by
  have hlt : ∀ e ∈ t.toList, id e.1 < n := by
    rintro ⟨i, c⟩ he
    obtain ⟨hc, hpos⟩ := mem_toList_iff.1 he
    exact h i (by omega)
  rw [total_eq_sum_map, ← sum_gain hlt]
  exact Finset.sum_congr rfl fun i _ ↦ t.gain_toList i

/-- All bins with something in them are below some number. -/
theorem exists_bound (t : Tally) : ∃ n, ∀ i, t.count i ≠ 0 → i < n := by
  refine ⟨(t.toList.map (·.1)).sum + 1, fun i hi ↦ ?_⟩
  have hmem : (i, t.count i) ∈ t.toList := mem_toList_iff.2 ⟨rfl, by omega⟩
  exact Nat.lt_succ_of_le (List.le_sum_of_mem (List.mem_map_of_mem hmem))

/-- No bin holds more than all bins. -/
theorem count_le_total (t : Tally) (i : Nat) : t.count i ≤ t.total := by
  by_cases hi : t.count i = 0
  · omega
  · have hmem : (i, t.count i) ∈ t.toList := mem_toList_iff.2 ⟨rfl, by omega⟩
    rw [total_eq_sum_map]
    exact List.le_sum_of_mem (List.mem_map_of_mem hmem)

/-- An update changes the total by what it changes in its bin. -/
theorem total_update (t : Tally) (i : Nat) (f : Nat → Nat) :
    (t.update i f).total + t.count i = t.total + f (t.count i) := by
  obtain ⟨n, hn⟩ := t.exists_bound
  have hi : i ∈ Finset.range (max n (i + 1)) := Finset.mem_range.2 (by omega)
  have hbound : ∀ j, t.count j ≠ 0 → j < max n (i + 1) := fun j hj ↦ (hn j hj).trans_le (by omega)
  have hbound' : ∀ j, (t.update i f).count j ≠ 0 → j < max n (i + 1) := fun j hj ↦ by
    rw [count_update] at hj
    split at hj
    · omega
    · exact hbound j hj
  have hrest : ∑ j ∈ (Finset.range (max n (i + 1))).erase i, (t.update i f).count j =
      ∑ j ∈ (Finset.range (max n (i + 1))).erase i, t.count j :=
    Finset.sum_congr rfl fun j hj ↦ by rw [count_update, if_neg (Finset.ne_of_mem_erase hj)]
  rw [total_eq_sum hbound, total_eq_sum hbound', ← Finset.add_sum_erase _ _ hi,
    ← Finset.add_sum_erase _ _ hi, hrest, count_update, if_pos rfl]
  omega

/-- Adding the counts of a list to a tally, bin by bin. -/
theorem count_foldl_update (bins : List (Nat × Nat)) {t : Tally} {i : Nat}
    (h : t.count i ≤ maxWord) :
    (bins.foldl (fun t e ↦ t.update e.1 (addWords e.2)) t).count i =
      min (t.count i + gain id bins i) maxWord := by
  induction bins generalizing t with
  | nil => simpa using h
  | cons e bins ih =>
    -- saturating at each step is saturating once, as every step starts at a word
    have hstep : (t.update e.1 (addWords e.2)).count i =
        addWords (if e.1 = i then e.2 else 0) (t.count i) := by
      rw [count_update]
      by_cases hi : i = e.1
      · subst hi
        simp
      · rw [if_neg hi, if_neg (Ne.symm hi)]
        simp only [addWords]
        omega
    rw [List.foldl_cons, ih (hstep ▸ addWords_le _ _), hstep, min_add_addWords, gain_cons]
    rfl

end Tally

/-! ### Recording -/

/-- Covering more values keeps the layout. -/
@[simp] theorem layout_cover (h : Hdr) (v : Nat) : (h.cover v).layout = h.layout := by
  unfold cover
  split <;> rfl

/-- Covering more values keeps the counts. -/
@[simp] theorem counts_cover (h : Hdr) (v : Nat) : (h.cover v).counts = h.counts := by
  unfold cover
  split <;> rfl

/-- Recording keeps the layout. -/
@[simp] theorem layout_recordMany (h : Hdr) (v n : Nat) :
    (h.recordMany v n).layout = h.layout :=
  h.layout_cover v

@[simp] theorem layout_record (h : Hdr) (v : Nat) : (h.record v).layout = h.layout :=
  h.layout_recordMany v 1

/-- **Recording fills the bin of the value.** -/
theorem count_recordMany (h : Hdr) (v n i : Nat) :
    (h.recordMany v n).count i =
      if i = h.layout.index v then addWords n (h.count i) else h.count i := by
  simp only [count, recordMany, counts_cover, layout_cover, Tally.count_update]
  split
  · next hi => rw [hi]
  · rfl

/-- **Recording a value adds one to the total**, if the sum of all counts is a word. -/
theorem total_record (h : Hdr) (v : Nat) (hroom : h.counts.total < maxWord) :
    (h.record v).counts.total = h.counts.total + 1 := by
  have hbin := h.counts.count_le_total (h.layout.index v)
  have htotal := h.counts.total_update (h.layout.index v) (addWords 1)
  have hcounts : (h.record v).counts = h.counts.update (h.layout.index v) (addWords 1) := by
    rw [record, recordMany, counts_cover, layout_cover]
  rw [hcounts]
  simp only [addWords] at *
  omega

/-- Recording a list of bins, each as so many of one value. -/
theorem count_foldl_recordMany (value : Nat → Nat) (bins : List (Nat × Nat)) {h : Hdr} {i : Nat}
    (hi : h.count i ≤ maxWord) :
    let after := bins.foldl (fun h e ↦ h.recordMany (value e.1) e.2) h
    after.layout = h.layout ∧
      after.count i = min (h.count i + gain (fun j ↦ h.layout.index (value j)) bins i) maxWord := by
  induction bins generalizing h with
  | nil => exact ⟨rfl, by simpa using hi⟩
  | cons e bins ih =>
    have hstep : (h.recordMany (value e.1) e.2).count i =
        addWords (if h.layout.index (value e.1) = i then e.2 else 0) (h.count i) := by
      rw [count_recordMany]
      by_cases hv : i = h.layout.index (value e.1)
      · rw [if_pos hv, if_pos hv.symm]
      · rw [if_neg hv, if_neg (Ne.symm hv)]
        simp only [addWords]
        omega
    obtain ⟨hlayout, hcount⟩ := ih (hstep ▸ addWords_le _ _)
    refine ⟨hlayout.trans (h.layout_recordMany _ _), ?_⟩
    rw [List.foldl_cons, hcount, hstep, min_add_addWords, layout_recordMany, gain_cons]

/-! ### Adding -/

@[simp] theorem count_reset (h : Hdr) (i : Nat) : h.reset.count i = 0 := rfl

/-- The histogram grown for the values of another one, as the first step of adding that one. -/
def grownFor (h other : Hdr) : Hdr :=
  if h.top < other.maxValue then
    { h with stretches := h.layout.stretches other.maxValue, ceiling := other.maxValue }
  else h

/-- Growing for another histogram keeps the layout. -/
@[simp] theorem layout_grownFor (h other : Hdr) : (h.grownFor other).layout = h.layout := by
  unfold grownFor
  split <;> rfl

@[simp] theorem counts_grownFor (h other : Hdr) : (h.grownFor other).counts = h.counts := by
  unfold grownFor
  split <;> rfl

@[simp] theorem largest_grownFor (h other : Hdr) : (h.grownFor other).largest = h.largest := by
  unfold grownFor
  split <;> rfl

@[simp] theorem smallest_grownFor (h other : Hdr) :
    (h.grownFor other).smallest = h.smallest := by
  unfold grownFor
  split <;> rfl

/-- Adding bin by bin, where the bins mean the same. -/
theorem add_of_same {h other : Hdr} (hlayout : h.layout = other.layout)
    (hstretches : (h.grownFor other).stretches = other.stretches) :
    h.add other =
      { h.grownFor other with
        counts := other.counts.toList.foldl (fun t e ↦ t.update e.1 (addWords e.2)) h.counts
        largest :=
          if (h.grownFor other).maxValue < other.maxValue then max h.largest other.maxValue
          else h.largest
        smallest :=
          if other.leastPositive < (h.grownFor other).leastPositive then
            min h.smallest other.leastPositive
          else h.smallest } := by
  have hsame : (h.grownFor other).layout = other.layout ∧
      (h.grownFor other).stretches = other.stretches :=
    ⟨(h.layout_grownFor other).trans hlayout, hstretches⟩
  rw [← counts_grownFor h other, ← largest_grownFor h other, ← smallest_grownFor h other]
  exact if_pos hsame

/-- Adding value by value, where they do not. -/
theorem add_of_ne {h other : Hdr}
    (hne : ¬(h.layout = other.layout ∧ (h.grownFor other).stretches = other.stretches)) :
    h.add other =
      other.counts.toList.foldl (fun h e ↦ h.recordMany (other.layout.lowest e.1) e.2)
        (h.grownFor other) := by
  rw [← layout_grownFor h other] at hne
  exact if_neg hne

/-- What adding does to the layout and to a bin, whether the bins are added as they are or counted
as their lowest values. -/
theorem add_spec (h other : Hdr) {i : Nat} (hi : h.count i ≤ maxWord) :
    (h.add other).layout = h.layout ∧
      (h.add other).count i =
        min (h.count i +
          gain (fun j ↦ h.layout.index (other.layout.lowest j)) other.counts.toList i) maxWord := by
  by_cases hsame : h.layout = other.layout ∧ (h.grownFor other).stretches = other.stretches
  · rw [add_of_same hsame.1 hsame.2]
    refine ⟨h.layout_grownFor other, ?_⟩
    rw [count, Tally.count_foldl_update _ hi, hsame.1]
    simp only [Layout.index_lowest, count]
    rfl
  · have hgrown : (h.grownFor other).count i = h.count i := by
      simp only [count, counts_grownFor]
    obtain ⟨hlayout, hcount⟩ := count_foldl_recordMany other.layout.lowest other.counts.toList
      (hgrown.symm ▸ hi)
    rw [add_of_ne hsame]
    refine ⟨hlayout.trans (h.layout_grownFor other), ?_⟩
    rw [hcount, hgrown, layout_grownFor]

/-- **A bin gains what the other histogram has in bins that begin in it**, whichever way the adding
goes. -/
theorem count_add (h other : Hdr) {i : Nat} (hi : h.count i ≤ maxWord) :
    (h.add other).count i =
      min (h.count i +
        gain (fun j ↦ h.layout.index (other.layout.lowest j)) other.counts.toList i) maxWord :=
  (h.add_spec other hi).2

/-- Within one layout every bin gains what the same bin holds in the other histogram. -/
theorem count_add_of_layout_eq {h other : Hdr} (hlayout : h.layout = other.layout) {i : Nat}
    (hi : h.count i ≤ maxWord) :
    (h.add other).count i = min (h.count i + other.count i) maxWord := by
  rw [h.count_add other hi, hlayout]
  simp only [Layout.index_lowest]
  rw [show (fun j : Nat ↦ j) = id from rfl, Tally.gain_toList]
  rfl

end Hdr

end Telemetry
