import Mathlib
import Telemetry.Distribution
import Telemetry.Proofs.Hdr.Precision

/-!
# The bin at a rank

A quantile is found by its rank: bins are gone through in ascending order, block by block, until the
counts so far reach the rank. As long as all counts together are a word, the running sum does not
wrap around, and then the blocks make no difference: what is found is the first bin at which the
counts reach the rank (`Hdr.exists_binAtRank?`).

Let the counts be those of some values. Then the counts up to a bin are the number of values up to
that bin, so the bin found is that of any value which has the rank itself
(`CountsOf.binAtRank?_eq`).

**What is shown of the bin** is its lowest value for the quantile zero and its last one otherwise
(`Hdr.selected`). The bounds of bins are words from which one is taken off in the end, so instead of
the largest word the one below it is shown (`Hdr.valueAt_eq`). As floating point numbers the two are
the same (`Hdr.value_eq`).
-/

namespace Telemetry.Hdr

/-! ### Going through the bins -/

/-- **The first bin at a rank**: the counts before it do not reach the rank, and with its own they
do. -/
def IsAtRank (rank seen : Nat) (bins : List (Nat × Nat)) (i : Nat) : Prop :=
  ∃ before c after, bins = before ++ (i, c) :: after ∧
    seen + (before.map (·.2)).sum < rank ∧ rank ≤ seen + (before.map (·.2)).sum + c

theorem addWrapping_eq {a b : Nat} (h : a + b ≤ maxWord) : addWrapping a b = a + b :=
  Nat.mod_eq_of_lt (Nat.lt_succ_of_le h)

/-- A running sum of counts does not wrap around, if it ends with a word. -/
theorem foldl_addWrapping {bins : List (Nat × Nat)} {seen : Nat}
    (h : seen + (bins.map (·.2)).sum ≤ maxWord) :
    bins.foldl (fun sum e ↦ addWrapping sum e.2) seen = seen + (bins.map (·.2)).sum := by
  induction bins generalizing seen with
  | nil => rfl
  | cons e bins ih =>
    rw [List.map_cons, List.sum_cons] at h ⊢
    rw [List.foldl_cons, addWrapping_eq (by omega), ih (by omega), Nat.add_assoc]

/-- A rank within the counts of a block is found, in the bin at which the running sum reaches it. -/
theorem binInBlock?_eq_some {bins : List (Nat × Nat)} {rank seen : Nat}
    (hroom : seen + (bins.map (·.2)).sum ≤ maxWord) (hseen : seen < rank)
    (hrank : rank ≤ seen + (bins.map (·.2)).sum) :
    ∃ i, binInBlock? rank seen bins = some i ∧ IsAtRank rank seen bins i := by
  induction bins generalizing seen with
  | nil => exact absurd hrank (Nat.not_le_of_lt hseen)
  | cons e bins ih =>
    obtain ⟨j, c⟩ := e
    rw [List.map_cons, List.sum_cons] at hroom hrank
    rw [binInBlock?, addWrapping_eq (by omega)]
    by_cases hc : rank ≤ seen + c
    · exact ⟨j, if_pos hc, [], c, bins, rfl, hseen, hc⟩
    · obtain ⟨i, hi, before, c', after, rfl, hbefore, hafter⟩ :=
        @ih (seen + c) (by omega) (by omega) (by omega)
      refine ⟨i, (if_neg hc).trans hi, (j, c) :: before, c', after, rfl, ?_, ?_⟩ <;>
        rw [List.map_cons, List.sum_cons] <;> omega

/-- Blocks that end before the rank hold no bin at it, so leaving them out finds the same bin. -/
theorem binAtRank?_eq_some {blocks : List (List (Nat × Nat))} {rank seen : Nat}
    (hroom : seen + (blocks.flatten.map (·.2)).sum ≤ maxWord) (hseen : seen < rank)
    (hrank : rank ≤ seen + (blocks.flatten.map (·.2)).sum) :
    ∃ i, binAtRank? rank seen blocks = some i ∧ IsAtRank rank seen blocks.flatten i := by
  induction blocks generalizing seen with
  | nil => exact absurd hrank (Nat.not_le_of_lt hseen)
  | cons block blocks ih =>
    rw [List.flatten_cons, List.map_append, List.sum_append] at hroom hrank
    simp only [binAtRank?, List.flatten_cons]
    rw [foldl_addWrapping (by omega)]
    by_cases hblock : rank ≤ seen + (block.map (·.2)).sum
    · obtain ⟨i, hi, before, c, after, rfl, hbefore, hafter⟩ :=
        binInBlock?_eq_some (by omega) hseen hblock
      exact ⟨i, (if_pos hblock).trans hi, before, c, after ++ blocks.flatten, by simp, hbefore,
        hafter⟩
    · obtain ⟨i, hi, before, c, after, hflatten, hbefore, hafter⟩ :=
        @ih (seen + (block.map (·.2)).sum) (by omega) (by omega) (by omega)
      refine ⟨i, (if_neg hblock).trans hi, block ++ before, c, after, by simp [hflatten], ?_, ?_⟩ <;>
        rw [List.map_append, List.sum_append] <;> omega

namespace Tally

/-- The counts listed before a bin are those of all bins below it. -/
theorem sum_before {t : Tally} {before after : List (Nat × Nat)} {i c : Nat}
    (h : t.toList = before ++ (i, c) :: after) :
    (before.map (·.2)).sum = ∑ j ∈ Finset.range i, t.count j := by
  have hsorted : (before ++ (i, c) :: after).Pairwise fun a b ↦ a.1 < b.1 := by
    rw [← h]
    exact t.sorted
  obtain ⟨-, hafter, hbefore⟩ := List.pairwise_append.1 hsorted
  rw [← sum_gain (f := id) fun e he ↦ hbefore e he (i, c) List.mem_cons_self]
  refine Finset.sum_congr rfl fun j hj ↦ ?_
  have hj : j < i := Finset.mem_range.1 hj
  have hrest : gain id ((i, c) :: after) j = 0 := gain_eq_zero fun e he ↦ by
    have hle : i ≤ e.1 := by
      rcases List.mem_cons.1 he with rfl | he
      · exact le_rfl
      · exact ((List.pairwise_cons.1 hafter).1 e he).le
    exact (hj.trans_le hle).ne'
  have hsplit : gain id t.toList j = gain id before j + gain id ((i, c) :: after) j := by
    rw [h, gain, List.filter_append, List.map_append, List.sum_append]
    rfl
  rw [← gain_toList, hsplit, hrest, Nat.add_zero]

end Tally

/-- **The bin at a rank is found**, and it is the first one up to which the counts reach the rank. -/
theorem exists_binAtRank? {h : Hdr} (hroom : h.counts.total ≤ maxWord) {rank : Nat}
    (hpos : 0 < rank) (hrank : rank ≤ h.counts.total) :
    ∃ i, binAtRank? rank 0 h.blocks = some i ∧ ∑ j ∈ Finset.range i, h.count j < rank ∧
      rank ≤ ∑ j ∈ Finset.range (i + 1), h.count j := by
  have hflatten : h.blocks.flatten = h.counts.toList := List.flatten_splitBy _ _
  have hsum : (h.blocks.flatten.map (·.2)).sum = h.counts.total := by
    rw [hflatten, Tally.total_eq_sum_map]
  obtain ⟨i, hi, before, c, after, hsplit, hbefore, hafter⟩ :=
    @binAtRank?_eq_some h.blocks rank 0 (by omega) hpos (by omega)
  rw [hflatten] at hsplit
  have hc : h.count i = c :=
    (Tally.mem_toList_iff.1 (hsplit ▸ List.mem_append_right _ List.mem_cons_self)).1
  rw [Tally.sum_before hsplit, Nat.zero_add] at hbefore hafter
  refine ⟨i, hi, hbefore, ?_⟩
  rw [Finset.sum_range_succ, hc]
  exact hafter

/-! ### Counts of values -/

section Values

variable {h : Hdr} {vs : List UInt64}

/-- The counts of a histogram are those of some values. -/
def CountsOf (h : Hdr) (vs : List UInt64) : Prop :=
  ∀ i, h.count i = vs.countP fun v ↦ h.layout.index v.toNat = i

/-- The bins below a number hold the values of these bins. -/
theorem CountsOf.sum_range (hc : h.CountsOf vs) (n : Nat) :
    ∑ i ∈ Finset.range n, h.count i = vs.countP fun v ↦ h.layout.index v.toNat < n := by
  rw [Finset.sum_congr rfl fun i _ ↦ hc i]
  exact sum_countP _ vs n

/-- All bins together hold all values. -/
theorem CountsOf.total (hc : h.CountsOf vs) : h.counts.total = vs.length := by
  obtain ⟨n, hn⟩ := h.counts.exists_bound
  rw [Tally.total_eq_sum hn]
  refine (hc.sum_range n).trans (List.countP_eq_length.2 fun v hv ↦ decide_eq_true (hn _ ?_))
  show h.count _ ≠ 0
  rw [hc]
  exact (List.countP_pos_iff.2 ⟨v, hv, decide_eq_true rfl⟩).ne'

/-- **The bin found at a rank is that of the value of the rank.** -/
theorem CountsOf.binAtRank?_eq (hc : h.CountsOf vs) (hroom : vs.length ≤ maxWord) {rank : Nat}
    {v : UInt64} (hbelow : vs.countP (· < v) < rank) (hupto : rank ≤ vs.countP (· ≤ v)) :
    binAtRank? rank 0 h.blocks = some (h.layout.index v.toNat) := by
  obtain ⟨i, hi, hbefore, hafter⟩ := @exists_binAtRank? h
    (hc.total ▸ hroom) rank (by omega) (hc.total ▸ hupto.trans List.countP_le_length)
  rw [hc.sum_range] at hbefore hafter
  rw [hi]
  congr 1
  -- values up to `v` are in bins up to its own, and values in lower bins are below `v`
  refine le_antisymm ?_ ?_
  · by_contra hlt
    have hsub := List.countP_mono_left (l := vs) (p := (· ≤ v))
      (q := fun u ↦ h.layout.index u.toNat < i) fun u _ hu ↦ by
        have := h.layout.index_mono (UInt64.le_iff_toNat_le.1 (of_decide_eq_true hu))
        exact decide_eq_true (by omega)
    omega
  · by_contra hlt
    have hsub := List.countP_mono_left (l := vs) (q := (· < v))
      (p := fun u ↦ h.layout.index u.toNat < i + 1) fun u _ hu ↦ by
        refine decide_eq_true (UInt64.lt_iff_toNat_lt.2 (Nat.lt_of_not_le fun hle ↦ ?_))
        have := h.layout.index_mono hle
        have := of_decide_eq_true hu
        omega
    omega

end Values

/-! ### What is shown of a bin -/

namespace Layout

variable (l : Layout)

/-- The last value of a bin. -/
def last (i : Nat) : Nat :=
  l.lowest i + l.width i - 1

/-- A bin does not end before it begins. -/
theorem lowest_le_last (i : Nat) : l.lowest i ≤ l.last i := by
  have := l.width_pos i
  simp only [last]
  omega

/-- The last value of a bin is in it. -/
@[simp] theorem index_last (i : Nat) : l.index (l.last i) = i := by
  have hpos := l.width_pos i
  refine l.index_eq_of_mem (l.lowest_le_last i) ?_
  rw [lowest_succ, last]
  omega

/-- A value is not above the last one of its bin. -/
theorem le_last_index (v : Nat) : v ≤ l.last (l.index v) := by
  have := l.lt_lowest_index_succ v
  rw [lowest_succ] at this
  simp only [last]
  omega

/-- The last value of the bin of a word is a word. -/
theorem last_index_le {v : Nat} (hv : v ≤ maxWord) : l.last (l.index v) ≤ maxWord := by
  have := l.lowest_strictMono.monotone (Nat.succ_le_of_lt (l.index_lt_end hv))
  rw [lowest_end, Nat.succ_eq_add_one, lowest_succ] at this
  simp only [last]
  omega

/-- The value shown for the end of a bin is its last one, or the word before the largest. -/
theorem highest_eq (i : Nat) : l.highest i = min (l.last i) (maxWord - 1) := by
  simp only [highest, last]
  omega

end Layout

/-- The largest word and the one below it are the same floating point number. -/
theorem wordFloat_min {n : Nat} (hn : n ≤ maxWord) :
    wordFloat (min n (maxWord - 1)) = wordFloat n := by
  rcases Nat.eq_or_lt_of_le hn with rfl | hlt
  · decide +kernel
  · rw [min_eq_left (Nat.le_sub_one_of_lt hlt)]

/-- What a quantile selects: the last value of the bin at its rank, or the lowest one for the
quantile zero; zero when no bin reaches the rank. -/
def selected (h : Hdr) (q : Float) : Nat :=
  match binAtRank? (h.rank q) 0 h.blocks with
  | none => 0
  | some i => if q == 0.0 then h.layout.lowest i else h.layout.last i

section Selected

variable {h : Hdr} {vs : List UInt64} {q : Float} {v : UInt64}

/-- What is selected at the rank of a value is an end of its bin: the lower one for the quantile
zero. -/
theorem selected_eq (hv : binAtRank? (h.rank q) 0 h.blocks = some (h.layout.index v.toNat)) :
    h.selected q =
      if q == 0.0 then h.layout.lowest (h.layout.index v.toNat)
      else h.layout.last (h.layout.index v.toNat) := by
  simp only [selected, hv]

/-- **A quantile is shown as selected**, but for the largest word, for which the one below it is
shown. -/
theorem valueAt_eq (hv : binAtRank? (h.rank q) 0 h.blocks = some (h.layout.index v.toNat)) :
    h.valueAt q = min (h.selected q) (maxWord - 1) := by
  have hword := Nat.le_of_lt_succ v.toNat_lt
  rw [selected_eq hv]
  simp only [valueAt, hv]
  split
  · have := h.layout.lowest_lt_maxWord (h.layout.index_lt_end hword)
    exact (min_eq_left (by omega)).symm
  · exact h.layout.highest_eq _

/-- As a floating point number, a quantile is shown as selected. -/
theorem value_eq (hv : binAtRank? (h.rank q) 0 h.blocks = some (h.layout.index v.toNat))
    (hlen : h.len ≠ 0) : Distribution.value h q = wordFloat (h.selected q) := by
  have hword := Nat.le_of_lt_succ v.toNat_lt
  have hselected : h.selected q ≤ maxWord := by
    rw [selected_eq hv]
    split
    · exact (h.layout.lowest_index_le _).trans hword
    · exact h.layout.last_index_le hword
  have hempty : ¬h.isEmpty = true := by simpa [isEmpty] using hlen
  rw [← wordFloat_min hselected, ← valueAt_eq hv]
  exact if_neg hempty

end Selected

end Telemetry.Hdr
