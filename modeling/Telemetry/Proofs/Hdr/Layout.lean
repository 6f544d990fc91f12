import Mathlib.Tactic
import Telemetry.Hdr.Layout

/-!
# The bins of a layout cut the values into consecutive pieces

`Layout.index` and `Layout.lowest` are closed formulas. What makes them a binning is said here by
two facts, from which everything else follows without opening the formulas again:

* `lowest_succ`: a bin ends where the next one begins;
* `lowest_index_le` and `lt_lowest_index_succ`: a value lies in the bin that `index` names.

Since the lower bounds ascend, `index v` is the only bin around `v` (`index_eq_of_mem`), so the
lowest value of a bin is a value of it (`index_lowest`), and so is its highest (`index_highest`),
also in the last bin, whose `highest` is one short of its end.

**The words.** The bins of the words are those below `(l.stretches maxWord + 1) * l.half`, and
`lowest_end` says that they end exactly where the words do.
-/

namespace Telemetry.Hdr.Layout

variable (l : Layout)

/-! ### The formulas in their cases -/

theorem unitBits_pos : 0 < l.unitBits :=
  Nat.succ_pos _

/-- The bins of the first stretch are told apart by eighteen bits at most. -/
theorem unitBits_le : l.unitBits ≤ 18 := by
  obtain ⟨digits, hdigits⟩ := l
  interval_cases digits <;> decide +revert

theorem half_eq : l.half = 2 ^ (l.unitBits - 1) := rfl

theorem two_mul_half : 2 * l.half = 2 ^ l.unitBits := by
  rw [half_eq, ← pow_succ', Nat.sub_add_cancel l.unitBits_pos]

theorem width_eq (i : Nat) : l.width i = 2 ^ l.binExponent i := rfl

theorem width_pos (i : Nat) : 0 < l.width i := by
  rw [width_eq]
  positivity

/-- Below two stretches a bin is its value. -/
theorem lowest_of_lt {i : Nat} (h : i < 2 * l.half) : l.lowest i = i := by
  have hexp : l.binExponent i = 0 := by
    have : i / l.half < 2 := Nat.div_lt_of_lt_mul (by omega)
    simp only [binExponent]
    omega
  rw [lowest, width_eq, hexp]
  omega

/-- From the second stretch on the bins of a stretch are its multiples of their width. -/
theorem lowest_add {e m : Nat} (h₁ : l.half ≤ m) (h₂ : m < 2 * l.half) :
    l.lowest (e * l.half + m) = m * 2 ^ e := by
  have hpos := l.half_pos
  have hexp : l.binExponent (e * l.half + m) = e := by
    have hm : m / l.half = 1 := Nat.div_eq_of_lt_le (by omega) (by omega)
    rw [binExponent, Nat.add_comm, Nat.add_mul_div_right _ _ hpos, hm]
    omega
  rw [lowest, width_eq, hexp]
  congr 1
  omega

/-- Every bin is below two stretches or in one stretch from the second on. -/
theorem exists_stretch (i : Nat) :
    i < l.half ∨ ∃ e m, l.half ≤ m ∧ m < 2 * l.half ∧ i = e * l.half + m := by
  have hpos := l.half_pos
  rcases Nat.lt_or_ge i l.half with hi | hi
  · exact .inl hi
  · refine .inr ⟨i / l.half - 1, i % l.half + l.half, by omega, ?_, ?_⟩
    · have := Nat.mod_lt i hpos
      omega
    · have hdiv : 1 ≤ i / l.half := (Nat.one_le_div_iff hpos).2 hi
      have hmod := Nat.div_add_mod' i l.half
      have hsplit : i / l.half * l.half = (i / l.half - 1) * l.half + l.half := by
        rw [← Nat.succ_mul]
        congr 1
        omega
      omega

/-- A value below two stretches has its own bin; any other has a leading part in the second
stretch. -/
theorem index_cases (v : Nat) :
    (v < 2 * l.half ∧ l.exponent v = 0 ∧ l.index v = v) ∨
      ∃ m, l.half ≤ m ∧ m < 2 * l.half ∧ l.index v = l.exponent v * l.half + m ∧
        m * 2 ^ l.exponent v ≤ v ∧ v < (m + 1) * 2 ^ l.exponent v := by
  have hpos := l.half_pos
  have hbits := l.unitBits_pos
  rcases Nat.lt_or_ge v (2 * l.half) with hv | hv
  · have hexp : l.exponent v = 0 := by
      rcases Nat.eq_zero_or_pos v with rfl | hv₀
      · simp only [exponent, Nat.log2_zero]
        omega
      · rw [two_mul_half] at hv
        have := (Nat.log2_lt (by omega)).2 hv
        simp only [exponent]
        omega
    refine .inl ⟨hv, hexp, ?_⟩
    rw [index, hexp]
    simp
  · have hv₀ : v ≠ 0 := by omega
    -- the quotient is what the value begins with, as many bits as tell the bins of a stretch apart
    obtain ⟨hlow, hhigh⟩ := (Nat.log2_eq_iff hv₀).1 (rfl : v.log2 = v.log2)
    have hbits' : l.unitBits ≤ v.log2 := by
      rw [two_mul_half] at hv
      exact (Nat.le_log2 hv₀).2 hv
    have hlog : v.log2 = l.unitBits - 1 + l.exponent v := by
      simp only [exponent]
      omega
    have hw : 0 < 2 ^ l.exponent v := by positivity
    refine .inr ⟨v / 2 ^ l.exponent v, ?_, ?_, rfl, Nat.div_mul_le_self _ _, ?_⟩
    · rw [Nat.le_div_iff_mul_le hw, half_eq, ← pow_add, ← hlog]
      exact hlow
    · rw [Nat.div_lt_iff_lt_mul hw, two_mul_half, ← pow_add]
      rwa [show l.unitBits + l.exponent v = v.log2 + 1 by omega]
    · have := Nat.lt_mul_div_succ v hw
      rwa [Nat.mul_comm] at this

/-! ### The bins are consecutive -/

/-- **A bin ends where the next one begins.** -/
theorem lowest_succ (i : Nat) : l.lowest (i + 1) = l.lowest i + l.width i := by
  have hpos := l.half_pos
  have hwidth : ∀ {e m}, l.half ≤ m → m < 2 * l.half → l.width (e * l.half + m) = 2 ^ e := by
    intro e m h₁ h₂
    have hm : m / l.half = 1 := Nat.div_eq_of_lt_le (by omega) (by omega)
    rw [width_eq, binExponent, Nat.add_comm, Nat.add_mul_div_right _ _ hpos, hm]
    congr 1
    omega
  rcases l.exists_stretch i with hi | ⟨e, m, h₁, h₂, rfl⟩
  · have hw : l.width i = 1 := by
      rw [width_eq, binExponent, Nat.div_eq_of_lt hi]
      rfl
    rw [l.lowest_of_lt (by omega), l.lowest_of_lt (by omega), hw]
  · rw [hwidth h₁ h₂, l.lowest_add h₁ h₂]
    rcases Nat.lt_or_ge (m + 1) (2 * l.half) with hm | hm
    · rw [Nat.add_assoc, l.lowest_add (by omega) hm]
      ring
    · -- the last bin of its stretch: the next one opens a stretch of bins twice as wide
      have hm' : m + 1 = 2 * l.half := by omega
      have hnext : e * l.half + m + 1 = (e + 1) * l.half + l.half := by
        rw [Nat.add_assoc, hm']
        ring
      rw [hnext, l.lowest_add le_rfl (by omega), ← Nat.succ_mul, Nat.succ_eq_add_one, hm']
      ring

/-- Later bins begin later. -/
theorem lowest_strictMono : StrictMono l.lowest :=
  strictMono_nat_of_lt_succ fun i ↦ by
    rw [l.lowest_succ]
    exact Nat.lt_add_of_pos_right (l.width_pos i)

/-- Later bins do not end earlier. -/
theorem highest_mono {i j : Nat} (h : i ≤ j) : l.highest i ≤ l.highest j := by
  have := l.lowest_strictMono.monotone (Nat.succ_le_succ h)
  simp only [Nat.succ_eq_add_one, lowest_succ] at this
  simp only [highest]
  omega

/-- A value is not below its bin. -/
theorem lowest_index_le (v : Nat) : l.lowest (l.index v) ≤ v := by
  rcases l.index_cases v with ⟨hv, -, hi⟩ | ⟨m, h₁, h₂, hi, hlow, -⟩
  · rw [hi, l.lowest_of_lt hv]
  · rw [hi, l.lowest_add h₁ h₂]
    exact hlow

/-- A value is below the bin behind its own. -/
theorem lt_lowest_index_succ (v : Nat) : v < l.lowest (l.index v + 1) := by
  have hpos := l.half_pos
  rcases l.index_cases v with ⟨hv, -, hi⟩ | ⟨m, h₁, h₂, hi, -, hhigh⟩
  · rw [lowest_succ, hi, l.lowest_of_lt hv]
    exact Nat.lt_add_of_pos_right (l.width_pos v)
  · rw [hi]
    rcases Nat.lt_or_ge (m + 1) (2 * l.half) with hm | hm
    · rwa [Nat.add_assoc, l.lowest_add (by omega) hm]
    · have hm' : m + 1 = 2 * l.half := by omega
      have hnext : l.exponent v * l.half + m + 1 = (l.exponent v + 1) * l.half + l.half := by
        rw [Nat.add_assoc, hm']
        ring
      rw [hm'] at hhigh
      rw [hnext, l.lowest_add le_rfl (by omega)]
      calc v < 2 * l.half * 2 ^ l.exponent v := hhigh
        _ = l.half * 2 ^ (l.exponent v + 1) := by ring

/-- **A value is in one bin only.** -/
theorem index_eq_of_mem {i v : Nat} (h₁ : l.lowest i ≤ v) (h₂ : v < l.lowest (i + 1)) :
    l.index v = i := by
  -- bins are consecutive, so any other bin lies on one side of the value
  have hle : l.index v < i + 1 := by
    by_contra hgt
    have := l.lowest_strictMono.monotone (Nat.le_of_not_lt hgt)
    exact absurd (l.lowest_index_le v) (by omega)
  have hge : i < l.index v + 1 := by
    by_contra hgt
    have := l.lowest_strictMono.monotone (Nat.le_of_not_lt hgt)
    exact absurd (l.lt_lowest_index_succ v) (by omega)
  omega

/-- The lowest value of a bin is in it. -/
@[simp] theorem index_lowest (i : Nat) : l.index (l.lowest i) = i :=
  l.index_eq_of_mem le_rfl (l.lowest_strictMono (Nat.lt_succ_self i))

/-- Greater values are not in earlier bins. -/
theorem index_mono {v w : Nat} (h : v ≤ w) : l.index v ≤ l.index w := by
  by_contra hgt
  have h₁ := l.lowest_strictMono.monotone (show l.index w + 1 ≤ l.index v by omega)
  have h₂ := l.lowest_index_le v
  have h₃ := l.lt_lowest_index_succ w
  omega

/-- Only the value zero is in the first bin. -/
theorem index_eq_zero {v : Nat} : l.index v = 0 ↔ v = 0 := by
  have hpos := l.half_pos
  constructor
  · intro h
    have hlt := l.lt_lowest_index_succ v
    rw [h, l.lowest_of_lt (by omega)] at hlt
    omega
  · rintro rfl
    have h := l.index_lowest 0
    rwa [l.lowest_of_lt (by omega)] at h

/-! ### Stretches -/

/-- The exponent of a value belongs to its bin. -/
theorem exponent_eq (v : Nat) : l.exponent v = l.index v / l.half - 1 := by
  have hpos := l.half_pos
  rcases l.index_cases v with ⟨hv, hexp, hi⟩ | ⟨m, h₁, h₂, hi, -, -⟩
  · have : v / l.half < 2 := Nat.div_lt_of_lt_mul (by omega)
    rw [hexp, hi]
    omega
  · have hm : m / l.half = 1 := Nat.div_eq_of_lt_le (by omega) (by omega)
    rw [hi, Nat.add_comm (l.exponent v * l.half), Nat.add_mul_div_right _ _ hpos, hm]
    omega

theorem exponent_mono {v w : Nat} (h : v ≤ w) : l.exponent v ≤ l.exponent w := by
  rw [exponent_eq, exponent_eq]
  exact Nat.sub_le_sub_right (Nat.div_le_div_right (l.index_mono h)) 1

theorem stretches_mono {v w : Nat} (h : v ≤ w) : l.stretches v ≤ l.stretches w :=
  Nat.succ_le_succ (l.exponent_mono h)

/-- A number of stretches holds a value if and only if it holds its bin. -/
theorem exponent_lt_iff {n : Nat} (hn : 0 < n) (v : Nat) :
    l.exponent v < n ↔ l.index v < (n + 1) * l.half := by
  have hpos := l.half_pos
  rw [exponent_eq, ← Nat.div_lt_iff_lt_mul hpos]
  omega

theorem lastIndex_eq (n : Nat) : l.lastIndex n + 1 = (n + 1) * l.half := by
  have : 0 < (n + 1) * l.half := Nat.mul_pos (Nat.succ_pos n) l.half_pos
  simp only [lastIndex]
  omega

/-! ### The words -/

/-- The number of stretches that hold all words. -/
theorem stretches_maxWord : l.stretches maxWord = 65 - l.unitBits := by
  have hlog : maxWord.log2 = 63 := (Nat.log2_eq_iff (by decide)).2 (by decide)
  have := l.unitBits_le
  simp only [stretches, exponent, hlog]
  omega

/-- **The bins of the words end where the words do.** -/
theorem lowest_end : l.lowest ((l.stretches maxWord + 1) * l.half) = maxWord + 1 := by
  have hpos := l.half_pos
  have h₁ := l.unitBits_pos
  have h₂ := l.unitBits_le
  rw [Nat.succ_mul, l.lowest_add le_rfl (by omega), stretches_maxWord, half_eq, ← pow_add,
    show l.unitBits - 1 + (65 - l.unitBits) = 64 by omega]
  rfl

/-- A bin of the words begins at a word. -/
theorem lowest_le_maxWord {i : Nat} (h : i < (l.stretches maxWord + 1) * l.half) :
    l.lowest i ≤ maxWord := by
  have := l.lowest_strictMono h
  rw [lowest_end] at this
  omega

/-- A word but the largest is not above the highest value of its bin. -/
theorem le_highest_index {v : Nat} (h : v < maxWord) : v ≤ l.highest (l.index v) := by
  have := l.lt_lowest_index_succ v
  rw [lowest_succ] at this
  simp only [highest]
  omega

/-- The highest value shown for a bin is never the largest word. -/
theorem highest_lt (i : Nat) : l.highest i < maxWord := by
  have : 0 < maxWord := by decide
  simp only [highest]
  omega

/-- Every word has a bin within the range that covers the largest one. -/
theorem index_lt_end {v : Nat} (h : v ≤ maxWord) :
    l.index v < (l.stretches maxWord + 1) * l.half :=
  (l.exponent_lt_iff (Nat.succ_pos _) v).1 (Nat.lt_succ_of_le (l.exponent_mono h))

/-- The last bin of the words is wide, as all bins but those of the first two stretches are. -/
theorem two_le_width_index_maxWord : 2 ≤ l.width (l.index maxWord) := by
  have hbits := l.unitBits_le
  have hstretches := l.stretches_maxWord
  rw [stretches, exponent_eq] at hstretches
  rw [width_eq, binExponent]
  exact Nat.le_self_pow (by omega) 2

/-- The largest word is not the lowest of its bin, so no bin begins with it. -/
theorem lowest_lt_maxWord {i : Nat} (h : i < (l.stretches maxWord + 1) * l.half) :
    l.lowest i < maxWord := by
  have hle := l.lowest_le_maxWord h
  have hwide := l.two_le_width_index_maxWord
  by_contra hge
  have heq : l.lowest i = maxWord := by omega
  have hsucc := l.lowest_succ i
  have hend := l.lowest_strictMono.monotone (Nat.succ_le_of_lt h)
  rw [lowest_end, Nat.succ_eq_add_one, hsucc] at hend
  rw [← heq, index_lowest] at hwide
  omega

/-- **The highest value of a bin of the words is in the bin.** -/
theorem index_highest {i : Nat} (h : i < (l.stretches maxWord + 1) * l.half) :
    l.index (l.highest i) = i := by
  have hwidth := l.width_pos i
  have hsucc := l.lowest_succ i
  have hle := l.lowest_strictMono.monotone (Nat.succ_le_of_lt h)
  rw [lowest_end, Nat.succ_eq_add_one] at hle
  rcases Nat.lt_or_ge (l.lowest (i + 1)) (maxWord + 1) with hlt | hge
  · refine l.index_eq_of_mem ?_ ?_ <;> simp only [highest] <;> omega
  · -- the bin ends with the largest word, one short of which is still in it
    have hlast : l.index maxWord = i := l.index_eq_of_mem (by omega) (by omega)
    have hwide := l.two_le_width_index_maxWord
    rw [hlast] at hwide
    refine l.index_eq_of_mem ?_ ?_ <;> simp only [highest] <;> omega

end Telemetry.Hdr.Layout
