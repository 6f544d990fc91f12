import Mathlib
import Telemetry.Distribution
import Telemetry.Proofs.Hdr.Adding

/-!
# What is shown is right to so many digits

Two values in one bin are within one unit of the last significant digit of each other
(`Layout.sub_mul_le`), and the values below `2 * 10 ^ digits` have a bin each
(`Layout.eq_of_index_eq`). Both come from `Layout.pow_le_half`: a stretch has at least `10 ^ digits`
bins.

A shape covers values if those are the bins with counts, and if its extremes do not fall short of
the values (`Shape.Covers`). The extremes shown by tight counts are in occupied bins, so they are in
the bins of the extreme values, and thus right to as many digits as the layout has (`Faithful`,
`Tight.faithful`). What is covered by two shapes is covered by their join, which is how this holds
of everything that is counted and added (`Covers.join`, `Covers.carried`).
-/

namespace Telemetry.Hdr

/-! ### Bins and digits -/

namespace Layout

variable (l : Layout) {u v : Nat}

/-- A stretch has at least as many bins as its digits can tell apart. -/
theorem pow_le_half : 10 ^ l.digits ≤ l.half := by
  have hpos : 0 < 10 ^ l.digits := by positivity
  have hlt : 2 * 10 ^ l.digits - 1 < 2 ^ l.unitBits := Nat.lt_log2_self
  rw [← two_mul_half] at hlt
  omega

variable {l}

/-- **Two values in one bin differ by less than a unit of the last digit.** -/
theorem sub_mul_le (h : l.index u = l.index v) (hle : u ≤ v) :
    (v - u) * 10 ^ l.digits ≤ u := by
  have hlow := l.lowest_index_le u
  have hhigh := l.lt_lowest_index_succ v
  rw [h] at hlow
  rcases l.index_cases v with ⟨hv, -, hi⟩ | ⟨m, h₁, h₂, hi, -, hwidth⟩
  · rw [hi, l.lowest_of_lt hv] at hlow
    rw [show v - u = 0 by omega, Nat.zero_mul]
    exact Nat.zero_le u
  · rw [hi, l.lowest_add h₁ h₂] at hlow
    rw [Nat.succ_mul] at hwidth
    calc (v - u) * 10 ^ l.digits ≤ 2 ^ l.exponent v * l.half :=
          Nat.mul_le_mul (by omega) l.pow_le_half
      _ ≤ 2 ^ l.exponent v * m := Nat.mul_le_mul_left _ h₁
      _ = m * 2 ^ l.exponent v := Nat.mul_comm _ _
      _ ≤ u := hlow

/-- **A small value has a bin of its own.** -/
theorem eq_of_index_eq (h : l.index u = l.index v) (hv : v < 2 * 10 ^ l.digits) : u = v := by
  have hhalf := l.pow_le_half
  have hv' : v < 2 * l.half := by omega
  have hwidth : l.width v = 1 := by
    have : v / l.half < 2 := Nat.div_lt_of_lt_mul (by omega)
    rw [width_eq, binExponent, show v / l.half - 1 = 0 by omega, pow_zero]
  have hbin : l.lowest v = v := l.lowest_of_lt hv'
  have hindex : l.index v = v :=
    l.index_eq_of_mem hbin.le (by rw [lowest_succ, hbin, hwidth]; exact Nat.lt_succ_self v)
  have hlow := l.lowest_index_le u
  have hhigh := l.lt_lowest_index_succ u
  rw [h, hindex] at hlow hhigh
  rw [lowest_succ, hwidth] at hhigh
  omega

end Layout

/-! ### Covered values -/

namespace Shape

/-- The bins with counts are those of the values, and the extremes do not fall short of them. -/
structure Covers (l : Layout) (s : Shape) (vs : List UInt64) : Prop where
  occupied : ∀ i, s.counts i ≠ 0 ↔ ∃ v ∈ vs, l.index v.toNat = i
  le_peak : ∀ v ∈ vs, v.toNat ≤ s.peak
  foot_le : ∀ v ∈ vs, v.toNat ≠ 0 → s.foot ≤ v.toNat

variable {l : Layout} {a b : Shape} {vs us : List UInt64}

/-- A range without counts covers no values. -/
theorem covers_range (n : Nat) : (range n).Covers l [] where
  occupied _ := ⟨fun h ↦ absurd rfl h, nofun⟩
  le_peak := nofun
  foot_le := nofun

/-- The shape of a value covers just that value. -/
theorem covers_ofValue (v : UInt64) : (ofValue l v.toNat 1).Covers l [v] where
  occupied i := by
    show (if l.index v.toNat = i then 1 else 0) ≠ 0 ↔ _
    simp
  le_peak u hu := by
    rw [List.mem_singleton.1 hu]
    exact Layout.le_roundUp (Nat.le_of_lt_succ v.toNat_lt)
  foot_le u hu h₀ := by
    rw [List.mem_singleton.1 hu] at h₀ ⊢
    exact (if_neg h₀).trans_le (Layout.roundDown_le v.toNat)

/-- **Joined shapes cover what both of them cover.** -/
theorem Covers.join (ha : a.Covers l vs) (hb : b.Covers l us) :
    (a.join b).Covers l (vs ++ us) where
  occupied i := by
    rw [counts_join_ne_zero, ha.occupied, hb.occupied]
    simp only [List.mem_append, or_and_right, exists_or]
  le_peak v hv := by
    rcases List.mem_append.1 hv with hv | hv
    · exact (ha.le_peak v hv).trans (le_max_left _ _)
    · exact (hb.le_peak v hv).trans (le_max_right _ _)
  foot_le v hv h₀ := by
    rcases List.mem_append.1 hv with hv | hv
    · exact (min_le_left _ _).trans (ha.foot_le v hv h₀)
    · exact (min_le_right _ _).trans (hb.foot_le v hv h₀)

end Shape

/-- What is carried over to the same layout covers the same values. -/
theorem Shape.Covers.carried {l : Layout} {o : Hdr} {vs : List UInt64} (h : o.shape.Covers l vs)
    (hlayout : o.layout = l) : (o.carried l).Covers l vs := by
  rw [Hdr.carried, if_pos hlayout]
  exact { h with }

/-! ### Statistics -/

/-- The statistics of a histogram are those of some values, to so many digits. -/
structure Faithful (digits : Nat) (h : Hdr) (vs : List UInt64) : Prop where
  digits_eq : h.layout.digits = digits
  /-- The number of values is the sum of all counts, as far as a word can tell. -/
  len_eq : ∀ n, (∀ i, h.count i ≠ 0 → i < n) →
    Distribution.len h = min (∑ i ∈ Finset.range n, h.count i) maxWord
  len_eq_zero : Distribution.len h = 0 ↔ vs = []
  of_nil : vs = [] → Distribution.minValue h = 0 ∧ Distribution.maxValue h = 0
  minValue_of_least : ∀ v ∈ vs, (∀ u ∈ vs, v ≤ u) →
    Distribution.minValue h ≤ v.toNat ∧
    (v.toNat - Distribution.minValue h) * 10 ^ digits ≤ v.toNat ∧
    h.count (h.layout.index (Distribution.minValue h)) ≠ 0 ∧
    (∀ i, h.count i ≠ 0 → h.layout.index (Distribution.minValue h) ≤ i) ∧
    (v.toNat < 2 * 10 ^ digits → Distribution.minValue h = v.toNat)
  maxValue_of_greatest : ∀ w ∈ vs, (∀ u ∈ vs, u ≤ w) →
    w.toNat ≤ Distribution.maxValue h ∧
    (Distribution.maxValue h - w.toNat) * 10 ^ digits ≤ w.toNat ∧
    h.count (h.layout.index (Distribution.maxValue h)) ≠ 0 ∧
    (∀ i, h.count i ≠ 0 → i ≤ h.layout.index (Distribution.maxValue h)) ∧
    (w.toNat < 2 * 10 ^ digits → Distribution.maxValue h = w.toNat)

section Faithful

variable {h : Hdr} {vs : List UInt64}

/-- There are no counts if and only if there are no values. -/
theorem Shape.Covers.total_eq_zero (hc : h.shape.Covers h.layout vs) :
    h.counts.total = 0 ↔ vs = [] := by
  constructor
  · intro hzero
    refine List.eq_nil_iff_forall_not_mem.2 fun v hv ↦ (hc.occupied _).2 ⟨v, hv, rfl⟩ ?_
    exact Nat.le_zero.1 (hzero ▸ h.counts.count_le_total _)
  · rintro rfl
    refine Tally.total_eq_sum (n := 0) fun i hi ↦ ?_
    obtain ⟨v, hv, -⟩ := (hc.occupied i).1 hi
    exact absurd hv List.not_mem_nil

/-- There is nothing counted if and only if there are no values. -/
theorem Shape.Covers.len_eq_zero (hc : h.shape.Covers h.layout vs) : h.len = 0 ↔ vs = [] := by
  have hword : maxWord ≠ 0 := by decide
  rw [← hc.total_eq_zero, len]
  omega

/-- The least value shown is in the bin of the least value, and not above it. -/
theorem Tight.minValue_of_least (ht : h.Tight) (hc : h.shape.Covers h.layout vs) {v : UInt64}
    (hv : v ∈ vs) (hleast : ∀ u ∈ vs, v ≤ u) :
    h.minValue ≤ v.toNat ∧ h.layout.index h.minValue = h.layout.index v.toNat := by
  have hempty : h.isEmpty = false := by
    have hlen : h.len ≠ 0 := fun hlen ↦ List.ne_nil_of_mem hv (hc.len_eq_zero.1 hlen)
    simpa [isEmpty] using hlen
  have hcount : h.count (h.layout.index v.toNat) ≠ 0 := (hc.occupied _).2 ⟨v, hv, rfl⟩
  have hindex : ∀ i, h.count i ≠ 0 → h.layout.index v.toNat ≤ i := by
    intro i hi
    obtain ⟨u, hu, rfl⟩ := (hc.occupied i).1 hi
    exact h.layout.index_mono (UInt64.le_iff_toNat_le.1 (hleast u hu))
  by_cases hzero : h.count 0 = 0
  · -- the value is positive, so the foot is that of its bin
    have hv₀ : v.toNat ≠ 0 := fun hv₀ ↦ hcount (by rw [hv₀, h.layout.index_eq_zero.2 rfl, hzero])
    have hmin : h.minValue = h.leastPositive := by
      rw [minValue, hempty, hzero]
      rfl
    have hle : h.leastPositive ≤ v.toNat := hc.foot_le v hv hv₀
    rw [hmin]
    refine ⟨hle, le_antisymm (h.layout.index_mono hle) (hindex _ ?_)⟩
    by_cases hw : h.leastPositive = maxWord
    · have hvw : v.toNat = maxWord := le_antisymm (Nat.le_of_lt_succ v.toNat_lt) (hw ▸ hle)
      rwa [hw, ← hvw]
    · exact ht.shape.count_foot hw
  · have hmin : h.minValue = 0 := by
      rw [minValue, if_pos]
      simp [hzero]
    have hv₀ : h.layout.index v.toNat = 0 := Nat.le_zero.1 (hindex 0 hzero)
    rw [hmin, hv₀, h.layout.index_eq_zero.2 rfl]
    exact ⟨Nat.zero_le _, rfl⟩

/-- The greatest value shown is in the bin of the greatest value, and not below it. -/
theorem Tight.maxValue_of_greatest (ht : h.Tight) (hc : h.shape.Covers h.layout vs) {w : UInt64}
    (hw : w ∈ vs) (hgreatest : ∀ u ∈ vs, u ≤ w) :
    w.toNat ≤ h.maxValue ∧ h.layout.index h.maxValue = h.layout.index w.toNat := by
  have hle : w.toNat ≤ h.maxValue := hc.le_peak w hw
  refine ⟨hle, le_antisymm ?_ (h.layout.index_mono hle)⟩
  by_cases hzero : h.maxValue = 0
  · rw [hzero, h.layout.index_eq_zero.2 rfl]
    exact Nat.zero_le _
  · obtain ⟨u, hu, hindex⟩ := (hc.occupied _).1 (ht.shape.count_peak hzero)
    show h.layout.index h.shape.peak ≤ _
    rw [← hindex]
    exact h.layout.index_mono (UInt64.le_iff_toNat_le.1 (hgreatest u hu))

/-- **The statistics of tight counts are faithful to the values covered.** -/
theorem Tight.faithful (ht : h.Tight) (hc : h.shape.Covers h.layout vs) :
    Faithful h.layout.digits h vs := by
  have hoccupied : ∀ v ∈ vs, h.count (h.layout.index v.toNat) ≠ 0 :=
    fun v hv ↦ (hc.occupied _).2 ⟨v, hv, rfl⟩
  have hmax : ∀ v ∈ vs, Distribution.maxValue h = h.maxValue := by
    intro v hv
    have hlen : h.len ≠ 0 := fun hlen ↦ List.ne_nil_of_mem hv (hc.len_eq_zero.1 hlen)
    exact if_neg (by simpa [isEmpty] using hlen)
  refine ⟨rfl, ?_, hc.len_eq_zero, ?_, ?_, ?_⟩
  · intro n hn
    exact congrArg (min · maxWord) (Tally.total_eq_sum hn)
  · intro hnil
    have hempty : h.isEmpty = true := by simpa [isEmpty] using hc.len_eq_zero.2 hnil
    constructor
    · show h.minValue = 0
      rw [minValue, hempty]
      rfl
    · exact if_pos hempty
  · intro v hv hleast
    obtain ⟨hle, hindex⟩ := ht.minValue_of_least hc hv hleast
    have hsub := Layout.sub_mul_le hindex hle
    show h.minValue ≤ _ ∧ (_ - h.minValue) * _ ≤ _ ∧ h.count (h.layout.index h.minValue) ≠ 0 ∧
      (∀ i, h.count i ≠ 0 → h.layout.index h.minValue ≤ i) ∧ (_ → h.minValue = _)
    refine ⟨hle, hsub.trans hle, hindex ▸ hoccupied v hv, ?_, Layout.eq_of_index_eq hindex⟩
    intro i hi
    obtain ⟨u, hu, rfl⟩ := (hc.occupied i).1 hi
    rw [hindex]
    exact h.layout.index_mono (UInt64.le_iff_toNat_le.1 (hleast u hu))
  · intro w hw hgreatest
    obtain ⟨hle, hindex⟩ := ht.maxValue_of_greatest hc hw hgreatest
    have hsub := Layout.sub_mul_le hindex.symm hle
    rw [hmax w hw]
    refine ⟨hle, hsub, hindex ▸ hoccupied w hw, ?_, Layout.eq_of_index_eq hindex⟩
    intro i hi
    obtain ⟨u, hu, rfl⟩ := (hc.occupied i).1 hi
    rw [hindex]
    exact h.layout.index_mono (UInt64.le_iff_toNat_le.1 (hgreatest u hu))

end Faithful

end Telemetry.Hdr
