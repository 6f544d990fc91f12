import Mathlib
import Telemetry.Proofs.Hdr.Quantile
import Telemetry.Proofs.Reservoir.Flow
import Telemetry.Proofs.Reservoir.Window

/-!
# Quantiles of bins and of values

A quantile of sorted samples is the value at a rank, and a quantile of counts is read off the bin at
the same rank. If the samples are those that were counted, the bin is that of the value
(`Hdr.CountsOf.binAtRank?_eq`). So what the counts select is as close to the value as a bin is wide:
its last value is not below the value, its lowest one, which stands for the quantile zero, not above,
and both agree with it to so many digits (`Hdr.QuantilesAgree`).

**The ranks** are computed alike, with the one difference that samples keep the quantile from below
as well as from above, and the rank within their number. For a quantile between zero and one, and a
rank that rounding has not pushed beyond the number of values, neither makes a difference
(`rank_eq`).
-/

namespace Telemetry

/-! ### Comparing floating point numbers -/

section Float

open Float.Model

/-- Comparing the other way round gives the opposite, if it gives anything. -/
theorem compare_swap (a b : UnpackedFloat) : b.compare a = (a.compare b).map Ordering.swap := by
  have hfinite : ∀ (e₁ e₂ : Int) (m₁ m₂ : Nat),
      (compare e₂ e₁).then (compare m₂ m₁) = ((compare e₁ e₂).then (compare m₁ m₂)).swap := by
    intro e₁ e₂ m₁ m₂
    rw [Ordering.swap_then, ← Std.OrientedOrd.eq_swap, ← Std.OrientedOrd.eq_swap]
  rcases a with (_ | _) | _ | (_ | _) | ⟨_ | _, m₁, e₁, h₁⟩ <;>
    rcases b with (_ | _) | _ | (_ | _) | ⟨_ | _, m₂, e₂, h₂⟩ <;>
    first
    | rfl
    | exact congrArg some (hfinite e₁ e₂ m₁ m₂)
    | exact congrArg (some ·.swap) (hfinite e₁ e₂ m₁ m₂)

theorem not_lt_of_le {a b : Float} (h : a ≤ b) : ¬b < a := by
  intro hlt
  have hle : (a.toModel.unpack.compare b.toModel.unpack).any Ordering.isLE = true :=
    of_decide_eq_true h
  have hlt : (b.toModel.unpack.compare a.toModel.unpack == some .lt) = true := of_decide_eq_true hlt
  rw [compare_swap] at hlt
  obtain ⟨o, ho, hswap⟩ := Option.map_eq_some_iff.1 (eq_of_beq hlt)
  rw [ho] at hle
  cases o <;> contradiction

theorem beq_eq_false_of_lt {a b : Float} (h : a < b) : (b == a) = false := by
  have hlt : (a.toModel.unpack.compare b.toModel.unpack == some .lt) = true := of_decide_eq_true h
  show (b.toModel.unpack.compare a.toModel.unpack == some .eq) = false
  rw [compare_swap, eq_of_beq hlt]
  rfl

end Float

/-! ### One rank for both -/

section Rank

variable {q : Float}

/-- The rank of a quantile among so many values, counted from one. -/
def nearestRank (n : Nat) (q : Float) : Nat :=
  max 1 (floorWord (q * wordFloat n).ceil)

theorem Samples.rank_eq {s : Samples} (h₀ : 0.0 ≤ q) (h₁ : q ≤ 1.0) (hlen : 0 < s.len)
    (hrank : floorWord (q * wordFloat s.len).ceil ≤ s.len) : s.rank q = nearestRank s.len q := by
  have hq : clampQuantile q = q := by
    rw [clampQuantile, if_neg (not_lt_of_le h₀), if_neg (not_lt_of_le h₁)]
  rw [rank, hq, nearestRank]
  omega

theorem Hdr.rank_eq (h : Hdr) (h₁ : q ≤ 1.0) : h.rank q = nearestRank h.len q := by
  rw [rank, if_neg (not_lt_of_le h₁), nearestRank]

end Rank

/-! ### Counts of values and the values -/

namespace Hdr

/-- **A quantile of counts agrees with that of the values**: what the samples select has the rank of
the quantile among the values, and what the counts select is in the same bin, above it unless the
quantile is zero, below it if it is, and in any case not further away than a unit of the last
significant digit. As floating point numbers both are shown as selected. -/
structure QuantilesAgree (h : Hdr) (vs : List UInt64) (s : Samples) (q : Float) : Prop where
  at_rank : ∃ v ∈ vs, s.valueAt q = v.toNat ∧ vs.countP (· < v) < nearestRank vs.length q ∧
    nearestRank vs.length q ≤ vs.countP (· ≤ v)
  same_bin : h.layout.index (s.valueAt q) = h.layout.index (h.selected q)
  above : 0.0 < q → s.valueAt q ≤ h.selected q ∧
    (h.selected q - s.valueAt q) * 10 ^ h.layout.digits ≤ s.valueAt q
  below : q == 0.0 → h.selected q ≤ s.valueAt q ∧
    (s.valueAt q - h.selected q) * 10 ^ h.layout.digits ≤ s.valueAt q
  exact_below : s.valueAt q < 2 * 10 ^ h.layout.digits → s.valueAt q = h.selected q
  valueAt_eq : h.valueAt q = min (h.selected q) (maxWord - 1)
  samples_shown : Distribution.value s q = wordFloat (s.valueAt q)
  counts_shown : Distribution.value h q = wordFloat (h.selected q)

/-- **The counts of values agree on quantiles with the sorted values.** Both look for the same rank,
so the value there has the bin that the counts select an end of. -/
theorem CountsOf.quantilesAgree {h : Hdr} {vs : List UInt64} (hc : h.CountsOf vs) {s : Samples}
    (hs : s.values.Perm vs) (hvs : vs ≠ []) (hroom : vs.length ≤ maxWord) {q : Float}
    (h₀ : 0.0 ≤ q) (h₁ : q ≤ 1.0) (hrank : floorWord (q * wordFloat vs.length).ceil ≤ vs.length) :
    h.QuantilesAgree vs s q := by
  have hpos : 0 < vs.length := List.length_pos_of_ne_nil hvs
  have hlen : h.len = vs.length := by
    rw [len, hc.total, min_eq_left hroom]
  have hslen : s.len = vs.length := hs.length_eq
  have hsrank : s.rank q = nearestRank vs.length q := by
    rw [Samples.rank_eq h₀ h₁ (by omega) (hslen ▸ hrank), hslen]
  obtain ⟨v, ⟨hv, hbelow, hupto⟩, hvalue⟩ :=
    Samples.exists_valueAt (s := s) (List.ne_nil_of_length_pos (hpos.trans_eq hslen.symm)) q
  rw [hsrank, hs.countP_eq] at hbelow hupto
  -- the bin at the rank is that of `v`, and what is selected is in it
  have hbin : binAtRank? (h.rank q) 0 h.blocks = some (h.layout.index v.toNat) := by
    rw [h.rank_eq h₁, hlen]
    exact hc.binAtRank?_eq hroom hbelow hupto
  have hselected := selected_eq hbin
  have hsame : h.layout.index v.toNat = h.layout.index (h.selected q) := by
    rw [hselected]
    split
    · exact (h.layout.index_lowest _).symm
    · exact (h.layout.index_last _).symm
  refine ⟨⟨v, hs.mem_iff.1 hv, hvalue, hbelow, hupto⟩, ?_, ?_, ?_, ?_, valueAt_eq hbin, rfl,
    value_eq hbin (by omega)⟩ <;> rw [hvalue]
  · exact hsame
  · intro hq
    have hle : v.toNat ≤ h.selected q := by
      rw [hselected, beq_eq_false_of_lt hq]
      exact h.layout.le_last_index _
    exact ⟨hle, Layout.sub_mul_le hsame hle⟩
  · intro hq
    have hle : h.selected q ≤ v.toNat := by
      rw [hselected, if_pos hq]
      exact h.layout.lowest_index_le _
    exact ⟨hle, (Layout.sub_mul_le hsame.symm hle).trans hle⟩
  · intro hsmall
    exact (Layout.eq_of_index_eq hsame.symm hsmall).symm

end Hdr

/-! ### Two reservoirs given the same values -/

namespace BinnedReservoir

/-- The values that a histogram of a reading counts: those of all steps for the whole life, and those
of the steps since the last reading for the time since then, if nothing was given back. -/
def Counted (r : BinnedReservoir) (steps : List Step) (h : Hdr) (vs : List UInt64) : Prop :=
  h = (r.run steps).read.1.1 ∧ vs = steps.filterMap Step.value? ∨
    h = (r.run steps).read.1.2 ∧ vs = (sinceRead steps).filterMap Step.value? ∧
      (sinceRead steps).filterMap Step.given? = []

/-- Both histograms of a reading are counts of their values, in the layout of the reservoir. -/
theorem Counted.countsOf {digits : Nat} {ceiling : UInt64} {r : BinnedReservoir}
    (hr : create digits ceiling.toNat = .ok r) {steps : List Step} (hsteps : ∀ x ∈ steps, x.Legal)
    {h : Hdr} {vs : List UInt64} (hc : r.Counted steps h vs) (hroom : vs.length ≤ maxWord) :
    h.layout.digits = digits ∧ h.CountsOf vs := by
  have htight := tightBy_create hr
  obtain ⟨hd, rfl⟩ := create_eq hr
  have hafter := (htight.run hsteps).refresh
  have hcounts := counts_flow htight (fun _ ↦ ⟨rfl, rfl⟩) hsteps
  obtain ⟨hlayout, hcount⟩ : h.layout = ⟨digits, hd⟩ ∧ ∀ i, h.count i =
      min (vs.countP fun v ↦ (⟨digits, hd⟩ : Hdr.Layout).index v.toNat = i) maxWord := by
    rcases hc with ⟨rfl, rfl⟩ | ⟨rfl, rfl, hgiven⟩
    · exact ⟨hafter.layout_total, fun i ↦ (hcounts i).1⟩
    · refine ⟨hafter.layout_interval, fun i ↦ (hcounts i).2.trans ?_⟩
      rw [givenTo, hgiven]
      rfl
  refine ⟨congrArg Hdr.Layout.digits hlayout, fun i ↦ ?_⟩
  rw [hcount, hlayout, min_eq_left (List.countP_le_length.trans hroom)]

/-- **The two kinds of reservoirs agree on quantiles.** Let a reservoir with bins of so many digits
go through any steps, and give the values that one of its histograms counts to a window that is
large enough for them. Then for every quantile between zero and one, unless rounding puts its rank
above the number of values, what the histogram selects agrees with what the window does. -/
theorem quantiles_agree {digits : Nat} {ceiling : UInt64} {r : BinnedReservoir}
    (hr : create digits ceiling.toNat = .ok r) {steps : List Step} (hsteps : ∀ x ∈ steps, x.Legal)
    {h : Hdr} {vs : List UInt64} (hc : r.Counted steps h vs) (hvs : vs ≠ []) {size : UInt64}
    (hsize : vs.length ≤ (Window.ofSize size.toNat).size) {q : Float} (h₀ : 0.0 ≤ q) (h₁ : q ≤ 1.0)
    (hrank : floorWord (q * wordFloat vs.length).ceil ≤ vs.length) :
    h.layout.digits = digits ∧
      h.QuantilesAgree vs (vs.foldl Window.update (.ofSize size.toNat)).read q := by
  have hroom : vs.length ≤ maxWord :=
    hsize.trans (max_le (by decide) (Nat.le_of_lt_succ size.toNat_lt))
  obtain ⟨hdigits, hcounts⟩ := hc.countsOf hr hsteps hroom
  have hperm : (vs.foldl Window.update (.ofSize size.toNat)).read.values.Perm vs :=
    (Samples.ofList_perm _).trans (.of_eq (Window.values_ofSize hsize))
  exact ⟨hdigits, hcounts.quantilesAgree hperm hvs hroom h₀ h₁ hrank⟩

/-- Sevens and nines, about as many of each and together as many as a word can tell, so that no rank
is above their number: their median is one of the two, and it is the same on both sides. -/
theorem quantiles_agree_sevens_and_nines :
    let r := ofLayout defaultLayout 2
    let steps := List.replicate (maxWord / 2 + 1) (Step.update 7) ++
      List.replicate (maxWord / 2) (Step.update 9)
    let vs := List.replicate (maxWord / 2 + 1) (7 : UInt64) ++ List.replicate (maxWord / 2) 9
    let h := (r.run steps).read.1.2
    let samples := (vs.foldl Window.update (.ofSize (18446744073709551615 : UInt64).toNat)).read
    create 3 (2 : UInt64).toNat = .ok r ∧ (∀ x ∈ steps, x.Legal) ∧ r.Counted steps h vs ∧ vs ≠ [] ∧
      vs.length ≤ (Window.ofSize (18446744073709551615 : UInt64).toNat).size ∧
      (0.0 : Float) ≤ 0.5 ∧ (0.5 : Float) ≤ 1.0 ∧
      floorWord (0.5 * wordFloat vs.length).ceil ≤ vs.length ∧
      (samples.valueAt 0.5 = 7 ∨ samples.valueAt 0.5 = 9) ∧
      h.selected 0.5 = samples.valueAt 0.5 := by
  intro r steps vs h samples
  have hr : create 3 (2 : UInt64).toNat = .ok r := rfl
  have hstep : ∀ x ∈ steps, x = .update 7 ∨ x = .update 9 := fun x hx ↦
    (List.mem_append.1 hx).imp List.eq_of_mem_replicate List.eq_of_mem_replicate
  have hsteps : ∀ x ∈ steps, x.Legal := by
    intro x hx
    rcases hstep x hx with rfl | rfl <;> trivial
  have hsince : sinceRead steps = steps :=
    List.rtakeWhile_eq_self_iff.2 fun x hx ↦ by rcases hstep x hx with rfl | rfl <;> rfl
  have hc : r.Counted steps h vs := by
    have hvalues : steps.filterMap Step.value? = vs :=
      List.filterMap_append.trans (congrArg₂ (· ++ ·) (List.filterMap_replicate_of_some rfl)
        (List.filterMap_replicate_of_some rfl))
    have hgiven : steps.filterMap Step.given? = [] :=
      List.filterMap_eq_nil_iff.2 fun x hx ↦ by rcases hstep x hx with rfl | rfl <;> rfl
    -- not `rw`, which would try to compute the lists
    refine .inr ⟨rfl, ?_, ?_⟩
    · rewrite [hsince]
      exact hvalues.symm
    · rewrite [hsince]
      exact hgiven
  have hlen : vs.length = maxWord :=
    List.length_append.trans (congrArg₂ (· + ·) List.length_replicate List.length_replicate)
  have hvs : vs ≠ [] := List.ne_nil_of_length_pos (hlen ▸ by decide)
  have hsize : vs.length ≤ (Window.ofSize (18446744073709551615 : UInt64).toNat).size :=
    hlen.trans_le (by decide)
  have h₀ : (0.0 : Float) ≤ 0.5 := by decide +kernel
  have h₁ : (0.5 : Float) ≤ 1.0 := by decide +kernel
  have hrank : floorWord (0.5 * wordFloat vs.length).ceil ≤ vs.length :=
    (Nat.le_of_lt_succ (UInt64.toNat_lt _)).trans_eq hlen.symm
  obtain ⟨hdigits, hagree⟩ := quantiles_agree hr hsteps hc hvs hsize h₀ h₁ hrank
  obtain ⟨v, hv, hvalue, -⟩ := hagree.at_rank
  have htwo : samples.valueAt 0.5 = 7 ∨ samples.valueAt 0.5 = 9 := by
    rw [hvalue]
    exact (List.mem_append.1 hv).imp (fun h ↦ congrArg UInt64.toNat (List.eq_of_mem_replicate h))
      fun h ↦ congrArg UInt64.toNat (List.eq_of_mem_replicate h)
  refine ⟨hr, hsteps, hc, hvs, hsize, h₀, h₁, hrank, htwo, (hagree.exact_below ?_).symm⟩
  rw [hdigits]
  rcases htwo with h | h <;> rw [h] <;> decide

end BinnedReservoir

end Telemetry
