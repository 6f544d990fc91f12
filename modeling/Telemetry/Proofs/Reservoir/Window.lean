import Mathlib
import Telemetry.Reservoir.Window

/-!
# The most recent values and their ranks

A window holds the most recent of the values that it was given, in the order in which they came
(`Window.values_foldl_update`), and its reading holds the same values in ascending order.

**Ranks.** In ascending values those below a bound stand in front, so that a place is among them if
and only if it is below their number (`Samples.holds_iff_lt_countP`). Read for a value and the
values below it, this says which value is at a place: as many values as the place are not above it,
and fewer are below it (`Samples.HasRank`, `Samples.hasRank_of_getElem?`). A quantile is the value at
its rank (`Samples.exists_valueAt`).
-/

namespace Telemetry

namespace Window

@[simp] theorem size_foldl_update (vs : List UInt64) (w : Window) :
    (vs.foldl update w).size = w.size := by
  induction vs generalizing w with
  | nil => rfl
  | cons v vs ih => exact ih (w.update v)

/-- One more value stands behind the others, of which the oldest may have to go. -/
theorem values_update (w : Window) (v : UInt64) :
    (w.update v).values = (w.values ++ [v]).drop (w.values.length + 1 - w.size) := by
  have hpos := w.size_pos
  have hle := w.length_le
  show (if _ then _ else _) ++ [v] = _
  split
  · rw [show w.values.length + 1 - w.size = 1 by omega,
      List.drop_append_of_le_length (by omega)]
  · rw [show w.values.length + 1 - w.size = 0 by omega]
    rfl

/-- **A window holds the most recent values**, as many as it has room for. -/
theorem values_foldl_update (vs : List UInt64) (w : Window) :
    (vs.foldl update w).values =
      (w.values ++ vs).drop (w.values.length + vs.length - w.size) := by
  induction vs using List.reverseRecOn with
  | nil =>
    rw [List.append_nil, List.length_nil, Nat.add_zero, Nat.sub_eq_zero_of_le w.length_le]
    rfl
  | append_singleton vs v ih =>
    have hpos := w.size_pos
    rw [List.foldl_concat, values_update, size_foldl_update, ih, ← List.append_assoc,
      ← List.drop_append_of_le_length (by rw [List.length_append]; omega), List.drop_drop]
    congr 1
    rw [List.length_drop, List.length_append, List.length_append, List.length_singleton]
    omega

/-- A window that is large enough holds all values. -/
theorem values_ofSize {n : Nat} {vs : List UInt64} (h : vs.length ≤ (ofSize n).size) :
    (vs.foldl update (ofSize n)).values = vs := by
  rw [values_foldl_update, show (ofSize n).values = [] from rfl, List.nil_append, List.length_nil,
    Nat.zero_add, Nat.sub_eq_zero_of_le h]
  rfl

end Window

namespace Samples

/-- **What holds of smaller values holds in front.** A place of an ascending list has such a value if
and only if it is below the number of these values. -/
theorem holds_iff_lt_countP {l : List UInt64} (hl : l.Pairwise (· ≤ ·)) {p : UInt64 → Bool}
    (hp : ∀ a b, a ≤ b → p b = true → p a = true) {k : Nat} (hk : k < l.length) :
    p l[k] = true ↔ k < l.countP p := by
  induction l generalizing k with
  | nil => exact absurd hk (Nat.not_lt_zero k)
  | cons a l ih =>
    obtain ⟨ha, hl⟩ := List.pairwise_cons.1 hl
    by_cases hpa : p a = true
    · rw [List.countP_cons_of_pos hpa]
      cases k with
      | zero => simp [hpa]
      | succ k => exact (ih hl (Nat.lt_of_succ_lt_succ hk)).trans Nat.succ_lt_succ_iff.symm
    · -- the property does not hold of the first value, and so of none
      have hnone : ∀ b ∈ a :: l, ¬p b = true := by
        intro b hb hpb
        rcases List.mem_cons.1 hb with rfl | hb
        · exact hpa hpb
        · exact hpa (hp a b (ha b hb) hpb)
      rw [List.countP_eq_zero.2 hnone]
      exact iff_of_false (hnone _ (List.getElem_mem hk)) (Nat.not_lt_zero k)

/-- A value of some values has a rank, counted from one: at least as many of them as the rank are not
above it, and fewer are below it. -/
structure HasRank (vs : List UInt64) (r : Nat) (v : UInt64) : Prop where
  mem : v ∈ vs
  below : vs.countP (· < v) < r
  upto : r ≤ vs.countP (· ≤ v)

theorem HasRank.perm {vs ws : List UInt64} {r : Nat} {v : UInt64} (h : HasRank vs r v)
    (hperm : vs.Perm ws) : HasRank ws r v :=
  ⟨hperm.mem_iff.1 h.mem, (hperm.countP_eq _).symm.trans_lt h.below,
    h.upto.trans_eq (hperm.countP_eq _)⟩

/-- **Places are ranks.** -/
theorem hasRank_of_getElem? {s : Samples} {k : Nat} {v : UInt64} (h : s.values[k]? = some v) :
    HasRank s.values (k + 1) v := by
  obtain ⟨hk, rfl⟩ := List.getElem?_eq_some_iff.1 h
  have hbelow := holds_iff_lt_countP s.sorted (p := (· < s.values[k]))
    (fun a b hab hb ↦ decide_eq_true (UInt64.lt_of_le_of_lt hab (of_decide_eq_true hb))) hk
  have hupto := holds_iff_lt_countP s.sorted (p := (· ≤ s.values[k]))
    (fun a b hab hb ↦ decide_eq_true (UInt64.le_trans hab (of_decide_eq_true hb))) hk
  refine ⟨List.getElem_mem hk, ?_, hupto.1 (decide_eq_true (UInt64.le_refl _))⟩
  have : ¬k < s.values.countP (· < s.values[k]) := fun h ↦
    UInt64.lt_irrefl _ (of_decide_eq_true (hbelow.2 h))
  omega

/-- The rank of a quantile is one of the ranks that there are. -/
theorem rank_bounds {s : Samples} (hs : s.values ≠ []) (q : Float) :
    1 ≤ s.rank q ∧ s.rank q ≤ s.values.length := by
  have hlen : 0 < s.values.length := List.length_pos_of_ne_nil hs
  simp only [rank, len]
  omega

/-- **A quantile is the value at its rank.** -/
theorem exists_valueAt {s : Samples} (hs : s.values ≠ []) (q : Float) :
    ∃ v, HasRank s.values (s.rank q) v ∧ s.valueAt q = v.toNat := by
  obtain ⟨hpos, hle⟩ := rank_bounds hs q
  have hk := List.getElem?_eq_getElem (show s.rank q - 1 < s.values.length by omega)
  have hrank := hasRank_of_getElem? hk
  rw [Nat.sub_add_cancel hpos] at hrank
  refine ⟨_, hrank, ?_⟩
  rw [valueAt, hk]
  rfl

end Samples

end Telemetry
