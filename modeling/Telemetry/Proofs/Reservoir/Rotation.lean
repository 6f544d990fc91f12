import Mathlib
import Telemetry.Reservoir.Basic
import Telemetry.Proofs.Hdr.Sound

/-!
# Taking readings and giving them back

A report may read one reservoir several times, and what it took is given back as a list. `Reads`
says which readings a reservoir hands out one after the other and what they leave behind. Here this
is looked at bin by bin: for a reservoir that counts by a layout (`CountsBy`), `pending` is what a
bin holds since the last reading and `Reading.covered` what a reading took of it.

* Nothing is lost between the two (`Reads.covered_add_pending`).
* Every reading empties the bins (`Reads.pending_eq_zero`).
* Values taken in and readings given back are added, up to the largest word
  (`pending_foldl_update`, `pending_foldl_restore`).

Of all bins together it is enough to know that every value falls into one of them
(`pendingTotal_add`).
-/

namespace Telemetry

/-- What a reading took out of a bin. -/
def Reading.covered : Reading → Nat → Nat
  | .binned _ sinceLast, i => sinceLast.count i
  | .sampled _, _ => 0

/-- The reading holds counts by a layout, which are words. -/
def Reading.CountsBy (l : Hdr.Layout) : Reading → Prop
  | .binned _ sinceLast => sinceLast.layout = l ∧ ∀ i, sinceLast.count i ≤ maxWord
  | .sampled _ => False

namespace BinnedReservoir

theorem refresh_of_empty {r : BinnedReservoir} (h : r.backlog = #[]) : r.refresh = r := by
  obtain ⟨total, interval, backlog⟩ := r
  subst h
  rfl

@[simp] theorem backlog_refresh (r : BinnedReservoir) : r.refresh.backlog = #[] := by
  have key : ∀ (vs : List UInt64) (r : BinnedReservoir),
      (vs.foldl count r).backlog = r.backlog := by
    intro vs
    induction vs with
    | nil => exact fun r ↦ rfl
    | cons v vs ih => exact fun r ↦ ih (r.count v)
  rw [refresh, ← Array.foldl_toList, key]

/-- A reading leaves no value waiting. -/
theorem refresh_read (r : BinnedReservoir) : r.read.2.refresh = r.read.2 :=
  refresh_of_empty r.backlog_refresh

end BinnedReservoir

namespace Reservoir

variable {ρ ρ' : Reservoir} {l : Hdr.Layout} {rs : List Reading}

/-- Readings that a reservoir hands out one after the other, and what they leave of it. -/
inductive Reads : Reservoir → List Reading → Reservoir → Prop where
  | done (ρ : Reservoir) : Reads ρ [] ρ
  | read {ρ ρ' : Reservoir} {rs : List Reading} (h : Reads ρ.read.2 rs ρ') :
      Reads ρ (ρ.read.1 :: rs) ρ'

/-- The reservoir counts by a layout, no value waits to be counted, and counts are words. -/
def CountsBy (l : Hdr.Layout) : Reservoir → Prop
  | binned r => r.interval.layout = l ∧ r.backlog = #[] ∧ ∀ i, r.interval.count i ≤ maxWord
  | window _ => False

/-- What a bin holds since the last reading. -/
def pending : Reservoir → Nat → Nat
  | binned r, i => r.interval.count i
  | window _, _ => 0

/-- A reservoir that counts is one of bins. -/
theorem CountsBy.exists_binned (h : ρ.CountsBy l) :
    ∃ r, ρ = binned r ∧ r.interval.layout = l ∧ r.backlog = #[] ∧
      ∀ i, r.interval.count i ≤ maxWord := by
  cases ρ with
  | binned r => exact ⟨r, rfl, h⟩
  | window w => exact h.elim

theorem CountsBy.pending_le (h : ρ.CountsBy l) (i : Nat) : ρ.pending i ≤ maxWord := by
  obtain ⟨r, rfl, -, -, hle⟩ := h.exists_binned
  exact hle i

/-- A value more is counted by the same layout. -/
theorem CountsBy.update (h : ρ.CountsBy l) (v : UInt64) : (ρ.update v).CountsBy l := by
  obtain ⟨r, rfl, hl, hb, hle⟩ := h.exists_binned
  rw [Reservoir.update, BinnedReservoir.update, BinnedReservoir.refresh_of_empty hb]
  refine ⟨(Hdr.layout_record _ _).trans hl, hb, fun i ↦ ?_⟩
  show (r.interval.recordMany v.toNat 1).count i ≤ maxWord
  rw [Hdr.count_recordMany]
  split
  · exact addWords_le _ _
  · exact hle i

/-- A value more adds one to what its bin holds since the last reading, and nothing to the others. -/
theorem pending_update (h : ρ.CountsBy l) (v : UInt64) (i : Nat) :
    (ρ.update v).pending i =
      addWords (if l.index v.toNat = i then 1 else 0) (ρ.pending i) := by
  obtain ⟨r, rfl, rfl, hb, hle⟩ := h.exists_binned
  rw [Reservoir.update, BinnedReservoir.update, BinnedReservoir.refresh_of_empty hb]
  show (r.interval.recordMany v.toNat 1).count i = addWords _ (r.interval.count i)
  rw [Hdr.count_recordMany]
  by_cases hi : i = r.interval.layout.index v.toNat
  · rw [if_pos hi, if_pos hi.symm]
  · have := hle i
    rw [if_neg hi, if_neg (Ne.symm hi)]
    simp only [addWords]
    omega

theorem CountsBy.foldl_update (h : ρ.CountsBy l) (vs : List UInt64) :
    (vs.foldl Reservoir.update ρ).CountsBy l := by
  induction vs generalizing ρ with
  | nil => exact h
  | cons v vs ih => exact ih (h.update v)

/-- **A bin gains the number of values that fall into it**, up to the largest word. -/
theorem pending_foldl_update (h : ρ.CountsBy l) (vs : List UInt64) (i : Nat) :
    (vs.foldl Reservoir.update ρ).pending i =
      min (ρ.pending i + vs.countP fun v ↦ l.index v.toNat = i) maxWord := by
  induction vs generalizing ρ with
  | nil => exact (Nat.min_eq_left (h.pending_le i)).symm
  | cons v vs ih =>
    rw [List.foldl_cons, ih (h.update v), pending_update h, min_add_addWords, List.countP_cons]
    simp only [decide_eq_true_eq]
    congr 2
    omega

theorem CountsBy.read (h : ρ.CountsBy l) :
    ρ.read.1.CountsBy l ∧ ρ.read.2.CountsBy l ∧
      ∀ i, ρ.read.1.covered i = ρ.pending i ∧ ρ.read.2.pending i = 0 := by
  obtain ⟨r, rfl, hl, hb, hle⟩ := h.exists_binned
  rw [Reservoir.read, BinnedReservoir.read, BinnedReservoir.refresh_of_empty hb]
  exact ⟨⟨hl, hle⟩, ⟨hl, hb, fun _ ↦ Nat.zero_le _⟩, fun _ ↦ ⟨rfl, rfl⟩⟩

/-- Readings go by the layout of the reservoir, and leave it one of that layout. -/
theorem Reads.countsBy (hr : ρ.Reads rs ρ') (h : ρ.CountsBy l) :
    ρ'.CountsBy l ∧ ∀ r ∈ rs, r.CountsBy l := by
  induction hr with
  | done ρ => exact ⟨h, fun r hr ↦ absurd hr List.not_mem_nil⟩
  | @read ρ ρ' rs hr ih =>
    obtain ⟨hreading, hafter, -⟩ := h.read
    obtain ⟨hend, hrest⟩ := ih hafter
    refine ⟨hend, fun r hr ↦ ?_⟩
    rcases List.mem_cons.1 hr with rfl | hr
    · exact hreading
    · exact hrest r hr

/-- **What a bin held is in the readings or still there.** -/
theorem Reads.covered_add_pending (hr : ρ.Reads rs ρ') (h : ρ.CountsBy l) (i : Nat) :
    (rs.map fun r ↦ r.covered i).sum + ρ'.pending i = ρ.pending i := by
  induction hr with
  | done ρ => simp
  | @read ρ ρ' rs hr ih =>
    obtain ⟨-, hafter, hbins⟩ := h.read
    -- the reading took all that was pending, so what is left for the others is nothing
    have ih := ih hafter
    rw [List.map_cons, List.sum_cons, (hbins i).1]
    rw [(hbins i).2] at ih
    omega

/-- Readings empty all bins. -/
theorem Reads.pending_eq_zero (hr : ρ.Reads rs ρ') (h : ρ.CountsBy l) (hne : rs ≠ []) (i : Nat) :
    ρ'.pending i = 0 := by
  cases hr with
  | done => exact absurd rfl hne
  | read hr =>
    obtain ⟨-, hafter, hbins⟩ := h.read
    have := hr.covered_add_pending hafter i
    rw [(hbins i).2] at this
    omega

/-- **What is given back is added to what bins hold since the last reading**, as far as a word can
tell. -/
theorem CountsBy.restore (h : ρ.CountsBy l) {r : Reading} (hr : r.CountsBy l) :
    (ρ.restore r).CountsBy l ∧
      ∀ i, (ρ.restore r).pending i = min (ρ.pending i + r.covered i) maxWord := by
  obtain ⟨b, rfl, hl, hb, hle⟩ := h.exists_binned
  cases r with
  | sampled => exact hr.elim
  | binned total sinceLast =>
    have hcount : ∀ i, (b.interval.add sinceLast).count i =
        min (b.interval.count i + sinceLast.count i) maxWord :=
      fun i ↦ Hdr.count_add_of_layout_eq (hl.trans hr.1.symm) (hle i)
    refine ⟨⟨?_, hb, fun i ↦ ?_⟩, hcount⟩
    · exact (b.interval.add_spec sinceLast (hle 0)).1.trans hl
    · rw [BinnedReservoir.restore, hcount]
      exact Nat.min_le_right _ _

/-- Giving back keeps the layout. -/
theorem CountsBy.foldl_restore (h : ρ.CountsBy l) (hrs : ∀ r ∈ rs, r.CountsBy l) :
    (rs.foldl Reservoir.restore ρ).CountsBy l := by
  induction rs generalizing ρ with
  | nil => exact h
  | cons r rs ih =>
    exact ih (h.restore (hrs r List.mem_cons_self)).1 fun r' hr' ↦
      hrs r' (List.mem_cons_of_mem _ hr')

/-- **A bin gains what the readings took from it**, up to the largest word. -/
theorem pending_foldl_restore (h : ρ.CountsBy l) (hrs : ∀ r ∈ rs, r.CountsBy l) (i : Nat) :
    (rs.foldl Reservoir.restore ρ).pending i =
      min (ρ.pending i + (rs.map fun r ↦ r.covered i).sum) maxWord := by
  induction rs generalizing ρ with
  | nil => exact (Nat.min_eq_left (h.pending_le i)).symm
  | cons r rs ih =>
    obtain ⟨hafter, hpending⟩ := h.restore (hrs r List.mem_cons_self)
    rw [List.foldl_cons, ih hafter fun r' hr' ↦ hrs r' (List.mem_cons_of_mem _ hr'), hpending,
      List.map_cons, List.sum_cons]
    omega

/-! ### All bins together -/

/-- The number of values since the last reading. -/
def pendingTotal : Reservoir → Nat
  | binned r => r.interval.counts.total
  | window _ => 0

theorem pendingTotal_eq_sum {n : Nat} (h : ∀ i, ρ.pending i ≠ 0 → i < n) :
    ρ.pendingTotal = ∑ i ∈ Finset.range n, ρ.pending i := by
  cases ρ with
  | binned r => exact Hdr.Tally.total_eq_sum h
  | window w => exact (Finset.sum_const_zero).symm

theorem exists_pending_bound (ρ : Reservoir) : ∃ n, ∀ i, ρ.pending i ≠ 0 → i < n := by
  cases ρ with
  | binned r => exact r.interval.counts.exists_bound
  | window w => exact ⟨0, fun i h ↦ absurd rfl h⟩

theorem pending_le_total (ρ : Reservoir) (i : Nat) : ρ.pending i ≤ ρ.pendingTotal := by
  cases ρ with
  | binned r => exact r.interval.counts.count_le_total i
  | window w => exact Nat.zero_le _

theorem pendingTotal_eq_zero (h : ∀ i, ρ.pending i = 0) : ρ.pendingTotal = 0 :=
  pendingTotal_eq_sum (n := 0) fun i hi ↦ absurd (h i) hi

/-- **If every bin gains the values that fall into it, the whole gains all values.** -/
theorem pendingTotal_add {f : UInt64 → Nat} {vs : List UInt64}
    (h : ∀ i, ρ'.pending i = ρ.pending i + vs.countP fun v ↦ f v = i) :
    ρ'.pendingTotal = ρ.pendingTotal + vs.length := by
  obtain ⟨n, hn⟩ := ρ.exists_pending_bound
  obtain ⟨n', hn'⟩ := ρ'.exists_pending_bound
  let top := n + n' + (vs.map f).sum + 1
  have hvs : ∀ v ∈ vs, f v < top := by
    intro v hv
    have := List.le_sum_of_mem (List.mem_map_of_mem (f := f) hv)
    omega
  rw [pendingTotal_eq_sum (n := top) fun i hi ↦ (hn i hi).trans (by omega),
    pendingTotal_eq_sum (n := top) fun i hi ↦ (hn' i hi).trans (by omega),
    ← List.countP_eq_length.2 fun v hv ↦ decide_eq_true (hvs v hv), ← Hdr.sum_countP,
    ← Finset.sum_add_distrib]
  exact Finset.sum_congr rfl fun i _ ↦ h i

end Reservoir

end Telemetry
