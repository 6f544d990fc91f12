import Mathlib
import Telemetry.Proofs.Reservoir.Rotation

/-!
# Sound reservoirs, and readings given back

A reservoir is sound if the histograms it counts in are (`Sound`). Whatever is made by the
operations on reservoirs is sound (`Made.sound`), readings of other reservoirs given back included.

**Giving back.** When a sound reservoir of either kind was read any number of times and all its
readings are given back, it shows what it showed before (`Reads.restore_alike`): the first reading
carries the counts, and all later ones are empty. `Alike` is that nothing shown tells two reservoirs
apart, the ceilings of their histograms aside; waiting values count as if they had been counted.
-/

namespace Telemetry

/-- The counts of the reading are those of sound histograms. -/
def Reading.Sound : Reading → Prop
  | .binned total sinceLast => total.Sound ∧ sinceLast.Sound
  | .sampled _ => True

/-- Nothing shown tells the readings apart, the ceilings aside. -/
inductive Reading.Alike : Reading → Reading → Prop where
  | sampled (values : Samples) : Alike (.sampled values) (.sampled values)
  | binned (total : Hdr) {a b : Hdr} (h : a.Alike b) : Alike (.binned total a) (.binned total b)

namespace BinnedReservoir

/-- Both histograms of the reservoir are sound. -/
def Sound (r : BinnedReservoir) : Prop :=
  r.total.Sound ∧ r.interval.Sound

theorem Sound.count {r : BinnedReservoir} (h : r.Sound) (v : UInt64) : (r.count v).Sound := by
  have hv : v.toNat ≤ maxWord := Nat.le_of_lt_succ v.toNat_lt
  exact ⟨h.1.recordMany hv 1, h.2.recordMany hv 1⟩

/-- Folding in the queue keeps a reservoir sound. -/
theorem Sound.refresh {r : BinnedReservoir} (h : r.Sound) : r.refresh.Sound := by
  have key : ∀ (vs : List UInt64) (r : BinnedReservoir), r.Sound →
      (vs.foldl BinnedReservoir.count r).Sound := by
    intro vs
    induction vs with
    | nil => exact fun r hr ↦ hr
    | cons v vs ih => exact fun r hr ↦ ih (r.count v) (hr.count v)
  rw [BinnedReservoir.refresh, ← Array.foldl_toList]
  exact key _ _ h

end BinnedReservoir

namespace Reservoir

variable {ρ ρ' : Reservoir} {rs : List Reading}

/-- The histograms of the reservoir are sound. -/
def Sound : Reservoir → Prop
  | binned r => r.Sound
  | window _ => True

/-! ### Every operation keeps reservoirs sound -/

theorem sound_ofLayout (l : Hdr.Layout) {ceiling : Nat} (h : ceiling ≤ maxWord) :
    (binned (.ofLayout l ceiling)).Sound :=
  ⟨Hdr.sound_covering l h, Hdr.sound_covering l h⟩

theorem Sound.update (h : ρ.Sound) (v : UInt64) : (ρ.update v).Sound := by
  cases ρ with
  | binned r => exact (BinnedReservoir.Sound.refresh h).count v
  | window w => trivial

theorem Sound.read (h : ρ.Sound) : ρ.read.1.Sound ∧ ρ.read.2.Sound := by
  cases ρ with
  | binned r =>
    have hr := BinnedReservoir.Sound.refresh h
    exact ⟨hr, hr.1, hr.2.reset⟩
  | window w => exact ⟨trivial, trivial⟩

theorem Sound.restore (h : ρ.Sound) {r : Reading} (hr : r.Sound) : (ρ.restore r).Sound := by
  match ρ, r with
  | binned _, .binned _ _ => exact ⟨h.1, h.2.add hr.2⟩
  | binned _, .sampled _ => exact h
  | window _, _ => trivial

theorem Sound.foldl_update (h : ρ.Sound) (vs : List UInt64) :
    (vs.foldl Reservoir.update ρ).Sound := by
  induction vs generalizing ρ with
  | nil => exact h
  | cons v vs ih => exact ih (h.update v)

/-- Giving sound readings back keeps a reservoir sound. -/
theorem Sound.foldl_restore (h : ρ.Sound) (hrs : ∀ r ∈ rs, r.Sound) :
    (rs.foldl Reservoir.restore ρ).Sound := by
  induction rs generalizing ρ with
  | nil => exact h
  | cons r rs ih =>
    exact ih (h.restore (hrs r List.mem_cons_self)) fun r' hr' ↦
      hrs r' (List.mem_cons_of_mem _ hr')

/-- **Readings of a sound reservoir are sound**, and so is what they leave. -/
theorem Reads.sound (hr : ρ.Reads rs ρ') (h : ρ.Sound) : ρ'.Sound ∧ ∀ r ∈ rs, r.Sound := by
  induction hr with
  | done ρ => exact ⟨h, fun r hr ↦ absurd hr List.not_mem_nil⟩
  | @read ρ ρ' rs hr ih =>
    obtain ⟨hend, hrest⟩ := ih h.read.2
    refine ⟨hend, fun r hr ↦ ?_⟩
    rcases List.mem_cons.1 hr with rfl | hr
    · exact h.read.1
    · exact hrest r hr

/-- The reservoir with a value queued by a recorder; a window has no recorders. -/
def record : Reservoir → UInt64 → Reservoir
  | binned r, v => binned (r.record v)
  | window w, _ => window w

/-- Queueing a value keeps a reservoir sound. -/
theorem Sound.record (h : ρ.Sound) (v : UInt64) : (ρ.record v).Sound := by
  cases ρ with
  | binned r =>
    have hqueued : BinnedReservoir.Sound { r with backlog := r.backlog.push v } := h
    show BinnedReservoir.Sound (if _ then _ else _)
    split
    · exact hqueued.refresh
    · exact hqueued
  | window w => trivial

/-- What the operations on reservoirs make. -/
inductive Made : Reservoir → Prop where
  | binned (l : Hdr.Layout) {ceiling : Nat} (h : ceiling ≤ maxWord) :
      Made (.binned (.ofLayout l ceiling))
  | window (size : Nat) : Made (.window (.ofSize size))
  | update {ρ : Reservoir} (h : ρ.Made) (v : UInt64) : (ρ.update v).Made
  | record {ρ : Reservoir} (h : ρ.Made) (v : UInt64) : (ρ.record v).Made
  | read {ρ : Reservoir} (h : ρ.Made) : ρ.read.2.Made
  /-- A reading may be given back to any reservoir. -/
  | restore {ρ σ : Reservoir} (h : ρ.Made) (hσ : σ.Made) : (ρ.restore σ.read.1).Made

/-- **What the operations make is sound.** -/
theorem Made.sound (h : ρ.Made) : ρ.Sound := by
  induction h with
  | binned l h => exact sound_ofLayout l h
  | window => trivial
  | update _ v ih => exact ih.update v
  | record _ v ih => exact ih.record v
  | read _ ih => exact ih.read.2
  | restore _ _ ih ihσ => exact ih.restore ihσ.read.1

/-! ### Giving back -/

/-- Nothing shown tells the reservoirs apart, the ceilings of their histograms aside. -/
inductive Alike : Reservoir → Reservoir → Prop where
  | window (w : Window) : Alike (.window w) (.window w)
  | binned {a b : BinnedReservoir} (total : a.refresh.total = b.refresh.total)
      (interval : a.refresh.interval.Alike b.refresh.interval) : Alike (.binned a) (.binned b)

theorem Alike.refl (ρ : Reservoir) : ρ.Alike ρ := by
  cases ρ with
  | binned r => exact .binned rfl (.refl _)
  | window w => exact .window w

theorem Alike.trans {σ : Reservoir} (h₁ : ρ.Alike ρ') (h₂ : ρ'.Alike σ) : ρ.Alike σ := by
  cases h₁ with
  | window w => exact h₂
  | binned total interval =>
    cases h₂ with
    | binned total' interval' => exact .binned (total.trans total') (interval.trans interval')

/-- **Reservoirs that are alike give readings that are**, and stay alike. -/
theorem Alike.read (h : ρ.Alike ρ') : ρ.read.1.Alike ρ'.read.1 ∧ ρ.read.2.Alike ρ'.read.2 := by
  cases h with
  | window w => exact ⟨.sampled _, .window w⟩
  | @binned a b total interval =>
    have hreading : (Reading.binned a.refresh.total a.refresh.interval).Alike
        (.binned b.refresh.total b.refresh.interval) := by
      rw [total]
      exact .binned _ interval
    refine ⟨hreading, .binned ?_ ?_⟩
    · rw [a.refresh_read, b.refresh_read]
      exact total
    · rw [a.refresh_read, b.refresh_read]
      exact interval.reset

/-- Once a reservoir of bins was read, it is empty and stays so while it is read again. -/
theorem Reads.of_read {r : BinnedReservoir} (hr : (Reservoir.binned r).read.2.Reads rs ρ') :
    ρ' = (Reservoir.binned r).read.2 ∧
      ∀ x ∈ rs, x = .binned r.refresh.total r.refresh.interval.reset := by
  have hfix : (Reservoir.binned r).read.2.read =
      (.binned r.refresh.total r.refresh.interval.reset, (Reservoir.binned r).read.2) := by
    simp only [Reservoir.read]
    rw [BinnedReservoir.read, r.refresh_read]
    rfl
  generalize (Reservoir.binned r).read.2 = ρ at hr hfix
  induction hr with
  | done ρ => exact ⟨rfl, fun x hx ↦ absurd hx List.not_mem_nil⟩
  | @read ρ ρ' rs hr ih =>
    obtain ⟨hend, hrest⟩ := ih (by rw [hfix]; exact hfix)
    rw [hfix] at hend
    refine ⟨hend, fun x hx ↦ ?_⟩
    rcases List.mem_cons.1 hx with rfl | hx
    · rw [hfix]
    · exact hrest x hx

/-- Reading a window leaves it as it is. -/
theorem Reads.of_window {w : Window} (hr : (Reservoir.window w).Reads rs ρ') : ρ' = .window w := by
  have key : ∀ {ρ ρ' rs}, Reads ρ rs ρ' → ρ = .window w → ρ' = .window w := by
    intro ρ ρ' rs hr
    induction hr with
    | done => exact id
    | read hr ih =>
      rintro rfl
      exact ih rfl
  exact key hr rfl

theorem foldl_restore_window (w : Window) (rs : List Reading) :
    rs.foldl Reservoir.restore (.window w) = .window w := by
  induction rs with
  | nil => rfl
  | cons r rs ih => exact ih

/-- Readings without counts give nothing back. -/
theorem foldl_restore_of_empty {r : BinnedReservoir} {total other : Hdr}
    (hlayout : r.interval.layout = other.layout) (hstretches : r.interval.stretches = other.stretches)
    (hs : r.interval.Sound) (hrs : ∀ x ∈ rs, x = .binned total other.reset) :
    rs.foldl Reservoir.restore (.binned r) = .binned r := by
  induction rs with
  | nil => rfl
  | cons x rs ih =>
    rw [List.foldl_cons, hrs x List.mem_cons_self, Reservoir.restore, BinnedReservoir.restore,
      Hdr.add_of_empty hlayout hstretches (Hdr.leastPositive_le hs.smallest_le)]
    exact ih fun y hy ↦ hrs y (List.mem_cons_of_mem _ hy)

/-- **A reservoir that got its readings back shows what it showed before they were taken.** -/
theorem Reads.restore_alike (hr : ρ.Reads rs ρ') (h : ρ.Sound) :
    (rs.foldl Reservoir.restore ρ').Alike ρ := by
  cases ρ with
  | window w =>
    rw [hr.of_window, foldl_restore_window]
    exact .refl _
  | binned r =>
    cases hr with
    | done => exact .refl _
    | @read _ _ rs hr =>
      obtain ⟨rfl, hlater⟩ := hr.of_read
      have hs := (BinnedReservoir.Sound.refresh h).2
      have hback := Hdr.add_reset_alike hs
      let full : BinnedReservoir :=
        ⟨r.refresh.total, r.refresh.interval.reset.add r.refresh.interval, #[]⟩
      -- the first reading brings the counts back, and the empty ones change nothing any more
      have hfirst : (Reservoir.binned r).read.2.restore (Reservoir.binned r).read.1 =
          .binned full := by
        show Reservoir.binned ⟨_, _, r.refresh.backlog⟩ = _
        rw [r.backlog_refresh]
        rfl
      have hfull : full.refresh = full := BinnedReservoir.refresh_of_empty rfl
      rw [List.foldl_cons, hfirst,
        foldl_restore_of_empty hback.layout hback.stretches (hs.reset.add hs) hlater]
      exact .binned (by rw [hfull]) (by rw [hfull]; exact hback)

end Reservoir

end Telemetry
