import Mathlib
import Telemetry.Histogram
import Telemetry.Proofs.Reservoir.Steps

/-!
# What a histogram counts

A histogram counts the values that it takes in by itself, and its reservoir counts them again. The
two agree for as long as all values are taken in by the histogram, none through a recorder.

**What a reservoir holds.** Let the reservoir be made by a `Design`. After some values it holds just
what comes of taking in these values one after the other (`Design.Holds`). For a reservoir of bins
this is said of the count over the whole life, the only one that is left alone by readings and by
what is given back, whatever that is.

**What it shows.** Each value recorded adds one to the total of the bins (`total_foldl_record`), and
a window grows by one until it is full (`length_foldl_update`). So a reading tells the number of
values (`Design.Shows`), and so does the histogram (`Histogram.Tells`).
-/

namespace Telemetry

/-! ### Values one after the other -/

/-- **Recording values adds their number to the total**, if the sum is a word. -/
theorem Hdr.total_foldl_record (vs : List UInt64) {h : Hdr}
    (hroom : h.counts.total + vs.length ≤ maxWord) :
    (vs.foldl (fun h v ↦ h.record v.toNat) h).counts.total = h.counts.total + vs.length := by
  induction vs generalizing h with
  | nil => rfl
  | cons v vs ih =>
    rw [List.length_cons] at hroom
    have hstep := h.total_record v.toNat (by omega)
    rw [List.foldl_cons, ih (by omega), hstep, List.length_cons]
    omega

namespace Window

/-- A window grows by one value until it is full. -/
theorem length_update (w : Window) (v : UInt64) :
    (w.update v).values.length = min (w.values.length + 1) w.size := by
  have hsize := w.size_pos
  have hle := w.length_le
  rw [update, List.length_append, List.length_singleton]
  split
  · rw [List.length_drop]
    omega
  · omega

/-- **A window grows with every value until it is full.** -/
theorem length_foldl_update (vs : List UInt64) (w : Window) :
    (vs.foldl update w).values.length = min (w.values.length + vs.length) w.size := by
  induction vs generalizing w with
  | nil => exact (Nat.min_eq_left w.length_le).symm
  | cons v vs ih =>
    have hsize : (w.update v).size = w.size := rfl
    rw [List.foldl_cons, ih, hsize, length_update, List.length_cons]
    omega

end Window

namespace Reservoir

/-- What a reservoir is made for. -/
inductive Design where
  /-- Counting in the bins of a layout, with values up to a ceiling covered. -/
  | binned (l : Hdr.Layout) (ceiling : Nat)
  /-- Keeping so many of the most recent values. -/
  | window (size : Nat)

namespace Design

variable {d : Design} {vs : List UInt64} {ρ : Reservoir}

/-- A new reservoir. -/
def make : Design → Reservoir
  | binned l ceiling => .binned (.ofLayout l ceiling)
  | window size => .window (.ofSize size)

/-- The reservoir holds what comes of some values, and no value waits to be counted. -/
def Holds (vs : List UInt64) : Design → Reservoir → Prop
  | binned l ceiling, .binned r =>
    r.backlog = #[] ∧ r.total = vs.foldl (fun h v ↦ h.record v.toNat) (.covering l ceiling)
  | window size, .window w => w = vs.foldl Window.update (.ofSize size)
  | _, _ => False

/-- The reading tells a number of values taken in. -/
def Shows (n : Nat) : Design → Reading → Prop
  | binned _ _, .binned total _ => total.len = n
  | window size, .sampled values => values.len = min n (max size 1)
  | _, _ => False

/-- Whatever reservoir of bins can be created has a design. -/
theorem make_of_create {digits ceiling : Nat} {r : BinnedReservoir}
    (h : BinnedReservoir.create digits ceiling = .ok r) :
    ∃ l, (binned l ceiling).make = .binned r := by
  obtain ⟨hdigits, rfl⟩ := BinnedReservoir.create_eq h
  exact ⟨⟨digits, hdigits⟩, rfl⟩

/-- A new reservoir holds no values. -/
theorem holds_make (d : Design) : d.Holds [] d.make := by
  cases d with
  | binned l ceiling => exact ⟨rfl, rfl⟩
  | window size => rfl

/-- A value more is held. -/
theorem Holds.update (h : d.Holds vs ρ) (v : UInt64) : d.Holds (vs ++ [v]) (ρ.update v) := by
  match d, ρ, h with
  | binned l ceiling, .binned r, ⟨hbacklog, htotal⟩ =>
    rw [Reservoir.update, BinnedReservoir.update, BinnedReservoir.refresh_of_empty hbacklog]
    refine ⟨hbacklog, ?_⟩
    rw [List.foldl_concat, ← htotal]
    rfl
  | window size, .window w, h =>
    rw [show w = _ from h]
    exact (List.foldl_concat _ _ _ _).symm

/-- Reading a reservoir leaves the values that it holds for its whole life. -/
theorem Holds.read (h : d.Holds vs ρ) : d.Holds vs ρ.read.2 := by
  match d, ρ, h with
  | binned l ceiling, .binned r, ⟨hbacklog, htotal⟩ =>
    rw [Reservoir.read, BinnedReservoir.read, BinnedReservoir.refresh_of_empty hbacklog]
    exact ⟨hbacklog, htotal⟩
  | window size, .window w, h => exact h

/-- What is given back, of any kind and from anywhere, leaves no trace in what a reservoir holds. -/
theorem Holds.restore (h : d.Holds vs ρ) (r : Reading) : d.Holds vs (ρ.restore r) := by
  match d, ρ, r, h with
  | binned l ceiling, .binned _, .binned _ _, h => exact h
  | binned l ceiling, .binned _, .sampled _, h => exact h
  | window size, .window _, .binned _ _, h => exact h
  | window size, .window _, .sampled _, h => exact h

/-- **A reading tells how many values the reservoir has taken in.** -/
theorem Holds.shows (h : d.Holds vs ρ) (hroom : vs.length ≤ maxWord) :
    d.Shows vs.length ρ.read.1 := by
  match d, ρ, h with
  | binned l ceiling, .binned r, ⟨hbacklog, htotal⟩ =>
    have hempty : (Hdr.covering l ceiling).counts.total = 0 := rfl
    have hlen := Hdr.total_foldl_record vs (h := .covering l ceiling) (by omega)
    rw [← htotal, hempty, Nat.zero_add] at hlen
    rw [Reservoir.read, BinnedReservoir.read, BinnedReservoir.refresh_of_empty hbacklog]
    show min r.total.counts.total maxWord = vs.length
    omega
  | window size, .window w, h =>
    have hlen := Window.length_foldl_update vs (.ofSize size)
    rw [← show w = _ from h] at hlen
    show (Samples.ofList w.values).values.length = min vs.length (max size 1)
    rw [(Samples.ofList_perm w.values).length_eq, hlen, max_comm size 1]
    exact congrArg (min · (max 1 size)) (Nat.zero_add _)

end Design

end Reservoir

namespace Histogram

open Reservoir (Design)

variable {d : Design} {vs : List UInt64} {h : Histogram}

/-! ### Histograms in use -/

/-- What is done with a histogram. -/
inductive Step where
  | update (v : UInt64)
  | read
  /-- A reading is given back, of this histogram or of another one. -/
  | restore (r : Reading)

/-- The histogram after a step. -/
def step (h : Histogram) : Step → Histogram
  | .update v => h.update v
  | .read => h.read.2
  | .restore r => h.restore r

/-- The histogram after some steps. -/
def run (h : Histogram) (steps : List Step) : Histogram :=
  steps.foldl step h

/-- The value that a step brings. -/
def Step.value? : Step → Option UInt64
  | .update v => some v
  | .read | .restore _ => none

/-- A new histogram. -/
def ofDesign (d : Design) : Histogram where
  reservoir := d.make

/-- The histogram has counted some values, up to a multiple of the number of words, and its reservoir
holds what comes of them. -/
structure Keeps (d : Design) (vs : List UInt64) (h : Histogram) : Prop where
  count : h.count = UInt64.ofNat vs.length
  held : d.Holds vs h.reservoir

theorem keeps_ofDesign (d : Design) : (ofDesign d).Keeps d [] :=
  ⟨rfl, d.holds_make⟩

/-- A value more is kept. -/
theorem Keeps.update (hk : h.Keeps d vs) (v : UInt64) : (h.update v).Keeps d (vs ++ [v]) where
  count := by
    rw [List.length_append, List.length_singleton, UInt64.ofNat_add, ← hk.count]
    rfl
  held := hk.held.update v

theorem Keeps.read (hk : h.Keeps d vs) : h.read.2.Keeps d vs :=
  ⟨hk.count, hk.held.read⟩

theorem Keeps.restore (hk : h.Keeps d vs) (r : Reading) : (h.restore r).Keeps d vs :=
  ⟨hk.count, hk.held.restore r⟩

/-- **Every step keeps the count and the reservoir together.** -/
theorem Keeps.step (hk : h.Keeps d vs) (x : Step) :
    (h.step x).Keeps d (vs ++ x.value?.toList) := by
  cases x with
  | update v => exact hk.update v
  | read => exact (List.append_nil vs).symm ▸ hk.read
  | restore r => exact (List.append_nil vs).symm ▸ hk.restore r

/-- **After any steps a histogram keeps the values of its updates**, in their order. -/
theorem Keeps.run (hk : h.Keeps d vs) (steps : List Step) :
    (h.run steps).Keeps d (vs ++ steps.filterMap Step.value?) := by
  induction steps generalizing h vs with
  | nil => exact (List.append_nil vs).symm ▸ hk
  | cons x steps ih =>
    have hrun := ih (hk.step x)
    rw [List.append_assoc] at hrun
    rw [List.filterMap_cons]
    cases hx : x.value? with
    | none => rwa [hx] at hrun
    | some v => rwa [hx] at hrun

/-- What a histogram says of the values that it has taken in. -/
structure Tells (d : Design) (vs : List UInt64) (h : Histogram) : Prop where
  count : h.count.toNat = vs.length
  reading : d.Shows h.count.toNat h.read.1
  held : d.Holds vs h.reservoir
  /-- Whatever is given back changes neither the count nor what is held and shown of the whole
  life. -/
  restore : ∀ r, (h.restore r).count = h.count ∧ d.Holds vs (h.restore r).reservoir ∧
    d.Shows h.count.toNat (h.restore r).read.1

/-- What a histogram keeps it tells, as long as the number of values is a word. -/
theorem Keeps.tells (hk : h.Keeps d vs) (hroom : vs.length ≤ maxWord) : h.Tells d vs := by
  have hcount : h.count.toNat = vs.length := by
    rw [hk.count]
    exact UInt64.toNat_ofNat_of_lt' (Nat.lt_succ_of_le hroom)
  exact
    { count := hcount
      reading := hcount ▸ hk.held.shows hroom
      held := hk.held
      restore := fun r ↦
        ⟨rfl, hk.held.restore r, hcount ▸ (hk.held.restore r).shows hroom⟩ }

end Histogram

end Telemetry
