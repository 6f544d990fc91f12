import Mathlib
import Telemetry.Proofs.Hdr.Adding
import Telemetry.Proofs.Hdr.Payload

/-!
# There is always room to grow

A histogram grows by itself, so recording and adding always succeed here. In memory they could fail:
a value is out of range when its bin is not among those in place, and growing may ask for more bins
than can be addressed. `recordMany?` and `add?` look at every such place and give up there.

They never do (`recordMany?_eq_some`, `add?_eq_some`). The bins of all words are fewer than `2 ^ 24`
(`Sound.size_le`), so that many addresses are enough, and a sound histogram that has covered a value
has the bin of it. A recorder that clamps the values for which there is no room clamps none.
-/

namespace Telemetry.Hdr

/-- The number of bins. -/
def size (h : Hdr) : Nat :=
  (h.stretches + 1) * h.layout.half

/-- The histogram, if its bins can be addressed. -/
def addressed? (limit : Nat) (h : Hdr) : Option Hdr :=
  if h.size ≤ limit then some h else none

/-- Recording that gives up when there is no room for the bin of the value. -/
def recordMany? (limit : Nat) (h : Hdr) (v n : Nat) : Option Hdr :=
  if h.layout.index v < (h.cover v).size then (h.recordMany v n).addressed? limit else none

/-- Adding that gives up when there is no room for the values added. -/
def add? (limit : Nat) (h other : Hdr) : Option Hdr :=
  ((h.grownFor other).addressed? limit).bind fun g ↦
    if g.layout = other.layout ∧ g.stretches = other.stretches then some (h.add other)
    else other.counts.toList.foldlM
      (fun g e ↦ g.recordMany? limit (other.layout.lowest e.1) e.2) g

variable {h other : Hdr} {limit : Nat}

/-- There are less bins than `2 ^ 24`. -/
theorem Sound.size_le (hs : h.Sound) : h.size ≤ 2 ^ 24 :=
  hs.bins_le.trans (Payload.end_le h.layout)

/-- There is a place for every bin of a sound histogram. -/
theorem addressed?_eq_some (hs : h.Sound) (hlimit : 2 ^ 24 ≤ limit) :
    h.addressed? limit = some h :=
  if_pos (hs.size_le.trans hlimit)

/-- **Recording never gives up.** -/
theorem recordMany?_eq_some (hs : h.Sound) (hlimit : 2 ^ 24 ≤ limit) {v : Nat} (hv : v ≤ maxWord)
    (n : Nat) : h.recordMany? limit v n = some (h.recordMany v n) := by
  obtain ⟨-, hcovered⟩ := hs.cover hv
  have hindex : h.layout.index v < (h.cover v).size := by
    rw [size, layout_cover]
    exact (h.layout.exponent_lt_iff (Nat.zero_lt_of_lt hcovered) v).1 hcovered
  rw [recordMany?, if_pos hindex]
  exact addressed?_eq_some (hs.recordMany hv n) hlimit

/-- Recording a list of bins never gives up. -/
theorem foldlM_recordMany? (hs : h.Sound) (hlimit : 2 ^ 24 ≤ limit) {value : Nat → Nat}
    {bins : List (Nat × Nat)} (hwords : ∀ e ∈ bins, value e.1 ≤ maxWord) :
    bins.foldlM (fun g e ↦ g.recordMany? limit (value e.1) e.2) h =
      some (bins.foldl (fun g e ↦ g.recordMany (value e.1) e.2) h) := by
  induction bins generalizing h with
  | nil => rfl
  | cons e bins ih =>
    have hv := hwords e List.mem_cons_self
    rw [List.foldlM_cons, recordMany?_eq_some hs hlimit hv]
    exact ih (hs.recordMany hv e.2) fun e' he' ↦ hwords e' (List.mem_cons_of_mem _ he')

/-- **Adding never gives up.** -/
theorem add?_eq_some (hs : h.Sound) (ho : other.Sound) (hlimit : 2 ^ 24 ≤ limit) :
    h.add? limit other = some (h.add other) := by
  have hg := hs.grownFor other
  rw [add?, addressed?_eq_some hg hlimit, Option.bind_some]
  split
  · rfl
  · next hne =>
    have hwords : ∀ e ∈ other.counts.toList, other.layout.lowest e.1 ≤ maxWord :=
      fun e he ↦ (ho.lowest_lt he).le
    rw [foldlM_recordMany? hg hlimit hwords]
    rw [layout_grownFor] at hne
    rw [add_of_ne hne]

end Telemetry.Hdr
