import Mathlib
import Telemetry.Proofs.Hdr.Precision
import Telemetry.Proofs.Reservoir.Steps

/-!
# The statistics of readings

A reservoir is used along with the readings taken of it, any of which may be given back at any time
(`History`). Beside it runs an account that keeps the values themselves, and with each reading the
values that it is to cover: all that came in so far, and those that came in since the reading before
or were covered by what was given back since then (`Account`). The statistics of every reading are
those of the values in the account, to as many digits as the reservoir has (`faithful_readings`).

What carries the induction is that the shapes of the reservoir cover the values of the account, and
those of each reading the values noted for it (`Tracks`). Ranges may grow on the way as they like,
and what is given back may go by bins or by values: the shape joined is the same.
-/

namespace Telemetry.BinnedReservoir

/-- What can happen to a reservoir that only gets back what was read from it. -/
inductive Move where
  | update (v : UInt64)
  | record (v : UInt64)
  /-- A value is queued and the queue is left as it is, however long. -/
  | queue (v : UInt64)
  /-- The queue is folded in. -/
  | fold
  | read
  /-- The reading taken after `k` others is given back, if there is one. -/
  | giveBack (k : Nat)

/-- A reservoir and the readings taken of it, the oldest first. -/
structure History where
  reservoir : BinnedReservoir
  readings : List (Hdr × Hdr) := []

/-- The values that came in, all and since the last reading, and those that each reading covers. -/
structure Account where
  all : List UInt64 := []
  pending : List UInt64 := []
  covered : List (List UInt64 × List UInt64) := []

namespace History

/-- The reservoir and its readings after a move. -/
def move (h : History) : Move → History
  | .update v => { h with reservoir := h.reservoir.step (.update v) }
  | .record v => { h with reservoir := h.reservoir.step (.record v) }
  | .queue v => { h with reservoir := h.reservoir.step (.queue v) }
  | .fold => { h with reservoir := h.reservoir.step .fold }
  | .read =>
    { reservoir := h.reservoir.step .read, readings := h.readings ++ [h.reservoir.read.1] }
  | .giveBack k =>
    match h.readings[k]? with
    | none => h
    | some x => { h with reservoir := h.reservoir.step (.restore x.2) }

/-- The reservoir and its readings after some moves. -/
def run (h : History) (moves : List Move) : History :=
  moves.foldl move h

end History

namespace Account

/-- The account after a move. -/
def move (a : Account) : Move → Account
  | .update v | .record v | .queue v => { a with all := a.all ++ [v], pending := a.pending ++ [v] }
  | .fold => a
  | .read => { a with pending := [], covered := a.covered ++ [(a.all, a.pending)] }
  | .giveBack k =>
    match a.covered[k]? with
    | none => a
    | some x => { a with pending := a.pending ++ x.2 }

/-- The account after some moves. -/
def run (a : Account) (moves : List Move) : Account :=
  moves.foldl move a

end Account

namespace History

open Hdr (Faithful)

variable {l : Hdr.Layout} {h : History} {a : Account}

/-- A count is tight, by the layout, and covers the values. -/
structure HdrTracks (l : Hdr.Layout) (x : Hdr) (vs : List UInt64) : Prop where
  tight : x.Tight
  layout : x.layout = l
  covers : x.shape.Covers l vs

/-- The reservoir covers the values of the account, and so does each of its readings. -/
structure Tracks (l : Hdr.Layout) (h : History) (a : Account) : Prop where
  tight : h.reservoir.TightBy l
  total : h.reservoir.shapes.total.Covers l a.all
  interval : h.reservoir.shapes.interval.Covers l a.pending
  readings : List.Forall₂
    (fun x vs ↦ HdrTracks l x.1 vs.1 ∧ HdrTracks l x.2 vs.2) h.readings a.covered

theorem HdrTracks.faithful {x : Hdr} {vs : List UInt64} (hx : HdrTracks l x vs) :
    Faithful l.digits x vs := by
  obtain ⟨htight, rfl, hcovers⟩ := hx
  exact htight.faithful hcovers

/-- A reading and the values noted for it are at the same place. -/
theorem Tracks.getElem? (ht : Tracks l h a) (k : Nat) :
    (h.readings[k]? = none ∧ a.covered[k]? = none) ∨
      ∃ x vs, h.readings[k]? = some x ∧ a.covered[k]? = some vs ∧ HdrTracks l x.2 vs.2 := by
  have hreadings := ht.readings
  generalize h.readings = readings at hreadings ⊢
  generalize a.covered = covered at hreadings ⊢
  induction hreadings generalizing k with
  | nil => exact .inl ⟨rfl, rfl⟩
  | @cons x vs _ _ hx _ ih =>
    cases k with
    | zero => exact .inr ⟨x, vs, rfl, rfl, hx.2⟩
    | succ k => exact ih k

/-- The value of a step is covered afterwards. -/
theorem Tracks.value (ht : Tracks l h a) (v : UInt64) {x : Step}
    (hx : ∀ s, x.effect l s = Step.effect l s (.update v))
    (hrestore : ∀ o, x ≠ .restore o) :
    Tracks l { h with reservoir := h.reservoir.step x }
      { a with all := a.all ++ [v], pending := a.pending ++ [v] } := by
  have hlegal : ∀ o, x = .restore o → o.Tight := fun o ho ↦ absurd ho (hrestore o)
  have hshapes := (ht.tight.shapes_step hlegal).trans (hx _)
  have hvalue : (Hdr.Shape.ofValues l [v]).Covers l [v] :=
    (Hdr.Shape.covers_ofValue v).join (Hdr.Shape.covers_range 0)
  refine ⟨ht.tight.step hlegal, ?_, ?_, ht.readings⟩
  · rw [hshapes]
    exact ht.total.join hvalue
  · rw [hshapes]
    exact ht.interval.join hvalue

/-- **Every move keeps the values covered.** -/
theorem Tracks.move (ht : Tracks l h a) (m : Move) : Tracks l (h.move m) (a.move m) := by
  cases m with
  | update v => exact ht.value v (fun _ ↦ rfl) nofun
  | record v => exact ht.value v (fun _ ↦ rfl) nofun
  | queue v => exact ht.value v (fun _ ↦ rfl) nofun
  | fold =>
    have hshapes := ht.tight.shapes_step (x := .fold) nofun
    exact ⟨ht.tight.step (x := .fold) nofun, hshapes ▸ ht.total, hshapes ▸ ht.interval, ht.readings⟩
  | read =>
    have hshapes := ht.tight.shapes_step (x := .read) nofun
    have hr := ht.tight.refresh
    refine ⟨ht.tight.step (x := .read) nofun, hshapes ▸ ht.total,
      hshapes ▸ Hdr.Shape.covers_range _, List.rel_append ht.readings (.cons ⟨?_, ?_⟩ .nil)⟩
    · exact ⟨hr.total, hr.layout_total, ht.total⟩
    · exact ⟨hr.interval, hr.layout_interval, ht.interval⟩
  | giveBack k =>
    rcases ht.getElem? k with ⟨hx, hvs⟩ | ⟨x, vs, hx, hvs, hback⟩
    · simp only [History.move, Account.move, hx, hvs]
      exact ht
    · have hlegal : ∀ o, Step.restore x.2 = .restore o → o.Tight := by
        rintro o ⟨⟩
        exact hback.tight
      have hshapes := ht.tight.shapes_step hlegal
      simp only [History.move, Account.move, hx, hvs]
      refine ⟨ht.tight.step hlegal, hshapes ▸ ht.total, ?_, ht.readings⟩
      rw [hshapes]
      exact ht.interval.join (hback.covers.carried hback.layout)

/-- **Every run keeps the values covered.** -/
theorem Tracks.run (ht : Tracks l h a) (moves : List Move) :
    Tracks l (h.run moves) (a.run moves) := by
  induction moves generalizing h a with
  | nil => exact ht
  | cons m moves ih => exact ih (ht.move m)

/-- **The statistics of every reading are right to the digits of the reservoir.** However a
reservoir was created, whatever came into it, and whichever of its readings were given back to it,
the values that each reading is to cover are those of its statistics: those over the whole life and
those since the reading before. -/
theorem faithful_readings {digits : Nat} {ceiling : UInt64} {r : BinnedReservoir}
    (hr : create digits ceiling.toNat = .ok r) (moves : List Move) :
    List.Forall₂
      (fun reading covered ↦
        Faithful digits reading.1 covered.1 ∧ Faithful digits reading.2 covered.2)
      (run { reservoir := r } moves).readings (Account.run {} moves).covered := by
  have htight := tightBy_create hr
  obtain ⟨hd, rfl⟩ := create_eq hr
  have htracks : Tracks ⟨digits, hd⟩ { reservoir := .ofLayout ⟨digits, hd⟩ ceiling.toNat } {} :=
    ⟨htight, Hdr.Shape.covers_range _, Hdr.Shape.covers_range _, .nil⟩
  exact (htracks.run moves).readings.imp fun _ _ h ↦ ⟨h.1.faithful, h.2.faithful⟩

/-- A small value and the largest one, given back before they are read again. -/
theorem faithful_readings_given_back :
    let r := ofLayout ⟨1, by decide⟩ 2
    let moves : List Move := [.record 7, .update 18446744073709551615, .read, .giveBack 0, .read]
    create 1 (2 : UInt64).toNat = .ok r ∧
      ∃ first second, (run { reservoir := r } moves).readings = [first, second] ∧
        Faithful 1 second.2 [7, 18446744073709551615] := by
  intro r moves
  have hr : create 1 (2 : UInt64).toNat = .ok r := rfl
  have hreadings := faithful_readings hr moves
  obtain ⟨first, rest, -, hrest, heq⟩ := List.forall₂_cons_right_iff.1 hreadings
  obtain ⟨second, rest, hsecond, hnil, rfl⟩ := List.forall₂_cons_right_iff.1 hrest
  obtain rfl := List.forall₂_nil_right_iff.1 hnil
  exact ⟨hr, first, second, heq, hsecond.2⟩

end History

end Telemetry.BinnedReservoir
