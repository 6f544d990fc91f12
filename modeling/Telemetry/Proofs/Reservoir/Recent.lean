import Mathlib
import Telemetry.Distribution
import Telemetry.Proofs.Reservoir.Window
import Telemetry.Reservoir.Basic

/-!
# What the readings of a window show

A reservoir is used along with the readings that are taken of it (`Reservoir.Session`), and beside it
runs an account of the values that came in, all of them and those before each reading
(`Reservoir.Intake`). A reservoir that is a window holds the most recent of all values, as many as
its size says, and each reading shows those that were the most recent at its time
(`Reservoir.recent_run`).

What carries the induction is that nothing but values coming in makes a difference: a window is at
any time what it would be if it had only been given the values of the account
(`Reservoir.OnlyTakesIn`). Readings taken, and whatever readings given back, leave no trace.

**What a reading shows** is said by ranks (`Samples.Shows`). The least value has the first rank, the
greatest the last, and a quantile the one computed for it, be it a number or not.
-/

namespace Telemetry

namespace Samples

/-- Samples are some values in ascending order, and their statistics are such values, found by their
ranks. -/
structure Shows (s : Samples) (vs : List UInt64) : Prop where
  ascending : s.values.Pairwise (· ≤ ·)
  perm : s.values.Perm vs
  len : Distribution.len s = vs.length
  minValue : vs ≠ [] → ∃ v, HasRank vs 1 v ∧ Distribution.minValue s = v.toNat
  maxValue : vs ≠ [] → ∃ v, HasRank vs vs.length v ∧ Distribution.maxValue s = v.toNat
  value : vs ≠ [] → ∀ q : Float, ∃ v, HasRank vs (s.rank q) v ∧ Distribution.value s q = v.toFloat
  /-- The rank of a quantile is computed from it and kept between the first and the last. -/
  rank : vs ≠ [] → ∀ q : Float, 1 ≤ s.rank q ∧ s.rank q ≤ vs.length ∧
    s.rank q = min vs.length (max 1 (floorWord (clampQuantile q * wordFloat vs.length).ceil))

theorem exists_minValue {s : Samples} (hs : s.values ≠ []) :
    ∃ v, HasRank s.values 1 v ∧ s.minValue = v.toNat := by
  have hfirst := List.getElem?_eq_getElem (List.length_pos_of_ne_nil hs)
  refine ⟨_, hasRank_of_getElem? hfirst, ?_⟩
  rw [minValue, List.head?_eq_getElem?, hfirst]
  rfl

theorem exists_maxValue {s : Samples} (hs : s.values ≠ []) :
    ∃ v, HasRank s.values s.values.length v ∧ s.maxValue = v.toNat := by
  have hpos := List.length_pos_of_ne_nil hs
  have hlast := List.getElem?_eq_getElem (Nat.sub_one_lt_of_lt hpos)
  have hrank := hasRank_of_getElem? hlast
  rw [Nat.sub_add_cancel hpos] at hrank
  refine ⟨_, hrank, ?_⟩
  rw [maxValue, List.getLast?_eq_getElem?, hlast]
  rfl

/-- **Sorted values show their least and their greatest one, and the value at every rank.** -/
theorem shows_ofList (vs : List UInt64) : (ofList vs).Shows vs := by
  have hperm := ofList_perm vs
  have hlen : (ofList vs).values.length = vs.length := hperm.length_eq
  have hne (hvs : vs ≠ []) : (ofList vs).values ≠ [] :=
    List.ne_nil_of_length_pos (hlen.symm ▸ List.length_pos_of_ne_nil hvs)
  refine ⟨(ofList vs).sorted, hperm, hlen, fun hvs ↦ ?_, fun hvs ↦ ?_, fun hvs q ↦ ?_,
    fun hvs q ↦ ?_⟩
  · obtain ⟨v, hrank, hvalue⟩ := exists_minValue (hne hvs)
    exact ⟨v, hrank.perm hperm, hvalue⟩
  · obtain ⟨v, hrank, hvalue⟩ := exists_maxValue (hne hvs)
    exact ⟨v, hlen ▸ hrank.perm hperm, hvalue⟩
  · obtain ⟨v, hrank, hvalue⟩ := exists_valueAt (hne hvs) q
    refine ⟨v, hrank.perm hperm, ?_⟩
    show wordFloat ((ofList vs).valueAt q) = v.toFloat
    rw [hvalue, wordFloat, Nat.toUInt64, UInt64.ofNat_toNat]
  · obtain ⟨hpos, hle⟩ := rank_bounds (hne hvs) q
    exact ⟨hpos, hle.trans_eq hlen, hlen ▸ rfl⟩

end Samples

namespace Window

/-- **A window holds the most recent values.** -/
theorem values_foldl_ofSize (n : Nat) (vs : List UInt64) :
    (vs.foldl update (ofSize n)).values = vs.rtake (max 1 n) := by
  rw [values_foldl_update, show (ofSize n).values = [] from rfl, List.nil_append, List.length_nil,
    Nat.zero_add]
  rfl

end Window

namespace Reservoir

/-! ### A reservoir in use -/

/-- What can be done to a reservoir. -/
inductive Call where
  | update (v : UInt64)
  | read
  /-- A reading is given back, be it of this reservoir or of another. -/
  | restore (r : Reading)

/-- A reservoir and the readings taken of it, the oldest first. -/
structure Session where
  reservoir : Reservoir
  readings : List Reading := []

/-- The values that came in, all and those before each reading. -/
structure Intake where
  all : List UInt64 := []
  atReadings : List (List UInt64) := []

/-- The reservoir and its readings after a call. -/
def Session.call (s : Session) : Call → Session
  | .update v => { s with reservoir := s.reservoir.update v }
  | .read =>
    { reservoir := s.reservoir.read.2, readings := s.readings ++ [s.reservoir.read.1] }
  | .restore r => { s with reservoir := s.reservoir.restore r }

/-- The reservoir and its readings after some calls. -/
def Session.run (s : Session) (calls : List Call) : Session :=
  calls.foldl call s

/-- The account after a call. -/
def Intake.call (a : Intake) : Call → Intake
  | .update v => { a with all := a.all ++ [v] }
  | .read => { a with atReadings := a.atReadings ++ [a.all] }
  | .restore _ => a

/-- The account after some calls. -/
def Intake.run (a : Intake) (calls : List Call) : Intake :=
  calls.foldl call a

/-- The window of a session is what the values that came in make of it, and so it was at each
reading. -/
structure OnlyTakesIn (n : Nat) (s : Session) (a : Intake) : Prop where
  reservoir : s.reservoir = .window (a.all.foldl Window.update (.ofSize n))
  readings : List.Forall₂
    (fun r vs ↦ r = .sampled (vs.foldl Window.update (.ofSize n)).read) s.readings a.atReadings

variable {n : Nat} {s : Session} {a : Intake}

/-- **Every call keeps it so.** -/
theorem OnlyTakesIn.call (h : OnlyTakesIn n s a) (c : Call) :
    OnlyTakesIn n (s.call c) (a.call c) := by
  obtain ⟨hreservoir, hreadings⟩ := h
  cases c with
  | update v =>
    refine ⟨?_, hreadings⟩
    show s.reservoir.update v = .window ((a.all ++ [v]).foldl _ _)
    rw [hreservoir, List.foldl_concat]
    rfl
  | read =>
    refine ⟨?_, List.rel_append hreadings (.cons ?_ .nil)⟩
    · show s.reservoir.read.2 = _
      rw [hreservoir]
      rfl
    · rw [hreservoir]
      rfl
  | restore r =>
    refine ⟨?_, hreadings⟩
    show s.reservoir.restore r = _
    rw [hreservoir]
    rfl

/-- **Every run keeps it so.** -/
theorem OnlyTakesIn.run (h : OnlyTakesIn n s a) (calls : List Call) :
    OnlyTakesIn n (s.run calls) (a.run calls) := by
  induction calls generalizing s a with
  | nil => exact h
  | cons c calls ih => exact ih (h.call c)

/-- What can be said of a window of a size after some calls. -/
structure Recent (n : Nat) (s : Session) (a : Intake) : Prop where
  holds : ∃ w : Window, s.reservoir = .window w ∧ w.values = a.all.rtake (max 1 n) ∧
    w.values.length = min a.all.length (max 1 n)
  /-- Only the values that came in have changed it. -/
  reservoir : s.reservoir = a.all.foldl Reservoir.update (.window (.ofSize n))
  /-- A reading shows the values that were the most recent when it was taken. -/
  readings : List.Forall₂
    (fun r vs ↦ ∃ samples : Samples, r = .sampled samples ∧ samples.Shows (vs.rtake (max 1 n)))
    s.readings a.atReadings

/-- **A window shows the most recent values**, whatever is done to it: it never holds more of them
than its size says, each reading shows them in ascending order with the statistics that they have,
and neither readings nor what is given back change what later readings show. -/
theorem recent_run (n : Nat) (calls : List Call) :
    Recent n (Session.run { reservoir := .window (.ofSize n) } calls) (Intake.run {} calls) := by
  have hstart : OnlyTakesIn n { reservoir := .window (.ofSize n) } {} := ⟨rfl, .nil⟩
  obtain ⟨hreservoir, hreadings⟩ := hstart.run calls
  refine ⟨⟨_, hreservoir, Window.values_foldl_ofSize n _, ?_⟩, ?_, hreadings.imp ?_⟩
  · rw [Window.values_foldl_ofSize, List.rtake, List.length_drop]
    omega
  · rw [hreservoir]
    exact (List.foldl_hom Reservoir.window fun _ _ ↦ rfl).symm
  · rintro _ vs rfl
    refine ⟨_, rfl, ?_⟩
    rw [← Window.values_foldl_ofSize]
    exact Samples.shows_ofList _

/-- The oldest of four values has to leave a window of three. -/
example : ([5, 1, 9, 7].foldl Window.update (.ofSize 3)).read.values = [1, 7, 9] := by cbv

end Reservoir

end Telemetry
