import Mathlib
import Telemetry.Proofs.Meter.Grid

/-!
# Readings of a meter by others

Whoever reads a rate lets the meter catch up with its grid. That ought to show in nothing that others
read later, and mostly it does not: two histories with the same marks are compared here, each with
readings of its own between them.

**Contested times.** A meter catches up with a grid point at once if it comes from further away than
an interval, and only afterwards if it comes from the grid point before (`catchUp_of_le`). So a touch
on a grid point after the first may be dated differently in two histories, by one (`dates_alike`).
At all other times dates depend on the time only (`DateOf.unique`).

**What is folded in.** Without marks at contested times both meters fold in the same numbers one
after the other (`markedAt_alike`), and a reading at another time shows the same rate in both
(`ReadsAlike.same`). A reading at such a time may find one number less in one of them
(`readings_show_small`), and a mark at such a time is folded in one tick earlier in one of them, for
good.
-/

namespace Telemetry.Meter

open MovingRate (interval)

/-- Whether a touch marks events. -/
def Touch.isMark (x : Touch) : Bool :=
  match x.use with
  | .mark _ => true
  | .rate _ => false

/-- A time on the grid after the first interval. -/
def Contested (t : Nat) : Prop :=
  interval ∣ t ∧ interval < t

instance (t : Nat) : Decidable (Contested t) :=
  inferInstanceAs (Decidable (_ ∧ _))

/-- No event is marked at a contested time. -/
def MarksApart (start : Span) (touches : List Touch) : Prop :=
  ∀ x ∈ touches, x.isMark → ¬ Contested ((begun start).elapsed x.time)

instance (start : Span) (touches : List Touch) : Decidable (MarksApart start touches) :=
  inferInstanceAs (Decidable (∀ x ∈ touches, _))

/-- The marks among some touches, with the number of grid points caught up with by then. -/
def marksDated (m : Meter) (touches : List Touch) : List (Touch × Nat) :=
  (m.dated touches).filter (·.1.isMark)

variable {start now : Span} {h : Horizon} {a b touches : List Touch} {x : Touch}

theorem marked_of_not_isMark (hx : x.isMark = false) : x.marked = 0 := by
  obtain ⟨t, n | h⟩ := x
  · exact absurd hx Bool.true_eq_false.mp
  · rfl

/-- A reading more is no mark. -/
theorem filter_isMark_concat_read (a : List Touch) (now : Span) (h : Horizon) :
    (a ++ [Touch.read now h]).filter Touch.isMark = a.filter Touch.isMark := by
  rw [List.filter_append]
  exact List.append_nil _

/-- A reading more does not bring a mark onto a contested time. -/
theorem MarksApart.concat_read (hapart : MarksApart start a) :
    MarksApart start (a ++ [.read now h]) := by
  intro x hx hmark
  have hmem : x ∈ (a ++ [Touch.read now h]).filter Touch.isMark := List.mem_filter.mpr ⟨hx, hmark⟩
  rw [filter_isMark_concat_read] at hmem
  exact hapart x (List.mem_of_mem_filter hmem) hmark

theorem map_fst_marksDated (m : Meter) (touches : List Touch) :
    (m.marksDated touches).map (·.1) = touches.filter Touch.isMark := by
  conv_rhs => rw [← m.map_fst_dated touches, List.filter_map]
  rfl

/-- What is zero may be left out of a sum. -/
theorem sum_map_filter {α : Type} {f : α → UInt64} {p : α → Bool}
    (hf : ∀ x, p x = false → f x = 0) (xs : List α) :
    ((xs.filter p).map f).sum = (xs.map f).sum := by
  induction xs with
  | nil => rfl
  | cons x xs ih =>
    rw [List.filter_cons, List.map_cons, List.sum_cons, ← ih]
    split
    · rfl
    · next hx => rw [hf x (Bool.eq_false_of_not_eq_true hx), UInt64.zero_add]

/-- Readings mark nothing. -/
theorem markedAt_eq_marksDated (m : Meter) (touches : List Touch) (k : Nat) :
    m.markedAt touches k =
      ((m.marksDated touches).map fun d ↦ if d.2 = k then d.1.marked else 0).sum :=
  (sum_map_filter (fun _ hd ↦ by rw [marked_of_not_isMark hd, ite_self]) _).symm

theorem count_run_eq_marks (m : Meter) (touches : List Touch) :
    (m.run touches).count = m.count + ((touches.filter Touch.isMark).map Touch.marked).sum := by
  rw [count_run, sum_map_filter fun _ ↦ marked_of_not_isMark]

/-! ### Dates in two histories -/

/-- The dates that a touch at a time may have in one history or another. -/
structure DateOf (t d : Nat) : Prop where
  le : (t - 1) / interval ≤ d
  ge : d ≤ t / interval
  early : t ≤ interval → d = 0

/-- The number that a touch is dated with is a date of its time. -/
theorem dateOf_dated (hsorted : Orderly touches) :
    ∀ d ∈ (begun start).dated touches, DateOf ((begun start).elapsed d.1.time) d.2 := fun d hd ↦
  have hbounds := dated_bounds start hsorted d hd
  ⟨hbounds.1, hbounds.2, dated_early hsorted d hd⟩

/-- Two dates at one time differ by one at most. -/
theorem DateOf.near {t d e : Nat} (hd : DateOf t d) (he : DateOf t e) : d ≤ e + 1 := by
  obtain ⟨-, hd, -⟩ := hd
  obtain ⟨he, -, -⟩ := he
  simp only [interval] at *
  omega

/-- Two dates at one time are the same, unless the time is contested. -/
theorem DateOf.unique {t d e : Nat} (ht : ¬ Contested t) (hd : DateOf t d) (he : DateOf t e) :
    d = e := by
  by_cases hearly : t ≤ interval
  · rw [hd.early hearly, he.early hearly]
  · have hoff : ¬ interval ∣ t := fun hdvd ↦ ht ⟨hdvd, Nat.lt_of_not_le hearly⟩
    rw [eq_div_of_bounds ⟨hd.le, hd.ge⟩ hoff, eq_div_of_bounds ⟨he.le, he.ge⟩ hoff]

/-- What the dates of one mark in two histories have to do with each other. -/
structure DatedAlike (start : Span) (d e : Touch × Nat) : Prop where
  same : d.1 = e.1
  near : d.2 ≤ e.2 + 1 ∧ e.2 ≤ d.2 + 1
  eq : ¬ Contested ((begun start).elapsed d.1.time) → d.2 = e.2

/-- **Readings move the date of a mark by one at most**, and only at a contested time. -/
theorem dates_alike (start : Span) (ha : Orderly a) (hb : Orderly b)
    (hmarks : a.filter Touch.isMark = b.filter Touch.isMark) :
    List.Forall₂ (DatedAlike start) ((begun start).marksDated a) ((begun start).marksDated b) := by
  have hof (touches : List Touch) (hsorted : Orderly touches) :
      ∀ d ∈ (begun start).marksDated touches, DateOf ((begun start).elapsed d.1.time) d.2 :=
    fun d hd ↦ dateOf_dated hsorted d (List.mem_of_mem_filter hd)
  have hofa := hof a ha
  have hofb := hof b hb
  rw [← map_fst_marksDated (begun start) a, ← map_fst_marksDated (begun start) b] at hmarks
  generalize (begun start).marksDated a = ds, (begun start).marksDated b = es at *
  induction ds generalizing es with
  | nil => rw [List.map_eq_nil_iff.mp hmarks.symm]; exact .nil
  | cons d ds ih =>
    obtain ⟨e, es, rfl, hde, hrest⟩ := List.map_eq_cons_iff.mp hmarks.symm
    have hd := hofa d List.mem_cons_self
    have he := hofb e List.mem_cons_self
    rw [hde] at he
    exact .cons ⟨hde.symm, ⟨hd.near he, he.near hd⟩, fun ht ↦ hd.unique ht he⟩
      (ih es hrest.symm (fun d hd ↦ hofa d (List.mem_cons_of_mem _ hd))
        fun e he ↦ hofb e (List.mem_cons_of_mem _ he))

/-- Without marks at contested times, as many events are marked after so many grid points. -/
theorem markedAt_alike (ha : Orderly a) (hb : Orderly b)
    (hmarks : a.filter Touch.isMark = b.filter Touch.isMark)
    (hapart : MarksApart start a) :
    (begun start).markedAt a = (begun start).markedAt b := by
  have halike := dates_alike start ha hb hmarks
  have hmem : ∀ d ∈ (begun start).marksDated a, d.1 ∈ a ∧ d.1.isMark := fun d hd ↦
    List.mem_filter.mp (map_fst_marksDated (begun start) a ▸ List.mem_map_of_mem hd)
  have hsame : (begun start).marksDated a = (begun start).marksDated b := by
    rw [← List.forall₂_eq_eq_eq]
    refine List.Forall₂.imp (fun d e hde ↦ ?_) ((List.forall₂_and_left _ _).mpr ⟨hmem, halike⟩)
    obtain ⟨⟨hd, hmark⟩, halike⟩ := hde
    exact Prod.ext halike.same (halike.eq (hapart d.1 hd hmark))
  funext k
  rw [markedAt_eq_marksDated, markedAt_eq_marksDated, hsame]

/-! ### What is folded in, in two histories -/

/-- Two lists, the one with as much as the other and maybe one number more. -/
def WithinOne (xs ys : List UInt64) : Prop :=
  ∃ last : List UInt64, last.length ≤ 1 ∧ (ys = xs ++ last ∨ xs = ys ++ last)

/-- What two histories with the same marks have in common, as far as a reading at a time. -/
structure ReadsAlike (start : Span) (a b : List Touch) (now : Span) (h : Horizon) : Prop where
  count : ((begun start).run a).count = ((begun start).run b).count
  dates : List.Forall₂ (DatedAlike start) ((begun start).marksDated a) ((begun start).marksDated b)
  folded : MarksApart start a →
    WithinOne ((begun start).folded h (a ++ [.read now h]))
      ((begun start).folded h (b ++ [.read now h]))
  /-- Away from the contested times, other readings do not show. -/
  same : MarksApart start a → ¬ Contested ((begun start).elapsed now) →
    (begun start).folded h (a ++ [.read now h]) = (begun start).folded h (b ++ [.read now h]) ∧
      (((begun start).run a).rate h now).1 = (((begun start).run b).rate h now).1

/-- Two beginnings of one sequence whose lengths differ by one at most are the same up to one last
number. -/
theorem withinOne_map_range (f : Nat → UInt64) {i j : Nat} (hi : i ≤ j + 1) (hj : j ≤ i + 1) :
    WithinOne ((List.range i).map f) ((List.range j).map f) := by
  obtain rfl | rfl | rfl : i = j ∨ i = j + 1 ∨ j = i + 1 := by omega
  · exact ⟨[], by simp, .inl (List.append_nil _).symm⟩
  · exact ⟨[f j], by simp, .inr (by rw [List.range_succ, List.map_append, List.map_singleton])⟩
  · exact ⟨[f i], by simp, .inl (by rw [List.range_succ, List.map_append, List.map_singleton])⟩

/-- What an average shows is what it has folded in. -/
theorem rate_run (m : Meter) (a : List Touch) (now : Span) (h : Horizon) :
    ((m.run a).rate h now).1 =
      ((m.folded h (a ++ [.read now h])).foldl MovingRate.fold (m.average h)).rate :=
  calc ((m.run a).rate h now).1
      = ((m.run (a ++ [.read now h])).average h).rate := by rw [run_concat]; rfl
    _ = _ := by rw [average_run]; rfl

/-- The last reading has caught up with a date of its time. -/
theorem dateOf_read (start : Span) (hsorted : Orderly (a ++ [.read now h])) :
    DateOf ((begun start).elapsed now) ((begun start).run (a ++ [.read now h])).passed :=
  dateOf_dated hsorted (.read now h, _) (by rw [dated_concat]; exact List.mem_concat_self)

/-- **Readings hardly show.** In two histories with the same marks the dates of a mark differ by one
at most, and only if its time is contested. Without such marks both meters have folded in the same
numbers by a reading, but maybe for the last one; if the time of the reading is not contested either,
just the same numbers. -/
theorem readings_show_at_contested_times_only (start now : Span) (h : Horizon) (a b : List Touch)
    (ha : Orderly (a ++ [.read now h])) (hb : Orderly (b ++ [.read now h]))
    (hmarks : a.filter Touch.isMark = b.filter Touch.isMark) :
    ReadsAlike start a b now h := by
  have hda := dateOf_read start ha
  have hdb := dateOf_read start hb
  have hfolded (hapart : MarksApart start a) :
      (begun start).markedAt (b ++ [.read now h]) = (begun start).markedAt (a ++ [.read now h]) := by
    refine (markedAt_alike ha hb ?_ hapart.concat_read).symm
    rw [filter_isMark_concat_read, filter_isMark_concat_read, hmarks]
  refine ⟨?_, ?_, fun hapart ↦ ?_, fun hapart hnow ↦ ?_⟩
  · rw [count_run_eq_marks, count_run_eq_marks, hmarks]
  · exact dates_alike start (orderly_concat.mp ha).1 (orderly_concat.mp hb).1 hmarks
  · rw [(booked start h ha).folded, (booked start h hb).folded, hfolded hapart]
    exact withinOne_map_range _ (hda.near hdb) (hdb.near hda)
  · have hsame : (begun start).folded h (a ++ [.read now h]) =
        (begun start).folded h (b ++ [.read now h]) := by
      rw [(booked start h ha).folded, (booked start h hb).folded, hfolded hapart,
        hda.unique hnow hdb]
    exact ⟨hsame, by rw [rate_run, rate_run, hsame]⟩

/-- A mark at 1 s and a reading at 23 s, with a reading at 7 s between them or without it. -/
theorem readings_show_at_contested_times_only_small :
    ReadsAlike {} [⟨.ofSeconds 1, .mark 5⟩]
        [⟨.ofSeconds 1, .mark 5⟩, .read (.ofSeconds 7) .oneMinute] (.ofSeconds 23) .oneMinute ∧
      MarksApart {} [⟨.ofSeconds 1, .mark 5⟩] ∧
      ¬ Contested ((begun {}).elapsed (.ofSeconds 23)) :=
  ⟨readings_show_at_contested_times_only _ _ _ _ _ (by decide) (by decide) rfl, by decide, by decide⟩

/-- **A reading at a contested time shows another one before it.** The mark at 1 s is followed by
no mark until the reading at 10 s. By then one tick has been made with a reading at 7 s, and two
without it. -/
theorem readings_show_small :
    let mark : Touch := ⟨.ofSeconds 1, .mark 5⟩
    let early := Touch.read (.ofSeconds 7) .oneMinute
    let late := Touch.read (.ofSeconds 10) .oneMinute
    Orderly [mark, late] ∧ Orderly [mark, early, late] ∧
      [mark].filter Touch.isMark = [mark, early].filter Touch.isMark ∧
      (begun {}).folded .oneMinute [mark, late] = [5, 0] ∧
      (begun {}).folded .oneMinute [mark, early, late] = [5] :=
  ⟨by decide, by decide, rfl, by decide +kernel, by decide +kernel⟩

/-- A mark at a contested time is folded in one tick earlier with such a reading, for good. -/
example :
    let early := Touch.read (.ofSeconds 7) .oneMinute
    let marks : List Touch := [⟨.ofSeconds 10, .mark 3⟩, .read (.ofSeconds 23) .oneMinute]
    (begun {}).folded .oneMinute (⟨.ofSeconds 1, .mark 5⟩ :: marks) = [5, 0, 3, 0] ∧
      (begun {}).folded .oneMinute (⟨.ofSeconds 1, .mark 5⟩ :: early :: marks) = [5, 3, 0, 0] := by
  decide +kernel

end Telemetry.Meter
