import Std.Data.ExtTreeMap

/-!
# Counts of bins

A `Tally` gives each bin a count. Only bins with something in them are listed, in ascending order,
so the tally is canonical: two tallies with the same counts are equal (`Tally.ext`).

`Tally.update` replaces the count of one bin by a function of it, and `count_update` says all there
is to know about it.
-/

namespace Telemetry.Hdr

/-- A count for every bin, zero for all but finitely many. -/
structure Tally where
  bins : Std.ExtTreeMap Nat Nat
  pos : ∀ e ∈ bins.toList, 0 < e.2

namespace Tally

/-- The tally of no values. -/
def empty : Tally :=
  ⟨∅, by simp⟩

instance : Inhabited Tally := ⟨empty⟩

/-- The bins with something in them and their counts, ascending. -/
def toList (t : Tally) : List (Nat × Nat) :=
  t.bins.toList

/-- The count of a bin. -/
def count (t : Tally) (i : Nat) : Nat :=
  (t.bins[i]?).getD 0

/-- The sum of all counts. -/
def total (t : Tally) : Nat :=
  t.toList.foldr (fun e n ↦ e.2 + n) 0

/-- The positive counts that a function on counts leaves of a looked up one. -/
private def positive (f : Nat → Nat) (old : Option Nat) : Option Nat :=
  if f (old.getD 0) = 0 then none else some (f (old.getD 0))

/-- The tally in which the count of one bin is replaced by a function of it. -/
def update (t : Tally) (i : Nat) (f : Nat → Nat) : Tally where
  bins := t.bins.alter i (positive f)
  pos := by
    rintro ⟨j, c⟩ he
    rw [Std.ExtTreeMap.mem_toList_iff_getElem?_eq_some, Std.ExtTreeMap.getElem?_alter] at he
    split at he
    · simp only [positive] at he
      split at he
      · simp at he
      · simp only [Option.some.injEq] at he
        show 0 < c
        omega
    · exact t.pos _ (Std.ExtTreeMap.mem_toList_iff_getElem?_eq_some.2 he)

/-- **What an update does to every count.** -/
theorem count_update (t : Tally) (i j : Nat) (f : Nat → Nat) :
    (t.update i f).count j = if j = i then f (t.count i) else t.count j := by
  simp only [count, update, Std.ExtTreeMap.getElem?_alter, Nat.compare_eq_eq, eq_comm (a := i)]
  split
  · simp only [positive]
    split
    · next h => simp [h]
    · simp
  · rfl

@[simp] theorem count_empty (i : Nat) : empty.count i = 0 := by
  simp [count, empty]

theorem getElem?_eq_count (t : Tally) (i : Nat) :
    t.bins[i]? = if t.count i = 0 then none else some (t.count i) := by
  unfold count
  cases h : t.bins[i]? with
  | none => simp
  | some c =>
    have := t.pos _ (Std.ExtTreeMap.mem_toList_iff_getElem?_eq_some.2 h)
    simp only [Option.getD_some]
    rw [if_neg (by omega)]

/-- The listed bins are those with a count, each with its count. -/
theorem mem_toList_iff {t : Tally} {i c : Nat} : (i, c) ∈ t.toList ↔ t.count i = c ∧ 0 < c := by
  rw [toList, Std.ExtTreeMap.mem_toList_iff_getElem?_eq_some, getElem?_eq_count]
  split <;> simp <;> omega

/-- The bins are listed in ascending order. -/
theorem sorted (t : Tally) : t.toList.Pairwise fun a b ↦ a.1 < b.1 := by
  have h := Std.ExtTreeMap.ordered_keys_toList (t := t.bins)
  exact h.imp Nat.compare_eq_lt.1

/-- **Tallies with the same counts are equal.** -/
theorem ext {t₁ t₂ : Tally} (h : ∀ i, t₁.count i = t₂.count i) : t₁ = t₂ := by
  have hbins : t₁.bins = t₂.bins := Std.ExtTreeMap.ext_getElem? fun i ↦ by
    rw [getElem?_eq_count, getElem?_eq_count, h]
  cases t₁
  cases t₂
  simpa using hbins

end Tally

end Telemetry.Hdr
