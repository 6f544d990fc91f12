import Telemetry.Word

/-!
# Samples in ascending order

A reading of a window holds the values themselves. They are kept sorted, so the least and the
greatest stand at the ends and a quantile is found by its nearest rank: the value at place
`⌈q * n⌉`, counted from one and kept between the first place and the last.
-/

namespace Telemetry

/-- Values in ascending order. -/
structure Samples where
  values : List UInt64
  sorted : values.Pairwise (· ≤ ·)

namespace Samples

/-- The values of a list, sorted. -/
def ofList (values : List UInt64) : Samples where
  values := values.mergeSort fun a b ↦ decide (a ≤ b)
  sorted := by
    have h := @List.pairwise_mergeSort UInt64 (fun a b ↦ decide (a ≤ b))
      (fun a b c h₁ h₂ ↦ by
        simp only [decide_eq_true_eq] at *
        exact UInt64.le_trans h₁ h₂)
      (fun a b ↦ by
        simp only [Bool.or_eq_true, decide_eq_true_eq]
        exact UInt64.le_total a b) values
    exact h.imp fun h ↦ by simpa using h

/-- Sorting loses no value and adds none. -/
theorem ofList_perm (values : List UInt64) : (ofList values).values.Perm values :=
  List.mergeSort_perm _ _

/-- The number of values. -/
def len (s : Samples) : Nat :=
  s.values.length

/-- The least value, zero when there is none. -/
def minValue (s : Samples) : Nat :=
  (s.values.head?.getD 0).toNat

/-- The greatest value, zero when there is none. -/
def maxValue (s : Samples) : Nat :=
  (s.values.getLast?.getD 0).toNat

/-- The mean, zero when there is no value. -/
def mean (s : Samples) : Float :=
  if s.values.isEmpty then 0.0
  else s.values.foldl (fun sum v ↦ sum + v.toFloat) 0.0 / wordFloat s.len

/-- The standard deviation, zero when there is no value. -/
def stdDev (s : Samples) : Float :=
  if s.values.isEmpty then 0.0
  else
    let mean := s.mean
    let squares := s.values.foldl
      (fun sum v ↦
        let d := v.toFloat - mean
        sum + d * d)
      0.0
    (squares / wordFloat s.len).sqrt

/-- A quantile kept between zero and one. What is not a number stays so. -/
def clampQuantile (q : Float) : Float :=
  if q < 0.0 then 0.0 else if q > 1.0 then 1.0 else q

/-- The place of a quantile, counted from one. -/
def rank (s : Samples) (q : Float) : Nat :=
  min s.len (max 1 (floorWord (clampQuantile q * wordFloat s.len).ceil))

/-- The value at the nearest rank of a quantile, zero when there is no value. -/
def valueAt (s : Samples) (q : Float) : Nat :=
  (s.values[s.rank q - 1]?.getD 0).toNat

end Samples

end Telemetry
