import Telemetry.Samples

/-!
# Sliding windows

A `Window` keeps the most recent values, as many as its size says and at least one. A new value
pushes the oldest out when the window is full.
-/

namespace Telemetry

/-- The most recent values, oldest first. -/
structure Window where
  size : Nat
  values : List UInt64 := []
  size_pos : 0 < size
  length_le : values.length ≤ size := by simp

namespace Window

/-- An empty window for a number of values; for zero it keeps one. -/
def ofSize (n : Nat) : Window where
  size := max 1 n
  size_pos := Nat.le_max_left 1 n
  length_le := Nat.zero_le _

/-- The window with a value added, the oldest one gone if there was no room. -/
def update (w : Window) (v : UInt64) : Window where
  size := w.size
  values := (if w.size ≤ w.values.length then w.values.drop 1 else w.values) ++ [v]
  size_pos := w.size_pos
  length_le := by
    have h₁ := w.size_pos
    have h₂ := w.length_le
    split <;> simp <;> omega

/-- The values in ascending order. -/
def read (w : Window) : Samples :=
  .ofList w.values

end Window

end Telemetry
