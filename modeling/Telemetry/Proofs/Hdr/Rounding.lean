import Mathlib.Tactic
import Telemetry.Proofs.Hdr.Layout

/-!
# Values rounded to their bins

A histogram does not show its extremes as they came in. The greatest value is shown as the highest
value of its bin (`Layout.roundUp`), the least positive one as the lowest (`Layout.roundDown`),
except that zero and the largest word are shown as they are. Rounding keeps a value in its bin, is
idempotent, and goes with the order, so it may be done before or after taking a maximum.
-/

namespace Telemetry.Hdr.Layout

variable (l : Layout)

/-- A value as the greatest one of a histogram is shown. -/
def roundUp (v : Nat) : Nat :=
  if v = 0 then 0 else if v = maxWord then maxWord else l.highest (l.index v)

/-- A value as the least positive one of a histogram is shown. -/
def roundDown (v : Nat) : Nat :=
  if v = maxWord then maxWord else l.lowest (l.index v)

variable {l} {v w : Nat}

@[simp] theorem roundUp_zero : l.roundUp 0 = 0 := rfl

@[simp] theorem roundUp_maxWord : l.roundUp maxWord = maxWord := rfl

@[simp] theorem roundDown_maxWord : l.roundDown maxWord = maxWord := rfl

/-- Between zero and the largest word, rounding up leads to the end of the bin. -/
theorem roundUp_of_ne (h₀ : v ≠ 0) (hw : v ≠ maxWord) : l.roundUp v = l.highest (l.index v) := by
  rw [roundUp, if_neg h₀, if_neg hw]

/-- Below the largest word, rounding down leads to the start of the bin. -/
theorem roundDown_of_ne (hw : v ≠ maxWord) : l.roundDown v = l.lowest (l.index v) :=
  if_neg hw

/-- A greatest value is shown as it is, or as the end of its bin. -/
theorem roundUp_cases (v : Nat) :
    l.roundUp v = v ∧ (v = 0 ∨ v = maxWord) ∨
      v ≠ 0 ∧ v ≠ maxWord ∧ l.roundUp v = l.highest (l.index v) := by
  rcases eq_or_ne v 0 with rfl | h₀
  · exact .inl ⟨roundUp_zero, .inl rfl⟩
  · rcases eq_or_ne v maxWord with rfl | hw
    · exact .inl ⟨roundUp_maxWord, .inr rfl⟩
    · exact .inr ⟨h₀, hw, roundUp_of_ne h₀ hw⟩

/-- A least value is shown as it is, or as the beginning of its bin. -/
theorem roundDown_cases (v : Nat) :
    l.roundDown v = v ∧ v = maxWord ∨ v ≠ maxWord ∧ l.roundDown v = l.lowest (l.index v) := by
  rcases eq_or_ne v maxWord with rfl | hw
  · exact .inl ⟨roundDown_maxWord, rfl⟩
  · exact .inr ⟨hw, roundDown_of_ne hw⟩

theorem le_roundUp (hv : v ≤ maxWord) : v ≤ l.roundUp v := by
  rcases l.roundUp_cases v with ⟨hr, -⟩ | ⟨-, hw, hr⟩ <;> rw [hr]
  exact l.le_highest_index (by omega)

theorem roundUp_le (v : Nat) : l.roundUp v ≤ maxWord := by
  have := l.highest_lt (l.index v)
  rcases l.roundUp_cases v with ⟨hr, h⟩ | ⟨-, -, hr⟩ <;> omega

/-- No other word is rounded up to the largest one. -/
theorem roundUp_lt (hv : v < maxWord) : l.roundUp v < maxWord := by
  have := l.highest_lt (l.index v)
  rcases l.roundUp_cases v with ⟨hr, -⟩ | ⟨-, -, hr⟩ <;> omega

theorem roundDown_le (v : Nat) : l.roundDown v ≤ v := by
  have := l.lowest_index_le v
  rcases l.roundDown_cases v with ⟨hr, -⟩ | ⟨-, hr⟩ <;> omega

theorem index_roundUp (hv : v ≤ maxWord) : l.index (l.roundUp v) = l.index v := by
  rcases l.roundUp_cases v with ⟨hr, -⟩ | ⟨-, -, hr⟩ <;> rw [hr]
  exact l.index_highest (l.index_lt_end hv)

theorem index_roundDown (v : Nat) : l.index (l.roundDown v) = l.index v := by
  rcases l.roundDown_cases v with ⟨hr, -⟩ | ⟨-, hr⟩ <;> rw [hr]
  exact l.index_lowest _

/-- Rounding up twice is rounding up once. -/
theorem roundUp_roundUp (hv : v ≤ maxWord) : l.roundUp (l.roundUp v) = l.roundUp v := by
  rcases l.roundUp_cases v with ⟨hr, -⟩ | ⟨h₀, hw, hr⟩
  · rw [hr, hr]
  · have hle := le_roundUp (l := l) hv
    have hlt := roundUp_lt (l := l) (Nat.lt_of_le_of_ne hv hw)
    rw [roundUp_of_ne (by omega) (by omega), index_roundUp hv, hr]

/-- Rounding down twice is rounding down once. -/
theorem roundDown_roundDown (hv : v ≤ maxWord) : l.roundDown (l.roundDown v) = l.roundDown v := by
  rcases l.roundDown_cases v with ⟨hr, -⟩ | ⟨hw, hr⟩
  · rw [hr, hr]
  · have hle := roundDown_le (l := l) v
    rw [roundDown_of_ne (by omega), index_roundDown, hr]

/-- Rounding up keeps the order of words. -/
theorem roundUp_mono (h : v ≤ w) (hw : w ≤ maxWord) : l.roundUp v ≤ l.roundUp w := by
  have hle := le_roundUp (l := l) hw
  have hhighest := l.highest_mono (l.index_mono h)
  rcases l.roundUp_cases v with ⟨hr, -⟩ | ⟨h₀, hv, hr⟩
  · omega
  · rcases l.roundUp_cases w with ⟨hr', hw'⟩ | ⟨-, -, hr'⟩
    · have hbound := roundUp_le (l := l) v
      omega
    · omega

/-- Rounding down keeps the order of words. -/
theorem roundDown_mono (h : v ≤ w) (hw : w ≤ maxWord) : l.roundDown v ≤ l.roundDown w := by
  have hle := roundDown_le (l := l) v
  have hlowest := l.lowest_strictMono.monotone (l.index_mono h)
  rcases l.roundDown_cases w with ⟨hr, -⟩ | ⟨hw', hr⟩
  · omega
  · rw [hr, roundDown_of_ne (by omega)]
    exact hlowest

/-- The greatest of words is rounded up to the greatest of what they are rounded up to. -/
theorem roundUp_max (hv : v ≤ maxWord) (hw : w ≤ maxWord) :
    l.roundUp (max v w) = max (l.roundUp v) (l.roundUp w) := by
  rcases le_total v w with h | h
  · rw [max_eq_right h, max_eq_right (roundUp_mono h hw)]
  · rw [max_eq_left h, max_eq_left (roundUp_mono h hv)]

/-- The least of words is rounded down to the least of what they are rounded down to. -/
theorem roundDown_min (hv : v ≤ maxWord) (hw : w ≤ maxWord) :
    l.roundDown (min v w) = min (l.roundDown v) (l.roundDown w) := by
  rcases le_total v w with h | h
  · rw [min_eq_left h, min_eq_left (roundDown_mono h hw)]
  · rw [min_eq_right h, min_eq_right (roundDown_mono h hv)]

theorem index_max (v w : Nat) : l.index (max v w) = max (l.index v) (l.index w) :=
  Monotone.map_max fun _ _ h ↦ l.index_mono h

theorem index_min (v w : Nat) : l.index (min v w) = min (l.index v) (l.index w) :=
  Monotone.map_min fun _ _ h ↦ l.index_mono h

end Telemetry.Hdr.Layout
