/-!
# Words

Values, counts and lengths are words of 64 bits. Their arithmetic is done on natural numbers; where
a sum must not leave the range of words it stops at the largest (`addWords`) or begins again at zero
(`addWrapping`).
-/

namespace Telemetry

/-- The largest word. -/
def maxWord : Nat :=
  Nat.pow 2 64 - 1

/-- A sum, as far as a word can tell. -/
def addWords (a b : Nat) : Nat :=
  min (a + b) maxWord

/-- A sum that begins again at zero behind the largest word. -/
def addWrapping (a b : Nat) : Nat :=
  (a + b) % (maxWord + 1)

/-- A word as a floating point number, rounded to nearest. -/
def wordFloat (n : Nat) : Float :=
  n.toUInt64.toFloat

/-- The integer part of a floating point number as a word: zero for negative numbers and for what is
not a number, the largest word for what is too large. -/
def floorWord (x : Float) : Nat :=
  x.toUInt64.toNat

end Telemetry
