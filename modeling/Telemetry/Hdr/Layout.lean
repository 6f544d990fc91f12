import Telemetry.Word

/-!
# The bins of a histogram of high dynamic range

Values below `2 * 10 ^ digits` have a bin each. Above that the bins grow with the values: the range
is cut at the powers of two, and each stretch between two of them has the same number of bins, as
many as keep two values of one bin within one unit of the last significant digit of each other.

With `half` the number of bins of such a stretch, the bin of a value is a closed formula:

```
exponent v = the number of bits of v beyond those that `2 * half` bins can tell apart
index v    = exponent v * half + v / 2 ^ exponent v
```

and the values of bin `i` are `width i` many numbers from `lowest i` on.

**The last bin** would end at `2 ^ 64`, of which the last number but one is `2 ^ 64 - 2`: bounds
stop at the largest word before one is taken off. So `highest` of that bin is one short of the
largest word, which is a value of the bin all the same.
-/

namespace Telemetry

namespace Hdr

/-- How finely values are told apart: a number of significant decimal digits. -/
structure Layout where
  digits : Nat
  digits_le : digits ≤ 5 := by decide
  deriving DecidableEq, Repr

namespace Layout

/-- The number of bits whose values have a bin each. -/
def unitBits (l : Layout) : Nat :=
  (2 * Nat.pow 10 l.digits - 1).log2 + 1

/-- The number of bins between two powers of two. -/
def half (l : Layout) : Nat :=
  Nat.pow 2 (l.unitBits - 1)

/-- The logarithm of the width of the bin that holds a value. -/
def exponent (l : Layout) (v : Nat) : Nat :=
  v.log2 + 1 - l.unitBits

/-- The bin that holds a value. -/
def index (l : Layout) (v : Nat) : Nat :=
  l.exponent v * l.half + v / Nat.pow 2 (l.exponent v)

/-- The logarithm of the width of a bin. -/
def binExponent (l : Layout) (i : Nat) : Nat :=
  i / l.half - 1

/-- The number of values of a bin. -/
def width (l : Layout) (i : Nat) : Nat :=
  Nat.pow 2 (l.binExponent i)

/-- The lowest value of a bin. -/
def lowest (l : Layout) (i : Nat) : Nat :=
  (i - l.binExponent i * l.half) * l.width i

/-- The highest value of a bin, except that the last bin stops one short of the largest word. -/
def highest (l : Layout) (i : Nat) : Nat :=
  min (l.lowest i + l.width i) maxWord - 1

/-- The value in the middle of a bin. -/
def median (l : Layout) (i : Nat) : Nat :=
  l.lowest i + l.width i / 2

/-- The number of stretches of bins needed to hold a value. -/
def stretches (l : Layout) (v : Nat) : Nat :=
  l.exponent v + 1

/-- The last bin of a number of stretches. -/
def lastIndex (l : Layout) (stretches : Nat) : Nat :=
  (stretches + 1) * l.half - 1

theorem half_pos (l : Layout) : 0 < l.half :=
  Nat.two_pow_pos _

end Layout

end Hdr

end Telemetry
