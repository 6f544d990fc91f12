/-!
# Counters

A counter is a word that events are added to. It wraps around at `2 ^ 64`.
-/

namespace Telemetry

/-- A number of events. -/
structure Counter where
  count : UInt64 := 0
  deriving DecidableEq, Repr, Inhabited

namespace Counter

/-- The counter with `n` events more. -/
def add (c : Counter) (n : UInt64) : Counter :=
  ⟨c.count + n⟩

/-- The counter with one event more. -/
def inc (c : Counter) : Counter :=
  c.add 1

/-- The counter set to a number. -/
def set (_ : Counter) (n : UInt64) : Counter :=
  ⟨n⟩

@[simp] theorem count_add (c : Counter) (n : UInt64) : (c.add n).count = c.count + n := rfl

@[simp] theorem count_inc (c : Counter) : c.inc.count = c.count + 1 := rfl

end Counter

end Telemetry
