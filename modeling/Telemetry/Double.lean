/-!
# Doubles by their bits

A report carries floating point numbers as eight bytes, and what is read from it is written again
bit for bit, also where the bits stand for no number. A `Double` is such bits. Calculations are done
on `Float`, which knows only one kind of not-a-number.
-/

namespace Telemetry

/-- The bits of a floating point number of double width. -/
structure Double where
  bits : UInt64 := 0
  deriving DecidableEq, Repr, Inhabited

namespace Double

/-- The bits of a calculated number. -/
def ofFloat (x : Float) : Double :=
  ⟨x.toBits⟩

/-- The number that bits of single width stand for. What stands for no number keeps its sign and
its fraction, and is marked as quiet. -/
def ofSingle (bits : UInt32) : Double :=
  let sign : UInt64 := (bits >>> 31).toUInt64 <<< 63
  let fraction : UInt64 := (bits &&& 0x7fffff).toUInt64 <<< 29
  if bits &&& 0x7f800000 == 0x7f800000 && fraction != 0 then
    ⟨sign ||| 0x7ff8000000000000 ||| fraction⟩
  else ofFloat (Float32.ofBits bits).toFloat

/-- The number that the bits stand for. -/
def toFloat (d : Double) : Float :=
  .ofBits d.bits

/-- The bits of the exponent. -/
def biasedExponent (d : Double) : Nat :=
  d.bits.toNat / Nat.pow 2 52 % Nat.pow 2 11

/-- The bits of the fraction. -/
def fraction (d : Double) : Nat :=
  d.bits.toNat % Nat.pow 2 52

/-- Whether the sign is a minus. -/
def isNegative (d : Double) : Bool :=
  Nat.pow 2 63 ≤ d.bits.toNat

/-- Whether the bits stand for no number. -/
def isNaN (d : Double) : Bool :=
  d.biasedExponent == 2047 && d.fraction != 0

/-- Whether the bits stand for an infinity. -/
def isInfinite (d : Double) : Bool :=
  d.biasedExponent == 2047 && d.fraction == 0

/-- Whether the bits stand for zero, of either sign. -/
def isZero (d : Double) : Bool :=
  d.bits == 0 || d.bits == 0x8000000000000000

/-- The number without the sign of a zero. -/
def unsignedZero (d : Double) : Double :=
  if d.isZero then ⟨0⟩ else d

end Double

end Telemetry
