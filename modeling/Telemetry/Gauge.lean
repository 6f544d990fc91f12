import Telemetry.Decimal.Positional
import Telemetry.Word

/-!
# Gauges

A gauge has a value at any time: a number or a text. Whole numbers are shown as floating point
numbers, rounded to nearest where they are too large to be exact; truth values are shown as words.

A `Gauge` either holds such a value or a size that something else keeps up to date.
-/

namespace Telemetry

/-- What a gauge reads. -/
inductive GaugeValue where
  | number (x : Double)
  | text (s : String)
  deriving DecidableEq, Repr

namespace GaugeValue

instance : Inhabited GaugeValue := ⟨number {}⟩

/-- The value of an unsigned word. -/
def ofWord (n : UInt64) : GaugeValue :=
  number (.ofFloat n.toFloat)

/-- The value of a signed word. -/
def ofSigned (n : Int64) : GaugeValue :=
  number (.ofFloat n.toFloat)

/-- The value of a number of half the width, given by its bits. -/
def ofSingle (bits : UInt32) : GaugeValue :=
  number (.ofSingle bits)

/-- The value of a truth value. -/
def ofBool (b : Bool) : GaugeValue :=
  text (if b then "true" else "false")

/-- The value as text. -/
def display : GaugeValue → String
  | number x => Decimal.positional x
  | text s => s

end GaugeValue

/-- Something that has a value at any time. -/
inductive Gauge where
  /-- A value that was set. -/
  | holding (value : GaugeValue)
  /-- A size that is kept up to date. -/
  | size (n : Nat)
  deriving DecidableEq, Repr

namespace Gauge

instance : Inhabited Gauge := ⟨holding default⟩

/-- What the gauge reads. -/
def value : Gauge → GaugeValue
  | holding v => v
  | size n => .number (.ofFloat (wordFloat n))

end Gauge

end Telemetry
