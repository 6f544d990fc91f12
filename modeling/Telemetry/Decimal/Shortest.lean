import Telemetry.Double

/-!
# The fewest digits that identify a number

A finite floating point number is `m * 2 ^ q`, and the real numbers that round to it form an
interval around it (`Binary.interval`): halfway to the next number above, and halfway to the next
one below, which is half as far away where the mantissa is the least of its binade. The ends belong
to the interval when `m` is even.

`Decimal.shortest` looks for a decimal in that interval on coarser and coarser grids first: of the
multiples of `10 ^ k`, with `k` falling from the place of the leading digit, it tests the two that
enclose the number. The first grid with a hit wins, and of two hits the nearer, or the greater where
both are equally near. All of it is arithmetic on natural numbers: fractions are compared by cross
multiplication.
-/

namespace Telemetry

/-- A positive number `digits * 10 ^ exponent`. -/
structure Decimal where
  digits : Nat
  exponent : Int
  deriving DecidableEq, Repr

/-- A finite number `mantissa * 2 ^ exponent`. -/
structure Binary where
  mantissa : Nat
  exponent : Int
  deriving DecidableEq, Repr

namespace Binary

/-- The magnitude of a finite number. -/
def ofDouble (d : Double) : Binary :=
  if d.biasedExponent = 0 then ⟨d.fraction, -1074⟩
  else ⟨d.fraction + Nat.pow 2 52, (d.biasedExponent : Int) - 1075⟩

/-- Whether the next smaller number is only half as far away as the next greater one. -/
def atBinadeStart (b : Binary) : Bool :=
  b.mantissa == Nat.pow 2 52 && b.exponent > -1074

end Binary

/-- A number, the ends of the interval that rounds to it, and whether the ends belong to it, as
numerators over one denominator. -/
structure Rounding where
  low : Nat
  value : Nat
  high : Nat
  denominator : Nat
  closed : Bool

/-- The numbers that round to a binary one, in quarters of its last place. -/
def Binary.interval (b : Binary) : Rounding :=
  let quarter := b.exponent - 2
  let scale := Nat.pow 2 quarter.toNat
  { low := (4 * b.mantissa - (if b.atBinadeStart then 1 else 2)) * scale
    value := 4 * b.mantissa * scale
    high := (4 * b.mantissa + 2) * scale
    denominator := Nat.pow 2 (-quarter).toNat
    closed := b.mantissa % 2 == 0 }

namespace Rounding

/-- The interval seen in multiples of a power of ten: all numbers divided by it. -/
def inUnits (r : Rounding) (k : Int) : Rounding :=
  let up := Nat.pow 10 (-k).toNat
  { r with
    low := r.low * up
    value := r.value * up
    high := r.high * up
    denominator := r.denominator * Nat.pow 10 k.toNat }

/-- Whether a whole number of units rounds to the number. -/
def holds (r : Rounding) (n : Nat) : Bool :=
  let n := n * r.denominator
  if r.closed then r.low ≤ n && n ≤ r.high else r.low < n && n < r.high

/-- The whole number of units that rounds to the number and is nearest to it, if there is one; the
greater of two that are equally near. -/
def nearest? (r : Rounding) : Option Nat :=
  let below := r.value / r.denominator
  match r.holds below, r.holds (below + 1) with
  | true, false => some below
  | false, true => some (below + 1)
  | false, false => none
  | true, true =>
    some (if 2 * (r.value - below * r.denominator) < r.denominator then below else below + 1)

/-- The first of the units `10 ^ k`, `10 ^ (k - 1)`, … of which a whole number rounds to the number,
and how many of them. -/
def search (r : Rounding) : Nat → Int → Decimal
  | 0, k => ⟨(r.inUnits k).value / (r.inUnits k).denominator, k⟩
  | tries + 1, k =>
    match (r.inUnits k).nearest? with
    | some n => ⟨n, k⟩
    | none => search r tries (k - 1)

/-- The place of the leading digit: the greatest `k` with `10 ^ k` at most the number. -/
def leadingPlace (r : Rounding) : Int :=
  if r.denominator ≤ r.value then
    (((Nat.toDigits 10 (r.value / r.denominator)).length - 1 : Nat) : Int)
  else
    let zeros := (List.range 400).find? fun j ↦ r.denominator ≤ r.value * Nat.pow 10 (j + 1)
    (-(zeros.getD 400 + 1 : Nat) : Int)

end Rounding

/-- The decimal with the fewest digits that rounds to a positive finite number. -/
def Decimal.shortest (b : Binary) : Decimal :=
  b.interval.search 20 b.interval.leadingPlace

end Telemetry
