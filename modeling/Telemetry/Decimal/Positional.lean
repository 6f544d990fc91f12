import Telemetry.Decimal.Shortest

/-!
# Numbers in positional form

`positional` writes a number with the fewest digits that identify it and no exponent, however large
or small it is: whole numbers have no point, other numbers have a digit before it and no zero at the
end. A minus sign stands before negative numbers, negative zero included.
-/

namespace Telemetry.Decimal

/-- A text of so many zeros. -/
def zeros (n : Nat) : String :=
  String.ofList (List.replicate n '0')

/-- A decimal written out, without an exponent. -/
def positionalText (d : Decimal) : String :=
  let digits := String.ofList (Nat.toDigits 10 d.digits)
  if 0 ≤ d.exponent then digits ++ zeros d.exponent.toNat
  else
    let places := (-d.exponent).toNat
    let padded := (zeros (places + 1 - digits.length) ++ digits).toList
    let whole := padded.take (padded.length - places)
    let fraction := ((padded.drop (padded.length - places)).reverse.dropWhile (· == '0')).reverse
    if fraction.isEmpty then String.ofList whole
    else String.ofList whole ++ "." ++ String.ofList fraction

/-- A number written out, without an exponent. -/
def positional (x : Double) : String :=
  if x.isNaN then "NaN"
  else
    let sign := if x.isNegative then "-" else ""
    if x.isInfinite then sign ++ "inf"
    else if x.isZero then sign ++ "0"
    else sign ++ (shortest (.ofDouble x)).positionalText

end Telemetry.Decimal
