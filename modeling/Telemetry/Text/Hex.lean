/-!
# Hexadecimal digits

Code points, bytes and pieces of addresses are written in hexadecimal digits, of either case.
-/

namespace Telemetry.Text

/-- The value of a hexadecimal digit. -/
def hexValue? (c : Char) : Option Nat :=
  if c.isDigit then some (c.toNat - '0'.toNat)
  else if 'a' ≤ c ∧ c ≤ 'f' then some (c.toNat - 'a'.toNat + 10)
  else if 'A' ≤ c ∧ c ≤ 'F' then some (c.toNat - 'A'.toNat + 10)
  else none

/-- The number that the digits in front of other characters stand for, and those characters. -/
def readHex (n : Nat) : List Char → Nat × List Char
  | [] => (n, [])
  | c :: rest =>
    match hexValue? c with
    | some d => readHex (n * 16 + d) rest
    | none => (n, c :: rest)

end Telemetry.Text
