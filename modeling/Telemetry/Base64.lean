/-!
# Bytes as printable text

Three bytes are written as four digits of a base of sixty-four, and equals signs fill up the last
group. `Base64.encode` writes bytes in this form.

`Base64.decode?` reads it strictly: every character must be a digit of the alphabet, the filling
must be there, and the bits it hides must be zero.
-/

namespace Telemetry.Base64

/-- The digit of a value. -/
def digit (n : Nat) : Char :=
  if n < 26 then Char.ofNat (n + 'A'.toNat)
  else if n < 52 then Char.ofNat (n - 26 + 'a'.toNat)
  else if n < 62 then Char.ofNat (n - 52 + '0'.toNat)
  else if n = 62 then '+'
  else '/'

/-- The value of a digit. -/
def value? (c : Char) : Option Nat :=
  if 'A' ≤ c ∧ c ≤ 'Z' then some (c.toNat - 'A'.toNat)
  else if 'a' ≤ c ∧ c ≤ 'z' then some (c.toNat - 'a'.toNat + 26)
  else if '0' ≤ c ∧ c ≤ '9' then some (c.toNat - '0'.toNat + 52)
  else if c = '+' then some 62
  else if c = '/' then some 63
  else none

/-- The characters for bytes. -/
def encodeChars : List UInt8 → List Char
  | a :: b :: c :: rest =>
    digit (a.toNat / 4) :: digit (a.toNat % 4 * 16 + b.toNat / 16) ::
      digit (b.toNat % 16 * 4 + c.toNat / 64) :: digit (c.toNat % 64) :: encodeChars rest
  | [a, b] =>
    [digit (a.toNat / 4), digit (a.toNat % 4 * 16 + b.toNat / 16), digit (b.toNat % 16 * 4), '=']
  | [a] => [digit (a.toNat / 4), digit (a.toNat % 4 * 16), '=', '=']
  | [] => []

/-- Bytes in printable form. -/
def encode (bytes : List UInt8) : String :=
  String.ofList (encodeChars bytes)

/-- The bytes that characters stand for. -/
def decodeChars? : List Char → Option (List UInt8)
  | [] => some []
  | [a, b, '=', '='] => do
    let x ← value? a
    let y ← value? b
    if y % 16 = 0 then some [(x * 4 + y / 16).toUInt8] else none
  | [a, b, c, '='] => do
    let x ← value? a
    let y ← value? b
    let z ← value? c
    if z % 4 = 0 then some [(x * 4 + y / 16).toUInt8, (y % 16 * 16 + z / 4).toUInt8] else none
  | a :: b :: c :: d :: rest => do
    let x ← value? a
    let y ← value? b
    let z ← value? c
    let w ← value? d
    return (x * 4 + y / 16).toUInt8 :: (y % 16 * 16 + z / 4).toUInt8 ::
      (z % 4 * 64 + w).toUInt8 :: (← decodeChars? rest)
  | _ => none

/-- The bytes behind a printable form. -/
def decode? (s : String) : Option (List UInt8) :=
  decodeChars? s.toList

end Telemetry.Base64
