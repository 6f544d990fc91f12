import Telemetry.Text.Hex
import Telemetry.Text.Split
import Telemetry.Url.Error

/-!
# Numeric addresses

An address of the fourth version is up to four numbers between points, each in decimal, octal or
hexadecimal notation; the last number fills all bytes that the others leave. It is shown as four
decimal numbers.

An address of the sixth version is eight pieces of sixteen bits between colons, in hexadecimal. One
run of pieces may be left out, and the last two may be written as an address of the fourth version.
It is shown with the longest run of zero pieces left out, the first of equals, if it is longer than
one piece.
-/

namespace Telemetry.Url

open Text

/-- The number that digits of a base stand for, if they are such digits. -/
def digitsIn? (base : Nat) (cs : List Char) : Option Nat :=
  cs.foldlM
    (fun n c ↦
      match hexValue? c with
      | some d => if d < base then some (n * base + d) else none
      | none => none)
    0

/-- The number that a part of an address stands for, in the notation that it begins with. -/
def ipv4Number? : List Char → Option Nat
  | [] => none
  | '0' :: 'x' :: digits => digitsIn? 16 digits
  | '0' :: 'X' :: digits => digitsIn? 16 digits
  | ['0'] => some 0
  | '0' :: digits => digitsIn? 8 digits
  | digits => digitsIn? 10 digits

/-- The parts between points, without an empty one at the end. -/
def dotted (cs : List Char) : List (List Char) :=
  match (splitAt '.' cs).reverse with
  | [] :: parts => parts.reverse
  | parts => parts.reverse

/-- Whether the last part of a name is a number, so that the name can only be an address. -/
def endsInNumber (cs : List Char) : Bool :=
  match (dotted cs).getLast? with
  | none => false
  | some part =>
    (splitAt '.' cs != [[]]) &&
      ((!part.isEmpty && part.all Char.isDigit) || (ipv4Number? part).isSome)

/-- The address that a name ending in a number stands for. -/
def ipv4? (cs : List Char) : Option Nat := do
  let parts := dotted cs
  if 4 < parts.length then none
  else
    let numbers ← parts.mapM ipv4Number?
    let last ← numbers.getLast?
    let front := numbers.dropLast
    if front.any (255 < ·) || Nat.pow 256 (4 - front.length) ≤ last then none
    else some (last + ((List.range front.length).zip front).foldl
      (fun sum e ↦ sum + e.2 * Nat.pow 256 (3 - e.1)) 0)

/-- An address of the fourth version as text. -/
def showIpv4 (n : Nat) : String :=
  ".".intercalate ((List.range 4).map fun i ↦ toString (n / Nat.pow 256 (3 - i) % 256))

/-- A piece of at most four hexadecimal digits. -/
def piece? (cs : List Char) : Option Nat :=
  if cs.isEmpty || 4 < cs.length then none else digitsIn? 16 cs

/-- The two pieces of an address of the fourth version at the end of one of the sixth: four numbers
without leading zeros. -/
def embedded? (cs : List Char) : Option (List Nat) :=
  let number? (part : List Char) : Option Nat :=
    if part.isEmpty || 3 < part.length || (part.head? == some '0' && 1 < part.length) then none
    else (digitsIn? 10 part).filter (· ≤ 255)
  match (splitAt '.' cs).mapM number? with
  | some [a, b, c, d] => some [a * 256 + b, c * 256 + d]
  | _ => none

/-- The pieces between colons; only the last of them may be an embedded address. -/
def pieces? (isLast : Bool) : List (List Char) → Option (List Nat)
  | [] => some []
  | [part] =>
    if isLast && part.contains '.' then embedded? part else (piece? part).map fun n ↦ [n]
  | part :: rest => do
    let n ← piece? part
    return n :: (← pieces? isLast rest)

/-- The text before and behind the first two colons in a row. -/
def splitAtGap : List Char → Option (List Char × List Char)
  | ':' :: ':' :: rest => some ([], rest)
  | c :: rest => (splitAtGap rest).map fun r ↦ (c :: r.1, r.2)
  | [] => none

/-- The pieces of a text without a gap; there are none in the empty text. -/
def run? (isLast : Bool) (cs : List Char) : Option (List Nat) :=
  if cs.isEmpty then some [] else pieces? isLast (splitAt ':' cs)

/-- The eight pieces of an address of the sixth version. -/
def ipv6? (cs : List Char) : Option (List Nat) := do
  match splitAtGap cs with
  | none =>
    let all ← run? true cs
    if all.length = 8 then some all else none
  | some (front, back) =>
    let front ← run? false front
    let back ← run? true back
    if front.length + back.length < 8 then
      some (front ++ List.replicate (8 - front.length - back.length) 0 ++ back)
    else none

/-- The length of the run of zeros at the front. -/
def zeroRun (pieces : List Nat) : Nat :=
  (pieces.takeWhile (· == 0)).length

/-- The start and the length of the longest run of zeros, the first of equals. -/
def longestZeroRun (pieces : List Nat) : Nat × Nat :=
  (List.range pieces.length).foldl
    (fun best i ↦
      let n := zeroRun (pieces.drop i)
      if best.2 < n then (i, n) else best)
    (0, 0)

/-- An address of the sixth version as text. -/
def showIpv6 (pieces : List Nat) : String :=
  let text (ps : List Nat) : String :=
    ":".intercalate (ps.map fun p ↦ String.ofList (Nat.toDigits 16 p))
  let (start, length) := longestZeroRun pieces
  if length < 2 then text pieces
  else text (pieces.take start) ++ "::" ++ text (pieces.drop (start + length))

end Telemetry.Url
