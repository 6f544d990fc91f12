import Telemetry.Hdr.Basic

/-!
# Written counts

The counts of a histogram are written as a header of forty bytes and a list of numbers.

| bytes | what they hold |
|---|---|
| 4 | the cookie `1c849313` |
| 4 | how many bytes follow the header |
| 4 | zero |
| 4 | the significant digits |
| 8 | the lowest discernible value, one |
| 8 | the ceiling |
| 8 | the factor `1.0` as a double |

The numbers are the counts of the bins from the first up to the one that holds the greatest value. A
run of two or more empty bins is one negative number, minus its length (`Payload.numbers`). Each
number is written with its sign folded into the last bit (`Payload.zigzag`) in groups of seven bits,
the lowest first, each but the last marked by its top bit; a ninth byte holds eight bits
(`Payload.group`).

Counts above `2 ^ 63 - 1` have no written form; they are the only thing that can go wrong
(`Payload.encode?`).

This is the inflated form. On the wire it stands compressed behind a header of its own, with the
cookie `1c849314` and the length of the compressed bytes. That wrapper is left out here: it says
nothing about the counts, and whoever reads a payload takes it off first. So a report with payloads
is not as long here as it is on the wire.

`Payload.decode?` reads the form back.
-/

namespace Telemetry.Hdr.Payload

/-- The largest count that can be written. -/
def maxCount : Nat :=
  Nat.pow 2 63 - 1

/-- A number of bytes holding a natural number, the highest byte first. -/
def bigEndian : Nat → Nat → List UInt8
  | 0, _ => []
  | k + 1, n => (n / Nat.pow 256 k).toUInt8 :: bigEndian k n

/-- The number that bytes hold, the highest byte first. -/
def ofBigEndian (bytes : List UInt8) : Nat :=
  bytes.foldl (fun n b ↦ n * 256 + b.toNat) 0

/-- An integer as a natural number, its sign in the last bit. -/
def zigzag (n : Int) : Nat :=
  if 0 ≤ n then 2 * n.toNat else 2 * (-n).toNat - 1

/-- The integer behind a natural number with the sign in the last bit. -/
def unzigzag (n : Nat) : Int :=
  if n % 2 = 0 then (n / 2 : Nat) else -((n + 1) / 2 : Nat)

/-- A number in groups of seven bits, `left` more of which may follow the first; the one after these
holds eight bits. -/
def groupFrom : Nat → Nat → List UInt8
  | 0, n => [n.toUInt8]
  | left + 1, n =>
    if n < 128 then [n.toUInt8] else (n % 128 + 128).toUInt8 :: groupFrom left (n / 128)

/-- A word in at most nine bytes. -/
def group (n : Nat) : List UInt8 :=
  groupFrom 8 n

/-- Reads groups back: the number and the bytes behind it. -/
def ungroupFrom : Nat → List UInt8 → Option (Nat × List UInt8)
  | _, [] => none
  | 0, b :: rest => some (b.toNat, rest)
  | left + 1, b :: rest =>
    if b.toNat < 128 then some (b.toNat, rest)
    else (ungroupFrom left rest).map fun r ↦ (b.toNat - 128 + 128 * r.1, r.2)

/-- Reads a word of at most nine bytes. -/
def ungroup (bytes : List UInt8) : Option (Nat × List UInt8) :=
  ungroupFrom 8 bytes

/-- How a run of empty bins is noted. -/
def gap : Nat → List Int
  | 0 => []
  | 1 => [0]
  | n + 2 => [-((n + 2 : Nat) : Int)]

/-- The numbers for the bins from `next` on, of which the listed ones are not empty. -/
def numbersFrom (next : Nat) : List (Nat × Nat) → List Int
  | [] => []
  | (i, c) :: rest => gap (i - next) ++ (c : Int) :: numbersFrom (i + 1) rest

/-- The numbers for the bins up to the last one with a count, or for the first bin if there is no
such. -/
def numbers (t : Tally) : List Int :=
  match t.toList with
  | [] => gap 1
  | bins => numbersFrom 0 bins

/-- The bytes behind the header. -/
def body (h : Hdr) : List UInt8 :=
  (numbers h.counts).flatMap fun n ↦ group (zigzag n)

/-- The header of a payload with so many bytes behind it. -/
def header (h : Hdr) (length : Nat) : List UInt8 :=
  bigEndian 4 0x1c849313 ++ bigEndian 4 length ++ bigEndian 4 0 ++ bigEndian 4 h.layout.digits ++
    bigEndian 8 1 ++ bigEndian 8 h.ceiling ++ bigEndian 8 (1.0 : Float).toBits.toNat

/-- Whether every count has a written form. -/
def fits (h : Hdr) : Bool :=
  h.counts.toList.all fun e ↦ e.2 ≤ maxCount

/-- The written form of a histogram, unless a count has none. -/
def encode? (h : Hdr) : Option (List UInt8) :=
  if fits h then some (header h (body h).length ++ body h) else none

/-! ## Reading a payload -/

/-- What a payload says: the digits, the ceiling and the counts of the bins in turn. -/
structure Content where
  digits : Nat
  ceiling : Nat
  counts : List Nat
  deriving DecidableEq, Repr

/-- The counts behind numbers. -/
def countsOf : List Int → List Nat
  | [] => []
  | n :: rest => (if 0 ≤ n then [n.toNat] else List.replicate (-n).toNat 0) ++ countsOf rest

/-- Reads numbers until the bytes end, of which there are at most `fuel`. -/
def readNumbers : Nat → List UInt8 → Option (List Int)
  | _, [] => some []
  | 0, _ => none
  | fuel + 1, bytes =>
    match ungroup bytes with
    | none => none
    | some (n, rest) => (readNumbers fuel rest).map (unzigzag n :: ·)

/-- The content of a payload, if its parts are what they should be. -/
def decode? (bytes : List UInt8) : Option Content :=
  let field (start size : Nat) : Nat := ofBigEndian ((bytes.drop start).take size)
  let rest := bytes.drop 40
  if bytes.length < 40 ∨ field 0 4 ≠ 0x1c849313 ∨ field 4 4 ≠ rest.length ∨ field 8 4 ≠ 0 ∨
      field 16 8 ≠ 1 ∨ field 32 8 ≠ (1.0 : Float).toBits.toNat then none
  else
    (readNumbers rest.length rest).map fun ns ↦
      { digits := field 12 4, ceiling := field 24 8, counts := countsOf ns }

end Telemetry.Hdr.Payload
