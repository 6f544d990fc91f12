import Std.Data.HashMap

/-!
# Bytes as literals and repetitions

Compression describes bytes by tokens: a literal byte, or a repetition of bytes that stand a
distance back. `tokens` finds repetitions greedily: wherever the next three bytes occurred before,
at most `maxDistance` back, it repeats as many bytes from the latest such place as agree. `expand`
gives the bytes that tokens describe.
-/

namespace Telemetry.Zlib

/-- A part of a description of bytes. -/
inductive Token where
  | literal (b : UInt8)
  /-- So many bytes from so far back. -/
  | copy (length distance : Nat)
  deriving DecidableEq, Repr

/-- The greatest number of bytes that one token repeats. -/
def maxLength : Nat :=
  258

/-- The greatest distance of a repetition. -/
def maxDistance : Nat :=
  32768

/-- How many bytes from two places on agree, at most `limit`. -/
def agreement (data : Array UInt8) : Nat → Nat → Nat → Nat
  | 0, _, _ => 0
  | limit + 1, i, j =>
    if h : i < data.size ∧ j < data.size then
      if data[i] = data[j] then agreement data limit (i + 1) (j + 1) + 1 else 0
    else 0

/-- The next three bytes as one number. -/
def triple? (data : Array UInt8) (i : Nat) : Option Nat :=
  if h : i + 2 < data.size then
    some (data[i].toNat * 65536 + data[i + 1].toNat * 256 + data[i + 2].toNat)
  else none

/-- The latest places of triples, those from `i` on included. -/
def noteFrom (data : Array UInt8) (i : Nat) (seen : Std.HashMap Nat Nat) : Nat → Std.HashMap Nat Nat
  | 0 => seen
  | n + 1 =>
    match triple? data i with
    | some t => noteFrom data (i + 1) (seen.insert t i) n
    | none => seen

/-- The repetition found at a place, if there is one. -/
def repetition? (data : Array UInt8) (i : Nat) (seen : Std.HashMap Nat Nat) :
    Option (Nat × Nat) := do
  let j ← seen[← triple? data i]?
  let length := agreement data maxLength i j
  if i - j ≤ maxDistance && 3 ≤ length then some (length, i - j) else none

/-- The tokens for the bytes from a place on, behind those found before. -/
def tokensFrom (data : Array UInt8) :
    Nat → Nat → Std.HashMap Nat Nat → Array Token → Array Token
  | 0, _, _, found => found
  | fuel + 1, i, seen, found =>
    if h : i < data.size then
      match repetition? data i seen with
      | some (length, distance) =>
        tokensFrom data fuel (i + length) (noteFrom data i seen length)
          (found.push (.copy length distance))
      | none =>
        tokensFrom data fuel (i + 1) (noteFrom data i seen 1) (found.push (.literal data[i]))
    else found

/-- The tokens for bytes. -/
def tokens (data : Array UInt8) : Array Token :=
  tokensFrom data data.size 0 {} #[]

/-- Bytes with so many of those from so far back repeated. -/
def repeatBytes (out : Array UInt8) (distance : Nat) : Nat → Option (Array UInt8)
  | 0 => some out
  | n + 1 =>
    if h : 0 < distance ∧ distance ≤ out.size then
      repeatBytes (out.push out[out.size - distance]) distance n
    else none

/-- Bytes with those of one more token. -/
def expandOne (out : Array UInt8) : Token → Option (Array UInt8)
  | .literal b => some (out.push b)
  | .copy length distance => repeatBytes out distance length

end Telemetry.Zlib
