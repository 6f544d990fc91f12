import Telemetry.Zlib.Block

/-!
# Compressed bytes

A compressed stream is a header of two bytes, the blocks, and a checksum of the bytes that they
describe, the highest byte first. The header tells the method and that no effort was spared.

The same bytes have many streams, of different lengths, and who reads them cannot tell which
program wrote one. Which of them `compress` writes depends on the repetitions that `tokens` finds,
so nothing should be made of the length of a stream.

`decompress?` reads what `compress` writes, and compares the checksum.
-/

namespace Telemetry.Zlib

/-- The two sums of a checksum after one more byte: of the bytes, and of the first sums. -/
def adlerStep (sums : Nat × Nat) (b : UInt8) : Nat × Nat :=
  let a := (sums.1 + b.toNat) % 65521
  (a, (sums.2 + a) % 65521)

/-- The checksum of bytes. -/
def adler32 (data : List UInt8) : Nat :=
  let sums := data.foldl adlerStep (1, 0)
  sums.2 * 65536 + sums.1

/-- The header. -/
def header : List UInt8 :=
  [0x78, 0xDA]

/-- A checksum as four bytes. -/
def checksumBytes (n : Nat) : List UInt8 :=
  [(n / 16777216).toUInt8, (n / 65536).toUInt8, (n / 256).toUInt8, n.toUInt8]

/-- The compressed form of bytes. -/
def compress (data : List UInt8) : List UInt8 :=
  header ++ (blocks data).toList ++ checksumBytes (adler32 data)

/-- The bytes behind a compressed form. -/
def decompress? (stream : List UInt8) : Option (List UInt8) := do
  if stream.take 2 ≠ header then none
  else
    let body := (stream.drop 2).toArray
    let (out, position) ← readBlocks? (body.size + 1) ⟨body, 0⟩ #[]
    let data := out.toList
    if stream.drop (2 + position) = checksumBytes (adler32 data) then some data else none

end Telemetry.Zlib
