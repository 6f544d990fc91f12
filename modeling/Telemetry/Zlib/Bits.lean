/-!
# Bits

Compressed data is a row of bits, which fill bytes from the lowest place on. Numbers are written
with the lowest bit first, the words of a code with the highest.
-/

namespace Telemetry.Zlib

/-- Bytes written so far, and the bits of the byte begun. -/
structure BitWriter where
  bytes : Array UInt8 := #[]
  pending : Nat := 0
  count : Nat := 0

namespace BitWriter

/-- The number of bits written. -/
def size (w : BitWriter) : Nat :=
  w.bytes.size * 8 + w.count

/-- The byte begun, without those before it. -/
def begun (w : BitWriter) : BitWriter :=
  { w with bytes := #[] }

/-- What was written further on from the byte begun. -/
def append (w further : BitWriter) : BitWriter :=
  { further with bytes := w.bytes ++ further.bytes }

/-- The bytes that are full. -/
def flush (w : BitWriter) : Nat → BitWriter
  | 0 => w
  | n + 1 =>
    if 8 ≤ w.count then
      flush ⟨w.bytes.push w.pending.toUInt8, w.pending / 256, w.count - 8⟩ n
    else w

/-- Writes a number with a width, the lowest bit first. -/
def put (w : BitWriter) (n width : Nat) : BitWriter :=
  flush ⟨w.bytes, w.pending + n * Nat.pow 2 w.count, w.count + width⟩ 4

/-- The lowest bits of a number in reverse. -/
def reverseBits (n : Nat) : Nat → Nat
  | 0 => 0
  | width + 1 => n % 2 * Nat.pow 2 width + reverseBits (n / 2) width

/-- Fills the last byte up with zeros. -/
def align (w : BitWriter) : BitWriter :=
  if w.count = 0 then w else ⟨w.bytes.push w.pending.toUInt8, 0, 0⟩

end BitWriter

/-- Bytes and the number of bits read of them. -/
structure BitReader where
  bytes : Array UInt8
  position : Nat := 0

namespace BitReader

/-- Reads a bit. -/
def bit? (r : BitReader) : Option (Nat × BitReader) :=
  (r.bytes[r.position / 8]?).map fun b ↦
    (b.toNat / Nat.pow 2 (r.position % 8) % 2, { r with position := r.position + 1 })

/-- Reads a number with a width, the lowest bit first. -/
def number? (r : BitReader) : Nat → Option (Nat × BitReader)
  | 0 => some (0, r)
  | width + 1 => do
    let (b, r) ← r.bit?
    let (n, r) ← number? r width
    return (b + 2 * n, r)

end BitReader

end Telemetry.Zlib
