/-!
# Words of variable length

A word is written in groups of seven bits, the lowest first; the top bit of a byte says that another
one follows. `Varint.write` writes no more bytes than needed, at most ten.

`Varint.read?` takes any such sequence of at most ten bytes, needed or not. The tenth byte has room
for one bit only, and a larger one is refused.
-/

namespace Telemetry.Wire.Varint

/-- The bytes of a natural number. -/
def writeNat (n : Nat) : List UInt8 :=
  if n < 128 then [n.toUInt8] else (n % 128 + 128).toUInt8 :: writeNat (n / 128)
termination_by n
decreasing_by omega

/-- The bytes of a word. -/
def write (n : UInt64) : List UInt8 :=
  writeNat n.toNat

/-- Reads a number of which `left` bytes may follow the first: the number and the bytes behind. -/
def readNat? : Nat → List UInt8 → Option (Nat × List UInt8)
  | _, [] => none
  | 0, b :: rest => if b.toNat < 2 then some (b.toNat, rest) else none
  | left + 1, b :: rest =>
    if b.toNat < 128 then some (b.toNat, rest)
    else (readNat? left rest).map fun r ↦ (b.toNat - 128 + 128 * r.1, r.2)

/-- Reads a word: the word and the bytes behind it. -/
def read? (bytes : List UInt8) : Option (UInt64 × List UInt8) :=
  (readNat? 9 bytes).map fun r ↦ (r.1.toUInt64, r.2)

/-- **A number is read back from its groups**, and what follows them is left, if as many groups may
be read as it has. The induction is on the groups that may still follow: each takes seven bits off
the number. -/
theorem readNat?_writeNat (left n : Nat) (h : n < Nat.pow 2 (7 * left + 1)) (rest : List UInt8) :
    readNat? left (writeNat n ++ rest) = some (n, rest) := by
  induction left generalizing n with
  | zero =>
    have h2 : n < 2 := by simpa using h
    rw [writeNat, if_pos (by omega)]
    simp only [List.cons_append, List.nil_append, readNat?]
    have hn : n.toUInt8.toNat = n := by
      show n % 256 = n
      omega
    rw [hn, if_pos h2]
  | succ left ih =>
    rw [writeNat]
    split
    · next hn =>
      have hn' : n.toUInt8.toNat = n := by
        show n % 256 = n
        omega
      simp [readNat?, hn', hn]
    · next hn =>
      have hb : (n % 128 + 128).toUInt8.toNat = n % 128 + 128 := by
        show (n % 128 + 128) % 256 = _
        omega
      have hq : n / 128 < Nat.pow 2 (7 * left + 1) := by
        rw [Nat.div_lt_iff_lt_mul (by decide)]
        have : Nat.pow 2 (7 * (left + 1) + 1) = Nat.pow 2 (7 * left + 1) * 128 := by
          rw [show 7 * (left + 1) + 1 = 7 * left + 1 + 7 by omega]
          exact Nat.pow_add 2 (7 * left + 1) 7
        omega
      simp only [List.cons_append, readNat?, hb]
      rw [if_neg (by omega), ih _ hq]
      simp only [Option.map_some, Option.some.injEq, Prod.mk.injEq, and_true]
      omega

/-- **What is written is read back**, whatever follows. -/
theorem read?_write (n : UInt64) (rest : List UInt8) :
    read? (write n ++ rest) = some (n, rest) := by
  have h : n.toNat < Nat.pow 2 (7 * 9 + 1) := n.toNat_lt
  simp only [read?, write, readNat?_writeNat 9 n.toNat h rest, Option.map_some]
  simp

end Telemetry.Wire.Varint
