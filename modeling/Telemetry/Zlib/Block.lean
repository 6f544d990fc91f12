import Telemetry.Zlib.Codes

/-!
# Blocks

Data is cut into blocks of so many tokens. A block has one of three forms:

* its bytes as they are, with their number in front;
* its tokens, in the fixed codes;
* its tokens, in the codes that suit them best, with these codes in front.

`blocks` writes each block in the shortest form, and `readBlocks?` reads all of them.
-/

namespace Telemetry.Zlib

/-- Writes what every block begins with: whether it is the last, and its form. -/
def putHead (w : BitWriter) (isLast : Bool) (form : Nat) : BitWriter :=
  (w.put isLast.toNat 1).put form 2

/-- A block of bytes as they are. -/
def storedBlock (w : BitWriter) (isLast : Bool) (bytes : Array UInt8) : BitWriter :=
  let w := (putHead w isLast 0).align
  let w := (w.put bytes.size 16).put (65535 - bytes.size) 16
  { w with bytes := w.bytes ++ bytes }

/-- A block of tokens in the fixed codes. -/
def fixedBlock (w : BitWriter) (isLast : Bool) (ts : Array Token) : BitWriter :=
  Codes.fixed.putTokens (putHead w isLast 1) ts

/-- A block of tokens in the codes that suit them best. -/
def fittedBlock (w : BitWriter) (isLast : Bool) (ts : Array Token) : BitWriter :=
  let (main, distances) := Codes.bestLengths ts
  let w := Codes.putLengths (putHead w isLast 2) main distances
  Codes.putTokens ⟨.ofLengths main, .ofLengths distances⟩ w ts

/-- Of two ways to go on the shorter one, the first of equals. -/
def shorter (a b : BitWriter) : BitWriter :=
  if b.size < a.size then b else a

/-- A block of tokens in the shortest form. -/
def shortestBlock (w : BitWriter) (isLast : Bool) (ts : Array Token) (bytes : Array UInt8) :
    BitWriter :=
  let begun := w.begun
  let coded := shorter (fixedBlock begun isLast ts) (fittedBlock begun isLast ts)
  w.append (if bytes.size ≤ 65535 then shorter coded (storedBlock begun isLast bytes) else coded)

/-- The number of tokens of a block. -/
def blockSize : Nat :=
  16383

/-- Writes the tokens for the bytes from a place on, in so many blocks and one more. -/
def putBlocks (data : Array UInt8) (ts : Array Token) : Nat → Nat → Nat → BitWriter → BitWriter
  | 0, i, start, w =>
    shortestBlock w true (ts.extract i ts.size) (data.extract start data.size)
  | n + 1, i, start, w =>
    let block := ts.extract i (i + blockSize)
    let stop := block.foldl (fun sum t ↦ sum + t.length) start
    putBlocks data ts n (i + blockSize) stop
      (shortestBlock w false block (data.extract start stop))

/-- Bytes in blocks. -/
def blocks (data : List UInt8) : Array UInt8 :=
  let data := data.toArray
  let ts := tokens data
  (putBlocks data ts ((ts.size - 1) / blockSize) 0 0 {}).align.bytes

/-- Reads bytes as they are. -/
def readStored? (r : BitReader) (out : Array UInt8) : Option (Array UInt8 × BitReader) := do
  let r := { r with position := (r.position + 7) / 8 * 8 }
  let (n, r) ← r.number? 16
  let (_, r) ← r.number? 16
  let start := r.position / 8
  if start + n ≤ r.bytes.size then
    some (out ++ r.bytes.extract start (start + n), { r with position := (start + n) * 8 })
  else none

/-- Reads blocks up to the last one: the bytes, and where the next byte stands. -/
def readBlocks? : Nat → BitReader → Array UInt8 → Option (Array UInt8 × Nat)
  | 0, _, _ => none
  | fuel + 1, r, out => do
    let (isLast, r) ← r.number? 1
    let (form, r) ← r.number? 2
    let limit := r.bytes.size * 8
    let (out, r) ←
      match form with
      | 0 => readStored? r out
      | 1 => Codes.fixed.readTokens? limit r out
      | 2 => do
        let (codes, r) ← Codes.readCodes? r
        codes.readTokens? limit r out
      | _ => none
    if isLast = 1 then some (out, (r.position + 7) / 8) else readBlocks? fuel r out

end Telemetry.Zlib
