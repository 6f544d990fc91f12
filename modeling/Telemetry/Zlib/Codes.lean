import Telemetry.Zlib.PrefixCode
import Telemetry.Zlib.Token

/-!
# Tokens as symbols

Tokens are written as symbols of two codes. In the first, symbols up to 255 are literals, 256 ends a
block, and those above stand for lengths, the exact one being told by extra bits. Distances have a
code of their own, and extra bits likewise.

The codes are fixed once and for all, or they suit the tokens best (`Codes.bestLengths`). Then the
lengths of their words are written in front of the tokens. These are symbols of a third code, in
which runs of equal lengths have symbols of their own (`LengthStep`).
-/

namespace Telemetry.Zlib

/-- For the symbols of a code with extra bits: the first number of each and how many bits it has. -/
def ranges (first : Nat) (extra : List Nat) : List (Nat × Nat) :=
  (extra.foldl (fun (acc : Nat × List (Nat × Nat)) e ↦ (acc.1 + Nat.pow 2 e, (acc.1, e) :: acc.2))
    (first, [])).2.reverse

/-- The lengths from symbol 257 on. The last one has a symbol of its own. -/
def lengthRanges : List (Nat × Nat) :=
  ranges 3 [0, 0, 0, 0, 0, 0, 0, 0, 1, 1, 1, 1, 2, 2, 2, 2, 3, 3, 3, 3, 4, 4, 4, 4, 5, 5, 5, 5]
    ++ [(258, 0)]

/-- The distances from symbol 0 on. -/
def distanceRanges : List (Nat × Nat) :=
  ranges 1 [0, 0, 0, 0, 1, 1, 2, 2, 3, 3, 4, 4, 5, 5, 6, 6, 7, 7, 8, 8, 9, 9, 10, 10, 11, 11, 12,
    12, 13, 13]

/-- The last symbol whose first number does not exceed a number. -/
def symbolFor (table : List (Nat × Nat)) (n : Nat) : Nat :=
  (table.takeWhile fun r ↦ r.1 ≤ n).length - 1

/-- The symbol that ends a block. -/
def endSymbol : Nat :=
  256

/-- The symbol of a literal or length. -/
def Token.symbol : Token → Nat
  | literal b => b.toNat
  | copy length _ => endSymbol + 1 + symbolFor lengthRanges length

/-- The symbol of a distance. -/
def Token.distanceSymbol? : Token → Option Nat
  | literal _ => none
  | copy _ distance => some (symbolFor distanceRanges distance)

/-- The number of bytes that a token stands for. -/
def Token.length : Token → Nat
  | literal _ => 1
  | copy length _ => length

/-- The codes of a block. -/
structure Codes where
  /-- The code of literals and lengths. -/
  main : PrefixCode
  distances : PrefixCode

namespace Codes

/-- The lengths of the words for literals and lengths in the fixed code. -/
def fixedLengths : List Nat :=
  List.replicate 144 8 ++ List.replicate 112 9 ++ List.replicate 24 7 ++ List.replicate 8 8

/-- The fixed codes. -/
def fixed : Codes :=
  ⟨.ofLengths fixedLengths, .ofLengths (List.replicate 32 5)⟩

/-- Writes what a number has beyond the first one of its symbol. -/
def putExtra (w : BitWriter) (table : List (Nat × Nat)) (n : Nat) : BitWriter :=
  match table[symbolFor table n]? with
  | some (first, width) => w.put (n - first) width
  | none => w

/-- Writes a token. -/
def putToken (codes : Codes) (w : BitWriter) (t : Token) : BitWriter :=
  let w := codes.main.put w t.symbol
  match t with
  | .literal _ => w
  | .copy length distance =>
    let w := putExtra w lengthRanges length
    putExtra (codes.distances.put w (symbolFor distanceRanges distance)) distanceRanges distance

/-- Writes tokens and the end of the block. -/
def putTokens (codes : Codes) (w : BitWriter) (ts : Array Token) : BitWriter :=
  codes.main.put (ts.foldl codes.putToken w) endSymbol

/-- Reads a number by its symbol and its extra bits. -/
def readRange? (table : List (Nat × Nat)) (symbol : Nat) (r : BitReader) :
    Option (Nat × BitReader) := do
  let (first, width) ← table[symbol]?
  let (rest, r) ← r.number? width
  return (first + rest, r)

/-- Reads tokens up to the end of the block and adds their bytes. -/
def readTokens? (codes : Codes) :
    Nat → BitReader → Array UInt8 → Option (Array UInt8 × BitReader)
  | 0, _, _ => none
  | fuel + 1, r, out => do
    let (symbol, r) ← codes.main.read? r
    if symbol < endSymbol then readTokens? codes fuel r (out.push symbol.toUInt8)
    else if symbol = endSymbol then some (out, r)
    else
      let (length, r) ← readRange? lengthRanges (symbol - endSymbol - 1) r
      let (symbol, r) ← codes.distances.read? r
      let (distance, r) ← readRange? distanceRanges symbol r
      readTokens? codes fuel r (← expandOne out (.copy length distance))

end Codes

/-! ## The lengths of words as symbols -/

/-- A step in a list of lengths: a symbol, and a number with a width behind it. -/
structure LengthStep where
  symbol : Nat
  extra : Nat := 0
  width : Nat := 0

namespace LengthStep

/-- A run of zeros of the given length. -/
def zeros (n : Nat) : List LengthStep :=
  if n < 3 then List.replicate n ⟨0, 0, 0⟩
  else if n < 11 then [⟨17, n - 3, 3⟩]
  else ⟨18, min n 138 - 11, 7⟩ :: zeros (n - 138)
termination_by n

/-- A length so many times more. -/
def repeats (length n : Nat) : List LengthStep :=
  if n < 3 then List.replicate n ⟨length, 0, 0⟩
  else ⟨16, min n 6 - 3, 2⟩ :: repeats length (n - 6)
termination_by n

/-- The steps of lengths. -/
def ofLengths (lengths : List Nat) : List LengthStep :=
  (lengths.splitBy (· == ·)).flatMap fun run ↦
    match run with
    | [] => []
    | 0 :: _ => zeros run.length
    | length :: more => ⟨length, 0, 0⟩ :: repeats length more.length

/-- The order in which the lengths of the words for steps are written. -/
def order : List Nat :=
  [16, 17, 18, 0, 8, 7, 9, 6, 10, 5, 11, 4, 12, 3, 13, 2, 14, 1, 15]

/-- Reads so many lengths, given those before in reverse. -/
def read? (code : PrefixCode) (needed : Nat) :
    Nat → BitReader → List Nat → Option (List Nat × BitReader)
  | 0, _, _ => none
  | fuel + 1, r, known =>
    if needed < known.length then none
    else if needed = known.length then some (known.reverse, r)
    else do
      let (symbol, r) ← code.read? r
      if symbol < 16 then read? code needed fuel r (symbol :: known)
      else if symbol = 16 then
        let (n, r) ← r.number? 2
        read? code needed fuel r (List.replicate (n + 3) (← known.head?) ++ known)
      else
        let (n, r) ← if symbol = 17 then r.number? 3 else r.number? 7
        read? code needed fuel r (List.replicate (n + if symbol = 17 then 3 else 11) 0 ++ known)

end LengthStep

namespace Codes

/-- How often each of so many symbols occurs. -/
def frequencies (n : Nat) (symbols : Array Nat) : Array Nat :=
  symbols.foldl (fun a s ↦ a.modify s (· + 1)) (Array.replicate n 0)

/-- A list without the zeros behind its first `least` numbers. -/
def trimZeros (least : Nat) (ns : List Nat) : List Nat :=
  ns.take least ++ ((ns.drop least).reverse.dropWhile (· == 0)).reverse

/-- The lengths of the words that suit tokens best: for literals and lengths, and for distances. -/
def bestLengths (ts : Array Token) : List Nat × List Nat :=
  let main := codeLengths maxWordLength (frequencies 286 ((ts.map Token.symbol).push endSymbol))
  let distances := codeLengths maxWordLength (frequencies 30 (ts.filterMap Token.distanceSymbol?))
  (trimZeros 257 main, trimZeros 1 distances)

/-- Writes the lengths of the words of two codes. -/
def putLengths (w : BitWriter) (main distances : List Nat) : BitWriter :=
  let steps := LengthStep.ofLengths (main ++ distances)
  let lengths := codeLengths 7 (frequencies 19 (steps.map LengthStep.symbol).toArray)
  let code := PrefixCode.ofLengths lengths
  let ordered := trimZeros 4 (LengthStep.order.map fun s ↦ lengths.getD s 0)
  let w := ((w.put (main.length - 257) 5).put (distances.length - 1) 5).put (ordered.length - 4) 4
  let w := ordered.foldl (fun w n ↦ w.put n 3) w
  steps.foldl (fun w s ↦ (code.put w s.symbol).put s.extra s.width) w

/-- Reads so many numbers of a width. -/
def readNumbers? (width : Nat) : Nat → BitReader → Option (List Nat × BitReader)
  | 0, r => some ([], r)
  | n + 1, r => do
    let (first, r) ← r.number? width
    let (rest, r) ← readNumbers? width n r
    return (first :: rest, r)

/-- Reads the lengths of the words of two codes. -/
def readCodes? (r : BitReader) : Option (Codes × BitReader) := do
  let (main, r) ← r.number? 5
  let (distances, r) ← r.number? 5
  let (ordered, r) ← r.number? 4
  let (ordered, r) ← readNumbers? 3 (ordered + 4) r
  let lengths := (LengthStep.order.zip ordered).foldl (fun a e ↦ a.setIfInBounds e.1 e.2)
    (Array.replicate 19 0)
  let needed := main + 257 + (distances + 1)
  let (lengths, r) ← LengthStep.read? (.ofLengths lengths.toList) needed (needed + 1) r []
  return (⟨.ofLengths (lengths.take (main + 257)), .ofLengths (lengths.drop (main + 257))⟩, r)

end Codes

end Telemetry.Zlib
