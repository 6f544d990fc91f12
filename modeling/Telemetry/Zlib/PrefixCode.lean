import Std.Data.HashMap
import Telemetry.Zlib.Bits

/-!
# Codes of symbols

A code gives symbols words of bits, of which none begins another. The lengths of the words determine
it: words of one length are numbered in the order of their symbols, behind the shorter words
(`PrefixCode.ofLengths`). A symbol of length zero has no word.

`codeLengths` finds the lengths that make a text shortest, given how often each of its symbols
occurs and how long a word may be. Picture coins of the worth `1 / 2`, `1 / 4`, and so on down to
the limit, one of each worth for each symbol, as heavy as the symbol is frequent. A word of length
`n` stands for its symbol's coins of the first `n` worths, and lengths make a code if together they
are worth one less than there are symbols. The lightest choice is found from the smallest worth up,
by taking coins and pairs of what is one worth below in the order of their weights (`packages`).
-/

namespace Telemetry.Zlib

/-- The greatest length of a word. -/
def maxWordLength : Nat :=
  15

/-- A code of symbols. Words are numbers with a one in front of their bits. -/
structure PrefixCode where
  /-- The word of each symbol, zero for symbols without one. -/
  words : Array Nat
  /-- The symbols of the words. -/
  symbols : Std.HashMap Nat Nat

namespace PrefixCode

/-- Symbols with their words, given the lengths and symbols in the order of the words; `start` is
the share of all longest words that the words before take up. -/
def wordsFrom (start : Nat) : List (Nat × Nat) → List (Nat × Nat)
  | [] => []
  | (length, symbol) :: rest =>
    let share := Nat.pow 2 (maxWordLength - length)
    (symbol, Nat.pow 2 length + start / share) :: wordsFrom (start + share) rest

/-- The code with words of given lengths. -/
def ofLengths (lengths : List Nat) : PrefixCode :=
  let used := (lengths.zipIdx.filter fun e ↦ e.1 ≠ 0).mergeSort fun a b ↦ a.1 ≤ b.1
  let words := wordsFrom 0 used
  { words := words.foldl (fun a e ↦ a.setIfInBounds e.1 e.2) (Array.replicate lengths.length 0)
    symbols := words.foldl (fun m e ↦ m.insert e.2 e.1) {} }

/-- Writes the word of a symbol. -/
def put (code : PrefixCode) (w : BitWriter) (symbol : Nat) : BitWriter :=
  let word := code.words.getD symbol 0
  w.put (BitWriter.reverseBits word word.log2) word.log2

/-- Reads the rest of a word, of at most so many bits. -/
def readFrom (code : PrefixCode) (word : Nat) (r : BitReader) : Nat → Option (Nat × BitReader)
  | 0 => none
  | n + 1 => do
    let (b, r) ← r.bit?
    match code.symbols[2 * word + b]? with
    | some symbol => some (symbol, r)
    | none => readFrom code (2 * word + b) r n

/-- Reads the symbol of a word. -/
def read? (code : PrefixCode) (r : BitReader) : Option (Nat × BitReader) :=
  code.readFrom 1 r maxWordLength

end PrefixCode

/-- Coins: their weight and their symbols. -/
abbrev Coins :=
  Nat × List Nat

/-- Neighbours put together; one that is left over is dropped. -/
def pairUp : List Coins → List Coins
  | a :: b :: rest => (a.1 + b.1, a.2 ++ b.2) :: pairUp rest
  | _ => []

/-- What there is of one worth, by weight: single coins, and pairs of what is one worth below. -/
def packages (coins : List Coins) : Nat → List Coins
  | 0 => []
  | n + 1 => coins.merge (pairUp (packages coins n)) fun a b ↦ a.1 ≤ b.1

/-- The lengths of the words of the best code for symbols that occur so often. There are at least
two words. -/
def codeLengths (limit : Nat) (frequencies : Array Nat) : List Nat :=
  let used := frequencies.toList.zipIdx.filter fun e ↦ e.1 ≠ 0
  let lengths := Array.replicate frequencies.size 0
  match used with
  | [] => ((lengths.setIfInBounds 0 1).setIfInBounds 1 1).toList
  | [(_, symbol)] =>
    ((lengths.setIfInBounds symbol 1).setIfInBounds (if symbol = 0 then 1 else 0) 1).toList
  | _ =>
    let coins := (used.map fun e ↦ (e.1, [e.2])).mergeSort fun a b ↦ a.1 ≤ b.1
    let chosen := (packages coins limit).take (2 * used.length - 2)
    (chosen.foldl (fun a c ↦ c.2.foldl (fun a s ↦ a.modify s (· + 1)) a) lengths).toList

end Telemetry.Zlib
