import Telemetry.Hdr.Layout
import Telemetry.Hdr.Tally

/-!
# Histograms of high dynamic range

A `Hdr` counts values in the bins of a layout. It covers as many stretches of bins as its values
needed so far and grows by itself, so no value is ever out of range.

Beside the counts it remembers three numbers that the counts do not determine:

* `ceiling`, the highest value said to be covered. Growing to record a value raises it to the top of
  the last bin; growing to take in another histogram raises it to that histogram's maximum.
* `largest` and `smallest`, the extreme values seen. The statistics round them to the bounds of
  their bins, except that the largest word of all is shown as it is.

Counts stop at the largest word, and so does their sum (`Hdr.len`). The running sum that finds a
quantile wraps around instead, and is looked at between blocks of bins first (`Hdr.binAtRank?`); as
long as all counts together are a word, this finds the first bin that reaches the rank.
-/

namespace Telemetry

/-- Counts of values in bins, over as wide a range as the values needed. -/
structure Hdr where
  layout : Hdr.Layout
  /-- The number of stretches of bins covered. -/
  stretches : Nat
  /-- The highest value said to be covered. -/
  ceiling : Nat
  counts : Hdr.Tally := .empty
  /-- The largest value counted, zero when there is none. -/
  largest : Nat := 0
  /-- The smallest positive value counted, the largest word when there is none. -/
  smallest : Nat := maxWord

namespace Hdr

/-- An empty histogram that covers the values up to `ceiling`. -/
def covering (l : Layout) (ceiling : Nat) : Hdr where
  layout := l
  stretches := l.stretches ceiling
  ceiling := ceiling

/-- The count of a bin. -/
def count (h : Hdr) (i : Nat) : Nat :=
  h.counts.count i

/-- The number of values counted, as far as a word can tell. -/
def len (h : Hdr) : Nat :=
  min h.counts.total maxWord

/-- Whether no value is counted. -/
def isEmpty (h : Hdr) : Bool :=
  h.len == 0

/-- The highest value of the bins covered. -/
def top (h : Hdr) : Nat :=
  h.layout.highest (h.layout.lastIndex h.stretches)

/-- The histogram covering a value as well. -/
def cover (h : Hdr) (v : Nat) : Hdr :=
  if h.layout.exponent v < h.stretches then h
  else
    { h with
      stretches := h.layout.stretches v
      ceiling := h.layout.highest (h.layout.lastIndex (h.layout.stretches v)) }

/-- The histogram with a value counted `n` times more. -/
def recordMany (h : Hdr) (v n : Nat) : Hdr :=
  let h := h.cover v
  { h with
    counts := h.counts.update (h.layout.index v) (addWords n)
    largest := max h.largest v
    smallest := if v = 0 then h.smallest else min h.smallest v }

/-- The histogram with a value counted once more. -/
def record (h : Hdr) (v : Nat) : Hdr :=
  h.recordMany v 1

/-- The greatest value counted, rounded up to the end of its bin; zero when there is none. -/
def maxValue (h : Hdr) : Nat :=
  if h.largest = 0 then 0
  else if h.largest = maxWord then maxWord
  else h.layout.highest (h.layout.index h.largest)

/-- The least positive value counted, rounded down to the start of its bin. -/
def leastPositive (h : Hdr) : Nat :=
  if h.smallest = maxWord then maxWord else h.layout.lowest (h.layout.index h.smallest)

/-- The least value counted, rounded down to the start of its bin; zero when there is none. -/
def minValue (h : Hdr) : Nat :=
  if h.isEmpty || h.count 0 != 0 then 0 else h.leastPositive

/-- The histogram with all counts of another one added. Bins of the same meaning are added as they
are; otherwise each bin counts as so many of its lowest value. -/
def add (h other : Hdr) : Hdr :=
  -- growing here raises the ceiling to the other maximum and no further
  let h :=
    if h.top < other.maxValue then
      { h with stretches := h.layout.stretches other.maxValue, ceiling := other.maxValue }
    else h
  if h.layout = other.layout ∧ h.stretches = other.stretches then
    { h with
      counts := other.counts.toList.foldl (fun t e ↦ t.update e.1 (addWords e.2)) h.counts
      largest := if h.maxValue < other.maxValue then max h.largest other.maxValue else h.largest
      smallest :=
        if other.leastPositive < h.leastPositive then min h.smallest other.leastPositive
        else h.smallest }
  else
    other.counts.toList.foldl (fun h e ↦ h.recordMany (other.layout.lowest e.1) e.2) h

/-- The histogram with all counts taken away. What it covers stays covered. -/
def reset (h : Hdr) : Hdr :=
  { h with counts := .empty, largest := 0, smallest := maxWord }

/-! ## Statistics -/

/-- The mean of the middles of the bins, each weighted by its count. -/
def mean (h : Hdr) : Float :=
  h.counts.toList.foldl
    (fun sum e ↦ sum + wordFloat (h.layout.median e.1) * wordFloat e.2 / wordFloat h.len) 0.0

/-- The standard deviation of the middles of the bins, each weighted by its count. -/
def stdDev (h : Hdr) : Float :=
  let mean := h.mean
  let squares := h.counts.toList.foldl
    (fun sum e ↦
      let d := wordFloat (h.layout.median e.1) - mean
      sum + d * d * wordFloat e.2)
    0.0
  (squares / wordFloat h.len).sqrt

/-- The first bin of a list at which the running sum of the counts reaches a rank. -/
def binInBlock? (rank : Nat) : Nat → List (Nat × Nat) → Option Nat
  | _, [] => none
  | seen, (i, c) :: rest =>
    if rank ≤ addWrapping seen c then some i else binInBlock? rank (addWrapping seen c) rest

/-- The first bin at which the running sum of the counts reaches a rank, among the blocks at whose
end it does. -/
def binAtRank? (rank : Nat) : Nat → List (List (Nat × Nat)) → Option Nat
  | _, [] => none
  | seen, block :: rest =>
    let after := block.foldl (fun sum e ↦ addWrapping sum e.2) seen
    if rank ≤ after then binInBlock? rank seen block else binAtRank? rank after rest

/-- The number of bins in a block. -/
def blockSize : Nat :=
  8

/-- The bins with something in them, by the blocks that they are in; the bins behind the last whole
block are blocks of their own. -/
def blocks (h : Hdr) : List (List (Nat × Nat)) :=
  let whole := (h.layout.lastIndex h.stretches + 1) / blockSize
  h.counts.toList.splitBy fun a b ↦
    a.1 / blockSize == b.1 / blockSize && b.1 / blockSize < whole

/-- The rank of a quantile among the values counted, at least one. -/
def rank (h : Hdr) (q : Float) : Nat :=
  max 1 (floorWord ((if q > 1.0 then 1.0 else q) * wordFloat h.len).ceil)

/-- The end of the bin at which a quantile is reached, or its start for the quantile zero; zero when
it is not reached. -/
def valueAt (h : Hdr) (q : Float) : Nat :=
  match binAtRank? (h.rank q) 0 h.blocks with
  | none => 0
  | some i => if q == 0.0 then h.layout.lowest i else h.layout.highest i

end Hdr

end Telemetry
