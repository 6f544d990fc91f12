import Telemetry.Hdr.Basic

/-!
# Reservoirs of binned counts

A `BinnedReservoir` counts values twice: over its whole life, and since it was last read. Reading it
hands out both counts and starts the second afresh; giving a reading back (`restore`) adds what that
reading had taken to the second count again, so that the next reading covers it.

Values also arrive through recorders, which do not touch the counts but queue their values. The
queue is folded in, oldest first, before anything else is counted and before anything is read, and
by the recorder itself once `backlogLimit` values have gathered.

A recorder may outlive its reservoir. What it reaches is therefore an option, and recording into
nothing is refused (`BinnedReservoir.recordInto`).
-/

namespace Telemetry

/-- Why a reservoir cannot be made. -/
inductive LayoutError where
  /-- The values to be covered do not reach twice the lowest positive one. -/
  | ceilingTooLow
  /-- More than five significant digits are asked for. -/
  | tooManyDigits
  deriving DecidableEq, Repr

/-- The name under which a cause is shown. -/
def LayoutError.message : LayoutError → String
  | ceilingTooLow => "HighLessThanTwiceLow"
  | tooManyDigits => "SigFigExceedsMax"

/-- Counts over a whole life and since the last reading, and values still to be counted. -/
structure BinnedReservoir where
  total : Hdr
  interval : Hdr
  /-- Values recorded but not yet counted, oldest first. -/
  backlog : Array UInt64 := #[]

namespace BinnedReservoir

/-- The number of waiting values at which a recorder folds them in. -/
def backlogLimit : Nat :=
  1024

/-- An empty reservoir of a layout, covering the values up to a ceiling. -/
def ofLayout (l : Hdr.Layout) (ceiling : Nat) : BinnedReservoir where
  total := .covering l ceiling
  interval := .covering l ceiling

/-- The layout with three significant digits. -/
def defaultLayout : Hdr.Layout where
  digits := 3

instance : Inhabited BinnedReservoir := ⟨ofLayout defaultLayout 2⟩

/-- An empty reservoir of so many significant digits that covers the values up to a ceiling. -/
def create (digits : Nat) (ceiling : Nat) : Except LayoutError BinnedReservoir :=
  if ceiling < 2 then .error .ceilingTooLow
  else if h : digits ≤ 5 then .ok (ofLayout ⟨digits, h⟩ ceiling)
  else .error .tooManyDigits

/-- The reservoir with a value counted. -/
def count (r : BinnedReservoir) (v : UInt64) : BinnedReservoir :=
  { r with total := r.total.record v.toNat, interval := r.interval.record v.toNat }

/-- The reservoir with all waiting values counted. -/
def refresh (r : BinnedReservoir) : BinnedReservoir :=
  r.backlog.foldl count { r with backlog := #[] }

/-- The reservoir with a value counted behind those that wait. -/
def update (r : BinnedReservoir) (v : UInt64) : BinnedReservoir :=
  r.refresh.count v

/-- The reservoir with a value queued, the queue being folded in when it is full. -/
def record (r : BinnedReservoir) (v : UInt64) : BinnedReservoir :=
  let r := { r with backlog := r.backlog.push v }
  if backlogLimit ≤ r.backlog.size then r.refresh else r

/-- Records into a reservoir, if it still exists: whether the value was taken, and what the
reservoir is then. -/
def recordInto (target : Option BinnedReservoir) (v : UInt64) : Bool × Option BinnedReservoir :=
  match target with
  | none => (false, none)
  | some r => (true, some (r.record v))

/-- Both counts, and the reservoir with the second one started afresh. -/
def read (r : BinnedReservoir) : (Hdr × Hdr) × BinnedReservoir :=
  let r := r.refresh
  ((r.total, r.interval), { r with interval := r.interval.reset })

/-- The reservoir with the counts of a reading added to those that the next reading covers. -/
def restore (r : BinnedReservoir) (sinceLast : Hdr) : BinnedReservoir :=
  { r with interval := r.interval.add sinceLast }

end BinnedReservoir

end Telemetry
