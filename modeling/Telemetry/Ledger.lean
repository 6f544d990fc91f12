import Telemetry.Counter
import Telemetry.Name

/-!
# What was last reported

A `Ledger` remembers under each name the count that was last delivered, so that a metric whose count
has not changed can be left out of the next report. A ledger that is switched off remembers nothing
and leaves nothing out.

While a report is put together its counts are only staged (`Staged`): they enter the ledger when the
report has been delivered (`Ledger.commit`) and are forgotten otherwise. Of several counts staged
under one name the last one counts.

`Ledger.check` is the question asked for each metric: skip it, and count that, or stage its count.
-/

namespace Telemetry

/-- Counts of a report that has not been delivered yet, in the order in which they were read. -/
structure Staged where
  entries : List (String × UInt64) := []
  deriving DecidableEq, Repr, Inhabited

namespace Staged

/-- The number of staged counts. -/
def len (s : Staged) : Nat :=
  s.entries.length

/-- Whether nothing is staged. -/
def isEmpty (s : Staged) : Bool :=
  s.entries.isEmpty

/-- The staged counts and one more. -/
def push (s : Staged) (name : String) (count : UInt64) : Staged :=
  ⟨s.entries ++ [(name, count)]⟩

end Staged

/-- The counts last delivered, by name; nothing if the ledger is switched off. -/
structure Ledger where
  delivered : Option (Name.Map UInt64) := none

namespace Ledger

/-- A ledger without entries, switched on or off. -/
def new (enabled : Bool) : Ledger :=
  ⟨if enabled then some ∅ else none⟩

/-- Whether the ledger is switched on. -/
def isEnabled (l : Ledger) : Bool :=
  l.delivered.isSome

/-- The count last delivered under a name. -/
def last? (l : Ledger) (name : String) : Option UInt64 :=
  l.delivered.bind (·[name]?)

/-- The number of names with a delivered count. -/
def len (l : Ledger) : Nat :=
  (l.delivered.map (·.size)).getD 0

/-- Whether no name has a delivered count. -/
def isEmpty (l : Ledger) : Bool :=
  l.len == 0

/-- Whether a count is the one last delivered under its name. -/
def unchanged (l : Ledger) (name : String) (count : UInt64) : Bool :=
  l.last? name == some count

/-- The staged counts after a metric was found to have changed. -/
def stage (l : Ledger) (s : Staged) (name : String) (count : UInt64) : Staged :=
  if l.isEnabled then s.push name count else s

/-- Whether a metric can be left out, the counter of metrics left out and the staged counts. -/
def check (l : Ledger) (name : String) (count : UInt64) (skipped : Counter) (s : Staged) :
    Bool × Counter × Staged :=
  if l.unchanged name count then (true, skipped.inc, s) else (false, skipped, l.stage s name count)

/-- The ledger with staged counts delivered. -/
def commit (l : Ledger) (s : Staged) : Ledger :=
  ⟨l.delivered.map (·.insertMany s.entries)⟩

end Ledger

end Telemetry
