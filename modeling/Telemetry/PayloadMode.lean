import Telemetry.Text.Blank
import Telemetry.Text.Caseless

/-!
# What of a reservoir goes into a report

A reservoir with bins covers two spans of time: its whole life, and the time since it was last read.
A `PayloadMode` says which of the two a report summarises, and whether the counts themselves are
sent along.
-/

namespace Telemetry

/-- Which span of a reservoir a report covers, and whether it carries the counts. -/
inductive PayloadMode where
  /-- A summary of the whole life, without counts. -/
  | none
  /-- A summary of the whole life and its counts. -/
  | total
  /-- A summary of what was recorded since the last reading, and its counts. -/
  | snapshot
  deriving DecidableEq, Repr

namespace PayloadMode

instance : Inhabited PayloadMode := ⟨snapshot⟩

/-- The name under which a mode is written and read. -/
def name : PayloadMode → String
  | none => "none"
  | total => "total"
  | snapshot => "snapshot"

/-- The mode that a text names, blanks around it and case aside. -/
def parse? (s : String) : Option PayloadMode :=
  Text.lookup? ([none, total, snapshot].map fun m ↦ ([m.name], m)) (Text.trim s)

end PayloadMode

end Telemetry
