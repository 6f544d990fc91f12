import Telemetry.Text.Blank
import Telemetry.Text.Caseless

/-!
# Units of time

A unit has a length in nanoseconds, a name, the shorter spellings under which it is read, and the
code that stands for it in a report.

* `TimeUnit.parse?` trims the text and ignores its case.
* `TimeUnit.ofCode?` is the inverse of `TimeUnit.code` (`TimeUnit.ofCode?_code`); other codes have
  no unit.
-/

namespace Telemetry

/-- A unit in which rates and durations are reported. -/
inductive TimeUnit where
  | nanoseconds
  | microseconds
  | milliseconds
  | seconds
  | minutes
  | hours
  | days
  deriving DecidableEq, Repr, Inhabited

namespace TimeUnit

/-- All units, the shortest first. -/
def all : List TimeUnit :=
  [nanoseconds, microseconds, milliseconds, seconds, minutes, hours, days]

/-- The length of a unit in nanoseconds. -/
def nanos : TimeUnit → UInt64
  | nanoseconds => 1
  | microseconds => 1000
  | milliseconds => 1000000
  | seconds => 1000000000
  | minutes => 60 * 1000000000
  | hours => 3600 * 1000000000
  | days => 86400 * 1000000000

/-- The name under which a unit is shown. -/
def name : TimeUnit → String
  | nanoseconds => "nanoseconds"
  | microseconds => "microseconds"
  | milliseconds => "milliseconds"
  | seconds => "seconds"
  | minutes => "minutes"
  | hours => "hours"
  | days => "days"

/-- The abbreviation of a unit. -/
def symbol : TimeUnit → String
  | nanoseconds => "ns"
  | microseconds => "us"
  | milliseconds => "ms"
  | seconds => "s"
  | minutes => "m"
  | hours => "h"
  | days => "d"

/-- The name of one such unit. -/
def singular : TimeUnit → String
  | nanoseconds => "nanosecond"
  | microseconds => "microsecond"
  | milliseconds => "millisecond"
  | seconds => "second"
  | minutes => "minute"
  | hours => "hour"
  | days => "day"

/-- The code of a unit in a report: its place in the list of all units. -/
def code : TimeUnit → Int32
  | nanoseconds => 0
  | microseconds => 1
  | milliseconds => 2
  | seconds => 3
  | minutes => 4
  | hours => 5
  | days => 6

/-- The unit with a code. -/
def ofCode? (n : Int32) : Option TimeUnit :=
  all.find? fun u ↦ u.code == n

theorem ofCode?_code (u : TimeUnit) : ofCode? u.code = some u := by
  cases u <;> decide

/-- The unit that a text names, blanks around it and case aside. -/
def parse? (s : String) : Option TimeUnit :=
  Text.lookup? (all.map fun u ↦ ([u.symbol, u.singular, u.name], u)) (Text.trim s)

end TimeUnit

end Telemetry
