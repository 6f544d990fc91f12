import Telemetry.Converter
import Telemetry.PayloadMode

/-!
# How metrics are presented

A `Presentation` collects what does not depend on the metrics: the version of the report's form, who
reports, the units, and what of a reservoir is shown. It never changes which metrics are reported.
-/

namespace Telemetry

/-- The version of the form of reports. -/
inductive Schema where
  /-- Without role, description, status and alerts. -/
  | legacy
  | current
  deriving DecidableEq, Repr

namespace Schema

instance : Inhabited Schema := ⟨current⟩

/-- The number of a version. -/
def version : Schema → UInt32
  | legacy => 2
  | current => 3

/-- Whether reports have a role, a description, a status and alerts. -/
def isExtended : Schema → Bool
  | legacy => false
  | current => true

end Schema

/-- Who reports. -/
structure Identity where
  application : Option String := none
  host : Option String := none
  instanceName : Option String := none
  role : Option String := none
  description : Option String := none
  deriving DecidableEq, Repr, Inhabited

/-- How metrics are presented in a report. -/
structure Presentation where
  schema : Schema := default
  identity : Identity := {}
  converter : Converter := {}
  mode : PayloadMode := default
  deriving DecidableEq, Repr, Inhabited

end Telemetry
