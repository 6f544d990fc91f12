import Telemetry.Name
import Telemetry.Store

/-!
# Names of metrics

A `Registry` leads from names to metrics, that is, to a `Handle`: a kind and the id of a metric of
that kind. A name that is taken stays with its metric until it is removed; registering it again is
an error, and so is asking for a metric of another kind under it. An operation that fails changes
nothing.

A `Catalogue` is what the registry holds at one time, by kind and in the order of names. It goes on
leading to the same metrics, whatever happens to the names afterwards.
-/

namespace Telemetry

/-- The kinds of metrics. -/
inductive Kind where
  | gauge
  | counter
  | meter
  | histogram
  | timer
  deriving DecidableEq, Repr

/-- The word for a kind. -/
def Kind.name : Kind → String
  | gauge => "gauge"
  | counter => "counter"
  | meter => "meter"
  | histogram => "histogram"
  | timer => "timer"

/-- A metric, by its kind and id. -/
inductive Handle where
  | gauge (id : MetricId Gauge)
  | counter (id : MetricId Counter)
  | meter (id : MetricId Meter)
  | histogram (id : MetricId Histogram)
  | timer (id : MetricId Timer)
  deriving DecidableEq

namespace Handle

/-- The kind of a metric. -/
def kind : Handle → Kind
  | gauge _ => .gauge
  | counter _ => .counter
  | meter _ => .meter
  | histogram _ => .histogram
  | timer _ => .timer

/-- The id of a gauge. -/
def gauge? : Handle → Option (MetricId Gauge)
  | gauge id => some id
  | _ => none

/-- The id of a counter. -/
def counter? : Handle → Option (MetricId Counter)
  | counter id => some id
  | _ => none

/-- The id of a meter. -/
def meter? : Handle → Option (MetricId Meter)
  | meter id => some id
  | _ => none

/-- The id of a histogram. -/
def histogram? : Handle → Option (MetricId Histogram)
  | histogram id => some id
  | _ => none

/-- The id of a timer. -/
def timer? : Handle → Option (MetricId Timer)
  | timer id => some id
  | _ => none

end Handle

/-- Why a name cannot be used as asked. -/
inductive RegistryError where
  /-- The name is taken. -/
  | duplicate (name : String)
  /-- The name leads to a metric of another kind. -/
  | kindMismatch (name : String) (kind : Kind)
  deriving DecidableEq, Repr

/-- The text of a cause. -/
def RegistryError.message : RegistryError → String
  | duplicate name => s!"metric {name} already registered"
  | kindMismatch name kind => s!"metric {name} is registered as {kind.name}"

/-- A choice among named metrics. -/
abbrev Filter := String → Handle → Bool

namespace Filter

/-- The metrics whose names begin with a text. -/
def nameBegins (s : String) : Filter :=
  fun name _ ↦ name.startsWith s

/-- The metrics whose names end with a text. -/
def nameEnds (s : String) : Filter :=
  fun name _ ↦ name.endsWith s

/-- The metrics of a kind. -/
def ofKind (k : Kind) : Filter :=
  fun _ handle ↦ handle.kind == k

/-- The metrics that another filter leaves out. -/
def not (f : Filter) : Filter :=
  fun name handle ↦ !f name handle

end Filter

/-- The metrics of a registry at one time, by kind, each list in the order of names. -/
structure Catalogue where
  gauges : List (String × MetricId Gauge) := []
  counters : List (String × MetricId Counter) := []
  meters : List (String × MetricId Meter) := []
  histograms : List (String × MetricId Histogram) := []
  timers : List (String × MetricId Timer) := []
  deriving DecidableEq, Inhabited

namespace Catalogue

/-- The entries of one kind. -/
def select {α : Type} (pick : Handle → Option (MetricId α)) (entries : List (String × Handle)) :
    List (String × MetricId α) :=
  entries.filterMap fun e ↦ (pick e.2).map fun id ↦ (e.1, id)

/-- Entries sorted by kind. -/
def ofEntries (entries : List (String × Handle)) : Catalogue where
  gauges := select Handle.gauge? entries
  counters := select Handle.counter? entries
  meters := select Handle.meter? entries
  histograms := select Handle.histogram? entries
  timers := select Handle.timer? entries

/-- The number of metrics. -/
def len (c : Catalogue) : Nat :=
  c.gauges.length + c.counters.length + c.meters.length + c.histograms.length + c.timers.length

/-- Whether there is no metric. -/
def isEmpty (c : Catalogue) : Bool :=
  c.len == 0

end Catalogue

/-- Metrics by name. -/
structure Registry where
  names : Name.Map Handle := ∅

namespace Registry

instance : Inhabited Registry := ⟨{}⟩

/-- The metric under a name. -/
def find? (r : Registry) (name : String) : Option Handle :=
  r.names[name]?

/-- The number of names. -/
def len (r : Registry) : Nat :=
  r.names.size

theorem find?_insert (r : Registry) (name : String) (h : Handle) (name' : String) :
    find? ⟨r.names.insert name h⟩ name' = if name' = name then some h else r.find? name' := by
  rw [find?, Std.ExtTreeMap.getElem?_insert]
  simp only [Name.order_eq_eq, eq_comm (a := name)]
  rfl

theorem find?_erase (r : Registry) (name name' : String) :
    find? ⟨r.names.erase name⟩ name' = if name' = name then none else r.find? name' := by
  rw [find?, Std.ExtTreeMap.getElem?_erase]
  simp only [Name.order_eq_eq, eq_comm (a := name)]
  rfl

theorem find?_filter (r : Registry) (f : String → Handle → Bool) (name : String) :
    find? ⟨r.names.filter f⟩ name = (r.find? name).filter (f name) :=
  Std.ExtTreeMap.getElem?_filter'

/-- Registries with the same metrics under all names are equal. -/
theorem ext_find? {r r' : Registry} (h : ∀ name, r.find? name = r'.find? name) : r = r' :=
  congrArg mk (Std.ExtTreeMap.ext_getElem? h)

/-- Whether there is no name. -/
def isEmpty (r : Registry) : Bool :=
  r.len == 0

/-- The registry with a metric under a new name. -/
def register (r : Registry) (name : String) (h : Handle) : Except RegistryError Registry :=
  match r.find? name with
  | some _ => .error (.duplicate name)
  | none => .ok ⟨r.names.insert name h⟩

/-- The metric that was under a name, and the registry without the name. -/
def remove (r : Registry) (name : String) : Option Handle × Registry :=
  (r.find? name, ⟨r.names.erase name⟩)

/-- A name of a group of metrics. -/
def joined (group name : String) : String :=
  if group.isEmpty then name else group ++ "." ++ name

/-- Registers metrics under the names of a group, up to the first name that is taken. What was
registered before it stays. -/
def registerSet (r : Registry) (group : String) :
    List (String × Handle) → Registry × Option RegistryError
  | [] => (r, none)
  | (name, h) :: rest =>
    match r.register (joined group name) h with
    | .error e => (r, some e)
    | .ok r => registerSet r group rest

/-- All metrics, by kind and in the order of names. -/
def catalogue (r : Registry) : Catalogue :=
  .ofEntries r.names.toList

/-- The metrics that a filter accepts. -/
def catalogueWhere (r : Registry) (f : Filter) : Catalogue :=
  .ofEntries (r.names.toList.filter fun e ↦ f e.1 e.2)

end Registry

end Telemetry
