import Telemetry.Registry

/-!
# Counters of a queue as metrics

The three counts that a queue's events are added to can be metrics themselves, to be registered as a
group and reported like any others.
-/

namespace Telemetry

/-- The counters to which the events of queues are added. -/
structure QueueCounters where
  added : MetricId Counter
  removed : MetricId Counter
  failedOffers : MetricId Counter

namespace QueueCounters

/-- Three new counters. -/
def create (s : Store) : QueueCounters × Store :=
  let (added, s) := s.newCounter {}
  let (removed, s) := s.newCounter {}
  let (failedOffers, s) := s.newCounter {}
  (⟨added, removed, failedOffers⟩, s)

/-- The counters under their names within the group. -/
def set (q : QueueCounters) : List (String × Handle) :=
  [("added", .counter q.added), ("removed", .counter q.removed),
    ("failed-offers", .counter q.failedOffers)]

/-- What the counters say. -/
def counts (q : QueueCounters) (s : Store) : Queue.Counts where
  added := s.counter q.added
  removed := s.counter q.removed
  failedOffers := s.counter q.failedOffers

/-- The store with an event of a queue counted. -/
def note (q : QueueCounters) (s : Store) (e : Queue.Event) : Store :=
  let c := (q.counts s).note e
  ((s.setCounter q.added c.added).setCounter q.removed c.removed).setCounter
    q.failedOffers c.failedOffers

end QueueCounters

end Telemetry
