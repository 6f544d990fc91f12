import Telemetry.Counter

/-!
# Bounded queues that report what happens to them

A `Queue` holds items in the order of their arrival, up to a capacity of at least one. Every
operation says beside its result which events it raised: items added, items removed, an offer
refused. An operation that moves nothing raises no such event.

`Queue.Counts` is the tally of events: three counters, which wrap around like all counters.

Threads get hold of a queue one after another. An operation that waits for room or for an item lets
go of it again and again, and each time it gets hold of it looks for what it waits for: `put`,
`take`, `offerWithin` and `pollWithin` say `none` where they go on waiting. How long a wait may last
is not part of the model; the operations that give up at some time are told whether it has passed.

An `Op` is what a thread asks for, and `Queue.visit` is what happens when it gets hold of the queue.
-/

namespace Telemetry

/-- Items in the order of arrival, and room for at most `capacity` of them. -/
structure Queue (α : Type) where
  capacity : Nat
  items : List α := []
  capacity_pos : 0 < capacity
  length_le : items.length ≤ capacity := by simp

namespace Queue

variable {α : Type}

/-- What happened to a queue. -/
inductive Event where
  | added (n : Nat)
  | removed (n : Nat)
  | failedOffer
  deriving DecidableEq, Repr

/-- The result of an operation, the queue after it and the events it raised. -/
structure Step (α β : Type) where
  result : β
  queue : Queue α
  events : List Event

/-- An empty queue for a number of items; for zero it holds one. -/
def ofCapacity (n : Nat) : Queue α where
  capacity := max n 1
  capacity_pos := Nat.le_max_right n 1
  length_le := Nat.zero_le _

/-- The number of items. -/
def len (q : Queue α) : Nat :=
  q.items.length

/-- Whether no item waits. -/
def isEmpty (q : Queue α) : Bool :=
  q.len == 0

/-- The number of items that there is room for. -/
def room (q : Queue α) : Nat :=
  q.capacity - q.len

/-- The items without some of them; the rest keeps its order. -/
def keep (q : Queue α) (items : List α) (h : items.length ≤ q.items.length) : Queue α where
  capacity := q.capacity
  items := items
  capacity_pos := q.capacity_pos
  length_le := Nat.le_trans h q.length_le

/-- The event of a number of items leaving, if any leave. -/
def removal (n : Nat) : List Event :=
  if n = 0 then [] else [.removed n]

/-- Adds an item behind the others, or hands it back if there is no room. -/
def offer (q : Queue α) (item : α) : Step α (Except α Unit) :=
  if h : q.items.length < q.capacity then
    { result := .ok ()
      queue :=
        { capacity := q.capacity
          items := q.items ++ [item]
          capacity_pos := q.capacity_pos
          length_le := by rw [List.length_append]; exact h }
      events := [.added 1] }
  else { result := .error item, queue := q, events := [.failedOffer] }

/-- Adds an item behind the others once there is room; `none` as long as there is none. -/
def put (q : Queue α) (item : α) : Option (Step α Unit) :=
  match q.offer item with
  | ⟨.ok (), q, events⟩ => some ⟨(), q, events⟩
  | ⟨.error _, _, _⟩ => none

/-- Adds an item behind the others once there is room, or hands it back when the time is up; `none`
as long as neither is the case. -/
def offerWithin (q : Queue α) (item : α) (expired : Bool) : Option (Step α (Except α Unit)) :=
  if q.items.length < q.capacity || expired then some (q.offer item) else none

/-- Takes the first item, if there is one. -/
def poll (q : Queue α) : Step α (Option α) :=
  { result := q.items.head?
    queue := q.keep (q.items.drop 1) (by simp)
    events := removal (min 1 q.items.length) }

/-- Takes the first item once there is one, or nothing when the time is up; `none` as long as
neither is the case. -/
def pollWithin (q : Queue α) (expired : Bool) : Option (Step α (Option α)) :=
  if q.isEmpty && !expired then none else some q.poll

/-- Takes the first item once there is one; `none` as long as there is none. -/
def take (q : Queue α) : Option (Step α α) :=
  let s := q.poll
  s.result.map fun item ↦ ⟨item, s.queue, s.events⟩

/-- The first item, which stays. -/
def peek (q : Queue α) : Option α :=
  q.items.head?

/-- Moves at most `limit` items, the first ones, behind the items of a list. -/
def drain (q : Queue α) (limit : Nat) (into : List α) : Step α (Nat × List α) :=
  let moved := min q.items.length limit
  { result := (moved, into ++ q.items.take moved)
    queue := q.keep (q.items.drop moved) (by simp)
    events := removal moved }

/-- The items that pass a test. It is asked about one item after another, and may go by the number
of items that it was asked about before, as a test with a memory does. -/
def passing (test : Nat → α → Bool) (items : List α) : List α :=
  (items.zipIdx.filter fun x ↦ test x.2 x.1).map (·.1)

theorem length_passing_le (test : Nat → α → Bool) (items : List α) :
    (passing test items).length ≤ items.length := by
  rw [passing, List.length_map]
  exact Nat.le_trans (List.length_filter_le ..) (by simp)

/-- Removes the items that fail a test, and says how many. -/
def retain (q : Queue α) (test : Nat → α → Bool) : Step α Nat :=
  let removed := q.items.length - (passing test q.items).length
  { result := removed
    queue := q.keep (passing test q.items) (length_passing_le ..)
    events := removal removed }

/-! ### What threads ask for -/

/-- What a thread asks for. -/
inductive Op (α : Type) where
  | offer (item : α)
  | offerWithin (item : α) (expired : Bool)
  | put (item : α)
  | poll
  | pollWithin (expired : Bool)
  | take
  | peek
  | drain (limit : Nat) (into : List α)
  | retain (test : Nat → α → Bool)
  | len
  | room

/-- What a thread is answered. -/
inductive Answer (α : Type) where
  /-- There is no answer yet. -/
  | waits
  | offered (result : Except α Unit)
  | polled (item : Option α)
  | front (item : Option α)
  | drained (n : Nat) (items : List α)
  | retained (n : Nat)
  | number (n : Nat)

/-- The step with another result. -/
def Step.map {β γ : Type} (f : β → γ) (s : Step α β) : Step α γ :=
  ⟨f s.result, s.queue, s.events⟩

/-- A step that says nothing of the queue but its answer. -/
def tell {β : Type} (q : Queue α) (result : β) : Step α β :=
  ⟨result, q, []⟩

/-- What happens when a thread gets hold of the queue. -/
def visit (q : Queue α) : Op α → Step α (Answer α)
  | .offer item => (q.offer item).map .offered
  | .offerWithin item expired =>
    ((q.offerWithin item expired).map (·.map .offered)).getD (q.tell .waits)
  | .put item => ((q.put item).map (·.map fun _ ↦ .offered (.ok ()))).getD (q.tell .waits)
  | .poll => q.poll.map .polled
  | .pollWithin expired => ((q.pollWithin expired).map (·.map .polled)).getD (q.tell .waits)
  | .take => (q.take.map (·.map fun item ↦ .polled (some item))).getD (q.tell .waits)
  | .peek => q.tell (.front q.peek)
  | .drain limit into => (q.drain limit into).map fun x ↦ .drained x.1 x.2
  | .retain test => (q.retain test).map .retained
  | .len => q.tell (.number q.len)
  | .room => q.tell (.number q.room)

/-! ### Counts of events -/

/-- How many items were added and removed and how many offers were refused. -/
structure Counts where
  added : Counter := {}
  removed : Counter := {}
  failedOffers : Counter := {}
  deriving DecidableEq, Repr, Inhabited

/-- The counts after an event. -/
def Counts.note (c : Counts) : Event → Counts
  | .added n => { c with added := c.added.add n.toUInt64 }
  | .removed n => { c with removed := c.removed.add n.toUInt64 }
  | .failedOffer => { c with failedOffers := c.failedOffers.inc }

/-- The counts after some events. -/
def Counts.noteAll (c : Counts) (events : List Event) : Counts :=
  events.foldl note c

end Queue

end Telemetry
