import Mathlib.Algebra.BigOperators.Group.List.Basic
import Telemetry.Proofs.Queue.Fifo
import Telemetry.Proofs.Writes
import Telemetry.QueueCounters

/-!
# What becomes of the items of a queue

Threads get hold of a queue one after another, and what happens each time is a `Queue.Visit`. An
operation that waits visits it several times and is served by the last of these visits, so the
visits in their order are all that the queue goes by.

**Items leave in the order in which they came.** The items handed out so far and those that the
queue holds are, in this order, some of the items accepted (`Queue.Serves.sublist`); the others have
been discarded by a test. Nothing else happens to an item (`Queue.Serves.perm`), and one that is not
accepted is handed back at once.

**What is told of a visit is what became of items.** A handler is called when the operation has let
go of the queue, so the events of different threads reach it in any order. The counters do not
depend on it: they say how many items were accepted, have left and were handed back, up to multiples
of `2 ^ 64` (`Queue.orderly_run`).
-/

namespace Telemetry

namespace Queue

variable {α : Type}

/-- The items that fail the test of an operation. -/
def Op.failing (items : List α) : Op α → List α
  | retain test => passing (fun i a ↦ !test i a) items
  | _ => []

/-- A time that an operation had hold of a queue. -/
structure Visit (α : Type) where
  op : Op α
  /-- The items found. -/
  before : List α
  answer : Answer α
  events : List Event
  /-- The items left behind. -/
  after : List α

namespace Visit

variable (v : Visit α)

/-- The items that were accepted. -/
def accepted : List α :=
  match v.answer with
  | .offered (.ok ()) => v.op.brings.toList
  | _ => []

/-- The items that were handed back. -/
def rejected : List α :=
  match v.answer with
  | .offered (.error item) => [item]
  | _ => []

/-- The items that were handed out. A list that they were moved to has them at its end. -/
def handedOut : List α :=
  match v.answer with
  | .polled item => item.toList
  | .drained n items => items.drop (items.length - n)
  | _ => []

/-- The items that left, handed out or discarded. -/
def departed : List α :=
  match v.answer with
  | .retained _ => v.op.failing v.before
  | _ => v.handedOut

/-- The events of a visit by which items came and left. -/
def tidings : List Event :=
  (v.accepted.map fun _ ↦ .added 1) ++ removal v.departed.length ++
    v.rejected.map fun _ ↦ .failedOffer

/-- The visit is one that a bounded list may be paid. -/
def IsServed (capacity : Nat) : Prop :=
  Served capacity v.op v.before v.answer v.events v.after

variable {v} {capacity : Nat}

/-- What is handed out and what stays are in the order in which they came. -/
theorem IsServed.sublist (h : v.IsServed capacity) :
    (v.handedOut ++ v.after).Sublist (v.before ++ v.accepted) := by
  obtain ⟨op, before, answer, events, after⟩ := v
  simp only [IsServed] at h
  cases h with
  | accept brings room => simp [handedOut, accepted, brings]
  | drain split length most => simp [handedOut, accepted, split, ← length]
  | retain failing => simpa [handedOut, accepted] using passing_sublist ..
  | _ => simp [handedOut, accepted]

/-- What leaves and what stays are together what was there and what came. -/
theorem IsServed.perm (h : v.IsServed capacity) :
    (v.departed ++ v.after).Perm (v.before ++ v.accepted) := by
  obtain ⟨op, before, answer, events, after⟩ := v
  simp only [IsServed] at h
  cases h with
  | accept brings room => simp [departed, handedOut, accepted, brings]
  | drain split length most => simp [departed, handedOut, accepted, split, ← length]
  | retain failing => simpa [departed, accepted, Op.failing] using passing_not_append_perm ..
  | _ => simp [departed, handedOut, accepted]

/-- What a visit tells is what it does. -/
theorem IsServed.events_eq (h : v.IsServed capacity) : v.events = v.tidings := by
  obtain ⟨op, before, answer, events, after⟩ := v
  simp only [IsServed] at h
  cases h with
  | accept brings room => simp [tidings, departed, handedOut, accepted, rejected, brings, removal]
  | drain split length most => simp [tidings, departed, handedOut, accepted, rejected, ← length]
  | retain failing => simp [tidings, departed, accepted, rejected, Op.failing, failing]
  | _ => simp [tidings, departed, handedOut, accepted, rejected, removal]

end Visit

/-! ### Runs -/

/-- The visits by some operations, one after another. -/
def history (q : Queue α) : List (Op α) → List (Visit α)
  | [] => []
  | op :: ops =>
    let s := q.visit op
    ⟨op, q.items, s.result, s.events, s.queue.items⟩ :: s.queue.history ops

/-- The queue after these visits. -/
def run (q : Queue α) (ops : List (Op α)) : Queue α :=
  ops.foldl (fun q op ↦ (q.visit op).queue) q

/-- No visit changes the capacity. -/
theorem capacity_visit (q : Queue α) (op : Op α) : (q.visit op).queue.capacity = q.capacity := by
  have hoffer (item : α) : (q.offer item).queue.capacity = q.capacity := by
    rw [offer]
    split <;> rfl
  cases op with
  | offer item => exact hoffer item
  | offerWithin item expired =>
    simp only [visit, offerWithin]
    split
    · exact hoffer item
    · rfl
  | put item =>
    by_cases h : q.items.length < q.capacity <;> simp [visit, put, offer, h, Step.map, tell]
  | pollWithin expired =>
    simp only [visit, pollWithin]
    split <;> rfl
  | take =>
    simp only [visit, take]
    cases q.poll.result <;> rfl
  | _ => rfl

/-- No run changes the capacity. -/
theorem capacity_run (q : Queue α) (ops : List (Op α)) : (q.run ops).capacity = q.capacity := by
  induction ops generalizing q with
  | nil => rfl
  | cons op ops ih => exact (ih _).trans (q.capacity_visit op)

/-- Visits that a bounded list of some items may be paid one after another, and what it holds
then. -/
inductive Serves (capacity : Nat) : List α → List (Visit α) → List α → Prop
  | nil {items : List α} : Serves capacity items [] items
  | cons {v : Visit α} {visits : List (Visit α)} {last : List α} (served : v.IsServed capacity)
      (rest : Serves capacity v.after visits last) : Serves capacity v.before (v :: visits) last

/-- **Each visit of a run is served by the queue that the one before it left.** -/
theorem serves_history (q : Queue α) (ops : List (Op α)) :
    Serves q.capacity q.items (q.history ops) (q.run ops).items := by
  induction ops generalizing q with
  | nil => exact .nil
  | cons op ops ih =>
    have hrest := ih (q.visit op).queue
    rw [capacity_visit] at hrest
    let s := q.visit op
    exact .cons (v := ⟨op, q.items, s.result, s.events, s.queue.items⟩) (q.serves_visit op) hrest

namespace Serves

variable {capacity : Nat} {items last : List α} {visits : List (Visit α)}

theorem isServed (h : Serves capacity items visits last) : ∀ v ∈ visits, v.IsServed capacity := by
  induction h with
  | nil => simp
  | cons served rest ih => exact List.forall_mem_cons.2 ⟨served, ih⟩

/-- **Items leave in the order in which they came.** -/
theorem sublist (h : Serves capacity items visits last) :
    (visits.flatMap Visit.handedOut ++ last).Sublist (items ++ visits.flatMap Visit.accepted) := by
  induction h with
  | nil => simp
  | @cons v visits last served rest ih =>
    have hrest := (List.Sublist.refl v.handedOut).append ih
    have hfirst := served.sublist.append (List.Sublist.refl (visits.flatMap Visit.accepted))
    simp only [List.flatMap_cons, List.append_assoc] at hrest hfirst ⊢
    exact hrest.trans hfirst

/-- **Each item leaves once or is still there.** -/
theorem perm (h : Serves capacity items visits last) :
    (visits.flatMap Visit.departed ++ last).Perm (items ++ visits.flatMap Visit.accepted) := by
  induction h with
  | nil => simp
  | @cons v visits last served rest ih =>
    have hrest := ih.append_left v.departed
    have hfirst := served.perm.append_right (visits.flatMap Visit.accepted)
    simp only [List.flatMap_cons, List.append_assoc] at hrest hfirst ⊢
    exact hrest.trans hfirst

end Serves

/-! ### Counts -/

namespace Event

/-- The number of items that an event says were added. -/
def gain : Event → Nat
  | added n => n
  | _ => 0

/-- The number of items that an event says have left. -/
def loss : Event → Nat
  | removed n => n
  | _ => 0

/-- The number of offers that an event says were refused. -/
def refusals : Event → Nat
  | failedOffer => 1
  | _ => 0

end Event

/-- A visit tells of one item added for each that it brings in. -/
theorem Visit.sum_gain_tidings (v : Visit α) :
    (v.tidings.map Event.gain).sum = v.accepted.length := by
  simp only [tidings, removal]
  split <;> simp [Event.gain]

/-- A visit tells of one item removed for each that leaves. -/
theorem Visit.sum_loss_tidings (v : Visit α) :
    (v.tidings.map Event.loss).sum = v.departed.length := by
  simp only [tidings, removal]
  split <;> simp_all [Event.loss]

/-- A visit tells of one failure for each item that is turned away. -/
theorem Visit.sum_refusals_tidings (v : Visit α) :
    (v.tidings.map Event.refusals).sum = v.rejected.length := by
  simp only [tidings, removal]
  split <;> simp [Event.refusals]

/-- What events of visits say of one kind of items, in whichever order they are told. -/
theorem sum_told {f : Event → Nat} {part : Visit α → List α}
    (hf : ∀ v : Visit α, (v.tidings.map f).sum = (part v).length) {visits : List (Visit α)}
    (hv : ∀ v ∈ visits, v.events = v.tidings) {told : List Event}
    (ht : told.Perm (visits.flatMap Visit.events)) :
    (told.map f).sum = (visits.flatMap part).length := by
  rw [(ht.map f).sum_eq]
  clear ht
  induction visits with
  | nil => rfl
  | cons v visits ih =>
    obtain ⟨hfirst, hrest⟩ := List.forall_mem_cons.1 hv
    simp only [List.flatMap_cons, List.map_append, List.sum_append, List.length_append, ih hrest,
      hfirst, hf]

/-- Some counts are others and a number of items more in each of them. -/
structure Counts.Grown (c c' : Counts) (gain loss refusals : Nat) : Prop where
  added : c'.added.count = c.added.count + UInt64.ofNat gain
  removed : c'.removed.count = c.removed.count + UInt64.ofNat loss
  failedOffers : c'.failedOffers.count = c.failedOffers.count + UInt64.ofNat refusals

/-- **Counters grow by what they are told**, whichever order it comes in. -/
theorem Counts.grown_noteAll (c : Counts) (events : List Event) :
    c.Grown (c.noteAll events) (events.map Event.gain).sum (events.map Event.loss).sum
      (events.map Event.refusals).sum := by
  induction events generalizing c with
  | nil => constructor <;> simp [noteAll]
  | cons e events ih =>
    obtain ⟨hadded, hremoved, hfailed⟩ := ih (c.note e)
    rw [noteAll, List.foldl_cons, ← noteAll]
    constructor
    · rw [hadded]
      cases e <;> simp [note, Event.gain, UInt64.add_assoc]
    · rw [hremoved]
      cases e <;> simp [note, Event.loss, UInt64.add_assoc]
    · rw [hfailed]
      cases e <;> simp [note, Event.refusals, UInt64.add_assoc]

end Queue

namespace QueueCounters

/-- The counters are three. -/
structure Distinct (c : QueueCounters) : Prop where
  added_removed : c.added ≠ c.removed
  added_failedOffers : c.added ≠ c.failedOffers
  removed_failedOffers : c.removed ≠ c.failedOffers

/-- New counters are different metrics. -/
theorem distinct_create (s : Store) : (create s).1.Distinct where
  added_removed := by
    simp [create, Store.newCounter, Store.setCounter, Cells.fresh_set, ← MetricId.index_inj]
  added_failedOffers := by
    simp only [create, Store.newCounter, Store.setCounter, Cells.fresh_set, ne_eq,
      ← MetricId.index_inj]
    omega
  removed_failedOffers := by
    simp [create, Store.newCounter, Store.setCounter, Cells.fresh_set, ← MetricId.index_inj]

/-- The counters of a queue begin with zero. -/
theorem counts_create (s : Store) : (create s).1.counts (create s).2 = {} := by
  have h := distinct_create s
  have h₁ := h.added_removed
  have h₂ := h.added_failedOffers
  have h₃ := h.removed_failedOffers
  simp only [create, Store.newCounter] at h₁ h₂ h₃
  simp only [create, Store.newCounter, counts, Store.counter_setCounter, h₁, h₂, h₃, if_false,
    if_true]

/-- Being told of an event changes the counts as the event says. -/
theorem counts_note {c : QueueCounters} (h : c.Distinct) (s : Store) (e : Queue.Event) :
    c.counts (c.note s e) = (c.counts s).note e := by
  have h₁ := h.added_removed
  have h₂ := h.added_failedOffers
  have h₃ := h.removed_failedOffers
  simp [note, counts, Store.counter_setCounter, h₁, h₂, h₃]

/-- Being told of several events changes the counts as these say in turn. -/
theorem counts_foldl_note {c : QueueCounters} (h : c.Distinct) (s : Store)
    (events : List Queue.Event) :
    c.counts (events.foldl c.note s) = (c.counts s).noteAll events := by
  induction events generalizing s with
  | nil => rfl
  | cons e events ih =>
    rw [List.foldl_cons, ih, counts_note h]
    rfl

/-- What new counters say when some events have reached them. -/
def tally (s : Store) (told : List Queue.Event) : Queue.Counts :=
  let (c, s) := create s
  c.counts (told.foldl c.note s)

theorem tally_eq (s : Store) (told : List Queue.Event) :
    tally s told = Queue.Counts.noteAll {} told :=
  calc tally s told
    _ = ((create s).1.counts (create s).2).noteAll told := counts_foldl_note (distinct_create s) _ _
    _ = Queue.Counts.noteAll {} told := by rw [counts_create]

end QueueCounters

namespace Queue

variable {α : Type}

/-- What some visits to a queue for `capacity` items come to, if all that is told of them is
counted. -/
structure Orderly (capacity : Nat) (visits : List (Visit α)) (q : Queue α) (counts : Counts) :
    Prop where
  /-- Threads cannot tell the queue from a bounded list. -/
  serves : Serves capacity [] visits q.items
  /-- What is told of a visit is what became of items, and nothing if none came or left. -/
  events_eq : ∀ v ∈ visits, v.events = v.tidings
  /-- Items are handed out in the order in which they were accepted. -/
  sublist : (visits.flatMap Visit.handedOut ++ q.items).Sublist (visits.flatMap Visit.accepted)
  /-- Each item accepted has left once or is still there. -/
  perm : (visits.flatMap Visit.departed ++ q.items).Perm (visits.flatMap Visit.accepted)
  len_le : q.len ≤ capacity
  len_add_room : q.len + q.room = capacity
  added : counts.added.count = UInt64.ofNat (visits.flatMap Visit.accepted).length
  removed : counts.removed.count = UInt64.ofNat (visits.flatMap Visit.departed).length
  failedOffers : counts.failedOffers.count = UInt64.ofNat (visits.flatMap Visit.rejected).length
  balance : counts.added.count - counts.removed.count = UInt64.ofNat q.len

/-- **A new queue with new counters is a bounded list, and its counters tell what becomes of
items**, whichever operations visit it and in whichever order their events reach the counters. -/
theorem orderly_run (n : Nat) (ops : List (Op α)) (s : Store) {told : List Event}
    (ht : told.Perm (((ofCapacity n).history ops).flatMap Visit.events)) :
    Orderly (max n 1) ((ofCapacity n).history ops) ((ofCapacity n).run ops)
      (QueueCounters.tally s told) := by
  set q : Queue α := ofCapacity n with hq
  set visits := q.history ops with hvisits
  have hserves : Serves (max n 1) [] visits (q.run ops).items := q.serves_history ops
  have hevents : ∀ v ∈ visits, v.events = v.tidings := fun v hv ↦ (hserves.isServed v hv).events_eq
  have hcapacity : (q.run ops).capacity = max n 1 := q.capacity_run ops
  have hle : (q.run ops).len ≤ max n 1 := hcapacity ▸ (q.run ops).length_le
  have hperm := hserves.perm
  rw [List.nil_append] at hperm
  have hgrown := Counts.grown_noteAll {} told
  rw [← QueueCounters.tally_eq s, sum_told Visit.sum_gain_tidings hevents ht,
    sum_told Visit.sum_loss_tidings hevents ht, sum_told Visit.sum_refusals_tidings hevents ht]
    at hgrown
  have hadded := (hgrown.added.trans (UInt64.zero_add _))
  have hremoved := (hgrown.removed.trans (UInt64.zero_add _))
  have hlength : (visits.flatMap Visit.accepted).length =
      (q.run ops).len + (visits.flatMap Visit.departed).length := by
    rw [← hperm.length_eq, List.length_append, Nat.add_comm]
    rfl
  exact
    { serves := hserves
      events_eq := hevents
      sublist := hserves.sublist
      perm := hperm
      len_le := hle
      len_add_room := by
        rw [room, hcapacity]
        omega
      added := hadded
      removed := hremoved
      failedOffers := hgrown.failedOffers.trans (UInt64.zero_add _)
      balance := by rw [hadded, hremoved, hlength, UInt64.ofNat_add, UInt64.add_sub_cancel] }

/-- Two threads and a queue for two items: one waits for room while the other takes an item, moves
one and discards one. The events reach the counters in another order. -/
theorem orderly_run_small :
    let ops : List (Op Nat) := [.offer 1, .put 2, .offer 3, .put 4, .poll, .put 4, .drain 1 [0],
      .offerWithin 5 false, .retain fun _ n ↦ n == 5, .take, .pollWithin true]
    let visits := (ofCapacity 2).history ops
    let told : List Event := (visits.flatMap Visit.events).reverse
    told.Perm (visits.flatMap Visit.events) ∧
      Orderly 2 visits ((ofCapacity 2).run ops) (QueueCounters.tally {} told) ∧
      visits.flatMap Visit.handedOut = [1, 2, 5] ∧ visits.flatMap Visit.departed = [1, 2, 4, 5] ∧
      visits.flatMap Visit.rejected = [3] :=
  ⟨List.reverse_perm _, orderly_run 2 _ {} (List.reverse_perm _), by decide, by decide, by decide⟩

end Queue

end Telemetry
