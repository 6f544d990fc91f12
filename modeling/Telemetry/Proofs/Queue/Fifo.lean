import Mathlib.Data.List.Basic
import Telemetry.Queue

/-!
# Queues as bounded lists

`Queue.Served` says what an operation is to be answered by a list with room for some number of
items, what is told of it, and what list it leaves behind. It does not go by the single operations
but by what they have in common: those that bring an item along (`Op.brings`), those that ask for
the first one (`Op.asks`) and those that wait for what they do not find (`Op.waits`).

**A queue is such a list** (`Queue.serves_visit`), and as each operation can be served in one way
only (`Served.unique`), the list says all that threads can learn of the queue.
-/

namespace Telemetry

namespace Queue

variable {α : Type}

/-- The item that an operation brings along. -/
def Op.brings : Op α → Option α
  | offer item | offerWithin item _ | put item => some item
  | _ => none

/-- Whether an operation asks for the first item. -/
def Op.asks : Op α → Bool
  | poll | pollWithin _ | take => true
  | _ => false

/-- Whether an operation waits for what it does not find. -/
def Op.waits : Op α → Bool
  | put _ | take => true
  | offerWithin _ expired | pollWithin expired => !expired
  | _ => false

/-- **The bounded list.** What an operation is answered by a list that has room for `capacity`
items, the events that are told of it, and the list after it. -/
inductive Served (capacity : Nat) : Op α → List α → Answer α → List Event → List α → Prop
  /-- An item goes behind the others. -/
  | accept {op : Op α} {items : List α} {item : α} (brings : op.brings = some item)
      (room : items.length < capacity) :
      Served capacity op items (.offered (.ok ())) [.added 1] (items ++ [item])
  /-- A full list hands an item back to who does not wait. -/
  | reject {op : Op α} {items : List α} {item : α} (brings : op.brings = some item)
      (full : items.length = capacity) (impatient : op.waits = false) :
      Served capacity op items (.offered (.error item)) [.failedOffer] items
  | awaitRoom {op : Op α} {items : List α} {item : α} (brings : op.brings = some item)
      (full : items.length = capacity) (waits : op.waits = true) :
      Served capacity op items .waits [] items
  /-- The first item leaves. -/
  | hand {op : Op α} {item : α} {rest : List α} (asks : op.asks = true) :
      Served capacity op (item :: rest) (.polled (some item)) [.removed 1] rest
  /-- An empty list has nothing for who does not wait. -/
  | lack {op : Op α} (asks : op.asks = true) (impatient : op.waits = false) :
      Served capacity op [] (.polled none) [] []
  | awaitItem {op : Op α} (asks : op.asks = true) (waits : op.waits = true) :
      Served capacity op [] .waits [] []
  | peek {items : List α} : Served capacity .peek items (.front items.head?) [] items
  /-- The first items leave, as many as there are and may leave. -/
  | drain {limit n : Nat} {into items moved rest : List α} (split : items = moved ++ rest)
      (length : moved.length = n) (most : n = min items.length limit) :
      Served capacity (.drain limit into) items (.drained n (into ++ moved)) (removal n) rest
  /-- The items leave that fail the test. -/
  | retain {test : Nat → α → Bool} {items : List α} {n : Nat}
      (failing : n = (passing (fun i a ↦ !test i a) items).length) :
      Served capacity (.retain test) items (.retained n) (removal n) (passing test items)
  | len {items : List α} : Served capacity .len items (.number items.length) [] items
  | room {items : List α} : Served capacity .room items (.number (capacity - items.length)) [] items

/-- **Each operation can be served in one way only.** -/
theorem Served.unique {capacity : Nat} {op : Op α} {items after after' : List α}
    {answer answer' : Answer α} {events events' : List Event}
    (h : Served capacity op items answer events after)
    (h' : Served capacity op items answer' events' after') :
    answer' = answer ∧ events' = events ∧ after' = after := by
  cases op with
  | drain limit into =>
    cases h with
    | drain split length most =>
      cases h' with
      | drain split' length' most' =>
        have hn := most.trans most'.symm
        have hmoved := length.trans (hn.trans length'.symm)
        obtain ⟨rfl, rfl⟩ := List.append_inj (split.symm.trans split') hmoved
        exact ⟨by rw [hn], by rw [hn], rfl⟩
      | accept brings | reject brings | awaitRoom brings => cases brings
      | hand asks | lack asks | awaitItem asks => cases asks
    | accept brings | reject brings | awaitRoom brings => cases brings
    | hand asks | lack asks | awaitItem asks => cases asks
  | _ => cases h <;> cases h' <;> simp_all [Op.brings, Op.asks, Op.waits]

/-! ### Passing a test -/

/-- What passes a test keeps its order. -/
theorem passing_sublist (test : Nat → α → Bool) (items : List α) :
    (passing test items).Sublist items := by
  have h : (passing test items).Sublist (items.zipIdx.map Prod.fst) :=
    List.filter_sublist.map Prod.fst
  rwa [List.zipIdx_map_fst] at h

/-- An item passes a test or its negation. -/
theorem passing_not_append_perm (test : Nat → α → Bool) (items : List α) :
    (passing (fun i a ↦ !test i a) items ++ passing test items).Perm items := by
  have h := (List.perm_append_comm.trans
    (List.filter_append_perm (fun x : α × Nat ↦ test x.2 x.1) items.zipIdx)).map Prod.fst
  rwa [List.map_append, List.zipIdx_map_fst] at h

/-- What fails it is the rest. -/
theorem length_passing_not (test : Nat → α → Bool) (items : List α) :
    (passing (fun i a ↦ !test i a) items).length = items.length - (passing test items).length := by
  have h := (passing_not_append_perm test items).length_eq
  rw [List.length_append] at h
  omega

/-! ### Queues -/

/-- The step is one that a bounded list may take. -/
def Step.Serves (s : Step α (Answer α)) (q : Queue α) (op : Op α) : Prop :=
  Served q.capacity op q.items s.result s.events s.queue.items

@[simp] theorem isEmpty_iff (q : Queue α) : q.isEmpty = true ↔ q.items = [] := by
  simp [isEmpty, len]

/-- An offer by an operation that does not wait for room now. -/
theorem serves_offer (q : Queue α) {op : Op α} {item : α} (brings : op.brings = some item)
    (h : q.items.length < q.capacity ∨ op.waits = false) :
    ((q.offer item).map .offered).Serves q op := by
  rcases Nat.lt_or_eq_of_le q.length_le with room | full
  · simpa [Step.Serves, Step.map, offer, room] using Served.accept brings room
  · have impatient := h.resolve_left (by omega)
    simpa [Step.Serves, Step.map, offer, full] using Served.reject brings full impatient

/-- A request by an operation that does not wait for an item now. -/
theorem serves_poll (q : Queue α) {op : Op α} (asks : op.asks = true)
    (h : q.items ≠ [] ∨ op.waits = false) : (q.poll.map .polled).Serves q op := by
  rcases hitems : q.items with - | ⟨item, rest⟩
  · have impatient := h.resolve_left (by simpa using hitems)
    simpa [Step.Serves, Step.map, poll, keep, removal, hitems] using Served.lack asks impatient
  · simpa [Step.Serves, Step.map, poll, keep, removal, hitems] using Served.hand asks

/-- Whoever brings an item to a full queue may wait. -/
theorem serves_awaitRoom (q : Queue α) {op : Op α} {item : α} (brings : op.brings = some item)
    (h : ¬ (q.items.length < q.capacity)) (waits : op.waits = true) :
    (q.tell .waits).Serves q op := by
  have full := Nat.le_antisymm q.length_le (Nat.le_of_not_lt h)
  simpa [Step.Serves, tell] using Served.awaitRoom brings full waits

theorem serves_awaitItem (q : Queue α) {op : Op α} (asks : op.asks = true) (h : q.items = [])
    (waits : op.waits = true) : (q.tell .waits).Serves q op := by
  simpa [Step.Serves, tell, h] using Served.awaitItem asks waits

/-- **A queue is the bounded list** of its capacity and its items. -/
theorem serves_visit (q : Queue α) (op : Op α) : (q.visit op).Serves q op := by
  cases op with
  | offer item => exact q.serves_offer rfl (.inr rfl)
  | offerWithin item expired =>
    by_cases h : q.items.length < q.capacity ∨ expired = true
    · have hs : ((q.offer item).map .offered).Serves q (.offerWithin item expired) :=
        q.serves_offer rfl (h.imp_right fun h ↦ by simp [Op.waits, h])
      simpa [visit, offerWithin, h] using hs
    · obtain ⟨hroom, hexpired⟩ := not_or.1 h
      have hs : (q.tell .waits).Serves q (.offerWithin item expired) :=
        q.serves_awaitRoom rfl hroom (by simp [Op.waits, hexpired])
      simpa [visit, offerWithin, h] using hs
  | put item =>
    by_cases h : q.items.length < q.capacity
    · have hs : ((q.offer item).map .offered).Serves q (.put item) :=
        q.serves_offer rfl (.inl h)
      simpa [visit, put, offer, h, Step.map] using hs
    · have hs : (q.tell .waits).Serves q (.put item) := q.serves_awaitRoom rfl h rfl
      simpa [visit, put, offer, h] using hs
  | poll => exact q.serves_poll rfl (.inr rfl)
  | pollWithin expired =>
    by_cases h : q.items = [] ∧ expired = false
    · have hs : (q.tell .waits).Serves q (.pollWithin expired) :=
        q.serves_awaitItem rfl h.1 (by simp [Op.waits, h.2])
      simpa [visit, pollWithin, h] using hs
    · have hs : (q.poll.map .polled).Serves q (.pollWithin expired) :=
        q.serves_poll rfl ((not_and_or.1 h).imp_right fun h ↦ by simp [Op.waits, h])
      simpa [visit, pollWithin, h] using hs
  | take =>
    rcases hitems : q.items with - | ⟨item, rest⟩
    · have hs : (q.tell .waits).Serves q .take := q.serves_awaitItem rfl hitems rfl
      simpa [visit, take, poll, hitems] using hs
    · have hs : (q.poll.map .polled).Serves q .take :=
        q.serves_poll rfl (.inl (by simp [hitems]))
      simpa [visit, take, poll, hitems, Step.map] using hs
  | peek => exact .peek
  | drain limit into =>
    exact .drain (List.take_append_drop _ q.items).symm (by simp [drain]) rfl
  | retain test => exact .retain (length_passing_not test q.items).symm
  | len => exact .len
  | room => exact .room

end Queue

end Telemetry
