import Mathlib
import Telemetry.Proofs.Reservoir.Steps

/-!
# Values waiting to be counted

A reservoir of bins is used by its owner and by any number of recorders, whose calls come one after
another in whatever order (`Session`). Values are counted at different times: with an update, before
a reading, or when a recorder finds that enough of them wait.

**Every value is counted once, and in the order in which they were accepted.** A session has a log of
what was done to the counts (`Change`). Replayed from the start it gives both counts as they are
(`InTurn.total`, `InTurn.interval`), and the values counted in it, followed by those that still wait,
are all values accepted (`InTurn.in_order`). So a reading covers everything accepted before it
(`InTurn.shown`). What a call does to the counts (`Call.changes`) is said call by call, together with
what it does to the queue (`does_call`), and everything about runs follows from that by induction.

**The queue is short.** After each call fewer values than `backlogLimit` wait, and none after an
update or a reading. Recorders are refused if and only if the reservoir was given up before.
-/

namespace Telemetry.BinnedReservoir

/-! ### What is done to the counts -/

/-- What can be done to the two counts of a reservoir. -/
inductive Change where
  /-- A value is counted, in both. -/
  | count (v : UInt64)
  /-- The second one is started afresh. -/
  | rotation
  /-- The counts of a reading are added to the second one. -/
  | addition (sinceLast : Hdr)

namespace Change

/-- The count over the whole life after a change. -/
def onTotal (h : Hdr) : Change → Hdr
  | count v => h.record v.toNat
  | _ => h

/-- The count since the last reading after a change. -/
def onInterval (h : Hdr) : Change → Hdr
  | count v => h.record v.toNat
  | rotation => h.reset
  | addition sinceLast => h.add sinceLast

/-- The value counted by a change. -/
def value? : Change → Option UInt64
  | count v => some v
  | _ => none

end Change

/-- The values counted in a log, in their order. -/
def counted (log : List Change) : List UInt64 :=
  log.filterMap Change.value?

theorem counted_append (log more : List Change) :
    counted (log ++ more) = counted log ++ counted more :=
  List.filterMap_append

theorem counted_map_count (vs : List UInt64) : counted (vs.map .count) = vs := by
  rw [counted, List.filterMap_map]
  exact List.filterMap_some

/-- For the count over the whole life only the values matter. -/
theorem foldl_onTotal (log : List Change) (h : Hdr) :
    log.foldl Change.onTotal h = (counted log).foldl (fun h v ↦ h.record v.toNat) h := by
  rw [counted, List.foldl_filterMap]
  congr 1
  funext h x
  cases x <;> rfl

/-- A reservoir comes from another one by changes in its counts, and while these are made, values
come into the queue behind those that wait there and leave it to be counted. -/
structure Does (r : BinnedReservoir) (log : List Change) (vs : List UInt64) (r' : BinnedReservoir) :
    Prop where
  total : r'.total = log.foldl Change.onTotal r.total
  interval : r'.interval = log.foldl Change.onInterval r.interval
  in_order : counted log ++ r'.backlog.toList = r.backlog.toList ++ vs

variable {r r' r'' : BinnedReservoir} {log more : List Change} {vs ws : List UInt64}

theorem Does.trans (h : r.Does log vs r') (h' : r'.Does more ws r'') :
    r.Does (log ++ more) (vs ++ ws) r'' := by
  refine ⟨?_, ?_, ?_⟩
  · rw [List.foldl_append, ← h.total, h'.total]
  · rw [List.foldl_append, ← h.interval, h'.interval]
  · rw [counted_append, List.append_assoc, h'.in_order, ← List.append_assoc, h.in_order,
      List.append_assoc]

/-- A value is queued. -/
theorem does_push (r : BinnedReservoir) (v : UInt64) :
    r.Does [] [v] { r with backlog := r.backlog.push v } :=
  ⟨rfl, rfl, Array.toList_push⟩

/-- A value is counted at once. -/
theorem does_count (h : r.backlog = #[]) (v : UInt64) : r.Does [.count v] [v] (r.count v) := by
  refine ⟨rfl, rfl, ?_⟩
  show [v] ++ r.backlog.toList = _
  rw [h]
  rfl

/-- **The queue is folded in, oldest value first.** -/
theorem does_refresh (r : BinnedReservoir) :
    r.Does (r.backlog.toList.map .count) [] r.refresh := by
  refine ⟨?_, ?_, ?_⟩
  · rw [refresh, ← Array.foldl_toList, List.foldl_map]
    exact (List.foldl_hom total fun _ _ ↦ rfl).symm
  · rw [refresh, ← Array.foldl_toList, List.foldl_map]
    exact (List.foldl_hom interval fun _ _ ↦ rfl).symm
  · rw [counted_map_count, backlog_refresh]

theorem does_read (r : BinnedReservoir) :
    r.Does (r.backlog.toList.map .count ++ [.rotation]) [] r.read.2 := by
  have hrotation : r.refresh.Does [.rotation] [] r.read.2 := ⟨rfl, rfl, (List.append_nil _).symm⟩
  exact r.does_refresh.trans hrotation

/-! ### Calls -/

/-- The reservoir with any reading given back. -/
def giveBack (r : BinnedReservoir) : Reading → BinnedReservoir
  | .binned _ sinceLast => r.restore sinceLast
  | .sampled _ => r

/-- Giving back to a reservoir of which the kind is left open is the same. -/
theorem restore_binned (r : BinnedReservoir) (x : Reading) :
    (Reservoir.binned r).restore x = .binned (r.giveBack x) := by
  cases x <;> rfl

/-- What the owner of a reservoir and its recorders can do. -/
inductive Call where
  /-- By one of the recorders, which are told apart by numbers. -/
  | record (recorder : Nat) (v : UInt64)
  | update (v : UInt64)
  | read
  /-- A reading is given back, be it of this reservoir or of another. -/
  | restore (x : Reading)
  /-- The owner gives the reservoir up. -/
  | drop

/-- What comes of a call. -/
inductive Answer where
  /-- Whether the value was taken. -/
  | recorded (taken : Bool)
  | reading (total sinceLast : Hdr)
  | done
  /-- There is no owner any more that could make the call. -/
  | absent

namespace Call

/-- The answer to a call, and the reservoir afterwards. -/
def perform : Option BinnedReservoir → Call → Answer × Option BinnedReservoir
  | target, record _ v => (.recorded (recordInto target v).1, (recordInto target v).2)
  | none, _ => (.absent, none)
  | some r, update v => (.done, some (r.update v))
  | some r, read => (.reading r.read.1.1 r.read.1.2, some r.read.2)
  | some r, restore x => (.done, some (r.giveBack x))
  | some _, drop => (.done, none)

/-- What a call does to the counts of a reservoir. -/
def changes (r : BinnedReservoir) : Call → List Change
  | record _ v =>
    if backlogLimit ≤ r.backlog.size + 1 then (r.backlog.toList ++ [v]).map .count else []
  | update v => r.backlog.toList.map .count ++ [.count v]
  | read => r.backlog.toList.map .count ++ [.rotation]
  | restore (.binned _ sinceLast) => [.addition sinceLast]
  | restore (.sampled _) => []
  | drop => []

/-- Whether a call leaves no value waiting. -/
def empties : Call → Bool
  | update _ | read => true
  | _ => false

/-- Whether a call gives the reservoir up. -/
def isDrop : Call → Bool
  | drop => true
  | _ => false

end Call

/-- The value accepted with a call: one that was recorded and taken, or one of an update. -/
def accepted? : Call × Answer → Option UInt64
  | (.record _ v, .recorded true) => some v
  | (.update v, .done) => some v
  | _ => none

/-- The values accepted with some calls, in their order. -/
def accepted (answered : List (Call × Answer)) : List UInt64 :=
  answered.filterMap accepted?

/-- **What a call does to the counts and the queue.** -/
theorem does_call {c : Call} (h : (c.perform (some r)).2 = some r') :
    r.Does (c.changes r) (accepted [(c, (c.perform (some r)).1)]) r' := by
  cases c with
  | record k v =>
    obtain rfl : r.record v = r' := Option.some.inj h
    show r.Does (if _ then _ else _) [v] (if _ then _ else _)
    rw [Array.size_push]
    split
    · have hpush := (r.does_push v).trans (does_refresh _)
      rw [Array.toList_push] at hpush
      exact hpush
    · exact r.does_push v
  | update v =>
    obtain rfl : r.update v = r' := Option.some.inj h
    exact r.does_refresh.trans (does_count r.backlog_refresh v)
  | read =>
    obtain rfl : r.read.2 = r' := Option.some.inj h
    exact r.does_read
  | restore x =>
    obtain rfl : r.giveBack x = r' := Option.some.inj h
    cases x with
    | binned total sinceLast => exact ⟨rfl, rfl, (List.append_nil _).symm⟩
    | sampled values => exact ⟨rfl, rfl, (List.append_nil _).symm⟩
  | drop => cases h

/-- **No call leaves a long queue.** -/
theorem size_backlog_call {c : Call} (h : (c.perform (some r)).2 = some r')
    (hr : r.backlog.size < backlogLimit) : r'.backlog.size < backlogLimit := by
  have hempty {x : BinnedReservoir} (hx : x.backlog = #[]) : x.backlog.size < backlogLimit := by
    rw [hx]
    decide
  cases c with
  | record k v =>
    obtain rfl : r.record v = r' := Option.some.inj h
    show (if _ then _ else _ : BinnedReservoir).backlog.size < _
    split
    · exact hempty (backlog_refresh _)
    · next hsize => exact Nat.lt_of_not_le hsize
  | update v =>
    obtain rfl : r.update v = r' := Option.some.inj h
    exact hempty r.backlog_refresh
  | read =>
    obtain rfl : r.read.2 = r' := Option.some.inj h
    exact hempty r.backlog_refresh
  | restore x =>
    obtain rfl : r.giveBack x = r' := Option.some.inj h
    cases x <;> exact hr
  | drop => cases h

/-- A call that empties the queue leaves it empty, whatever was in it. -/
theorem backlog_call_of_empties {c : Call} (h : (c.perform (some r)).2 = some r')
    (hc : c.empties = true) : r'.backlog = #[] := by
  cases c with
  | update v =>
    obtain rfl : r.update v = r' := Option.some.inj h
    exact r.backlog_refresh
  | read =>
    obtain rfl : r.read.2 = r' := Option.some.inj h
    exact r.backlog_refresh
  | _ => cases hc

/-! ### Sessions -/

/-- A reservoir that may be given up, the calls made so far with their answers, the oldest first,
and what was done to its counts. -/
structure Session where
  target : Option BinnedReservoir
  answered : List (Call × Answer) := []
  log : List Change := []

/-- Whatever is asked, a reservoir that was given up does not come back. -/
theorem perform_none (c : Call) : (c.perform none).2 = none := by
  cases c <;> rfl

/-- A recorder is refused if there is no reservoir, and only then. -/
theorem answer_record (k : Nat) (v : UInt64) (target : Option BinnedReservoir) :
    ((Call.record k v).perform target).1 = .recorded target.isSome := by
  cases target <;> rfl

theorem isSome_perform (c : Call) (target : Option BinnedReservoir) :
    (c.perform target).2.isSome = (target.isSome && !c.isDrop) := by
  cases target with
  | none => exact congrArg Option.isSome (perform_none c)
  | some r => cases c <;> rfl

namespace Session

/-- The session before any call. -/
def opened (start : BinnedReservoir) : Session where
  target := some start

/-- The session after a call. -/
def call (s : Session) (c : Call) : Session where
  target := (c.perform s.target).2
  answered := s.answered ++ [(c, (c.perform s.target).1)]
  log := s.log ++ s.target.elim [] c.changes

/-- The session after some calls. -/
def run (s : Session) (calls : List Call) : Session :=
  calls.foldl call s

theorem log_prefix_run (s : Session) (calls : List Call) : s.log <+: (s.run calls).log := by
  induction calls generalizing s with
  | nil => exact List.prefix_refl _
  | cons c calls ih => exact (List.prefix_append _ _).trans (ih (s.call c))

variable {s : Session} {c : Call}

/-- What is there after a call was there before it, and the call was made on it. -/
theorem exists_of_mem_call (h : r' ∈ (s.call c).target) :
    ∃ r ∈ s.target, (c.perform (some r)).2 = some r' ∧ (s.call c).log = s.log ++ c.changes r ∧
      (s.call c).answered = s.answered ++ [(c, (c.perform (some r)).1)] := by
  obtain ⟨_ | r, answered, log⟩ := s
  · exact absurd ((perform_none c).symm.trans h) nofun
  · exact ⟨r, rfl, h, rfl, rfl⟩

end Session

/-- What stands in a list with one more behind stood in it before, or is what came. -/
theorem eq_or_exists_of_concat {α : Type} {l earlier later : List α} {x y : α}
    (h : l ++ [y] = earlier ++ x :: later) :
    (l = earlier ∧ y = x) ∨ ∃ later', l = earlier ++ x :: later' := by
  obtain rfl | ⟨later, z, rfl⟩ := later.eq_nil_or_concat'
  · obtain ⟨hl, hy⟩ := List.append_inj' h rfl
    exact .inl ⟨hl, List.singleton_inj.1 hy⟩
  · rw [← List.cons_append, ← List.append_assoc] at h
    exact .inr ⟨later, (List.append_inj' h rfl).1⟩

/-- What holds of a session that began with a reservoir, after some calls. -/
structure InTurn (start : BinnedReservoir) (calls : List Call) (s : Session) : Prop where
  asked : s.answered.map Prod.fst = calls
  total : ∀ r ∈ s.target, r.total = s.log.foldl Change.onTotal start.total
  interval : ∀ r ∈ s.target, r.interval = s.log.foldl Change.onInterval start.interval
  /-- **No value that was accepted is lost, counted twice or overtaken.** -/
  in_order : ∀ r ∈ s.target, counted s.log ++ r.backlog.toList = accepted s.answered
  /-- What was counted stays counted. -/
  grows : ∀ more, s.log <+: (s.run more).log
  bounded : ∀ r ∈ s.target, r.backlog.size < backlogLimit
  emptied : ∀ r ∈ s.target, ∀ earlier c a, s.answered = earlier ++ [(c, a)] → c.empties = true →
    r.backlog = #[]
  /-- With an update, everything accepted before it is counted before it. -/
  updated : ∀ r ∈ s.target, ∀ earlier v a, s.answered = earlier ++ [(.update v, a)] →
    counted s.log = accepted earlier ++ [v]
  present : s.target.isSome = !calls.any Call.isDrop
  /-- Recorders are refused from the drop on, and at no other time. -/
  answers : ∀ earlier k v a later, s.answered = earlier ++ (.record k v, a) :: later →
    a = .recorded (!(earlier.map Prod.fst).any Call.isDrop)
  /-- A reading shows everything accepted before it. -/
  shown : ∀ earlier total sinceLast later,
    s.answered = earlier ++ (.read, .reading total sinceLast) :: later →
      total = (accepted earlier).foldl (fun h v ↦ h.record v.toNat) start.total

namespace InTurn

variable {start : BinnedReservoir} {s : Session} {calls : List Call} {c : Call}

/-- Before any call there is nothing to tell. -/
theorem opened (h : start.backlog = #[]) : InTurn start [] (.opened start) where
  asked := rfl
  total := by
    rintro r ⟨⟩
    rfl
  interval := by
    rintro r ⟨⟩
    rfl
  in_order := by
    rintro r ⟨⟩
    exact congrArg Array.toList h
  grows := Session.log_prefix_run _
  bounded := by
    rintro r ⟨⟩
    rw [h]
    decide
  emptied _ _ _ _ _ hlast := absurd hlast.symm (List.append_ne_nil_of_right_ne_nil _ nofun)
  updated _ _ _ _ _ hlast := absurd hlast.symm (List.append_ne_nil_of_right_ne_nil _ nofun)
  present := rfl
  answers _ _ _ _ _ hmid := absurd hmid.symm (List.append_ne_nil_of_right_ne_nil _ nofun)
  shown _ _ _ _ hmid := absurd hmid.symm (List.append_ne_nil_of_right_ne_nil _ nofun)

/-- **A call keeps the order**: what was counted and what is queued are together what was accepted,
in turn. -/
theorem in_order_call (h : InTurn start calls s) (hr' : r' ∈ (s.call c).target) :
    counted (s.call c).log ++ r'.backlog.toList = accepted (s.call c).answered := by
  obtain ⟨r, hr, hperform, hlog, hanswered⟩ := Session.exists_of_mem_call hr'
  calc counted (s.call c).log ++ r'.backlog.toList
      = counted s.log ++ (counted (c.changes r) ++ r'.backlog.toList) := by
        rw [hlog, counted_append, List.append_assoc]
    _ = counted s.log ++ r.backlog.toList ++ accepted [(c, (c.perform (some r)).1)] := by
        rw [(does_call hperform).in_order, List.append_assoc]
    _ = accepted (s.call c).answered := by
        rw [h.in_order r hr, hanswered, accepted, accepted, accepted, List.filterMap_append]

/-- After a call that empties the queue, nothing is queued. -/
theorem emptied_call {earlier : List (Call × Answer)} {d : Call} {a : Answer}
    (hr' : r' ∈ (s.call c).target) (hlast : (s.call c).answered = earlier ++ [(d, a)])
    (hd : d.empties = true) : r'.backlog = #[] := by
  obtain ⟨r, -, hperform, -, hanswered⟩ := Session.exists_of_mem_call hr'
  obtain ⟨-, hc⟩ := List.append_inj' (hanswered.symm.trans hlast) rfl
  cases hc
  exact backlog_call_of_empties hperform hd

/-- What a reading shows for the whole life are the accepted values, recorded one after the other.
-/
theorem total_read (h : InTurn start calls s) {total sinceLast : Hdr}
    (hread : (Call.read.perform s.target).1 = .reading total sinceLast) :
    total = (accepted s.answered).foldl (fun h v ↦ h.record v.toNat) start.total := by
  obtain ⟨_ | r, answered, log⟩ := s
  · cases hread
  · obtain ⟨rfl, -⟩ := Answer.reading.inj hread
    show r.refresh.total = _
    rw [r.does_refresh.total, h.total r rfl, foldl_onTotal, foldl_onTotal, counted_map_count,
      ← List.foldl_append, h.in_order r rfl]

/-- **Every call keeps to the order.** -/
theorem call (h : InTurn start calls s) (c : Call) :
    InTurn start (calls ++ [c]) (s.call c) where
  asked := by
    rw [Session.call, List.map_append, h.asked]
    rfl
  total := by
    intro r' hr'
    obtain ⟨r, hr, hperform, hlog, -⟩ := Session.exists_of_mem_call hr'
    rw [(does_call hperform).total, h.total r hr, hlog, List.foldl_append]
  interval := by
    intro r' hr'
    obtain ⟨r, hr, hperform, hlog, -⟩ := Session.exists_of_mem_call hr'
    rw [(does_call hperform).interval, h.interval r hr, hlog, List.foldl_append]
  in_order := fun _ hr' ↦ h.in_order_call hr'
  grows := Session.log_prefix_run _
  bounded := by
    intro r' hr'
    obtain ⟨r, hr, hperform, -, -⟩ := Session.exists_of_mem_call hr'
    exact size_backlog_call hperform (h.bounded r hr)
  emptied := fun _ hr' _ _ _ hlast hd ↦ emptied_call hr' hlast hd
  updated := by
    intro r' hr' earlier v a hlast
    obtain ⟨r, -, -, -, hanswered⟩ := Session.exists_of_mem_call hr'
    obtain ⟨rfl, hc⟩ := List.append_inj' (hanswered.symm.trans hlast) rfl
    have hfirst := h.in_order_call hr'
    rw [emptied_call hr' hlast rfl, hanswered, accepted, List.filterMap_append] at hfirst
    cases hc
    exact (List.append_nil _).symm.trans hfirst
  present := by
    rw [Session.call, isSome_perform, h.present, List.any_append, Bool.not_or]
    simp only [List.any_cons, List.any_nil, Bool.or_false]
  answers := by
    intro earlier k v a later hmid
    obtain ⟨rfl, hc⟩ | ⟨later', hmid⟩ := eq_or_exists_of_concat hmid
    · cases hc
      rw [answer_record, h.present, h.asked]
    · exact h.answers earlier k v a later' hmid
  shown := by
    intro earlier total sinceLast later hmid
    obtain ⟨rfl, hc⟩ | ⟨later', hmid⟩ := eq_or_exists_of_concat hmid
    · obtain ⟨rfl, ha⟩ := Prod.mk.inj hc
      exact h.total_read ha
    · exact h.shown earlier total sinceLast later' hmid

/-- **Every run keeps to the order.** -/
theorem run (h : InTurn start calls s) (more : List Call) :
    InTurn start (calls ++ more) (s.run more) := by
  induction more generalizing calls s with
  | nil =>
    rw [List.append_nil]
    exact h
  | cons c more ih =>
    rw [← List.singleton_append, ← List.append_assoc]
    exact ih (h.call c)

end InTurn

/-- **However calls come one after another, every accepted value is counted once and in its turn.**
This holds of any reservoir that is made, whatever its recorders and its owner do with it. -/
theorem inTurn_run {digits : Nat} {ceiling : UInt64} {start : BinnedReservoir}
    (h : create digits ceiling.toNat = .ok start) (calls : List Call) :
    InTurn start calls ((Session.opened start).run calls) := by
  obtain ⟨hd, rfl⟩ := create_eq h
  exact (InTurn.opened rfl).run calls

/-- Two recorders and an update, until the reservoir is gone: the values accepted come in turn, and
the one after that is refused. -/
theorem inTurn_run_small :
    ∃ start calls, create 3 (2 : UInt64).toNat = .ok start ∧
      calls = [.record 0 5, .record 1 7, .update 9, .record 0 4, .drop, .record 1 8] ∧
      accepted ((Session.opened start).run calls).answered = [5, 7, 9, 4] ∧
      InTurn start calls ((Session.opened start).run calls) :=
  have hstart : create 3 (2 : UInt64).toNat = .ok (ofLayout defaultLayout 2) := rfl
  ⟨_, _, hstart, rfl, rfl, inTurn_run hstart _⟩

end Telemetry.BinnedReservoir
