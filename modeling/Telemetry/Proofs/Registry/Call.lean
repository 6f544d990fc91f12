import Mathlib
import Telemetry.Proofs.Registry.Shown
import Telemetry.Proofs.Run.Step

/-!
# What a registry is asked

A `Registry.Call` is one of the ten things that a program may ask of a registry, and `World.call` is
what it is answered and what becomes of the world.

**A registry is a finite map from names to metrics.** What it is to answer, and which map is there
afterwards, is said by `Registry.Answers` for the families of calls: those that take a name for
themselves (`Call.claims`), those that ask for a metric of a kind (`Call.asks`) and those that make
one if there is none (`Call.makes`). A new metric is one that was not in the store, so no name and
no catalogue led to it before.

A call that is refused changes nothing (`World.call_refused`), but for a group of metrics of which
those before the name that was taken stay.
-/

namespace Telemetry

/-- The metrics to which names lead. -/
abbrev Names := String → Option Handle

/-- The names of a world. -/
def World.names (w : World) : Names :=
  w.registry.find?

namespace Registry

/-- What a program asks of a registry. -/
inductive Call where
  | register (name : String) (h : Handle)
  | gauge (name : String) (g : Gauge)
  | counter (name : String)
  | meter (name : String)
  | histogram (name : String)
  | timer (name : String)
  | registerSet (group : String) (entries : List (String × Handle))
  | remove (name : String)
  | snapshot
  | snapshotWhere (f : Filter)

/-- What the program is answered. -/
inductive Answer where
  | done
  | metric (h : Handle)
  | refused (e : RegistryError)
  | removed (h : Option Handle)
  | shown (c : Catalogue)

namespace Call

/-- The name that a call is to take for a metric, if it is not taken. -/
def claims : Call → Option String
  | register name _ | gauge name _ => some name
  | _ => none

/-- The kind and name of the metric that a call asks for. -/
def asks : Call → Option (Kind × String)
  | counter name => some (.counter, name)
  | meter name => some (.meter, name)
  | histogram name => some (.histogram, name)
  | timer name => some (.timer, name)
  | _ => none

/-- The kind and name of the metric that a call makes if the name is free. -/
def makes : Call → Option (Kind × String)
  | gauge name _ => some (.gauge, name)
  | c => c.asks

/-- The metrics that a call brings along. -/
def brings : Call → List Handle
  | register _ h => [h]
  | registerSet _ entries => entries.map (·.2)
  | _ => []

/-- Whoever asks for a metric would have it made under that name. -/
theorem makes_of_asks {c : Call} {x : Kind × String} (h : c.asks = some x) : c.makes = some x := by
  cases c <;> first | exact h | cases h

end Call

/-- Some metrics have come to names of a group that were free. -/
structure Joined (group : String) (entries : List (String × Handle)) (m m' : Names) : Prop where
  nodup : (entries.map fun e ↦ joined group e.1).Nodup
  free : ∀ e ∈ entries, m (joined group e.1) = none
  taken : ∀ e ∈ entries, m' (joined group e.1) = some e.2
  kept : ∀ name ∉ entries.map (fun e ↦ joined group e.1), m' name = m name

/-- **The finite map.** What a call is answered if names lead to metrics as they do, and to which
metrics they lead afterwards. -/
inductive Answers (isNew : Handle → Prop) (m : Names) : Call → Answer → Names → Prop
  | register {name : String} {h : Handle} (free : m name = none) :
      Answers isNew m (.register name h) .done (Function.update m name (some h))
  /-- A new metric gets the name. -/
  | make {c : Call} {name : String} {h : Handle} (makes : c.makes = some (h.kind, name))
      (free : m name = none) (new : isNew h) :
      Answers isNew m c (.metric h) (Function.update m name (some h))
  /-- The metric of the name is the one that is asked for. -/
  | find {c : Call} {name : String} {h : Handle} (asks : c.asks = some (h.kind, name))
      (held : m name = some h) : Answers isNew m c (.metric h) m
  | mismatch {c : Call} {k : Kind} {name : String} {h : Handle} (asks : c.asks = some (k, name))
      (held : m name = some h) (differs : h.kind ≠ k) :
      Answers isNew m c (.refused (.kindMismatch name h.kind)) m
  | duplicate {c : Call} {name : String} {h : Handle} (claims : c.claims = some name)
      (held : m name = some h) : Answers isNew m c (.refused (.duplicate name)) m
  | registerSet {group : String} {entries : List (String × Handle)} {m' : Names}
      (come : Joined group entries m m') :
      Answers isNew m (.registerSet group entries) .done m'
  /-- The metrics before the first whose name was taken, before or by one of them, get theirs. -/
  | registerUpTo {group : String} {before after : List (String × Handle)} {e : String × Handle}
      {m' : Names} (come : Joined group before m m')
      (taken : (m' (joined group e.1)).isSome) :
      Answers isNew m (.registerSet group (before ++ e :: after))
        (.refused (.duplicate (joined group e.1))) m'
  | remove {name : String} :
      Answers isNew m (.remove name) (.removed (m name)) (Function.update m name none)
  | snapshot {c : Catalogue} (shows : c.Shows m) : Answers isNew m .snapshot (.shown c) m
  | snapshotWhere {c : Catalogue} {f : Filter} (shows : c.Shows m) :
      Answers isNew m (.snapshotWhere f) (.shown (c.filter f)) m

end Registry

/-! ### Calls -/

namespace World

/-- The answer to a call that may be refused, and the world after it. -/
def settle (w : World) : Except RegistryError (Registry.Answer × World) → Registry.Answer × World
  | .ok x => x
  | .error e => (.refused e, w)

/-- What a call is answered, and the world after it. -/
def call (w : World) : Registry.Call → Registry.Answer × World
  | .register name h => w.settle ((w.register name h).map fun w ↦ (.done, w))
  | .gauge name g => w.settle ((w.gauge name g).map fun x ↦ (.metric (.gauge x.1), x.2))
  | .counter name => w.settle ((w.counter name).map fun x ↦ (.metric (.counter x.1), x.2))
  | .meter name => w.settle ((w.meter name).map fun x ↦ (.metric (.meter x.1), x.2))
  | .histogram name => w.settle ((w.histogram name).map fun x ↦ (.metric (.histogram x.1), x.2))
  | .timer name => w.settle ((w.timer name).map fun x ↦ (.metric (.timer x.1), x.2))
  | .registerSet group entries =>
    let x := w.registry.registerSet group entries
    (x.2.elim .done .refused, { w with registry := x.1 })
  | .remove name =>
    let x := w.registry.remove name
    (.removed x.1, { w with registry := x.2 })
  | .snapshot => (.shown w.registry.catalogue, w)
  | .snapshotWhere f => (.shown (w.registry.catalogueWhere f), w)

variable {w : World} {c : Registry.Call} {name : String} {k : Kind} {h : Handle}

/-- Adopting a metric puts it under its name. -/
theorem names_adopt (w : World) (name : String) (h : Handle) (st : Store) :
    (w.adopt name h st).names = Function.update w.names name (some h) := by
  funext q
  rw [Function.update_apply]
  exact w.registry.find?_insert name h q

/-! ### What becomes of a call -/

/-- Whoever asks for a name that is taken gets the metric under it, or is told its kind. -/
theorem call_of_held (hasks : c.asks = some (k, name)) (hh : w.names name = some h) :
    w.call c = (if h.kind = k then .metric h else .refused (.kindMismatch name h.kind), w) := by
  have hfind : w.registry.find? name = some h := hh
  cases c <;> cases hasks <;> simp only [call, counter, meter, histogram, timer, hfind] <;>
    cases h <;> rfl

/-- Whoever wants such a name for a new metric is refused. -/
theorem call_of_claimed (hclaims : c.claims = some name) (hh : w.names name = some h) :
    w.call c = (.refused (.duplicate name), w) := by
  have hfind : w.registry.find? name = some h := hh
  cases c <;> cases hclaims <;>
    simp only [call, gauge, register, Registry.register, hfind] <;> rfl

/-- A metric is registered under a name that is free. -/
theorem call_register_of_free (h : Handle) (hfree : w.names name = none) :
    w.call (.register name h) = (.done, w.adopt name h w.store) := by
  have hfind : w.registry.find? name = none := hfree
  simp only [call, register, Registry.register, hfind]
  rfl

/-- A free name gets a new metric of the kind that is asked for. -/
theorem call_of_free (hmakes : c.makes = some (k, name)) (hfree : w.names name = none) :
    ∃ b, (w.fresh b).handle.kind = k ∧ w.call c =
      (.metric (w.fresh b).handle, w.adopt name (w.fresh b).handle (w.store.put (w.fresh b))) := by
  have hfind : w.registry.find? name = none := hfree
  cases c with
  | gauge _ g =>
    cases hmakes
    refine ⟨.gauge g, rfl, ?_⟩
    simp only [call, gauge, register, Registry.register, hfind]
    rfl
  | counter =>
    cases hmakes
    refine ⟨.counter, rfl, ?_⟩
    simp only [call, counter, hfind]
    rfl
  | meter =>
    cases hmakes
    refine ⟨.meter, rfl, ?_⟩
    simp only [call, meter, hfind]
    rfl
  | histogram =>
    cases hmakes
    refine ⟨.histogram default, rfl, ?_⟩
    simp only [call, histogram, hfind]
    rfl
  | timer =>
    cases hmakes
    refine ⟨.timer default, rfl, ?_⟩
    simp only [call, timer, hfind]
    rfl
  | _ => cases hmakes

/-- A call that would make a metric does nothing if the name is taken. -/
theorem call_of_taken (hmakes : c.makes = some (k, name)) (hh : w.names name = some h) :
    (w.call c).2 = w := by
  cases c with
  | gauge =>
    cases hmakes
    rw [call_of_claimed rfl hh]
  | counter | meter | histogram | timer =>
    cases hmakes
    rw [call_of_held rfl hh]
  | _ => cases hmakes

/-- **A call that is refused changes nothing**, but that of a group. -/
theorem call_refused {e : RegistryError} (hc : ∀ group entries, c ≠ .registerSet group entries)
    (h : (w.call c).1 = .refused e) : (w.call c).2 = w := by
  have hmakes {k name} (hmakes : c.makes = some (k, name)) : (w.call c).2 = w := by
    cases hname : w.names name with
    | none =>
      obtain ⟨b, -, hcall⟩ := call_of_free hmakes hname
      rw [hcall] at h
      cases h
    | some h' => exact call_of_taken hmakes hname
  cases c with
  | register name h' =>
    cases hname : w.names name with
    | none =>
      rw [call_register_of_free h' hname] at h
      cases h
    | some h'' => rw [call_of_claimed rfl hname]
  | gauge | counter | meter | histogram | timer => exact hmakes rfl
  | registerSet group entries => exact absurd rfl (hc group entries)
  | remove | snapshot | snapshotWhere => cases h

/-- **No call writes to a metric that was there.** -/
theorem store_call (w : World) (c : Registry.Call) :
    (w.call c).2.store = w.store ∨ ∃ b, (w.call c).2.store = w.store.put (w.fresh b) := by
  have hmakes {k name} (hmakes : c.makes = some (k, name)) :
      (w.call c).2.store = w.store ∨ ∃ b, (w.call c).2.store = w.store.put (w.fresh b) := by
    cases hname : w.names name with
    | none =>
      obtain ⟨b, -, hcall⟩ := call_of_free hmakes hname
      exact .inr ⟨b, by rw [hcall]; rfl⟩
    | some h => exact .inl (by rw [call_of_taken hmakes hname])
  cases c with
  | register name h =>
    cases hname : w.names name with
    | none => exact .inl (by rw [call_register_of_free h hname]; rfl)
    | some h' => exact .inl (by rw [call_of_claimed rfl hname])
  | gauge | counter | meter | histogram | timer => exact hmakes rfl
  | registerSet | remove | snapshot | snapshotWhere => exact .inl rfl

end World

/-! ### What calls leave of the names -/

namespace Registry

variable {group name : String} {h : Handle} {entries entries' : List (String × Handle)}
  {m m' m'' : Names}

theorem Joined.nil : Joined group [] m m :=
  ⟨List.nodup_nil, by simp, by simp, fun _ _ ↦ rfl⟩

/-- The first of a group comes under a free name, and the others come after it. Their names are free
behind it, so none of them is its own. -/
theorem Joined.cons (hfree : m (joined group name) = none)
    (hrest : Joined group entries (Function.update m (joined group name) (some h)) m') :
    Joined group ((name, h) :: entries) m m' := by
  -- The others of the group find the name taken, so none of them has it.
  have hne : ∀ e ∈ entries, joined group e.1 ≠ joined group name := by
    intro e he heq
    have hnone := hrest.free e he
    rw [heq, Function.update_self] at hnone
    cases hnone
  have hnot : joined group name ∉ entries.map fun e ↦ joined group e.1 := by
    intro hmem
    obtain ⟨e, he, heq⟩ := List.mem_map.1 hmem
    exact hne e he heq
  refine ⟨List.nodup_cons.2 ⟨hnot, hrest.nodup⟩, List.forall_mem_cons.2 ⟨hfree, fun e he ↦ ?_⟩,
    List.forall_mem_cons.2 ⟨?_, hrest.taken⟩, fun q hq ↦ ?_⟩
  · have hnone := hrest.free e he
    rwa [Function.update_of_ne (hne e he)] at hnone
  · rw [hrest.kept _ hnot, Function.update_self]
  · obtain ⟨hfirst, hothers⟩ := not_or.1 (List.mem_cons.not.1 hq)
    rw [hrest.kept q hothers, Function.update_of_ne hfirst]

/-- A name keeps its metric when a group comes. -/
theorem Joined.kept_of_held (hj : Joined group entries m m') (hm : m name = some h) :
    m' name = some h := by
  rw [hj.kept, hm]
  intro hmem
  obtain ⟨e, he, rfl⟩ := List.mem_map.1 hmem
  rw [hj.free e he] at hm
  cases hm

/-- Behind the group a name has a metric that it had before or one from the group. -/
theorem Joined.held_cases (hj : Joined group entries m m') (hm : m' name = some h) :
    m name = some h ∨ h ∈ entries.map (·.2) := by
  by_cases hmem : name ∈ entries.map fun e ↦ joined group e.1
  · obtain ⟨e, he, rfl⟩ := List.mem_map.1 hmem
    rw [hj.taken e he] at hm
    exact .inr (List.mem_map.2 ⟨e, he, Option.some.inj hm⟩)
  · exact .inl (hj.kept name hmem ▸ hm)

/-- **A name keeps its metric** unless it is removed. -/
theorem Answers.kept {isNew : Handle → Prop} {c : Call} {a : Answer} (ha : Answers isNew m c a m')
    (hc : c ≠ .remove name) (hm : m name = some h) : m' name = some h := by
  have hupdate {name' : String} {h' : Option Handle} (hne : name ≠ name') :
      Function.update m name' h' name = some h := by
    rwa [Function.update_of_ne hne]
  cases ha with
  | register free => exact hupdate fun heq ↦ by simp [← heq, hm] at free
  | make makes free new => exact hupdate fun heq ↦ by simp [← heq, hm] at free
  | registerSet come => exact come.kept_of_held hm
  | registerUpTo come taken => exact come.kept_of_held hm
  | remove => exact hupdate fun heq ↦ hc (heq ▸ rfl)
  | _ => exact hm

/-- Where the metrics come from to which names lead. -/
theorem Answers.held_cases {isNew : Handle → Prop} {c : Call} {a : Answer}
    (ha : Answers isNew m c a m') (hm : m' name = some h) :
    m name = some h ∨ isNew h ∨ h ∈ c.brings := by
  have hupdate {name' : String} {h' : Option Handle}
      (hm : Function.update m name' h' name = some h) : m name = some h ∨ h' = some h := by
    rw [Function.update_apply] at hm
    split at hm
    · exact .inr hm
    · exact .inl hm
  cases ha with
  | register free =>
    exact (hupdate hm).imp_right fun heq ↦ .inr (List.mem_singleton.2 (Option.some.inj heq).symm)
  | make makes free new =>
    refine (hupdate hm).imp_right fun heq ↦ .inl ?_
    rwa [← Option.some.inj heq]
  | registerSet come => exact (come.held_cases hm).imp_right .inr
  | registerUpTo come taken =>
    refine (come.held_cases hm).imp_right fun hmem ↦ .inr ?_
    rw [Call.brings, List.map_append]
    exact List.mem_append_left _ hmem
  | remove => exact (hupdate hm).imp_right nofun
  | _ => exact .inl hm

/-- A catalogue that is shown has metrics of the registry only. -/
theorem Answers.held_of_shown {isNew : Handle → Prop} {c : Call} {shown : Catalogue} {k : Kind}
    {e : String × Handle} (ha : Answers isNew m c (.shown shown) m') (he : e ∈ shown.part k) :
    m e.1 = some e.2 := by
  cases ha with
  | snapshot shows => exact ((shows.mem_part_iff k e.1 e.2).1 he).1
  | snapshotWhere shows =>
    rw [Catalogue.part_filter] at he
    exact ((shows.mem_part_iff k e.1 e.2).1 (List.mem_of_mem_filter he)).1

/-! ### Groups of metrics -/

/-- What becomes of a group, from the names that were there before. -/
theorem joined_registerSet (r : Registry) (group : String) (entries : List (String × Handle)) :
    (Joined group entries r.find? (r.registerSet group entries).1.find? ∧
        (r.registerSet group entries).2 = none) ∨
      ∃ before e after, entries = before ++ e :: after ∧
        Joined group before r.find? (r.registerSet group entries).1.find? ∧
        ((r.registerSet group entries).1.find? (joined group e.1)).isSome ∧
        (r.registerSet group entries).2 = some (.duplicate (joined group e.1)) := by
  induction entries generalizing r with
  | nil => exact .inl ⟨.nil, rfl⟩
  | cons e entries ih =>
    obtain ⟨name, h⟩ := e
    cases hfind : r.find? (joined group name) with
    | some h' =>
      have hset : r.registerSet group ((name, h) :: entries) =
          (r, some (.duplicate (joined group name))) := by
        simp only [registerSet, register, hfind]
      exact .inr ⟨[], (name, h), entries, rfl, hset ▸ .nil, by simp [hset, hfind], by rw [hset]⟩
    | none =>
      have hset : r.registerSet group ((name, h) :: entries) =
          registerSet ⟨r.names.insert (joined group name) h⟩ group entries := by
        simp only [registerSet, register, hfind]
      have hnames : (⟨r.names.insert (joined group name) h⟩ : Registry).find? =
          Function.update r.find? (joined group name) (some h) := by
        funext q
        rw [find?_insert, Function.update_apply]
      have hrest := ih ⟨r.names.insert (joined group name) h⟩
      rw [hset]
      rw [hnames] at hrest
      rcases hrest with ⟨hcome, hdone⟩ | ⟨before, e, after, rfl, hcome, htaken, herror⟩
      · exact .inl ⟨.cons hfind hcome, hdone⟩
      · exact .inr ⟨(name, h) :: before, e, after, rfl, .cons hfind hcome, htaken, herror⟩

/-- In another order the same group comes. -/
theorem Joined.perm (hj : Joined group entries m m') (hp : entries.Perm entries') :
    Joined group entries' m m' where
  nodup := (hp.map _).nodup_iff.1 hj.nodup
  free e he := hj.free e (hp.mem_iff.2 he)
  taken e he := hj.taken e (hp.mem_iff.2 he)
  kept name hname := hj.kept name fun hmem ↦ hname ((hp.map _).mem_iff.1 hmem)

/-- There is one way only for a group to come. -/
theorem Joined.unique (hj : Joined group entries m m') (hj' : Joined group entries m m'') :
    m' = m'' := by
  funext name
  by_cases hmem : name ∈ entries.map fun e ↦ joined group e.1
  · obtain ⟨e, he, rfl⟩ := List.mem_map.1 hmem
    rw [hj.taken e he, hj'.taken e he]
  · rw [hj.kept name hmem, hj'.kept name hmem]

/-- If all of a group can come, the first of it leave the names of the others free. -/
theorem Joined.free_of_append {e : String × Handle}
    (hj : Joined group (entries ++ e :: entries') m m') (hj' : Joined group entries m m'') :
    m'' (joined group e.1) = none := by
  have hnodup := hj.nodup
  rw [List.map_append, List.map_cons] at hnodup
  have hnot : joined group e.1 ∉ entries.map fun e ↦ joined group e.1 := fun hmem ↦
    List.disjoint_of_nodup_append hnodup hmem List.mem_cons_self
  rw [hj'.kept _ hnot]
  exact hj.free e (List.mem_append_right _ List.mem_cons_self)

/-- **The order within a group does not matter** if all of it can come. -/
theorem registerSet_perm (r : Registry) (hp : entries.Perm entries')
    (h : (r.registerSet group entries).2 = none) :
    r.registerSet group entries' = r.registerSet group entries := by
  have hcome : Joined group entries r.find? (r.registerSet group entries).1.find? := by
    rcases r.joined_registerSet group entries with ⟨hcome, -⟩ | ⟨_, _, _, _, _, _, herror⟩
    · exact hcome
    · rw [h] at herror
      cases herror
  rcases r.joined_registerSet group entries' with
    ⟨hcome', hdone⟩ | ⟨before, e, after, rfl, hcome', htaken, -⟩
  · have hsame : (r.registerSet group entries').1 = (r.registerSet group entries).1 :=
      ext_find? (congrFun (hcome'.unique (hcome.perm hp)))
    exact Prod.ext hsame (hdone.trans h.symm)
  · rw [(hcome.perm hp).free_of_append hcome'] at htaken
    cases htaken

end Registry

/-! ### The finite map -/

namespace World

/-- The metric has come to the store between two worlds. -/
def Made (w w' : World) (h : Handle) : Prop :=
  ¬ h.In w.store ∧ h.In w'.store

/-- What the world is to answer by its names. -/
def Answers (w : World) (c : Registry.Call) : Prop :=
  Registry.Answers (w.Made (w.call c).2) w.names c (w.call c).1 (w.call c).2.names

/-- A new metric under a name was made. -/
theorem made_fresh (w : World) (b : Blueprint) (name : String) :
    w.Made (w.adopt name (w.fresh b).handle (w.store.put (w.fresh b))) (w.fresh b).handle := by
  refine ⟨fun hin ↦ w.handle_fresh_ne b hin rfl, ?_⟩
  rw [Handle.In, adopt, Store.size_put, if_pos rfl]
  exact Nat.lt_of_lt_of_le (Nat.lt_succ_self _) (Nat.le_max_right _ _)

/-- Whoever wants a metric made under a free name is answered as a finite map would. -/
theorem answers_make {w : World} {c : Registry.Call} {k : Kind} {name : String}
    (hmakes : c.makes = some (k, name)) (hfree : w.names name = none) : w.Answers c := by
  obtain ⟨b, rfl, hcall⟩ := call_of_free hmakes hfree
  rw [Answers, hcall, names_adopt]
  exact .make hmakes hfree (w.made_fresh b name)

/-- Whoever asks for a metric is answered so too, whether the name is free or not. -/
theorem answers_ask {w : World} {c : Registry.Call} {k : Kind} {name : String}
    (hasks : c.asks = some (k, name)) : w.Answers c := by
  cases hname : w.names name with
  | none => exact answers_make (Registry.Call.makes_of_asks hasks) hname
  | some h =>
    rw [Answers, call_of_held hasks hname]
    by_cases hk : h.kind = k
    · rw [if_pos hk]
      exact .find (hk ▸ hasks) hname
    · rw [if_neg hk]
      exact .mismatch hasks hname hk

/-- **A registry is a finite map.** -/
theorem answers_call (w : World) (c : Registry.Call) : w.Answers c := by
  cases c with
  | register name h =>
    cases hname : w.names name with
    | none =>
      rw [Answers, call_register_of_free h hname, names_adopt]
      exact .register hname
    | some h' =>
      rw [Answers, call_of_claimed rfl hname]
      exact .duplicate rfl hname
  | gauge name g =>
    cases hname : w.names name with
    | none => exact answers_make rfl hname
    | some h' =>
      rw [Answers, call_of_claimed rfl hname]
      exact .duplicate rfl hname
  | counter | meter | histogram | timer => exact answers_ask rfl
  | registerSet group entries =>
    rcases Registry.joined_registerSet w.registry group entries with
      ⟨hcome, hdone⟩ | ⟨before, e, after, rfl, hcome, htaken, herror⟩
    · rw [Answers, call, hdone]
      exact .registerSet hcome
    · rw [Answers, call, herror]
      exact .registerUpTo hcome htaken
  | remove name =>
    have hnames : (w.call (.remove name)).2.names = Function.update w.names name none := by
      funext q
      rw [Function.update_apply]
      exact w.registry.find?_erase name q
    rw [Answers, hnames]
    exact .remove
  | snapshot => exact .snapshot w.registry.shows_catalogue
  | snapshotWhere f =>
    rw [Answers, call, Registry.catalogueWhere_eq]
    exact .snapshotWhere w.registry.shows_catalogue

end World

end Telemetry
