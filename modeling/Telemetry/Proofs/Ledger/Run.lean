import Mathlib
import Telemetry.Proofs.Ledger

/-!
# What a ledger says after any number of reports

Reports are put together one after the other. For each of them counts are checked against the
ledger, and in the end the counts staged are committed or discarded (`Ledger.Request`,
`Ledger.Session`).

**The account.** Beside the ledger runs an account that has no map, only lists: the batches of
counts that were committed, the batch that is being staged, and the number of checks that left a
metric out. What was last delivered under a name is in it the last count of that name in the last
batch that has one (`latestIn`); counts that were discarded are in no batch. `Session.Keeps` says
that a ledger agrees with its account. Every request keeps it so (`Session.Keeps.step`), and all
that the ledger shows is then read off the account (`Session.run_keeps_account`).

A ledger that is switched off has nothing to account for: no request changes anything
(`Session.run_start_off`).
-/

namespace Telemetry

variable {name : String}

/-! ### Batches of counts -/

/-- The last count under a name in the last of some batches that has one. -/
def latestIn (batches : List (List (String × UInt64))) (name : String) : Option UInt64 :=
  batches.reverse.findSome? fun batch ↦ latest batch name

/-- The names under which some batches have a count. -/
def namesIn (batches : List (List (String × UInt64))) : Finset String :=
  (batches.flatten.map (·.1)).toFinset

/-- A batch more has the last word on its names. -/
theorem latestIn_concat (batches : List (List (String × UInt64))) (batch : List (String × UInt64))
    (name : String) :
    latestIn (batches ++ [batch]) name = (latest batch name).or (latestIn batches name) := by
  rw [latestIn, List.reverse_append, List.findSome?_append, List.reverse_singleton,
    List.findSome?_singleton]
  rfl

/-- A name has a last count just if it occurs. -/
theorem isSome_latest_iff {counts : List (String × UInt64)} :
    (latest counts name).isSome ↔ name ∈ counts.map (·.1) := by
  induction counts using List.reverseRecOn with
  | nil => simp
  | append_singleton counts e ih =>
    rw [latest_concat, List.map_append, List.mem_append, ← ih]
    by_cases h : name = e.1 <;> simp [h]

/-- Batches have a latest count of just the names in them. -/
theorem isSome_latestIn_iff {batches : List (List (String × UInt64))} :
    (latestIn batches name).isSome ↔ name ∈ namesIn batches := by
  induction batches using List.reverseRecOn with
  | nil => simp [latestIn, namesIn]
  | append_singleton batches batch ih =>
    rw [latestIn_concat, Option.isSome_or, Bool.or_eq_true, isSome_latest_iff, ih, namesIn, namesIn,
      List.flatten_append, List.map_append, List.toFinset_append, Finset.mem_union, or_comm]
    simp

/-- Names stay when batches are added. -/
theorem namesIn_subset_append (batches more : List (List (String × UInt64))) :
    namesIn batches ⊆ namesIn (batches ++ more) := by
  rw [namesIn, namesIn, List.flatten_append, List.map_append, List.toFinset_append]
  exact Finset.subset_union_left

namespace Ledger

/-! ### A session and its account -/

/-- What is asked of a ledger while reports are put together one after the other. -/
inductive Request where
  | check (name : String) (count : UInt64)
  /-- The report was delivered. -/
  | commit
  /-- The report was not delivered. -/
  | discard

/-- A ledger, the counts staged for the next report, and the counter of metrics left out. -/
structure Session where
  ledger : Ledger
  pending : Staged := {}
  skipped : Counter := {}

/-- Batches of counts that were committed, the batch being staged, and the number of checks that
left a metric out. -/
structure Account where
  batches : List (List (String × UInt64)) := []
  current : List (String × UInt64) := []
  skips : Nat := 0

namespace Session

/-- A new ledger, switched on or off, with nothing staged. -/
def start (enabled : Bool) (skipped : Counter) : Session where
  ledger := .new enabled
  skipped := skipped

/-- The session after a request. -/
def step (s : Session) : Request → Session
  | .check name count =>
    let (_, skipped, pending) := s.ledger.check name count s.skipped s.pending
    { s with skipped, pending }
  | .commit => { s with ledger := s.ledger.commit s.pending, pending := {} }
  | .discard => { s with pending := {} }

/-- The session after some requests. -/
def run (s : Session) (requests : List Request) : Session :=
  requests.foldl step s

end Session

namespace Account

/-- The account after a request. -/
def step (a : Account) : Request → Account
  | .check name count =>
    if latestIn a.batches name = some count then { a with skips := a.skips + 1 }
    else { a with current := a.current ++ [(name, count)] }
  | .commit => { a with batches := a.batches ++ [a.current], current := [] }
  | .discard => { a with current := [] }

/-- The account after some requests. -/
def run (a : Account) (requests : List Request) : Account :=
  requests.foldl step a

/-- Committed batches stay. -/
theorem exists_batches_run (a : Account) (requests : List Request) :
    ∃ more, (a.run requests).batches = a.batches ++ more := by
  induction requests generalizing a with
  | nil => exact ⟨[], (List.append_nil _).symm⟩
  | cons x requests ih =>
    obtain ⟨more, hmore⟩ := ih (a.step x)
    have hstep : ∃ batch, (a.step x).batches = a.batches ++ batch := by
      cases x with
      | check name count =>
        rw [step]
        split <;> exact ⟨[], (List.append_nil _).symm⟩
      | commit => exact ⟨[a.current], rfl⟩
      | discard => exact ⟨[], (List.append_nil _).symm⟩
    obtain ⟨batch, hbatch⟩ := hstep
    exact ⟨batch ++ more, by rw [← List.append_assoc, ← hbatch, ← hmore]; rfl⟩

end Account

variable {l : Ledger}

/-- The answer of a ledger that is switched on. -/
theorem check_of_enabled (h : l.isEnabled) (name : String) (count : UInt64) (skipped : Counter)
    (s : Staged) :
    l.check name count skipped s =
      if l.last? name = some count then (true, skipped.inc, s)
      else (false, skipped, s.push name count) := by
  simp only [check, unchanged_iff, stage, h, if_true]

/-- The number of entries is that of the names with a count. -/
theorem len_eq_card (h : l.isEnabled) {names : Finset String}
    (hnames : ∀ name, (l.last? name).isSome ↔ name ∈ names) : l.len = names.card := by
  obtain ⟨_ | m⟩ := l
  · simp [isEnabled] at h
  · have hkeys : m.keys.toFinset = names := by
      ext name
      rw [List.mem_toFinset, Std.ExtTreeMap.mem_keys, Std.ExtTreeMap.mem_iff_isSome_getElem?]
      exact hnames name
    rw [← hkeys, List.toFinset_card_of_nodup m.nodup_keys, Std.ExtTreeMap.length_keys]
    rfl

namespace Session

variable {s : Session} {a : Account} {skipped : Counter}

/-- The ledger is switched on and says what the account says; what is staged and what was left out
since the start is what the account has. -/
structure Keeps (skipped : Counter) (s : Session) (a : Account) : Prop where
  enabled : s.ledger.isEnabled
  last : ∀ name, s.ledger.last? name = latestIn a.batches name
  pending : s.pending.entries = a.current
  skipped : s.skipped.count = skipped.count + .ofNat a.skips

/-- A session that begins with an empty ledger keeps the empty account. -/
theorem keeps_start (skipped : Counter) : (start true skipped).Keeps skipped {} where
  enabled := rfl
  last := last?_new true
  pending := rfl
  skipped := (UInt64.add_zero _).symm

/-- What a check does to a session. -/
theorem step_check (h : s.ledger.isEnabled) (name : String) (count : UInt64) :
    s.step (.check name count) =
      if s.ledger.last? name = some count then { s with skipped := s.skipped.inc }
      else { s with pending := s.pending.push name count } := by
  rw [Session.step, check_of_enabled h]
  by_cases hlast : s.ledger.last? name = some count
  · rw [if_pos hlast, if_pos hlast]
  · rw [if_neg hlast, if_neg hlast]

/-- **Every request keeps ledger and account in agreement.** -/
theorem Keeps.step (h : s.Keeps skipped a) (x : Request) :
    (s.step x).Keeps skipped (a.step x) := by
  cases x with
  | check name count =>
    rw [step_check h.enabled, h.last, Account.step]
    split
    · refine ⟨h.enabled, h.last, h.pending, ?_⟩
      rw [Counter.count_inc, h.skipped, UInt64.add_assoc, UInt64.ofNat_add]
      rfl
    · exact ⟨h.enabled, h.last, congrArg (· ++ [(name, count)]) h.pending, h.skipped⟩
  | commit =>
    refine ⟨?_, fun name ↦ ?_, rfl, h.skipped⟩
    · exact (isEnabled_commit _ _).trans h.enabled
    · show (s.ledger.commit s.pending).last? name = latestIn (a.batches ++ [a.current]) name
      rw [last?_commit h.enabled, latestIn_concat, h.pending, h.last]
  | discard => exact ⟨h.enabled, h.last, rfl, h.skipped⟩

/-- **A session keeps its account** whatever is asked of it. -/
theorem Keeps.run (h : s.Keeps skipped a) (requests : List Request) :
    (s.run requests).Keeps skipped (a.run requests) := by
  induction requests generalizing s a with
  | nil => exact h
  | cons x requests ih => exact ih (h.step x)

/-- The ledger has an entry for each name in the batches. -/
theorem Keeps.len (h : s.Keeps skipped a) : s.ledger.len = (namesIn a.batches).card :=
  len_eq_card h.enabled fun name ↦ by rw [h.last, isSome_latestIn_iff]

/-- Only what is committed is seen. -/
theorem ledger_run_of_no_commit {requests : List Request} (h : .commit ∉ requests) :
    (s.run requests).ledger = s.ledger := by
  induction requests generalizing s with
  | nil => rfl
  | cons x requests ih =>
    have hstep : (s.step x).ledger = s.ledger := by
      cases x with
      | check name count => rfl
      | commit => exact absurd List.mem_cons_self h
      | discard => rfl
    exact (ih fun hx ↦ h (List.mem_cons_of_mem _ hx)).trans hstep

/-- **Nothing changes a ledger that is switched off**, nor is anything staged or counted for it. -/
theorem run_start_off (skipped : Counter) (requests : List Request) :
    (start false skipped).run requests = start false skipped := by
  induction requests with
  | nil => rfl
  | cons x requests ih =>
    have hstep : (start false skipped).step x = start false skipped := by
      cases x <;> rfl
    rw [run, List.foldl_cons, hstep]
    exact ih

/-- **What a ledger says after any requests.** A ledger that is switched on

* remembers under each name the last count of the last committed batch that has one, and as many
  names as there are in committed batches;
* leaves a metric out, and counts that, if its count is the one remembered, and stages the count
  otherwise, behind those that were staged since the last commit or discard;
* does not show what was staged but not committed, and never forgets a name.

One that is switched off does nothing of all that. -/
theorem run_keeps_account (skipped : Counter) (requests : List Request) :
    (let s := (start true skipped).run requests
     let a := Account.run {} requests
     (∀ name, s.ledger.last? name = latestIn a.batches name) ∧
      s.ledger.len = (namesIn a.batches).card ∧
      s.pending.entries = a.current ∧
      s.skipped.count = skipped.count + .ofNat a.skips ∧
      (∀ name count, s.ledger.check name count s.skipped s.pending =
        if s.ledger.last? name = some count then (true, s.skipped.inc, s.pending)
        else (false, s.skipped, ⟨s.pending.entries ++ [(name, count)]⟩)) ∧
      (∀ more, .commit ∉ more → (s.run more).ledger = s.ledger) ∧
      ∀ more, s.ledger.len ≤ (s.run more).ledger.len) ∧
    (let s := (start false skipped).run requests
     s.pending.entries = [] ∧ s.skipped = skipped ∧ s.ledger.len = 0 ∧
      (∀ name, s.ledger.last? name = none) ∧
      ∀ name count, s.ledger.check name count s.skipped s.pending =
        (false, s.skipped, s.pending)) := by
  have h := (keeps_start skipped).run requests
  constructor
  · refine ⟨h.last, h.len, h.pending, h.skipped, fun name count ↦ check_of_enabled h.enabled _ _ _ _,
      fun more ↦ ledger_run_of_no_commit, fun more ↦ ?_⟩
    obtain ⟨batches, hbatches⟩ := Account.exists_batches_run (Account.run {} requests) more
    rw [h.len, (h.run more).len, hbatches]
    exact Finset.card_le_card (namesIn_subset_append _ _)
  · rw [run_start_off]
    exact ⟨rfl, rfl, rfl, last?_new false, fun name count ↦ rfl⟩

end Session

end Ledger

end Telemetry
