import Mathlib
import Telemetry.Ledger

/-!
# What a ledger remembers

A ledger that is switched on remembers under each name the last count entered
(`Ledger.last?_commit`), and one that is switched off nothing. The last count under a name in a
list of counts is `latest`.
-/

namespace Telemetry

/-- The last count under a name in a list. -/
def latest (counts : List (String × UInt64)) (name : String) : Option UInt64 :=
  counts.reverse.lookup name

variable {counts : List (String × UInt64)} {name : String}

@[simp] theorem latest_nil (name : String) : latest [] name = none := rfl

/-- The second list has the last word, where it has one. -/
theorem latest_append (a b : List (String × UInt64)) (name : String) :
    latest (a ++ b) name = (latest b name).or (latest a name) := by
  rw [latest, List.reverse_append, List.lookup_append]
  rfl

/-- A count more is the last one of its name. -/
theorem latest_concat (counts : List (String × UInt64)) (e : String × UInt64) (name : String) :
    latest (counts ++ [e]) name = if name = e.1 then some e.2 else latest counts name := by
  rw [latest_append]
  by_cases h : name = e.1
  · rw [if_pos h, h]
    simp [latest, List.lookup]
  · have hne : (name == e.1) = false := by simpa using h
    rw [if_neg h]
    simp [latest, List.lookup, hne]

/-- A name without counts has no last one. -/
theorem latest_eq_none (h : ∀ e ∈ counts, e.1 ≠ name) : latest counts name = none := by
  rw [latest, List.lookup_eq_none_iff]
  intro e he
  simpa using (h e (List.mem_reverse.1 he)).symm

/-- If all counts under a name are the same, the last one is. -/
theorem latest_eq_some {count : UInt64} (hmem : (name, count) ∈ counts)
    (hsame : ∀ e ∈ counts, e.1 = name → e.2 = count) : latest counts name = some count := by
  induction counts using List.reverseRecOn with
  | nil => exact absurd hmem List.not_mem_nil
  | append_singleton counts e ih =>
    rw [latest_concat]
    split
    · next h => rw [hsame e (by simp) h.symm]
    · next h =>
      refine ih ?_ fun e' he' ↦ hsame e' (List.mem_append_left _ he')
      rcases List.mem_append.1 hmem with hmem | hmem
      · exact hmem
      · exact absurd (congrArg Prod.fst (List.mem_singleton.1 hmem)) h

/-- Setting entries in turn leaves the last one of each key. -/
theorem Name.getElem?_insertMany (m : Name.Map UInt64) (entries : List (String × UInt64))
    (name : String) : (m.insertMany entries)[name]? = (latest entries name).or m[name]? := by
  induction entries using List.reverseRecOn with
  | nil => simp
  | append_singleton entries e ih =>
    rw [Std.ExtTreeMap.insertMany_append, Std.ExtTreeMap.insertMany_list_singleton,
      Std.ExtTreeMap.getElem?_insert, latest_concat, ih]
    simp only [Name.order_eq_eq, eq_comm (a := e.1)]
    split <;> rfl

namespace Ledger

variable {l : Ledger}

@[simp] theorem last?_new (enabled : Bool) (name : String) : (new enabled).last? name = none := by
  cases enabled <;> rfl

@[simp] theorem isEnabled_new (enabled : Bool) : (new enabled).isEnabled = enabled := by
  cases enabled <;> rfl

@[simp] theorem isEnabled_commit (l : Ledger) (s : Staged) :
    (l.commit s).isEnabled = l.isEnabled := by
  rw [isEnabled, commit, Option.isSome_map]
  rfl

/-- **Of each name, the ledger remembers the last count entered.** -/
theorem last?_commit (h : l.isEnabled) (s : Staged) (name : String) :
    (l.commit s).last? name = (latest s.entries name).or (l.last? name) := by
  obtain ⟨_ | m⟩ := l
  · simp [isEnabled] at h
  · exact Name.getElem?_insertMany m s.entries name

/-- Under a name without an entry it goes on remembering what it did. -/
theorem last?_commit_of_unnamed {s : Staged} (h : name ∉ s.entries.map (·.1)) :
    (l.commit s).last? name = l.last? name := by
  have hnone : latest s.entries name = none :=
    latest_eq_none fun e he heq ↦ h (heq ▸ List.mem_map_of_mem he)
  obtain ⟨_ | m⟩ := l
  · rfl
  · rw [last?_commit rfl, hnone, Option.none_or]

/-- A count is unchanged if it is the one last delivered. -/
theorem unchanged_iff {count : UInt64} :
    l.unchanged name count = true ↔ l.last? name = some count := by
  rw [unchanged, beq_iff_eq]

end Ledger

end Telemetry
