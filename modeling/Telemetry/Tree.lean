/-!
# Values of a configuration file

A configuration file holds texts, numbers, truth values, lists and maps. A map has each key once: an
entry whose key is there already takes the place of the older entry and moves to the end
(`Tree.ofEntries`). Keys are compared as they are written, so keys that differ in case are two keys.
-/

namespace Telemetry

/-- A value of a configuration file. -/
inductive Tree where
  | text (s : String)
  | integer (n : Int)
  | real (s : String)
  | bool (b : Bool)
  | null
  | bad
  | list (items : List Tree)
  | map (entries : List (Tree × Tree))
  deriving Repr, Inhabited

namespace Tree

mutual

/-- Whether two values are the same. -/
def same : Tree → Tree → Bool
  | text a, text b => a == b
  | integer a, integer b => a == b
  | real a, real b => a == b
  | bool a, bool b => a == b
  | null, null => true
  | bad, bad => true
  | list a, list b => sameItems a b
  | map a, map b => sameEntries a b
  | _, _ => false

/-- Whether two lists hold the same values in the same order. -/
def sameItems : List Tree → List Tree → Bool
  | [], [] => true
  | a :: as, b :: bs => same a b && sameItems as bs
  | _, _ => false

/-- Whether two maps hold the same entries in the same order. -/
def sameEntries : List (Tree × Tree) → List (Tree × Tree) → Bool
  | [], [] => true
  | (k, v) :: as, (l, w) :: bs => same k l && same v w && sameEntries as bs
  | _, _ => false

end

mutual

theorem same_iff (a b : Tree) : same a b = true ↔ a = b := by
  cases a <;> cases b <;> simp [same]
  · exact sameItems_iff _ _
  · exact sameEntries_iff _ _

theorem sameItems_iff (a b : List Tree) : sameItems a b = true ↔ a = b := by
  match a, b with
  | [], [] => simp [sameItems]
  | [], _ :: _ => simp [sameItems]
  | _ :: _, [] => simp [sameItems]
  | a :: as, b :: bs => simp [sameItems, same_iff a b, sameItems_iff as bs]

theorem sameEntries_iff (a b : List (Tree × Tree)) : sameEntries a b = true ↔ a = b := by
  match a, b with
  | [], [] => simp [sameEntries]
  | [], _ :: _ => simp [sameEntries]
  | _ :: _, [] => simp [sameEntries]
  | (k, v) :: as, (l, w) :: bs =>
    simp [sameEntries, same_iff k l, same_iff v w, sameEntries_iff as bs, and_assoc]

end

instance : DecidableEq Tree := fun a b ↦ decidable_of_iff _ (same_iff a b)

/-- The entries of a map after one more. -/
def put (entries : List (Tree × Tree)) (e : Tree × Tree) : List (Tree × Tree) :=
  (entries.filter fun x ↦ x.1 ≠ e.1) ++ [e]

/-- The map of entries, given one after another. -/
def ofEntries (entries : List (Tree × Tree)) : Tree :=
  map (entries.foldl put [])

/-- One more entry leaves no key twice. -/
theorem nodup_put {entries : List (Tree × Tree)} (h : (entries.map Prod.fst).Nodup)
    (e : Tree × Tree) : ((put entries e).map Prod.fst).Nodup := by
  have hsub : ((entries.filter fun x ↦ x.1 ≠ e.1).map Prod.fst).Sublist (entries.map Prod.fst) :=
    List.filter_sublist.map _
  rw [put, List.map_append, List.nodup_append]
  refine ⟨h.sublist hsub, by simp, ?_⟩
  intro a ha b hb
  simp only [List.mem_map, List.mem_filter, decide_eq_true_eq] at ha
  obtain ⟨x, ⟨_, hx⟩, rfl⟩ := ha
  simp only [List.map_cons, List.map_nil, List.mem_singleton] at hb
  exact hb ▸ hx

end Tree

end Telemetry
