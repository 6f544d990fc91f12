import Std.Data.ExtTreeMap

/-!
# The order of names

Names of metrics ascend by the bytes of their UTF-8 form (`Name.order`). A name is its bytes, so
names that compare equal are equal, and finite maps from names (`Name.Map`) are lists in that order
to whoever looks at all of their entries.
-/

namespace Telemetry.Name

/-- The bytes of a name. -/
def bytes (s : String) : List UInt8 :=
  s.toByteArray.data.toList

/-- A name is its bytes. -/
theorem bytes_inj {a b : String} (h : bytes a = bytes b) : a = b := by
  apply String.toByteArray_inj.1
  exact ByteArray.ext (Array.toList_inj.1 h)

/-- How names compare: as their bytes do. -/
def order : String → String → Ordering :=
  compareOn bytes

instance : Std.TransCmp order :=
  inferInstanceAs (Std.TransCmp (compareOn bytes))

instance : Std.LawfulEqCmp order where
  eq_of_compare h := bytes_inj (Std.LawfulEqCmp.eq_of_compare h)

/-- Comparing lists of bytes and deciding which is less come to the same. -/
theorem compare_bytes_eq_lt {l l' : List UInt8} : compare l l' = .lt ↔ l < l' := by
  have cons (a b : UInt8) (l l' : List UInt8) :
      compare (a :: l) (b :: l') = (compare a b).then (compare l l') :=
    List.compareLex_cons_cons
  induction l generalizing l' with
  | nil =>
    cases l' with
    | nil => simp
    | cons b l' => simp [show compare [] (b :: l') = .lt from rfl]
  | cons a l ih =>
    cases l' with
    | nil => simp [show compare (a :: l) [] = .gt from rfl]
    | cons b l' =>
      have later : compare l l' = .lt ↔ l < l' := ih
      rw [cons, Ordering.then_eq_lt, Std.compare_eq_lt, Std.LawfulEqOrd.compare_eq_iff_eq, later,
        List.cons_lt_cons_iff]

/-- One name comes before another if its bytes do. -/
theorem order_eq_lt {a b : String} : order a b = .lt ↔ bytes a < bytes b :=
  compare_bytes_eq_lt

/-- Names that compare equal are equal. -/
@[simp] theorem order_eq_eq {a b : String} : order a b = .eq ↔ a = b :=
  Std.LawfulEqCmp.compare_eq_iff_eq

/-- Finitely many names, each with something that belongs to it. -/
abbrev Map (V : Type) :=
  Std.ExtTreeMap String V order

/-- Each name is listed once, whichever entries are picked. -/
theorem Map.nodup_names {V : Type} (m : Map V) {l : List (String × V)} (h : l.Sublist m.toList) :
    (l.map (·.1)).Nodup := by
  have hkeys : (m.toList.map (·.1)).Nodup := by
    rw [Std.ExtTreeMap.map_fst_toList_eq_keys]
    exact m.nodup_keys
  exact hkeys.sublist (h.map _)

end Telemetry.Name
