import Std.Data.ExtTreeMap
import Std.Data.ExtTreeSet

/-! Names of namespaced resources. They are ordered by namespace, then by name, both by code
point; the order is total and its ties are equalities, so names can key ordered maps. -/

namespace MeshExport

structure NamespacedName where
  ns : String
  name : String
deriving DecidableEq, Hashable, Inhabited

namespace NamespacedName

instance : Ord NamespacedName := ⟨compareLex (compareOn ns) (compareOn name)⟩

instance : Std.TransOrd NamespacedName :=
  inferInstanceAs (Std.TransCmp (compareLex (compareOn ns) (compareOn name)))

instance : Std.LawfulEqOrd NamespacedName where
  eq_of_compare {a b} h := by
    have h : compareLex (compareOn ns) (compareOn name) a b = .eq := h
    rw [compareLex_eq_eq] at h
    have hns := Std.LawfulEqOrd.eq_of_compare h.1
    have hname := Std.LawfulEqOrd.eq_of_compare h.2
    cases a; cases b; simp_all

def display (n : NamespacedName) : String := n.ns ++ "/" ++ n.name

def sort (names : List NamespacedName) : List NamespacedName :=
  names.mergeSort fun a b => (compare a b).isLE

end NamespacedName

abbrev ServiceId := NamespacedName

abbrev SliceId := NamespacedName

end MeshExport
