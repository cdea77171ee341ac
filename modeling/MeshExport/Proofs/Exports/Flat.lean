import MeshExport.Proofs.Exports.Records
import MeshExport.Proofs.Feed.Entries
import MeshExport.Proofs.Text.ByteOrder

/-! A table of shards answers like one map without any. Whatever the width and the hash, and after any
calls, both have the same record for every service, and from that every answer follows. -/

namespace MeshExport

/-- In front by namespace, then by name, both by their bytes. -/
def NamespacedName.Precedes (a b : NamespacedName) : Prop :=
  Text.bytes a.ns < Text.bytes b.ns ∨ a.ns = b.ns ∧ Text.bytes a.name < Text.bytes b.name

theorem NamespacedName.precedes_of_compare {a b : NamespacedName} (h : compare a b = .lt) :
    a.Precedes b := by
  have hlex : compareLex (compareOn ns) (compareOn name) a b = .lt := h
  have hlt {s t : String} (h : compare s t = .lt) : Text.bytes s < Text.bytes t :=
    Text.bytes_lt (compareOfLessAndEq_eq_lt.mp h)
  rcases Ordering.then_eq_lt.mp hlex with hns | ⟨hns, hname⟩
  · exact Or.inl (hlt hns)
  · exact Or.inr ⟨Std.LawfulEqOrd.eq_of_compare hns, hlt hname⟩

inductive TableCall where
  | set (service : ServiceId) (exported : Bool)
  | remove (service : ServiceId)
  | isExported (service : ServiceId)
  | size
  | isEmpty
  | exportedCount
  | exported
deriving DecidableEq

inductive TableAnswer where
  | flag (b : Bool)
  | number (n : Nat)
  | services (names : List ServiceId)
deriving DecidableEq

namespace ExportTable

def answer (t : ExportTable) : TableCall → ExportTable × TableAnswer
  | .set service exported => ((t.set service exported).1, .flag (t.set service exported).2)
  | .remove service => ((t.remove service).1, .flag (t.remove service).2)
  | .isExported service => (t, .flag (t.isExported service))
  | .size => (t, .number t.size)
  | .isEmpty => (t, .flag t.isEmpty)
  | .exportedCount => (t, .number t.exportedCount)
  | .exported => (t, .services t.exported)

def after (t : ExportTable) (calls : List TableCall) : ExportTable :=
  calls.foldl (fun t call => (t.answer call).1) t

def answers (t : ExportTable) : List TableCall → List TableAnswer
  | [] => []
  | call :: calls => (t.answer call).2 :: (t.answer call).1.answers calls

end ExportTable

/-- One map of all records. -/
abbrev FlatTable := Std.ExtTreeMap ServiceId Bool

namespace FlatTable

def exported (t : FlatTable) : List ServiceId := (t.toList.filter (·.2)).map Prod.fst

def answer (t : FlatTable) : TableCall → FlatTable × TableAnswer
  | .set service exported => (t.insert service exported, .flag (t[service]? ≠ some exported))
  | .remove service => (t.erase service, .flag (t[service]? = some true))
  | .isExported service => (t, .flag (t[service]?.getD false))
  | .size => (t, .number t.size)
  | .isEmpty => (t, .flag (t.size = 0))
  | .exportedCount => (t, .number (exported t).length)
  | .exported => (t, .services (exported t))

def after (t : FlatTable) (calls : List TableCall) : FlatTable :=
  calls.foldl (fun t call => (answer t call).1) t

def answers (t : FlatTable) : List TableCall → List TableAnswer
  | [] => []
  | call :: calls => (answer t call).2 :: answers (answer t call).1 calls

theorem mem_exported (t : FlatTable) (service : ServiceId) :
    service ∈ exported t ↔ t[service]? = some true := by
  simp only [exported, List.mem_map, List.mem_filter, Prod.exists, exists_and_right, exists_eq_right,
    Std.ExtTreeMap.mem_toList_iff_getElem?_eq_some]

theorem pairwise_exported (t : FlatTable) :
    (exported t).Pairwise fun a b => compare a b = .lt :=
  List.pairwise_map.mpr (Std.ExtTreeMap.ordered_keys_toList.filter _)

end FlatTable

namespace ExportTable

/-- The table has the records of the map. -/
def Holds (t : ExportTable) (flat : FlatTable) : Prop := ∀ k, t.record? k = flat[k]?

theorem holds_empty (n : Nat) (hash : ServiceId → UInt64) : (empty n hash).Holds ∅ := by
  intro k
  rw [record?_empty, Std.ExtTreeMap.getElem?_empty]

namespace Holds

variable {t : ExportTable} {flat : FlatTable}

theorem isExported (h : t.Holds flat) (service : ServiceId) :
    t.isExported service = flat[service]?.getD false := by
  rw [ExportTable.isExported, h]

theorem size (h : t.Holds flat) : t.size = flat.size := by
  rw [size_eq_length, (perm_records h).length_eq, Std.ExtTreeMap.length_toList]

theorem isEmpty (h : t.Holds flat) : t.isEmpty = decide (flat.size = 0) := by
  rw [Bool.eq_iff_iff, isEmpty_iff, ← List.length_eq_zero_iff, ← size_eq_length, h.size,
    decide_eq_true_iff]

/-- The shards list the exported services of the map, though not in its order. -/
theorem perm_exported (h : t.Holds flat) :
    (t.shards.toList.flatMap exportedIn).Perm (FlatTable.exported flat) := by
  rw [flatMap_exportedIn, FlatTable.exported, ← List.filterMap_eq_map, List.filterMap_filter]
  exact (perm_records h).filterMap _

theorem exported (h : t.Holds flat) : t.exported = FlatTable.exported flat :=
  NamespacedName.sort_eq_of_perm h.perm_exported (FlatTable.pairwise_exported flat)

theorem exportedCount (h : t.Holds flat) : t.exportedCount = (FlatTable.exported flat).length := by
  rw [← length_exported, h.exported]

/-- A call keeps the records the same and has the same answer. -/
theorem answer (h : t.Holds flat) (call : TableCall) :
    (t.answer call).2 = (FlatTable.answer flat call).2 ∧
      (t.answer call).1.Holds (FlatTable.answer flat call).1 := by
  cases call with
  | set service exported =>
    refine ⟨?_, fun k => ?_⟩
    · simp only [ExportTable.answer, FlatTable.answer, ExportTable.set, h service]
      split <;> simp_all
    · simp only [ExportTable.answer, FlatTable.answer, record?_set, h k,
        Std.ExtTreeMap.getElem?_insert, Std.compare_eq_iff_eq]
  | remove service =>
    refine ⟨?_, fun k => ?_⟩
    · simp only [ExportTable.answer, FlatTable.answer, ExportTable.remove, h.isExported]
      cases hr : flat[service]? with
      | none => rfl
      | some exported => cases exported <;> rfl
    · simp only [ExportTable.answer, FlatTable.answer, record?_remove, h k,
        Std.ExtTreeMap.getElem?_erase, Std.compare_eq_iff_eq]
  | isExported service => exact ⟨congrArg TableAnswer.flag (h.isExported service), h⟩
  | size => exact ⟨congrArg TableAnswer.number h.size, h⟩
  | isEmpty => exact ⟨congrArg TableAnswer.flag h.isEmpty, h⟩
  | exportedCount => exact ⟨congrArg TableAnswer.number h.exportedCount, h⟩
  | exported => exact ⟨congrArg TableAnswer.services h.exported, h⟩

theorem after (h : t.Holds flat) (calls : List TableCall) :
    (t.after calls).Holds (FlatTable.after flat calls) := by
  induction calls generalizing t flat with
  | nil => exact h
  | cons call calls ih => exact ih (h.answer call).2

theorem answers (h : t.Holds flat) (calls : List TableCall) :
    t.answers calls = FlatTable.answers flat calls := by
  induction calls generalizing t flat with
  | nil => rfl
  | cons call calls ih =>
    obtain ⟨hanswer, hnext⟩ := h.answer call
    rw [ExportTable.answers, FlatTable.answers, hanswer, ih hnext]

end Holds

theorem answer_frame (t : ExportTable) (call : TableCall) :
    (t.answer call).1.width = t.width ∧ (t.answer call).1.hash = t.hash := by
  cases call with
  | set service exported => exact t.frame_set service exported
  | _ => exact ⟨rfl, rfl⟩

theorem after_frame (t : ExportTable) (calls : List TableCall) :
    (t.after calls).width = t.width ∧ (t.after calls).hash = t.hash := by
  induction calls generalizing t with
  | nil => exact ⟨rfl, rfl⟩
  | cons call calls ih =>
    obtain ⟨hwidth, hhash⟩ := t.answer_frame call
    obtain ⟨hwidth', hhash'⟩ := ih (t.answer call).1
    exact ⟨hwidth'.trans hwidth, hhash'.trans hhash⟩

/-- The calls on a new table have the answers they have on one map, whatever the number of shards and
the hash. The exported services it lists are those whose flag is true, each once and in ascending order
of the bytes of namespace and name, in whatever order the shards are walked. There is at least one
shard, and every service falls into one. -/
theorem answers_eq_flat (n : Nat) (hash : ServiceId → UInt64) (calls : List TableCall) :
    let t := (empty n hash).after calls
    let flat := FlatTable.after ∅ calls
    (empty n hash).answers calls = FlatTable.answers ∅ calls ∧
      (∀ w : Walk ServiceId, NamespacedName.sort (w.order (t.shards.toList.flatMap exportedIn)) =
        FlatTable.exported flat) ∧
      (FlatTable.exported flat).Pairwise NamespacedName.Precedes ∧
      (FlatTable.exported flat).Nodup ∧
      (∀ service, service ∈ FlatTable.exported flat ↔ flat[service]? = some true) ∧
      t.shards.toList.length = max n 1 ∧
      ∀ service, (t.slot service : Nat) = (hash service).toNat % max n 1 ∧
        (t.slot service : Nat) < t.shards.toList.length := by
  intro t flat
  have hstart := holds_empty n hash
  have hholds : t.Holds flat := hstart.after calls
  have hsorted := FlatTable.pairwise_exported flat
  obtain ⟨hwidth, hhash⟩ : t.width = max n 1 ∧ t.hash = hash := (empty n hash).after_frame calls
  have hlength : t.shards.toList.length = t.width := Vector.length_toList
  refine ⟨hstart.answers calls, fun w => ?_, ?_, ?_, FlatTable.mem_exported flat, ?_, ?_⟩
  · exact NamespacedName.sort_eq_of_perm ((w.perm _).trans hholds.perm_exported) hsorted
  · exact hsorted.imp NamespacedName.precedes_of_compare
  · refine hsorted.imp fun {a b} hlt he => ?_
    rw [he, Std.compare_self] at hlt
    cases hlt
  · rw [hlength, hwidth]
  · intro service
    refine ⟨?_, ?_⟩
    · rw [← hwidth, ← hhash]
      rfl
    · rw [hlength]
      exact (t.slot service).isLt

/-- A record of false counts as one, and is no export. -/
example :
    (empty 0 fun _ => 7).answers
      [.set ⟨"ns", "a"⟩ false, .size, .exported, .remove ⟨"ns", "a"⟩, .isEmpty] =
    [.flag true, .number 1, .services [], .flag false, .flag true] := by
  decide +kernel

end ExportTable
end MeshExport
