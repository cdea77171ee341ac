import Mathlib.Data.List.Nodup
import MeshExport.Exports.Table

/-! The records of all shards together. No service has two, since each record lies in the shard of its
own service; what is counted or listed shard by shard is counted or listed over all records. -/

namespace MeshExport

theorem NamespacedName.sort_perm (names : List NamespacedName) :
    (NamespacedName.sort names).Perm names :=
  List.mergeSort_perm ..

theorem NamespacedName.pairwise_sort (names : List NamespacedName) :
    (NamespacedName.sort names).Pairwise fun a b => (compare a b).isLE := by
  refine List.pairwise_mergeSort (fun a b c hab hbc => ?_) (fun a b => ?_) names
  · exact Std.TransCmp.isLE_trans hab hbc
  · have hswap : compare b a = (compare a b).swap := Std.OrientedCmp.eq_swap
    rw [hswap]
    cases compare a b <;> rfl

theorem NamespacedName.sort_eq_of_perm {names sorted : List NamespacedName}
    (hp : names.Perm sorted) (hs : sorted.Pairwise fun a b => compare a b = .lt) :
    NamespacedName.sort names = sorted := by
  have hle : sorted.Pairwise fun a b => (compare a b).isLE :=
    hs.imp fun hlt => by rw [hlt]; rfl
  refine List.Perm.eq_of_pairwise (fun a b _ _ hab hba => ?_) (NamespacedName.pairwise_sort names) hle
    ((NamespacedName.sort_perm names).trans hp)
  exact Std.LawfulEqCmp.eq_of_compare (Std.OrientedCmp.isLE_antisymm hab hba)

namespace ExportTable

def records (t : ExportTable) : List (ServiceId × Bool) := t.shards.toList.flatMap (·.toList)

/-- A record lies in one of the shards exactly if it is found in the shard of its service. -/
theorem mem_records (t : ExportTable) (service : ServiceId) (exported : Bool) :
    (service, exported) ∈ t.records ↔ t.record? service = some exported := by
  simp only [records, List.mem_flatMap, Vector.mem_toList_iff,
    Std.ExtTreeMap.mem_toList_iff_getElem?_eq_some]
  constructor
  · rintro ⟨shard, hs, hk⟩
    obtain ⟨i, hi, rfl⟩ := Vector.mem_iff_getElem.mp hs
    have hm : service ∈ t.shards[i] := by
      rw [Std.ExtTreeMap.mem_iff_isSome_getElem?, hk]
      rfl
    have hslot : (t.slot service : Nat) = i := t.placed i hi service hm
    rwa [record?, ← getElem_shards_of_slot hi hslot]
  · intro hr
    exact ⟨t.shard service, Vector.getElem_mem _, hr⟩

theorem nodup_records (t : ExportTable) : (t.records.map Prod.fst).Nodup := by
  have hkeys (shard : Shard) : shard.toList.map Prod.fst = shard.keys :=
    Std.ExtTreeMap.map_fst_toList_eq_keys
  simp only [records, List.map_flatMap, List.nodup_flatMap, hkeys]
  refine ⟨fun shard _ => Std.ExtTreeMap.nodup_keys, ?_⟩
  -- two shards share no service, since each of their services belongs to one shard
  rw [List.pairwise_iff_getElem]
  intro i j hi hj hij service hmi hmj
  rw [Vector.getElem_toList, Std.ExtTreeMap.mem_keys] at hmi hmj
  have hslot := t.placed i _ service hmi
  have hslot' := t.placed j _ service hmj
  omega

/-- The records of a table whose services have the same flags in a single map. -/
theorem perm_records {t : ExportTable} {flat : Shard} (h : ∀ k, t.record? k = flat[k]?) :
    t.records.Perm flat.toList := by
  have hflat : (flat.toList.map Prod.fst).Nodup := by
    rw [Std.ExtTreeMap.map_fst_toList_eq_keys]
    exact Std.ExtTreeMap.nodup_keys
  rw [List.perm_ext_iff_of_nodup (.of_map _ t.nodup_records) (.of_map _ hflat)]
  rintro ⟨service, exported⟩
  rw [mem_records, h, Std.ExtTreeMap.mem_toList_iff_getElem?_eq_some]

theorem size_eq_length (t : ExportTable) : t.size = t.records.length := by
  rw [size, records, List.length_flatMap, List.sum_eq_foldl, List.foldl_map]
  simp only [Std.ExtTreeMap.length_toList]

theorem isEmpty_iff (t : ExportTable) : t.isEmpty = true ↔ t.records = [] := by
  simp only [isEmpty, records, List.all_eq_true, List.flatMap_eq_nil_iff,
    Std.ExtTreeMap.isEmpty_iff, Std.ExtTreeMap.toList_eq_nil_iff]

/-! The exported services. -/

theorem flatMap_exportedIn (t : ExportTable) :
    t.shards.toList.flatMap exportedIn =
      t.records.filterMap fun r => if r.2 then some r.1 else none := by
  rw [records, List.filterMap_flatMap]
  rfl

theorem exported_perm (t : ExportTable) :
    t.exported.Perm (t.records.filterMap fun r => if r.2 then some r.1 else none) := by
  rw [← flatMap_exportedIn]
  exact NamespacedName.sort_perm _

theorem mem_exported (t : ExportTable) (service : ServiceId) :
    service ∈ t.exported ↔ t.isExported service = true := by
  rw [t.exported_perm.mem_iff, List.mem_filterMap, isExported_iff]
  constructor
  · rintro ⟨⟨k, exported⟩, hr, he⟩
    obtain ⟨rfl, rfl⟩ : exported = true ∧ k = service := by simpa using he
    exact (t.mem_records k true).mp hr
  · exact fun hr => ⟨(service, true), (t.mem_records service true).mpr hr, rfl⟩

theorem nodup_exported (t : ExportTable) : t.exported.Nodup := by
  rw [t.exported_perm.nodup_iff]
  have hrecords := List.pairwise_map.mp t.nodup_records
  refine List.pairwise_filterMap.mpr (hrecords.imp fun {r r'} hne k hk k' hk' => ?_)
  obtain ⟨-, rfl⟩ : r.2 = true ∧ r.1 = k := by simpa using hk
  obtain ⟨-, rfl⟩ : r'.2 = true ∧ r'.1 = k' := by simpa using hk'
  exact hne

theorem length_exported (t : ExportTable) : t.exported.length = t.exportedCount := by
  rw [t.exported_perm.length_eq, ← flatMap_exportedIn, List.length_flatMap, List.sum_eq_foldl,
    List.foldl_map]
  rfl

/-- A service that comes to be exported is one more. -/
theorem exportedCount_of_raised {t t' : ExportTable} {service : ServiceId}
    (hs : t.isExported service = false)
    (h : ∀ k, t'.isExported k = true ↔ k = service ∨ t.isExported k = true) :
    t'.exportedCount = t.exportedCount + 1 := by
  have hn : service ∉ t.exported := by
    rw [mem_exported, hs]
    exact Bool.false_ne_true
  have hp : t'.exported.Perm (service :: t.exported) := by
    refine (List.perm_ext_iff_of_nodup t'.nodup_exported (.cons hn t.nodup_exported)).mpr fun k => ?_
    rw [mem_exported, h, List.mem_cons, mem_exported]
  rw [← length_exported, hp.length_eq, List.length_cons, length_exported]

theorem exportedCount_of_turned {t t' : ExportTable} {service : ServiceId} {b : Bool}
    (hb : t.isExported service = !b)
    (h : ∀ k, t'.isExported k = if service = k then b else t.isExported k) :
    t'.exportedCount + (if b then 0 else 1) = t.exportedCount + (if b then 1 else 0) := by
  cases b with
  | true =>
    refine exportedCount_of_raised hb fun k => ?_
    rw [h]
    by_cases hk : service = k
    · simp [hk]
    · simp [hk, Ne.symm hk]
  | false =>
    have hs : t'.isExported service = false := by rw [h, if_pos rfl]
    refine (exportedCount_of_raised hs fun k => ?_).symm
    rw [h]
    by_cases hk : service = k
    · subst hk
      simp [hb]
    · simp [hk, Ne.symm hk]

/-- Where no record says false, every record is of an exported service. -/
theorem size_eq_exportedCount {t : ExportTable} (h : ∀ k, t.record? k ≠ some false) :
    t.size = t.exportedCount := by
  have hf : t.records.filterMap (fun r => if r.2 then some r.1 else none) = t.records.map Prod.fst := by
    rw [← List.filterMap_eq_map]
    refine List.filterMap_congr fun r hr => ?_
    have hrecord : t.record? r.1 = some r.2 := (t.mem_records r.1 r.2).mp hr
    have htrue : r.2 = true := by
      by_contra hfalse
      rw [Bool.not_eq_true] at hfalse
      exact h r.1 (hrecord.trans (congrArg some hfalse))
    rw [if_pos htrue]
    rfl
  rw [size_eq_length, ← length_exported, t.exported_perm.length_eq, hf, List.length_map]

end ExportTable
end MeshExport
