import MeshExport.Proofs.Exports.Reports

/-! What a write does, service by service. It leaves a record and perhaps a pending push for its own
service, both told by what was there before, and touches no other service. Hence writes about different
services commute: records, pending pushes and counts end up the same in either order. A write made again
finds the record it left, and changes nothing. -/

namespace MeshExport

namespace Edit

def service : Edit → ServiceId
  | set service _ => service
  | created service => service
  | deleted service => service

def record : Edit → Option Bool
  | set _ exported => some exported
  | created _ => some true
  | deleted _ => none

/-- The flag a write reports where it finds the record `r`, if that is a change. -/
def told (r : Option Bool) : Edit → Option Bool
  | set _ exported => if r = some exported then none else some exported
  | created _ => if r = some true then none else some true
  | deleted _ => if r = some true then some false else none

/-- The record and the pending push a write leaves its service with. -/
def leave (x : Edit) (own : Option Bool × Option Bool) : Option Bool × Option Bool :=
  (x.record, (x.told own.1).or own.2)

/-- In the record it leaves, a write finds nothing to tell. -/
theorem told_record (x : Edit) : x.told x.record = none := by
  cases x <;> simp [told, record]

theorem leave_leave (x : Edit) (own : Option Bool × Option Bool) :
    x.leave (x.leave own) = x.leave own := by
  simp only [leave, told_record, Option.none_or]

end Edit

namespace ExportTable

theorem record?_write (t : ExportTable) (x : Edit) (k : ServiceId) :
    (t.write x).1.record? k = if x.service = k then x.record else t.record? k := by
  cases x with
  | set service exported => exact record?_set ..
  | created service => exact record?_set ..
  | deleted service => exact record?_remove ..

/-- The change a write reports depends on the record it finds and on nothing else. -/
theorem change_write (t : ExportTable) (x : Edit) :
    (t.write x).2 = (x.told (t.record? x.service)).map (x.service, ·) := by
  have hset (service : ServiceId) (exported : Bool) :
      (t.set service exported).2 = !decide (t.record? service = some exported) := by
    rw [set]
    split <;> simp [*]
  cases x with
  | set service exported =>
    by_cases hr : t.record? service = some exported <;>
      simp [write, Edit.told, Edit.service, hset, hr]
  | created service =>
    by_cases hr : t.record? service = some true <;>
      simp [write, Edit.told, Edit.service, hset, hr]
  | deleted service =>
    have hremove : (t.remove service).2 = t.isExported service := rfl
    rcases hr : t.record? service with _ | exported
    · simp [write, Edit.told, Edit.service, hremove, isExported, hr]
    · cases exported <;> simp [write, Edit.told, Edit.service, hremove, isExported, hr]

theorem frame_write (t : ExportTable) (x : Edit) :
    (t.write x).1.width = t.width ∧ (t.write x).1.hash = t.hash := by
  cases x with
  | set service exported => exact t.frame_set service exported
  | created service => exact t.frame_set service true
  | deleted service => exact ⟨rfl, rfl⟩

/-- A table is told by its records, and by how it spreads them. -/
theorem ext_records {t t' : ExportTable} (hw : t.width = t'.width) (hh : t.hash = t'.hash)
    (hr : ∀ k, t.record? k = t'.record? k) : t = t' := by
  obtain ⟨width, hash, shards, width_pos, placed⟩ := t
  obtain ⟨width', hash', shards', width_pos', placed'⟩ := t'
  obtain rfl : width = width' := hw
  obtain rfl : hash = hash' := hh
  suffices shards = shards' by subst this; rfl
  refine Vector.ext fun i hi => Std.ExtTreeMap.ext_getElem? fun k => ?_
  by_cases hk : (hash k).toNat % width = i
  · subst hk
    exact hr k
  · -- neither shard has a record of a service that belongs elsewhere
    have hnone : k ∉ shards[i] := fun hm => hk (placed i hi k hm)
    have hnone' : k ∉ shards'[i] := fun hm => hk (placed' i hi k hm)
    rw [Std.ExtTreeMap.getElem?_eq_none hnone, Std.ExtTreeMap.getElem?_eq_none hnone']

variable {x y : Edit}

theorem change_write_of_ne (t : ExportTable) (hne : x.service ≠ y.service) :
    ((t.write x).1.write y).2 = (t.write y).2 := by
  rw [change_write, change_write, record?_write, if_neg hne]

theorem write_comm (t : ExportTable) (hne : x.service ≠ y.service) :
    ((t.write x).1.write y).1 = ((t.write y).1.write x).1 := by
  refine ext_records ?_ ?_ fun k => ?_
  · simp only [frame_write]
  · simp only [frame_write]
  · simp only [record?_write]
    by_cases hx : x.service = k
    · rw [if_pos hx, if_pos hx, if_neg fun hy => hne (hx.trans hy.symm)]
    · rw [if_neg hx, if_neg hx]

end ExportTable

theorem PendingPushes.request_comm (p : PendingPushes) {service service' : ServiceId}
    (hne : service ≠ service') (exported exported' : Bool) :
    ((p.request service exported).value.request service' exported').value =
      ((p.request service' exported').value.request service exported).value := by
  have hslots : (p.slots.insert service exported).insert service' exported' =
      (p.slots.insert service' exported').insert service exported := by
    refine Std.ExtTreeMap.ext_getElem? fun k => ?_
    simp only [Std.ExtTreeMap.getElem?_insert, Std.LawfulEqOrd.compare_eq_iff_eq]
    by_cases hk : service = k
    · rw [if_pos hk, if_pos hk, if_neg fun hk' => hne (hk.trans hk'.symm)]
    · rw [if_neg hk, if_neg hk]
  by_cases hs : service ∈ p.slots <;> by_cases hs' : service' ∈ p.slots <;>
    simp [request, hs, hs', hne, Ne.symm hne, hslots]

theorem Transitions.count_comm (t : Transitions) (exported exported' : Bool) :
    (t.count exported).count exported' = (t.count exported').count exported := by
  cases exported <;> cases exported' <;> rfl

namespace ExportState

def own (e : ExportState) (k : ServiceId) : Option Bool × Option Bool :=
  (e.table.record? k, e.pushes.slot? k)

theorem own_edit (e : ExportState) (x : Edit) (k : ServiceId) :
    (e.edit x).value.own k = if x.service = k then x.leave (e.own k) else e.own k := by
  have hslot := slot?_edit e x k
  rw [own, hslot, table_edit, ExportTable.record?_write, ExportTable.change_write]
  by_cases hk : x.service = k
  · subst hk
    simp only [if_true, own, Edit.leave]
    cases x.told (e.table.record? x.service) <;> simp
  · simp only [if_neg hk, own]
    cases x.told (e.table.record? x.service) <;> simp [hk]

theorem record?_edit (e : ExportState) (x : Edit) (k : ServiceId) :
    (e.edit x).value.table.record? k = if x.service = k then x.record else e.table.record? k := by
  rw [table_edit, ExportTable.record?_write]

variable {x y : Edit}

theorem edit_of_told {e : ExportState} (h : x.told (e.table.record? x.service) = none) :
    (e.edit x).value = { e with table := (e.table.write x).1 } := by
  rw [value_edit, ExportTable.change_write, h]
  rfl

/-- A write that finds the record it leaves changes nothing at all. -/
theorem edit_of_record {e : ExportState} (h : e.table.record? x.service = x.record) :
    (e.edit x).value = e := by
  have ht : (e.table.write x).1 = e.table := by
    obtain ⟨hw, hh⟩ := e.table.frame_write x
    refine ExportTable.ext_records hw hh fun k => ?_
    rw [ExportTable.record?_write]
    split
    · rename_i hk
      rw [← h, hk]
    · rfl
  rw [edit_of_told (by rw [h, x.told_record]), ht]

theorem edit_of_isExported {e : ExportState} {k : ServiceId} (h : e.isExported k = true) :
    (e.edit (.created k)).value = e :=
  edit_of_record ((e.table.isExported_iff k).mp h)

theorem edit_edit (e : ExportState) (x : Edit) : ((e.edit x).value.edit x).value = (e.edit x).value :=
  edit_of_record (by rw [record?_edit, if_pos rfl])

theorem edit_comm (e : ExportState) (hne : x.service ≠ y.service) :
    ((e.edit x).value.edit y).value = ((e.edit y).value.edit x).value := by
  have hx := (e.edit y).value.value_edit x
  have hy := (e.edit x).value.value_edit y
  rw [table_edit, ExportTable.change_write_of_ne _ hne] at hy
  rw [table_edit, ExportTable.change_write_of_ne _ hne.symm, ExportTable.write_comm _ hne.symm] at hx
  rw [hx, hy, value_edit, value_edit, ExportTable.change_write, ExportTable.change_write]
  cases x.told (e.table.record? x.service) <;> cases y.told (e.table.record? y.service)
  · rfl
  · rfl
  · rfl
  · rename_i exported exported'
    have hp := e.pushes.request_comm hne exported exported'
    have ht := e.transitions.count_comm exported exported'
    simp only [Option.map_some, change, Traced.bind_value, request, Traced.map_value, hp, ht]

end ExportState
end MeshExport
