import Mathlib.Data.List.Basic
import MeshExport.Exports.State
import MeshExport.Proofs.Trace.Views

/-! The changes that the table reports for writes of export state, and where export state keeps them: a
service has a pending push exactly if a change of it was reported since the last dispatch took the pushes
away, and the push tells the flag that is in the table. The log tells the same changes. -/

namespace MeshExport

namespace ExportTable

/-- Makes a write; the change the table reports, if it does. -/
def write (t : ExportTable) : Edit → ExportTable × Option Change
  | .set service exported =>
    let r := t.set service exported
    (r.1, if r.2 then some (service, exported) else none)
  | .created service =>
    let r := t.set service true
    (r.1, if r.2 then some (service, true) else none)
  | .deleted service =>
    let r := t.remove service
    (r.1, if r.2 then some (service, false) else none)

/-- The changes the table reports for writes made in order. -/
def reports (t : ExportTable) : List Edit → List Change
  | [] => []
  | x :: xs => (t.write x).2.toList ++ (t.write x).1.reports xs

def writeAll (t : ExportTable) (edits : List Edit) : ExportTable :=
  edits.foldl (fun t x => (t.write x).1) t

theorem reports_append (t : ExportTable) (xs ys : List Edit) :
    t.reports (xs ++ ys) = t.reports xs ++ (t.writeAll xs).reports ys := by
  induction xs generalizing t with
  | nil => rfl
  | cons x xs ih => rw [List.cons_append, reports, reports, ih, List.append_assoc]; rfl

theorem isExported_set (t : ExportTable) (service : ServiceId) (exported : Bool) (k : ServiceId) :
    (t.set service exported).1.isExported k =
      if (t.set service exported).2 ∧ service = k then exported else t.isExported k := by
  by_cases hk : service = k
  · subst hk
    have hs : (t.set service exported).1.isExported service = exported := by
      simp [isExported, record?_set]
    rw [hs]
    by_cases hr : t.record? service = some exported
    · have ht : t.isExported service = exported := by simp [isExported, hr]
      simp [ht]
    · simp [set, hr]
  · simp [isExported, record?_set, hk]

theorem isExported_remove (t : ExportTable) (service k : ServiceId) :
    (t.remove service).1.isExported k =
      if (t.remove service).2 ∧ service = k then false else t.isExported k := by
  by_cases hk : service = k
  · subst hk
    have hs : (t.remove service).1.isExported service = false := by
      simp [isExported, record?_remove]
    have hr : (t.remove service).2 = t.isExported service := rfl
    rw [hs, hr]
    cases h : t.isExported service <;> simp
  · simp [isExported, record?_remove, hk]

/-- A write moves the flag of the service it reports and no other. -/
theorem isExported_write (t : ExportTable) (x : Edit) (k : ServiceId) :
    (t.write x).1.isExported k =
      match (t.write x).2 with
      | some c => if c.1 = k then c.2 else t.isExported k
      | none => t.isExported k := by
  cases x with
  | set service exported =>
    cases h : (t.set service exported).2 <;> simp [write, isExported_set, h]
  | created service =>
    cases h : (t.set service true).2 <;> simp [write, isExported_set, h]
  | deleted service =>
    cases h : (t.remove service).2 <;> simp [write, isExported_remove, h]

end ExportTable

namespace ExportState

theorem quiet_request (e : ExportState) (service : ServiceId) (exported : Bool) :
    Quiet (e.request service exported).events := by
  simp only [request, Traced.map_events, PendingPushes.request]
  split
  · exact .singleton rfl rfl
  · exact .nil

theorem events_change (e : ExportState) (service : ServiceId) (exported : Bool) :
    reported (e.change service exported).events = [(service, exported)] ∧
      attempts (e.change service exported).events = [] := by
  have hq := quiet_request { e with transitions := e.transitions.count exported } service exported
  simp only [change, Traced.bind_events, reported_append, attempts_append, hq.reported, hq.attempts]
  exact ⟨rfl, rfl⟩

theorem received_change (e : ExportState) (service : ServiceId) (exported : Bool) :
    received (e.change service exported).events = [] := by
  simp only [change, request, PendingPushes.request, Traced.bind_events, Traced.map_events]
  split <;> rfl

/-- A write is the write of the table and, where the table reports a change, that change. Elsewhere the
log tells of no change. -/
theorem edit_cases (e : ExportState) (x : Edit) :
    (∃ c, (e.table.write x).2 = some c ∧
      e.edit x = ({ e with table := (e.table.write x).1 } : ExportState).change c.1 c.2) ∨
    (∃ later, (e.table.write x).2 = none ∧ Quiet later ∧ received later = [] ∧
      e.edit x = ⟨{ e with table := (e.table.write x).1 }, later⟩) := by
  have hset (service : ServiceId) (exported : Bool) :
      e.set service exported =
        if (e.table.set service exported).2 then
          (·, true) <$> ({ e with table := (e.table.set service exported).1 } : ExportState).change
            service exported
        else pure ({ e with table := (e.table.set service exported).1 }, false) := by
    by_cases hr : e.table.record? service = some exported <;> simp [set, ExportTable.set, hr]
  cases x with
  | set service exported =>
    simp only [edit, hset, ExportTable.write]
    cases (e.table.set service exported).2 with
    | false => exact .inr ⟨[], rfl, .nil, rfl, rfl⟩
    | true => exact .inl ⟨_, rfl, rfl⟩
  | created service =>
    simp only [edit, created, hset, ExportTable.write]
    cases (e.table.set service true).2 with
    | false => exact .inr ⟨[.alreadyExported service], rfl, .singleton rfl rfl, rfl, rfl⟩
    | true => exact .inl ⟨_, rfl, congrArg (Traced.mk _) (List.append_nil _)⟩
  | deleted service =>
    simp only [edit, deleted, ExportTable.write]
    cases (e.table.remove service).2 with
    | false => exact .inr ⟨[.notExported service], rfl, .singleton rfl rfl, rfl, rfl⟩
    | true => exact .inl ⟨_, rfl, rfl⟩

theorem value_edit (e : ExportState) (x : Edit) :
    (e.edit x).value =
      match (e.table.write x).2 with
      | some c => (({ e with table := (e.table.write x).1 } : ExportState).change c.1 c.2).value
      | none => { e with table := (e.table.write x).1 } := by
  rcases edit_cases e x with ⟨c, hc, he⟩ | ⟨later, hc, -, -, he⟩ <;> rw [hc, he]

theorem table_edit (e : ExportState) (x : Edit) :
    (e.edit x).value.table = (e.table.write x).1 := by
  rcases edit_cases e x with ⟨c, -, he⟩ | ⟨later, -, -, -, he⟩
  · rw [he, table_change]
  · rw [he]

theorem slots_edit (e : ExportState) (x : Edit) :
    (e.edit x).value.pushes.slots =
      match (e.table.write x).2 with
      | some c => e.pushes.slots.insert c.1 c.2
      | none => e.pushes.slots := by
  rw [value_edit]
  cases (e.table.write x).2 with
  | none => rfl
  | some c =>
    simp only [change, request, PendingPushes.request, Traced.bind_value, Traced.map_value]
    split <;> rfl

/-- The change the table reports is what the service's pending push tells. -/
theorem slot?_edit (e : ExportState) (x : Edit) (k : ServiceId) :
    (e.edit x).value.pushes.slot? k =
      match (e.table.write x).2 with
      | some c => if c.1 = k then some c.2 else e.pushes.slot? k
      | none => e.pushes.slot? k := by
  rw [value_edit]
  cases (e.table.write x).2 with
  | none => rfl
  | some c => exact slot?_change ..

theorem isExported_edit (e : ExportState) (x : Edit) (k : ServiceId) :
    (e.edit x).value.isExported k =
      match (e.table.write x).2 with
      | some c => if c.1 = k then c.2 else e.isExported k
      | none => e.isExported k := by
  rw [isExported, table_edit]
  exact e.table.isExported_write x k

/-- A write reports what the table says has changed, and tries no push. -/
theorem events_edit (e : ExportState) (x : Edit) :
    reported (e.edit x).events = (e.table.write x).2.toList ∧ attempts (e.edit x).events = [] := by
  rcases edit_cases e x with ⟨c, hc, he⟩ | ⟨later, hc, hq, -, he⟩
  · rw [hc, he]
    exact events_change ..
  · rw [hc, he]
    exact ⟨hq.reported, hq.attempts⟩

theorem received_edit (e : ExportState) (x : Edit) : received (e.edit x).events = [] := by
  rcases edit_cases e x with ⟨c, -, he⟩ | ⟨later, -, -, hr, he⟩
  · rw [he, received_change]
  · rw [he, hr]

def editAll (e : ExportState) (edits : List Edit) : Traced ExportState := Traced.fold edit e edits

theorem attempts_editAll (e : ExportState) (edits : List Edit) :
    attempts (e.editAll edits).events = [] :=
  Traced.filterMap_events_fold_nil edit (fun e x => (events_edit e x).2) e edits

theorem table_editAll (e : ExportState) (edits : List Edit) :
    (e.editAll edits).value.table = e.table.writeAll edits := by
  induction edits generalizing e with
  | nil => rfl
  | cons x xs ih => exact (ih (e.edit x).value).trans (congrArg (·.writeAll xs) (table_edit e x))

/-- The log of writes tells what the table reports for them. -/
theorem reported_editAll (e : ExportState) (edits : List Edit) :
    reported (e.editAll edits).events = e.table.reports edits := by
  induction edits generalizing e with
  | nil => rfl
  | cons x xs ih =>
    show reported ((e.edit x).events ++ ((e.edit x).value.editAll xs).events) = _
    rw [reported_append, (events_edit e x).1, ih, table_edit, ExportTable.reports]

theorem received_editAll (e : ExportState) (edits : List Edit) :
    received (e.editAll edits).events = [] :=
  Traced.filterMap_events_fold_nil edit received_edit e edits

/-- The same records and pending pushes; counts and wake-ups may differ. -/
structure Agrees (e e' : ExportState) : Prop where
  table : e'.table = e.table
  slots : e'.pushes.slots = e.pushes.slots

namespace Agrees

variable {e e' : ExportState}

theorem isExported (h : e.Agrees e') (k : ServiceId) : e'.isExported k = e.isExported k := by
  rw [ExportState.isExported, h.table, ExportState.isExported]

theorem slot? (h : e.Agrees e') (k : ServiceId) : e'.pushes.slot? k = e.pushes.slot? k := by
  rw [PendingPushes.slot?, h.slots, PendingPushes.slot?]

theorem trans {e'' : ExportState} (h : e.Agrees e') (h' : e'.Agrees e'') : e.Agrees e'' :=
  ⟨h'.table.trans h.table, h'.slots.trans h.slots⟩

theorem edit (h : e.Agrees e') (x : Edit) : (e.edit x).value.Agrees (e'.edit x).value :=
  ⟨by rw [table_edit, table_edit, h.table], by rw [slots_edit, slots_edit, h.table, h.slots]⟩

theorem editAll (h : e.Agrees e') (edits : List Edit) :
    (e.editAll edits).value.Agrees (e'.editAll edits).value := by
  induction edits generalizing e e' with
  | nil => exact h
  | cons x xs ih => exact ih (h.edit x)

end Agrees

/-- Exactly the services of these changes have a pending push, which tells the flag in the table. -/
def Pends (e : ExportState) (changes : List Change) : Prop :=
  ∀ k, e.pushes.slot? k = if k ∈ changes.map Prod.fst then some (e.isExported k) else none

namespace Pends

variable {e : ExportState} {changes : List Change}

theorem edit (h : e.Pends changes) (x : Edit) :
    (e.edit x).value.Pends (changes ++ (e.table.write x).2.toList) := by
  intro k
  have hk := h k
  rw [slot?_edit, isExported_edit]
  cases (e.table.write x).2 with
  | none => rwa [Option.toList_none, List.append_nil]
  | some c =>
    by_cases hc : c.1 = k
    · simp [hc]
    · simpa [hc, Ne.symm hc] using hk

theorem editAll (h : e.Pends changes) (edits : List Edit) :
    (e.editAll edits).value.Pends (changes ++ e.table.reports edits) := by
  induction edits generalizing e changes with
  | nil => rwa [ExportTable.reports, List.append_nil]
  | cons x xs ih =>
    have hx := ih (h.edit x)
    rwa [table_edit, List.append_assoc] at hx

theorem congr {e' : ExportState} (h : e.Pends changes) (ha : e.Agrees e') : e'.Pends changes := by
  intro k
  rw [ha.slot?, ha.isExported, h k]

end Pends
end ExportState
end MeshExport
