import MeshExport.Proofs.Mesh.Run

/-! The books of a mesh. Every change of a flag is counted, and has been folded into a pending push or
has opened one; a pending push is emitted or skipped by the dispatch that takes it, and counted as the
one or the other. In the middle of a dispatch the pushes it has not come to make up the difference. -/

namespace MeshExport

/-- A change is folded into a pending push, or opens one. -/
theorem PendingPushes.balance_request (p : PendingPushes) (service : ServiceId) (exported : Bool) :
    (p.request service exported).value.coalesced + (p.request service exported).value.size =
      p.coalesced + p.size + 1 := by
  have hsize := Std.ExtTreeMap.size_insert (t := p.slots) (k := service) (v := exported)
  unfold request size
  by_cases hm : service ∈ p.slots
  · rw [if_pos (Std.ExtTreeMap.contains_iff_mem.mpr hm)] at hsize
    simp only [if_pos hm, hsize]
    omega
  · rw [if_neg (mt Std.ExtTreeMap.contains_iff_mem.mp hm)] at hsize
    simp only [if_neg hm, hsize]
    omega

namespace ExportState

def changes (e : ExportState) : Nat := e.transitions.exported + e.transitions.unexported

theorem changes_change (e : ExportState) (service : ServiceId) (exported : Bool) :
    (e.change service exported).value.changes = e.changes + 1 := by
  cases exported
  · exact (Nat.add_assoc ..).symm
  · exact Nat.add_right_comm ..

/-- A write counts the changes it reports, and folds or opens a push for each. -/
theorem balance_edit (e : ExportState) (x : Edit) :
    (e.edit x).value.changes = e.changes + (reported (e.edit x).events).length ∧
      (e.edit x).value.pushes.coalesced + (e.edit x).value.pushes.size =
        e.pushes.coalesced + e.pushes.size + (reported (e.edit x).events).length := by
  rcases edit_cases e x with ⟨c, -, h⟩ | ⟨later, -, hq, -, h⟩
  · rw [h, (events_change ..).1]
    exact ⟨changes_change { e with table := (e.table.write x).1 } c.1 c.2,
      PendingPushes.balance_request e.pushes c.1 c.2⟩
  · rw [h, hq.reported]
    exact ⟨rfl, rfl⟩

/-- The books after the events `past`, while `rest` pushes of a batch are still to be tried. -/
structure Balanced (e : ExportState) (rest : Nat) (past : List Event) : Prop where
  reported : e.changes = (reported past).length
  changes : e.changes =
    e.pushes.coalesced + e.pushes.emitted + e.pushes.unresolved + e.pushes.size + rest
  emitted : e.pushes.emitted = (signals past).length

namespace Balanced

variable {e : ExportState} {rest : Nat} {past : List Event}

theorem quiet (h : e.Balanced rest past) {later : List Event} (hl : Quiet later) :
    e.Balanced rest (past ++ later) := by
  refine ⟨?_, h.changes, ?_⟩
  · rw [reported_append, hl.reported, List.append_nil, h.reported]
  · rw [signals_append, signals_eq_nil hl.attempts, List.append_nil, h.emitted]

theorem edit (h : e.Balanced rest past) (x : Edit) :
    (e.edit x).value.Balanced rest (past ++ (e.edit x).events) := by
  obtain ⟨hcounted, hpushes⟩ := balance_edit e x
  obtain ⟨hemitted, hunresolved⟩ := counts_edit e x
  have hchanges := h.changes
  refine ⟨?_, by omega, ?_⟩
  · rw [hcounted, reported_append, List.length_append, h.reported]
  · rw [hemitted, signals_append, signals_eq_nil (events_edit e x).2, List.append_nil, h.emitted]

theorem editAll (h : e.Balanced rest past) (edits : List Edit) :
    (e.editAll edits).value.Balanced rest (past ++ (e.editAll edits).events) :=
  Traced.fold_keeps ExportState.edit (P := fun e past => e.Balanced rest past)
    (fun _ x _ h => h.edit x) h edits

theorem detach (h : e.Balanced 0 past) : e.detach.Balanced e.pushes.size past := by
  have hc := h.changes
  have hs : e.detach.pushes.size = 0 := Std.ExtTreeMap.size_empty
  refine ⟨h.reported, ?_, h.emitted⟩
  rw [hs]
  exact hc

theorem countUnresolved (h : e.Balanced (rest + 1) past) {later : List Event}
    (hr : MeshExport.reported later = MeshExport.reported past) (hs : signals later = signals past) :
    e.countUnresolved.Balanced rest later := by
  have hc := h.changes
  refine ⟨?_, ?_, ?_⟩
  · rw [hr]
    exact h.reported
  · show e.changes = e.pushes.coalesced + e.pushes.emitted + (e.pushes.unresolved + 1) +
      e.pushes.size + rest
    omega
  · rw [hs]
    exact h.emitted

theorem countEmitted (h : e.Balanced (rest + 1) past) {later : List Event}
    (hr : MeshExport.reported later = MeshExport.reported past)
    (hs : (signals later).length = (signals past).length + 1) :
    e.countEmitted.Balanced rest later := by
  have hc := h.changes
  refine ⟨?_, ?_, ?_⟩
  · rw [hr]
    exact h.reported
  · show e.changes = e.pushes.coalesced + (e.pushes.emitted + 1) + e.pushes.unresolved +
      e.pushes.size + rest
    omega
  · rw [hs, ← h.emitted]
    rfl

end Balanced

theorem exportFeed_received : exportFeed.Keeps fun _ past => received past = [] where
  apply e x past hp := by
    rw [received_append, hp]
    simp only [exportFeed, applyExport]
    split
    · rfl
    · rfl
    · exact received_edit e (.created _)
  delete e name past hp := by
    rw [received_append, hp]
    exact received_edit e (.deleted name)
  reset _ _ _ := rfl

end ExportState

namespace Round

variable {σ : Type} (directory : Directory) (sink : Sink σ) {r : Round σ} {rest : Nat}
  {past : List Event}

theorem balanced_push (h : r.exports.Balanced (rest + 1) past) (slot : Change) :
    (r.push directory sink slot).value.exports.Balanced rest
      (past ++ (r.push directory sink slot).events) := by
  rcases push_cases directory sink r slot with ⟨error, -, hp⟩ | ⟨signal, -, hp⟩
  · rw [hp]
    refine h.countUnresolved ?_ ?_
    · rw [reported_append]
      exact List.append_nil _
    · rw [signals_append]
      exact List.append_nil _
  · -- the writes of the sink are in the books before the signal is
    have hw := h.editAll (sink r.outbox r.exports signal).edits
    have hquiet : signals (r.exports.editAll (sink r.outbox r.exports signal).edits).events = [] :=
      signals_eq_nil (ExportState.attempts_editAll ..)
    rw [hp]
    refine hw.countEmitted ?_ ?_
    · rw [reported_append, reported_append, reported_emit]
      rfl
    · rw [signals_append, signals_append, signals_emit, hquiet, List.append_nil]
      exact List.length_append

theorem balanced_pushes {slots : List Change} (h : r.exports.Balanced (slots.length + rest) past) :
    (Traced.fold (push directory sink) r slots).value.exports.Balanced rest
      (past ++ (Traced.fold (push directory sink) r slots).events) := by
  induction slots generalizing r past with
  | nil => simpa using h
  | cons slot slots ih =>
    have hs : r.exports.Balanced (slots.length + rest + 1) past := by
      rwa [List.length_cons, Nat.add_right_comm] at h
    have hp := ih (balanced_push directory sink hs slot)
    rwa [List.append_assoc] at hp

end Round

namespace Mesh

variable {σ : Type}

theorem length_batch (m : Mesh σ) (w : Walk Change) : (m.batch w).length = m.exports.pushes.size :=
  (w.perm _).length_eq.trans Std.ExtTreeMap.length_toList

theorem attempts_act (m : Mesh σ) {x : Action σ} (hx : x.isDispatch = false) :
    attempts (m.act x).events = [] := by
  cases x with
  | edit x => exact (ExportState.events_edit m.exports x).2
  | exports w call =>
    have hk : ExportState.exportFeed.Keeps fun _ past => attempts past = [] := by
      refine ExportState.exportFeed_keeps (fun e x past hp => ?_) fun e past later hq hp => ?_
      · rw [attempts_append, hp, (ExportState.events_edit e x).2, List.append_nil]
      · rw [attempts_append, hp, hq.attempts, List.append_nil]
    have hnil : attempts [] = [] := rfl
    exact hk.run w call hnil
  | directory call => exact (m.quiet_directory call).attempts
  | dispatch w sink => cases hx

theorem received_act (m : Mesh σ) (x : Action σ) : received (m.act x).events = [] := by
  cases x with
  | edit x => exact ExportState.received_edit m.exports x
  | exports w call =>
    have hnil : received [] = [] := rfl
    exact ExportState.exportFeed_received.run w call hnil
  | directory call => exact (m.indexing_directory call).received
  | dispatch w sink => exact Round.received_pushes (m.batch w)

theorem balanced_act {m : Mesh σ} {past : List Event} (h : m.exports.Balanced 0 past)
    (x : Action σ) : (m.act x).value.exports.Balanced 0 (past ++ (m.act x).events) := by
  cases x with
  | edit x => exact h.edit x
  | exports w call =>
    exact (ExportState.exportFeed_keeps (P := fun e past => e.Balanced 0 past)
      (fun _ x _ h => h.edit x) fun _ _ _ hq h => h.quiet hq).run w call h
  | directory call => exact h.quiet (m.quiet_directory call)
  | dispatch w sink =>
    have hd : m.exports.detach.Balanced ((m.batch w).length + 0) past := by
      rw [length_batch]
      exact h.detach
    exact Round.balanced_pushes m.directory sink (r := ⟨m.exports.detach, m.outbox, 0⟩) hd

end Mesh
end MeshExport
