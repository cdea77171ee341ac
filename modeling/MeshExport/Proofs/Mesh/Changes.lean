import MeshExport.Proofs.Mesh.Run

/-! What a step of the mesh means for one service. If the table reports a change, a push is pending with
the new flag; if not, the flag has not moved, and the pending push is as it was unless a dispatch has
taken it. -/

namespace MeshExport

def changedIn (changes : List Change) : List ServiceId := changes.map Prod.fst

theorem mem_changedIn_append {k : ServiceId} {xs ys : List Change} :
    k ∈ changedIn (xs ++ ys) ↔ k ∈ changedIn xs ∨ k ∈ changedIn ys := by
  rw [changedIn, List.map_append, List.mem_append]
  rfl

namespace ExportState

/-- What the changes from `e` to `e'` mean for a service: if it changed, a push is pending with its flag;
if not, its flag and its pending push are as they were. -/
structure Follows (e : ExportState) (k : ServiceId) (e' : ExportState) (changes : List Change) :
    Prop where
  changed : k ∈ changedIn changes → e'.pushes.slot? k = some (e'.isExported k)
  flag : k ∉ changedIn changes → e'.isExported k = e.isExported k
  slot : k ∉ changedIn changes → e'.pushes.slot? k = e.pushes.slot? k

namespace Follows

variable {k : ServiceId} {e e' e'' : ExportState} {xs ys : List Change}

theorem refl (k : ServiceId) (e : ExportState) : e.Follows k e [] :=
  ⟨fun hk => (by cases hk), fun _ => rfl, fun _ => rfl⟩

theorem congr (h : e.Follows k e' xs) (ha : e'.Agrees e'') : e.Follows k e'' xs := by
  refine ⟨fun hk => ?_, fun hk => ?_, fun hk => ?_⟩
  · rw [ha.slot?, ha.isExported, h.changed hk]
  · rw [ha.isExported, h.flag hk]
  · rw [ha.slot?, h.slot hk]

theorem trans (h : e.Follows k e' xs) (h' : e'.Follows k e'' ys) : e.Follows k e'' (xs ++ ys) := by
  refine ⟨fun hk => ?_, fun hk => ?_, fun hk => ?_⟩
  · by_cases hys : k ∈ changedIn ys
    · exact h'.changed hys
    · have hxs := (mem_changedIn_append.mp hk).resolve_right hys
      rw [h'.slot hys, h'.flag hys, h.changed hxs]
  · rw [mem_changedIn_append, not_or] at hk
    rw [h'.flag hk.2, h.flag hk.1]
  · rw [mem_changedIn_append, not_or] at hk
    rw [h'.slot hk.2, h.slot hk.1]

theorem edit (k : ServiceId) (e : ExportState) (x : Edit) :
    e.Follows k (e.edit x).value (e.table.write x).2.toList := by
  have hslot := slot?_edit e x k
  have hflag := isExported_edit e x k
  cases hw : (e.table.write x).2 with
  | none =>
    simp only [hw] at hslot hflag
    exact ⟨fun hk => (by cases hk), fun _ => hflag, fun _ => hslot⟩
  | some c =>
    simp only [hw] at hslot hflag
    by_cases hc : c.1 = k
    · rw [if_pos hc] at hslot hflag
      have hk : k ∈ changedIn (some c).toList := by simp [changedIn, hc]
      exact ⟨fun _ => by rw [hslot, hflag], fun h => absurd hk h, fun h => absurd hk h⟩
    · rw [if_neg hc] at hslot hflag
      have hk : k ∉ changedIn (some c).toList := by simpa [changedIn] using Ne.symm hc
      exact ⟨fun h => absurd h hk, fun _ => hflag, fun _ => hslot⟩

theorem editAll (k : ServiceId) (e : ExportState) (edits : List Edit) :
    e.Follows k (e.editAll edits).value (e.table.reports edits) := by
  induction edits generalizing e with
  | nil => exact refl k e
  | cons x xs ih =>
    have hrest := ih (e.edit x).value
    rw [table_edit] at hrest
    exact (edit k e x).trans hrest

end Follows
end ExportState

/-- What an action means for a service. A dispatch starts from the state without pending pushes. -/
theorem Mesh.follows_act {σ : Type} (m : Mesh σ) (x : Action σ) (k : ServiceId) :
    (if x.isDispatch then m.exports.detach else m.exports).Follows k (m.act x).value.exports
      (m.changesOf x) := by
  cases x with
  | edit x => exact .editAll k m.exports [x]
  | exports w call =>
    show m.exports.Follows k ((ExportState.exportFeed.walking w).run m.exports call).state _
    rw [ExportState.state_exportFeed]
    exact .editAll k m.exports (call.writes w)
  | directory call => exact .refl k m.exports
  | dispatch w sink =>
    exact (ExportState.Follows.editAll k m.exports.detach _).congr
      (dispatchIn_agrees (m.batch w) m.directory sink m.exports m.outbox)

theorem mem_attempts_of_mem_signals {events : List Event} {signal : Signal}
    (h : signal ∈ signals events) : (signal.service, signal.exported) ∈ attempts events := by
  obtain ⟨e, he, hs⟩ := List.mem_filterMap.mp h
  refine List.mem_filterMap.mpr ⟨e, he, ?_⟩
  cases e <;> cases hs
  rfl

theorem filter_signals_eq_nil {events : List Event} {service : ServiceId}
    (h : (attempts events).filter (·.1 = service) = []) :
    (signals events).filter (·.service = service) = [] := by
  rw [List.filter_eq_nil_iff] at h ⊢
  exact fun signal hs => h _ (mem_attempts_of_mem_signals hs)

theorem toList_signalOf (directory : Directory) (service : ServiceId) (exported : Bool) :
    (signalOf directory (service, exported)).toList =
      match directory.resolve service with
      | .ok endpoints => [⟨service, directory.hostname service, endpoints, exported⟩]
      | .error _ => [] := by
  rw [signalOf]
  cases directory.resolve service <;> rfl

end MeshExport
