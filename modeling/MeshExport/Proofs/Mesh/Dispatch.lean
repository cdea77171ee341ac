import MeshExport.Proofs.Exports.Edits
import MeshExport.Proofs.Mesh.Run

/-! What a dispatch emits, after any run from the start: exactly one signal for each service that the
table has reported as changed since the last detachment and that the directory resolves, and none for any
other. -/

namespace MeshExport

theorem filter_filterMap_signalOf (directory : Directory) (batch : List Change)
    (service : ServiceId) :
    (batch.filterMap (signalOf directory)).filter (·.service = service) =
      (batch.filter (·.1 = service)).filterMap (signalOf directory) := by
  induction batch with
  | nil => rfl
  | cons slot slots ih =>
    cases hs : signalOf directory slot with
    | none =>
      rw [List.filterMap_cons_none hs, ih]
      by_cases he : slot.1 = service <;> simp [he, hs]
    | some signal =>
      have hsame : signal.service = slot.1 := congrArg Prod.fst (slot_of_signalOf hs)
      rw [List.filterMap_cons_some hs]
      by_cases he : slot.1 = service <;> simp [he, hs, hsame, ih]

namespace Mesh

variable {σ : Type}

theorem cluster_run (m : Mesh σ) (actions : List (Action σ)) :
    (m.run actions).value.directory.cluster = m.directory.cluster := by
  rw [directory_run, Directory.cluster_takeAll]

/-- After any run, which makes its writes to the table and no other, a dispatch in any order and with
any sink tries one push for every service with a change that the table has reported since the last
detachment, with the flag that is then in the table, and emits one signal for it if the directory
resolves the service: with the service's hostname and all of its endpoints. The table reports a write
that tells another flag than is on record, even a first one of false, and the deletion of an exported
service. The sink is handed these signals, the count returned is theirs, and each push is counted once,
as emitted or as skipped. -/
theorem dispatch_exact (policy : Policy) (cluster : Cluster) (width : Nat)
    (hash : ServiceId → UInt64) (outbox : σ) (actions : List (Action σ)) (w : Walk Change)
    (sink : Sink σ) :
    let start := fresh policy cluster (.empty width hash) outbox
    let m := (start.run actions).value
    let changed := (start.changedSince [] actions).map Prod.fst
    let d := m.dispatchIn (m.batch w) sink
    m.exports.table = start.exports.table.writeAll (start.allWrites actions) ∧
      (∀ x, (m.exports.table.write x).2 =
        (x.told (m.exports.table.record? x.service)).map (x.service, ·)) ∧
      (∀ service, (signals d.events).filter (·.service = service) =
        if service ∈ changed then
          match m.directory.resolve service with
          | .ok endpoints =>
            [{ service
               hostname := service.name ++ "." ++ service.ns ++ ".svc." ++ cluster.domain
               endpoints
               exported := m.exports.isExported service }]
          | .error _ => []
        else []) ∧
      (∀ service, (attempts d.events).filter (·.1 = service) =
        if service ∈ changed then [(service, m.exports.isExported service)] else []) ∧
      (MeshExport.dispatchIn (m.batch w) m.directory sink.recorded m.exports
        (m.outbox, [])).value.outbox.2 = signals d.events ∧
      d.value.2 = (signals d.events).length ∧
      d.value.1.exports.pushes.emitted = m.exports.pushes.emitted + d.value.2 ∧
      d.value.1.exports.pushes.unresolved + d.value.2 =
        m.exports.pushes.unresolved + (attempts d.events).length := by
  intro start m changed d
  have hp : m.exports.Pends (start.changedSince [] actions) :=
    pends_run (pends_fresh policy cluster width hash outbox) actions
  have hc : m.directory.cluster = cluster := cluster_run start actions
  have hs : signals d.events = (m.batch w).filterMap (signalOf m.directory) :=
    signals_dispatchIn ..
  have ha : attempts d.events = m.batch w := attempts_dispatchIn ..
  have hsent : d.value.2 = ((m.batch w).filterMap (signalOf m.directory)).length :=
    sent_dispatchIn ..
  have hb (service : ServiceId) : (m.batch w).filter (·.1 = service) =
      if service ∈ changed then [(service, m.exports.isExported service)] else [] := by
    rw [m.filter_batch w service, hp service]
    split <;> rfl
  refine ⟨start.table_run actions, m.exports.table.change_write, fun service => ?_, fun service => ?_, ?_, ?_, ?_, ?_⟩
  · rw [hs, filter_filterMap_signalOf, hb]
    by_cases hm : service ∈ changed
    · simp only [if_pos hm, List.filterMap_cons, signalOf, Directory.hostname, hc]
      cases m.directory.resolve service <;> rfl
    · simp only [if_neg hm, List.filterMap_nil]
  · rw [ha, hb]
  · rw [hs, recorded_dispatchIn]
  · rw [hs]
    exact hsent
  · rw [hsent]
    exact emitted_dispatchIn ..
  · rw [ha, hsent]
    exact unresolved_dispatchIn ..

end Mesh
end MeshExport
