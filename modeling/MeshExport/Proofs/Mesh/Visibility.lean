import MeshExport.Proofs.Directory.Endpoints
import MeshExport.Proofs.Exports.Visibility
import MeshExport.Proofs.Mesh.Run

/-! What a proxy sees of the endpoints a service is resolved to, after any run: all of them or none. For
they all carry the service and lie in the local cluster, whatever became of the slices they are from. -/

namespace MeshExport

theorem ExportState.kept_policy (policy : Policy) : Kept fun e => e.policy = policy where
  edit e x h := by
    rcases edit_cases e x with ⟨c, -, hx⟩ | ⟨later, -, -, -, hx⟩
    · rwa [hx]
    · rwa [hx]
  detach _ h := h
  countEmitted _ h := h
  countUnresolved _ h := h

namespace Mesh

variable {σ : Type}

/-- After any run, the endpoints a service is resolved to all carry that service and the local cluster.
A proxy of the local cluster discovers all of them; any other proxy discovers all of them if the service
is exported, discovery is enabled and services are not kept local, and none of them otherwise. That is
the verdict on each endpoint alone, too. -/
theorem discoverable_all_or_nothing (policy : Policy) (cluster : Cluster) (width : Nat)
    (hash : ServiceId → UInt64) (outbox : σ) (actions : List (Action σ)) (service : ServiceId)
    (proxy : Proxy) (endpoints : List Endpoint) :
    let m := ((fresh policy cluster (.empty width hash) outbox).run actions).value
    m.directory.resolve service = .ok endpoints →
      (∀ endpoint ∈ endpoints, endpoint.service = service ∧ endpoint.cluster = cluster.id) ∧
        m.exports.discoverable service endpoints proxy =
          (if proxy.cluster = cluster.id ∨ m.exports.isExported service = true ∧
              policy.discoveryEnabled = true ∧ policy.clusterLocal = false then endpoints
          else []) ∧
        ∀ endpoint ∈ endpoints, endpoint ∈ m.exports.discoverable service endpoints proxy ↔
          m.exports.shows endpoint proxy = true := by
  intro m hresolved
  have hpolicy : m.exports.policy = policy := kept_run (ExportState.kept_policy policy) rfl actions
  have hdirectory : m.directory = ({ cluster } : Directory).takeAll (actions.filterMap Action.call?) :=
    directory_run _ actions
  have hstamped : ∀ endpoint ∈ endpoints,
      endpoint.service = service ∧ endpoint.cluster = cluster.id := by
    have hmirrors := (Directory.mirrors_empty cluster).takeAll (actions.filterMap Action.call?)
    rw [hdirectory] at hresolved
    have hs := hmirrors.stamped hresolved
    rwa [Directory.cluster_takeAll] at hs
  refine ⟨hstamped, ?_, fun endpoint hm => ?_⟩
  · rw [m.exports.discoverable_of_cluster proxy fun endpoint hm => (hstamped endpoint hm).2]
    refine if_congr ?_ rfl rfl
    rw [ExportState.reach, Policy.covers_reach, hpolicy, eq_comm]
  · rw [m.exports.discoverable_eq_filter_shows proxy fun endpoint hm => (hstamped endpoint hm).1,
      List.mem_filter, and_iff_right hm]

/-- A slice that moved to an exported service is discovered there from another cluster. -/
theorem moved_slice_discoverable_elsewhere :
    let labels (service : String) : LabelMap := .ofList [(serviceNameLabel, service)]
    let slice (service : String) : EndpointSlice :=
      { addressType := "IPv4"
        endpoints := [⟨["10.0.0.1"], none, none, none, none, none⟩]
        metadata := { name := some "slice", ns := some "ns", labels := some (labels service) }
        ports := some [⟨none, none, some 8080, none⟩] }
    let start := fresh ⟨true, false⟩ .standard (.empty 16 fun _ => 0) ()
    let m := (start.run [
      .directory (.slice .listed (.apply (slice "old"))),
      .exports .listed (.apply { metadata := { name := some "new", ns := some "ns" } }),
      .directory (.slice .listed (.apply (slice "new")))]).value
    let endpoint : Endpoint := ⟨⟨"ns", "new"⟩, ⟨"c1"⟩, .of (.v4 #v[10, 0, 0, 1]) 8080, labels "new"⟩
    m.directory.resolve ⟨"ns", "new"⟩ = .ok [endpoint] ∧
      m.exports.discoverable ⟨"ns", "new"⟩ [endpoint] ⟨⟨"c2"⟩, "ns"⟩ = [endpoint] := by
  intro labels slice start m endpoint
  have hresolved : m.directory.resolve ⟨"ns", "new"⟩ = .ok [endpoint] := by rfl
  have hexported : m.exports.isExported ⟨"ns", "new"⟩ = true := by decide +kernel
  obtain ⟨-, hseen, -⟩ := discoverable_all_or_nothing ⟨true, false⟩ .standard 16 (fun _ => 0) () _
    ⟨"ns", "new"⟩ ⟨⟨"c2"⟩, "ns"⟩ [endpoint] hresolved
  exact ⟨hresolved, hseen.trans (if_pos (.inr ⟨hexported, rfl, rfl⟩))⟩

end Mesh
end MeshExport
