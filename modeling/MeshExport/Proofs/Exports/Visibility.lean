import Mathlib.Data.List.Basic
import MeshExport.Exports.State

/-! Which endpoints a proxy may discover. A list of endpoints is judged by the service it is asked for, a
single endpoint by the service it carries, and the two verdicts agree where these are the same. Exports
add to what is seen in other clusters, or do nothing where they are not honoured. -/

namespace MeshExport

/-- An endpoint is covered in its own cluster, and elsewhere if its service is exported and exports are
honoured. -/
theorem Policy.covers_reach (p : Policy) (exported : Bool) (origin requesting : ClusterId) :
    (p.reach exported).covers origin requesting = true ↔
      origin = requesting ∨ exported = true ∧ p.discoveryEnabled = true ∧ p.clusterLocal = false := by
  obtain ⟨discovery, clusterLocal⟩ := p
  cases exported <;> cases discovery <;> cases clusterLocal <;>
    simp [reach, honoursExports, Reach.covers]

theorem Policy.covers_own {p : Policy} (h : p.honoursExports = false) (exported : Bool)
    (origin requesting : ClusterId) :
    (p.reach exported).covers origin requesting = (origin == requesting) := by
  rw [reach, h, Bool.and_false]
  exact Bool.or_false _

namespace ExportState

variable (e : ExportState) {service : ServiceId} {endpoints : List Endpoint} (proxy : Proxy)

theorem discoverable_eq_filter_shows (h : ∀ endpoint ∈ endpoints, endpoint.service = service) :
    e.discoverable service endpoints proxy = endpoints.filter (e.shows · proxy) := by
  refine List.filter_congr fun endpoint hm => ?_
  rw [shows, h endpoint hm]
  rfl

theorem discoverable_of_cluster {cluster : ClusterId}
    (h : ∀ endpoint ∈ endpoints, endpoint.cluster = cluster) :
    e.discoverable service endpoints proxy =
      if (e.reach service).covers cluster proxy.cluster then endpoints else [] := by
  have hverdict : e.discoverable service endpoints proxy =
      endpoints.filter fun _ => (e.reach service).covers cluster proxy.cluster :=
    List.filter_congr fun endpoint hm => by rw [h endpoint hm]
  rw [hverdict]
  cases (e.reach service).covers cluster proxy.cluster <;> simp

theorem shows_own (h : e.policy.honoursExports = false) (endpoint : Endpoint) :
    e.shows endpoint proxy = (endpoint.cluster == proxy.cluster) :=
  Policy.covers_own h ..

theorem discoverable_own (h : e.policy.honoursExports = false) :
    e.discoverable service endpoints proxy = endpoints.filter (·.cluster == proxy.cluster) :=
  List.filter_congr fun _ _ => Policy.covers_own h ..

theorem discoverable_sublist {e' : ExportState} (hp : e.policy = e'.policy)
    (he : e'.isExported service = true) :
    (e.discoverable service endpoints proxy).Sublist (e'.discoverable service endpoints proxy) := by
  refine List.monotone_filter_right _ fun endpoint hm => ?_
  rw [reach, Policy.covers_reach] at hm ⊢
  exact hm.imp_right fun hx => ⟨he, hp ▸ hx.2⟩

/-- All endpoints are discoverable where exports count, and those of the proxy's cluster otherwise. -/
theorem discoverable_eq :
    e.discoverable service endpoints proxy =
      if e.isExported service = true ∧ e.policy.discoveryEnabled = true ∧
          e.policy.clusterLocal = false then endpoints
      else endpoints.filter fun endpoint => endpoint.cluster = proxy.cluster := by
  split
  · next h =>
    refine List.filter_eq_self.mpr fun endpoint _ => ?_
    rw [reach, Policy.covers_reach]
    exact .inr h
  · next h =>
    refine List.filter_congr fun endpoint _ => ?_
    rw [Bool.eq_iff_iff, reach, Policy.covers_reach, or_iff_left h, decide_eq_true_eq]

theorem discoverable_eq_filter_asked :
    e.discoverable service endpoints proxy =
      endpoints.filter fun endpoint => e.shows { endpoint with service } proxy :=
  rfl

theorem discoverable_of_same_clusters {changes : List (Endpoint × Endpoint)}
    (h : ∀ change ∈ changes, change.2.cluster = change.1.cluster) :
    ∃ kept : List (Endpoint × Endpoint), kept.Sublist changes ∧
      e.discoverable service (changes.map Prod.fst) proxy = kept.map Prod.fst ∧
      e.discoverable service (changes.map Prod.snd) proxy = kept.map Prod.snd := by
  refine ⟨changes.filter fun change => (e.reach service).covers change.1.cluster proxy.cluster,
    List.filter_sublist, List.filter_map, ?_⟩
  have hafter : changes.filter (fun change => (e.reach service).covers change.1.cluster proxy.cluster) =
      changes.filter fun change => (e.reach service).covers change.2.cluster proxy.cluster :=
    List.filter_congr fun change hm => by rw [h change hm]
  rw [hafter]
  exact List.filter_map

/-- A list asked for as the endpoints of a service is left as it is where that service is exported,
discovery is enabled and services are not kept local; else what is left are the endpoints of the
proxy's cluster, in their order and as often as they occur. Each verdict is that on an endpoint of the
service asked for, and so that on the endpoint itself in a list of that service alone. Lists may be
judged in parts, and again; nothing depends on the proxy's namespace, nor on anything of an endpoint
but its cluster. -/
theorem discoverable_exact (service : ServiceId) (endpoints more : List Endpoint) :
    e.discoverable service endpoints proxy =
        (if e.isExported service = true ∧ e.policy.discoveryEnabled = true ∧
            e.policy.clusterLocal = false then endpoints
        else endpoints.filter fun endpoint => endpoint.cluster = proxy.cluster) ∧
      e.discoverable service endpoints proxy =
        endpoints.filter (fun endpoint => e.shows { endpoint with service } proxy) ∧
      ((∀ endpoint ∈ endpoints, endpoint.service = service) →
        e.discoverable service endpoints proxy = endpoints.filter (e.shows · proxy)) ∧
      e.discoverable service (endpoints ++ more) proxy =
        e.discoverable service endpoints proxy ++ e.discoverable service more proxy ∧
      e.discoverable service (e.discoverable service endpoints proxy) proxy =
        e.discoverable service endpoints proxy ∧
      (∀ ns : String, e.discoverable service endpoints { proxy with ns } =
        e.discoverable service endpoints proxy) ∧
      ∀ changes : List (Endpoint × Endpoint),
        (∀ change ∈ changes, change.2.cluster = change.1.cluster) →
        ∃ kept : List (Endpoint × Endpoint), kept.Sublist changes ∧
          e.discoverable service (changes.map Prod.fst) proxy = kept.map Prod.fst ∧
          e.discoverable service (changes.map Prod.snd) proxy = kept.map Prod.snd := by
  refine ⟨e.discoverable_eq proxy, e.discoverable_eq_filter_asked proxy,
    e.discoverable_eq_filter_shows proxy, List.filter_append .., ?_, fun _ => rfl,
    fun _ => e.discoverable_of_same_clusters proxy⟩
  exact List.filter_eq_self.mpr fun endpoint hm => (List.mem_filter.mp hm).2

/-- Of three endpoints of a service that is not exported, a proxy discovers the two in its own cluster,
also where an endpoint elsewhere has come to carry an exported service and would be shown by itself. -/
theorem discoverable_two_of_three :
    let start : ExportState := { policy := ⟨true, false⟩, table := .empty 16 fun _ => 0 }
    let e := (start.created ⟨"ns", "exported"⟩).value
    let endpoint (service cluster : String) : Endpoint :=
      ⟨⟨"ns", service⟩, ⟨cluster⟩, .of (.v4 #v[10, 0, 0, 1]) 80, ∅⟩
    let listed := [endpoint "svc" "c1", endpoint "svc" "c2", endpoint "svc" "c1"]
    let mixed := [endpoint "svc" "c1", endpoint "exported" "c2", endpoint "exported" "c1"]
    let proxy : Proxy := ⟨⟨"c1"⟩, "ns"⟩
    (∀ endpoint ∈ listed, endpoint.service = ⟨"ns", "svc"⟩) ∧
      (∀ change ∈ listed.zip mixed, change.2.cluster = change.1.cluster) ∧
      listed.filter (e.shows · proxy) = [endpoint "svc" "c1", endpoint "svc" "c1"] ∧
      e.shows (endpoint "exported" "c2") proxy = true ∧
      ∃ kept : List (Endpoint × Endpoint), kept.Sublist (listed.zip mixed) ∧
        [endpoint "svc" "c1", endpoint "svc" "c1"] = kept.map Prod.fst ∧
        [endpoint "svc" "c1", endpoint "exported" "c1"] = kept.map Prod.snd := by
  intro start e endpoint listed mixed proxy
  have hservice : ∀ endpoint ∈ listed, endpoint.service = ⟨"ns", "svc"⟩ := by
    simp [listed, endpoint]
  have hcluster : ∀ change ∈ listed.zip mixed, change.2.cluster = change.1.cluster := by
    simp [listed, mixed, endpoint]
  obtain ⟨-, -, hone, -, -, -, hchanges⟩ :=
    e.discoverable_exact proxy ⟨"ns", "svc"⟩ listed mixed
  exact ⟨hservice, hcluster, (hone hservice).symm, by decide +kernel, hchanges _ hcluster⟩

end ExportState
end MeshExport
