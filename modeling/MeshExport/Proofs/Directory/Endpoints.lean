import MeshExport.Proofs.Directory.History

/-! The endpoints of a slice are its ready addresses times its valid ports, in order. Each carries the
service and the cluster it was made for, and so does every endpoint a directory has for a service. -/

namespace MeshExport

namespace EndpointSlice

variable (parse : String → Option IpAddress) (cluster : ClusterId) (service : ServiceId)
  (s : EndpointSlice)

theorem value_addressEndpoints (address : String) :
    (s.addressEndpoints parse cluster service address).value =
      (parse address).elim [] fun ip => s.portNumbers.map fun port =>
        ⟨service, cluster, .of ip port, s.metadata.labels.getD ∅⟩ := by
  unfold addressEndpoints
  cases parse address <;> rfl

theorem value_endpointsOf :
    (s.endpointsOf parse cluster service).value =
      if s.isIp then
        s.endpoints.flatMap fun e =>
          if e.isReady then
            e.addresses.flatMap fun address =>
              (s.addressEndpoints parse cluster service address).value
          else []
      else [] := by
  have haddress (acc : List Endpoint) (address : String) :
      ((acc ++ ·) <$> s.addressEndpoints parse cluster service address).value =
        acc ++ (s.addressEndpoints parse cluster service address).value := rfl
  rw [endpointsOf]
  split
  · refine Traced.value_fold_append (fun acc e => ?_) [] s.endpoints
    split
    · exact Traced.value_fold_append haddress acc e.addresses
    · exact (List.append_nil acc).symm
  · rfl

theorem stamped_endpointsOf :
    ∀ endpoint ∈ (s.endpointsOf parse cluster service).value,
      endpoint.service = service ∧ endpoint.cluster = cluster := by
  intro endpoint hm
  rw [value_endpointsOf] at hm
  split at hm
  · obtain ⟨e, -, hm⟩ := List.mem_flatMap.mp hm
    split at hm
    · obtain ⟨address, -, hm⟩ := List.mem_flatMap.mp hm
      rw [value_addressEndpoints] at hm
      cases hp : parse address with
      | none =>
        rw [hp] at hm
        cases hm
      | some ip =>
        rw [hp] at hm
        obtain ⟨port, -, rfl⟩ := List.mem_map.mp hm
        exact ⟨rfl, rfl⟩
    · cases hm
  · cases hm

end EndpointSlice

/-- A directory resolves a service to endpoints of that service in its own cluster. -/
theorem Directory.Mirrors.stamped {d : Directory} {services : List (Entry Service)}
    {slices : List (Entry EndpointSlice)} (h : d.Mirrors services slices) {service : ServiceId}
    {endpoints : List Endpoint} (hr : d.resolve service = .ok endpoints) :
    ∀ endpoint ∈ endpoints, endpoint.service = service ∧ endpoint.cluster = d.cluster.id := by
  obtain ⟨live, -, -, hlive⟩ := h.resolve service
  rw [hlive] at hr
  split at hr
  · cases hr
  · cases hr
    intro endpoint hm
    obtain ⟨version, -, hm⟩ := List.mem_flatMap.mp hm
    exact version.2.stamped_endpointsOf _ _ _ endpoint hm

end MeshExport
