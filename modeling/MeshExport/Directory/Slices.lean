import MeshExport.Directory
import MeshExport.Manifest.EndpointSlice
import MeshExport.Trace.Traced

/-! The endpoints a slice stands for: one for each ready address and each valid port. -/

namespace MeshExport.EndpointSlice

def portNumbers (s : EndpointSlice) : List UInt16 := (s.ports.getD []).filterMap (·.number?)

/-- One endpoint per port for an address; a bad address gives none. -/
def addressEndpoints (parse : String → Option IpAddress) (cluster : ClusterId) (service : ServiceId)
    (s : EndpointSlice) (address : String) : Traced (List Endpoint) :=
  match parse address with
  | none => ⟨[], [.invalidAddress service address]⟩
  | some ip =>
    pure (s.portNumbers.map fun port => ⟨service, cluster, .of ip port, s.metadata.labels.getD ∅⟩)

/-- The endpoints of the slice, by endpoint, then by address, then by port. -/
def endpointsOf (parse : String → Option IpAddress) (cluster : ClusterId) (service : ServiceId)
    (s : EndpointSlice) : Traced (List Endpoint) :=
  if s.isIp then
    Traced.fold (fun acc e =>
      if e.isReady then
        Traced.fold (fun acc address =>
          (acc ++ ·) <$> s.addressEndpoints parse cluster service address) acc e.addresses
      else pure acc) [] s.endpoints
  else ⟨[], [.sliceNotIp service s.addressType]⟩

end MeshExport.EndpointSlice
