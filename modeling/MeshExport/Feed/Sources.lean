import MeshExport.Directory.Slices
import MeshExport.Exports.State
import MeshExport.Feed.Basic
import MeshExport.Manifest.Service
import MeshExport.Manifest.ServiceExport

/-! The three feeds: exports write export state, services and endpoint slices the directory. An object
without a namespace is put aside; one without a name stops the feed before anything changes. -/

namespace MeshExport

instance : Resource ServiceExport := ⟨.serviceExport, (·.metadata), ServiceExport.decode⟩

instance : Resource Service := ⟨.service, (·.metadata), Service.decode⟩

instance : Resource EndpointSlice := ⟨.endpointSlice, (·.metadata), EndpointSlice.decode⟩

def Kind.name : Kind → String
  | serviceExport => ServiceExport.kind
  | service => Service.kind
  | endpointSlice => EndpointSlice.kind

namespace ExportState

def applyExport (e : ExportState) (x : ServiceExport) : Outcome ExportState :=
  match x.metadata.name, x.metadata.ns with
  | none, _ => .stop e .missingName
  | some name, none => ⟨e, [.exportWithoutNamespace name], none⟩
  | some name, some ns => .ofTraced (e.created ⟨ns, name⟩)

def exportFeed : Feed ExportState ServiceExport where
  apply := applyExport
  delete := deleted

end ExportState

namespace Directory

def applyService (d : Directory) (s : Service) : Outcome Directory :=
  match s.metadata.name, s.metadata.ns with
  | none, _ => .stop d .missingName
  | some name, none => ⟨d, [.serviceWithoutNamespace name], none⟩
  | some name, some ns => .done (d.addService ⟨ns, name⟩)

def serviceFeed : Feed Directory Service where
  apply := applyService
  delete d service := pure (d.removeService service)

/-- A slice of a service is put in its place; one that no longer names a service is forgotten. -/
def applySlice (d : Directory) (s : EndpointSlice) : Outcome Directory :=
  match s.metadata.name, s.metadata.ns with
  | none, _ => .stop d .missingName
  | some name, none => ⟨d, [.sliceWithoutNamespace name], none⟩
  | some name, some ns =>
    let slice : SliceId := ⟨ns, name⟩
    match s.owner? with
    | none => ⟨d.forgetSlice slice, [.sliceWithoutService slice], none⟩
    | some owner =>
      let service : ServiceId := ⟨ns, owner⟩
      let built := s.endpointsOf IpAddress.parse? d.cluster.id service
      ⟨d.moveSlice slice service built.value,
        built.events ++ [.sliceIndexed service name built.value.length], none⟩

def sliceFeed : Feed Directory EndpointSlice where
  apply := applySlice
  delete d slice := pure (d.forgetSlice slice)

end Directory
end MeshExport
