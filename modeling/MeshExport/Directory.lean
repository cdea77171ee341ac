import MeshExport.Endpoint

/-! The directory of the local cluster: which services there are, and the endpoints of each. Endpoints
are kept by service and then by slice name; a second table tells which service a slice belongs to. -/

namespace MeshExport

inductive ResolveError where
  | unknownService (service : ServiceId)
deriving DecidableEq

def ResolveError.message : ResolveError → String
  | unknownService service => "service " ++ service.display ++ " is not known to the registry"

abbrev SliceTable := Std.ExtTreeMap String (List Endpoint)

structure Directory where
  cluster : Cluster
  services : Std.ExtTreeSet ServiceId := ∅
  slices : Std.ExtTreeMap ServiceId SliceTable := ∅
  owners : Std.ExtTreeMap SliceId ServiceId := ∅

namespace Directory

def hostname (d : Directory) (service : ServiceId) : String := d.cluster.hostname service

/-- The endpoints of a service, slice by slice in ascending order of the slice names. -/
def resolve (d : Directory) (service : ServiceId) : Except ResolveError (List Endpoint) :=
  match d.slices[service]? with
  | some slices => .ok (slices.toList.flatMap (·.2))
  | none => if service ∈ d.services then .ok [] else .error (.unknownService service)

def addService (d : Directory) (service : ServiceId) : Directory :=
  { d with services := d.services.insert service }

def removeService (d : Directory) (service : ServiceId) : Directory :=
  { d with services := d.services.erase service }

/-- Takes a slice from a service; a service without slices has no entry. -/
def dropSlice (d : Directory) (service : ServiceId) (slice : String) : Directory :=
  match d.slices[service]? with
  | none => d
  | some slices =>
    let slices := slices.erase slice
    if slices.isEmpty then { d with slices := d.slices.erase service }
    else { d with slices := d.slices.insert service slices }

def forgetSlice (d : Directory) (slice : SliceId) : Directory :=
  match d.owners[slice]? with
  | none => d
  | some service => { d with owners := d.owners.erase slice }.dropSlice service slice.name

def putSlice (d : Directory) (slice : SliceId) (service : ServiceId) (endpoints : List Endpoint) :
    Directory :=
  { d with
    owners := d.owners.insert slice service
    slices := d.slices.insert service
      ((d.slices[service]?.getD ∅).insert slice.name endpoints) }

/-- Puts a slice under a service; one that changes its service leaves the old one first. -/
def moveSlice (d : Directory) (slice : SliceId) (service : ServiceId) (endpoints : List Endpoint) :
    Directory :=
  match d.owners[slice]? with
  | some prior =>
    if prior = service then d.putSlice slice service endpoints
    else (d.forgetSlice slice).putSlice slice service endpoints
  | none => d.putSlice slice service endpoints

/-- The same cluster and the same services; slices may differ. -/
structure Frame (d d' : Directory) : Prop where
  cluster : d'.cluster = d.cluster
  services : d'.services = d.services

theorem frame_dropSlice (d : Directory) (service : ServiceId) (slice : String) :
    d.Frame (d.dropSlice service slice) := by
  simp only [dropSlice]
  split
  · exact ⟨rfl, rfl⟩
  · split <;> exact ⟨rfl, rfl⟩

theorem frame_forgetSlice (d : Directory) (slice : SliceId) : d.Frame (d.forgetSlice slice) := by
  simp only [forgetSlice]
  split
  · exact ⟨rfl, rfl⟩
  · obtain ⟨hc, hs⟩ := frame_dropSlice { d with owners := d.owners.erase slice } _ slice.name
    exact ⟨hc, hs⟩

theorem frame_moveSlice (d : Directory) (slice : SliceId) (service : ServiceId)
    (endpoints : List Endpoint) : d.Frame (d.moveSlice slice service endpoints) := by
  simp only [moveSlice]
  split
  · split
    · exact ⟨rfl, rfl⟩
    · obtain ⟨hc, hs⟩ := frame_forgetSlice d slice
      exact ⟨hc, hs⟩
  · exact ⟨rfl, rfl⟩

end Directory
end MeshExport
