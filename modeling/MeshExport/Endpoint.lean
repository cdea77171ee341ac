import MeshExport.NamespacedName
import MeshExport.Net.SocketAddress

/-! Endpoints of services, the proxies that ask for them, and the cluster that names the services. -/

namespace MeshExport

/-- The cluster in which a workload is registered or a proxy is running. -/
structure ClusterId where
  text : String
deriving DecidableEq, Hashable, Inhabited

namespace ClusterId

instance : Ord ClusterId := ⟨compareOn text⟩

instance : Std.TransOrd ClusterId := inferInstanceAs (Std.TransCmp (compareOn text))

instance : Std.LawfulEqOrd ClusterId where
  eq_of_compare {a b} h := by
    have h := Std.LawfulEqOrd.eq_of_compare (α := String) h
    cases a; cases b; simp_all

def sort (ids : List ClusterId) : List ClusterId := ids.mergeSort fun a b => (compare a b).isLE

/-- Blanks in front fill the text up to `width` characters. -/
def alignedRight (c : ClusterId) (width : Nat) : String :=
  "".pushn ' ' (width - c.text.length) ++ c.text

end ClusterId

abbrev LabelMap := Std.ExtTreeMap String String

/-- A network endpoint that backs a service. Visibility is derived from it and never written back. -/
structure Endpoint where
  service : ServiceId
  cluster : ClusterId
  addr : SocketAddress
  /-- Opaque to visibility. -/
  labels : LabelMap

structure Proxy where
  cluster : ClusterId
  ns : String
deriving DecidableEq

structure Cluster where
  /-- Every endpoint of the local directory lies in this cluster. -/
  id : ClusterId
  /-- E.g. `cluster.local`. -/
  domain : String

def Cluster.hostname (c : Cluster) (service : ServiceId) : String :=
  service.name ++ "." ++ service.ns ++ ".svc." ++ c.domain

def Cluster.standard : Cluster := ⟨⟨"c1"⟩, "cluster.local"⟩

end MeshExport
