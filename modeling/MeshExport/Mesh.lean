import MeshExport.Feed.Sources
import MeshExport.Push.Dispatcher

/-! Export state and directory side by side: exports feed the one, services and endpoint slices the
other, and a dispatch reads both. The outbox is the state of whatever receives the signals. -/

namespace MeshExport

structure Mesh (σ : Type) where
  exports : ExportState
  directory : Directory
  outbox : σ

namespace Mesh

variable {σ : Type}

def fresh (policy : Policy) (cluster : Cluster) (table : ExportTable) (outbox : σ) : Mesh σ where
  exports := { policy, table }
  directory := { cluster }
  outbox

def exportFeed : Feed (Mesh σ) ServiceExport :=
  ExportState.exportFeed.within Mesh.exports fun m exports => { m with exports }

def serviceFeed : Feed (Mesh σ) Service :=
  Directory.serviceFeed.within Mesh.directory fun m directory => { m with directory }

def sliceFeed : Feed (Mesh σ) EndpointSlice :=
  Directory.sliceFeed.within Mesh.directory fun m directory => { m with directory }

def set (m : Mesh σ) (service : ServiceId) (exported : Bool) : Traced (Mesh σ × Bool) :=
  (fun r => ({ m with exports := r.1 }, r.2)) <$> m.exports.set service exported

def edit (m : Mesh σ) (e : Edit) : Traced (Mesh σ) :=
  (fun exports => { m with exports }) <$> m.exports.edit e

def request (m : Mesh σ) (service : ServiceId) (exported : Bool) : Traced (Mesh σ) :=
  (fun exports => { m with exports }) <$> m.exports.request service exported

/-- Dispatches the pending pushes in the order of `batch`; how many signals were emitted. -/
def dispatchIn (batch : List (ServiceId × Bool)) (sink : Sink σ) (m : Mesh σ) :
    Traced (Mesh σ × Nat) :=
  (fun r => ({ m with exports := r.exports, outbox := r.outbox }, r.sent)) <$>
    MeshExport.dispatchIn batch m.directory sink m.exports m.outbox

def dispatch (sink : Sink σ) (m : Mesh σ) : Traced (Mesh σ × Nat) :=
  m.dispatchIn m.exports.pushes.slots.toList sink

def poll (sink : Sink σ) (rounds : Nat) (m : Mesh σ) : Traced (Mesh σ) :=
  (fun r => { m with exports := r.1, outbox := r.2 }) <$>
    Dispatcher.poll m.directory sink rounds m.exports m.outbox

def stopDispatcher (m : Mesh σ) : Mesh σ := { m with exports := m.exports.stopDispatcher }

def discover (m : Mesh σ) (service : ServiceId) (proxy : Proxy) :
    Except ResolveError (List Endpoint) :=
  (m.exports.discoverable service · proxy) <$> m.directory.resolve service

end Mesh
end MeshExport
