import MeshExport.Exports.Table
import MeshExport.Policy
import MeshExport.Push.Pending

/-! Export state, and the answers about visibility that follow from it. Every change of a record is
counted and asks for a push. -/

namespace MeshExport

/-- How often a service's exported state changed, by the new state; below `2 ^ 64` times each. -/
structure Transitions where
  exported : Nat := 0
  unexported : Nat := 0
deriving DecidableEq

def Transitions.count (t : Transitions) (exported : Bool) : Transitions :=
  if exported then { t with exported := t.exported + 1 }
  else { t with unexported := t.unexported + 1 }

structure ExportState where
  policy : Policy
  table : ExportTable
  pushes : PendingPushes := {}
  transitions : Transitions := {}

inductive Edit where
  | set (service : ServiceId) (exported : Bool)
  | created (service : ServiceId)
  | deleted (service : ServiceId)
deriving DecidableEq

namespace ExportState

def isExported (e : ExportState) (service : ServiceId) : Bool := e.table.isExported service

def reach (e : ExportState) (service : ServiceId) : Reach := e.policy.reach (e.isExported service)

def shows (e : ExportState) (endpoint : Endpoint) (proxy : Proxy) : Bool :=
  e.policy.visible (e.isExported endpoint.service) endpoint.cluster proxy.cluster

/-- The endpoints of `service` the proxy may discover, in their order. The state of the service is
read once for all of them. -/
def discoverable (e : ExportState) (service : ServiceId) (endpoints : List Endpoint)
    (proxy : Proxy) : List Endpoint :=
  let reach := e.reach service
  endpoints.filter fun endpoint => reach.covers endpoint.cluster proxy.cluster

/-- A push asked for from outside. -/
def request (e : ExportState) (service : ServiceId) (exported : Bool) : Traced ExportState :=
  (fun pushes => { e with pushes }) <$> e.pushes.request service exported

def change (e : ExportState) (service : ServiceId) (exported : Bool) : Traced ExportState := do
  Traced.emit (.stateChanged service exported)
  { e with transitions := e.transitions.count exported }.request service exported

/-- Sets the flag of a service; whether it changed. -/
def set (e : ExportState) (service : ServiceId) (exported : Bool) : Traced (ExportState × Bool) :=
  let r := e.table.set service exported
  if r.2 then (·, true) <$> { e with table := r.1 }.change service exported else pure (e, false)

/-- The service's export was created, or seen again. -/
def created (e : ExportState) (service : ServiceId) : Traced ExportState := do
  let r ← e.set service true
  Traced.emitIf (!r.2) (.alreadyExported service)
  return r.1

def deleted (e : ExportState) (service : ServiceId) : Traced ExportState :=
  let r := e.table.remove service
  if r.2 then { e with table := r.1 }.change service false
  else ⟨{ e with table := r.1 }, [.notExported service]⟩

def edit (e : ExportState) : Edit → Traced ExportState
  | .set service exported => Prod.fst <$> e.set service exported
  | .created service => e.created service
  | .deleted service => e.deleted service

@[simp] theorem table_change (e : ExportState) (service : ServiceId) (exported : Bool) :
    (e.change service exported).value.table = e.table := rfl

theorem slot?_change (e : ExportState) (service : ServiceId) (exported : Bool) (k : ServiceId) :
    (e.change service exported).value.pushes.slot? k =
      if service = k then some exported else e.pushes.slot? k :=
  PendingPushes.slot?_request ..

end ExportState
end MeshExport
