import MeshExport.Directory

/-! What can be observed of a run besides its states: every change of export state, every push that
was queued, folded, sent or skipped, with the signal sent, and every object that was put aside. -/

namespace MeshExport

/-- Makes the push pipeline recompute a service's endpoints for every proxy. -/
structure Signal where
  service : ServiceId
  hostname : String
  /-- All endpoints of the service; visibility is applied per proxy later on. -/
  endpoints : List Endpoint
  exported : Bool

/-- Ordered by service; signals of one service keep their order. -/
def Signal.sort (signals : List Signal) : List Signal :=
  signals.mergeSort fun a b => (compare a.service b.service).isLE

inductive Event where
  | stateChanged (service : ServiceId) (exported : Bool)
  | alreadyExported (service : ServiceId)
  | notExported (service : ServiceId)
  /-- A change was folded into a push that was already pending. -/
  | coalesced (service : ServiceId) (exported : Bool)
  | unresolved (service : ServiceId) (exported : Bool) (error : ResolveError)
  | pushed (signal : Signal)
  /-- The dispatcher finished a round. -/
  | dispatched (sent : Nat)
  /-- Nobody receives signals any more. -/
  | dropped (service : ServiceId)
  | exportWithoutNamespace (name : String)
  | serviceWithoutNamespace (name : String)
  | sliceWithoutNamespace (name : String)
  | sliceWithoutService (slice : SliceId)
  | sliceIndexed (service : ServiceId) (slice : String) (endpoints : Nat)
  | sliceNotIp (service : ServiceId) (addressType : String)
  | invalidAddress (service : ServiceId) (address : String)
  | visibilityChanged (signal : Signal)
  | signalsClosed

end MeshExport
