import MeshExport.Manifest.ObjectMeta

/-! Endpoint slices, and the service each belongs to. Every field may be missing or null. -/

namespace MeshExport

structure EndpointConditions where
  ready : Option Bool
  serving : Option Bool
  terminating : Option Bool

structure ObjectReference where
  apiVersion : Option String
  fieldPath : Option String
  kind : Option String
  name : Option String
  ns : Option String
  resourceVersion : Option String
  uid : Option String

structure SliceEndpoint where
  addresses : List String
  conditions : Option EndpointConditions
  hostname : Option String
  nodeName : Option String
  targetRef : Option ObjectReference
  zone : Option String

structure SlicePort where
  appProtocol : Option String
  name : Option String
  port : Option Int32
  protocol : Option String

structure EndpointSlice where
  addressType : String
  endpoints : List SliceEndpoint
  metadata : ObjectMeta
  ports : Option (List SlicePort)

open Decoder

def EndpointConditions.decode : Decoder EndpointConditions := fun v => do
  let fields ← object "EndpointConditions" v
  return {
    ready := ← optional fields "ready" boolean
    serving := ← optional fields "serving" boolean
    terminating := ← optional fields "terminating" boolean }

def ObjectReference.decode : Decoder ObjectReference := fun v => do
  let fields ← object "ObjectReference" v
  return {
    apiVersion := ← optional fields "apiVersion" string
    fieldPath := ← optional fields "fieldPath" string
    kind := ← optional fields "kind" string
    name := ← optional fields "name" string
    ns := ← optional fields "namespace" string
    resourceVersion := ← optional fields "resourceVersion" string
    uid := ← optional fields "uid" string }

namespace SliceEndpoint

def decode : Decoder SliceEndpoint := fun v => do
  let fields ← object "Endpoint" v
  return {
    addresses := (← optional fields "addresses" (list string)).getD []
    conditions := ← optional fields "conditions" EndpointConditions.decode
    hostname := ← optional fields "hostname" string
    nodeName := ← optional fields "nodeName" string
    targetRef := ← optional fields "targetRef" ObjectReference.decode
    zone := ← optional fields "zone" string }

/-- An unset condition counts as ready. -/
def isReady (e : SliceEndpoint) : Bool := (e.conditions.bind (·.ready)).getD true

end SliceEndpoint

namespace SlicePort

def decode : Decoder SlicePort := fun v => do
  let fields ← object "EndpointPort" v
  return {
    appProtocol := ← optional fields "appProtocol" string
    name := ← optional fields "name" string
    port := ← optional fields "port" int32
    protocol := ← optional fields "protocol" string }

def number? (p : SlicePort) : Option UInt16 :=
  p.port.bind fun n => if 0 ≤ n.toInt ∧ n.toInt < UInt16.size then some n.toInt.toNat.toUInt16 else none

end SlicePort

/-- Set on every slice that the cluster manages. -/
def serviceNameLabel : String := "kubernetes.io/service-name"

/-- The service a set of labels names; an empty name names none. -/
def serviceName? (labels : LabelMap) : Option String :=
  labels[serviceNameLabel]?.filter (· ≠ "")

namespace EndpointSlice

def apiVersion : String := "discovery.k8s.io/v1"

def kind : String := "EndpointSlice"

def decode : Decoder EndpointSlice := fun v => do
  let fields ← object "EndpointSlice" v
  let addressType ← optional fields "addressType" string
  discard <| present fields "apiVersion" (exactly apiVersion)
  let endpoints ← optional fields "endpoints" (list SliceEndpoint.decode)
  discard <| present fields "kind" (exactly kind)
  let metadata ← optional fields "metadata" ObjectMeta.decode
  let ports ← optional fields "ports" (list SlicePort.decode)
  return {
    addressType := addressType.getD ""
    endpoints := endpoints.getD []
    metadata := metadata.getD {}
    ports }

def isIp (s : EndpointSlice) : Bool := s.addressType == "IPv4" || s.addressType == "IPv6"

def owner? (s : EndpointSlice) : Option String := s.metadata.labels.bind serviceName?

/-- A slice has an owner exactly where the label is present and not empty. -/
theorem owner?_eq_some_iff (s : EndpointSlice) (name : String) :
    s.owner? = some name ↔
      s.metadata.labels.bind (·["kubernetes.io/service-name"]?) = some name ∧ name ≠ "" := by
  unfold owner? serviceName? serviceNameLabel
  cases s.metadata.labels with
  | none => simp
  | some labels =>
    rw [Option.bind_some, Option.bind_some, Option.filter_eq_some_iff, decide_eq_true_iff]

end EndpointSlice
end MeshExport
