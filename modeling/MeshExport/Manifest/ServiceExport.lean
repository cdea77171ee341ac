import MeshExport.Manifest.ObjectMeta

/-! The export of a service. A `ServiceExport` marks the service of its own namespace and name as
visible to every cluster in the mesh; it carries no configuration. An export, its spec, its status
and a condition may each be written as an object or as a list of the fields in order. -/

namespace MeshExport

/-- A condition written by the implementation, e.g. `Valid` or `Conflict`. -/
structure Condition where
  type : String
  status : String
  lastTransitionTime : Option String := none
  reason : Option String := none
  message : Option String := none
deriving DecidableEq

structure ExportSpec where
deriving DecidableEq

structure ExportStatus where
  conditions : List Condition := []
deriving DecidableEq

structure ServiceExport where
  metadata : ObjectMeta
  spec : ExportSpec := {}
  status : Option ExportStatus := none

open Decoder

namespace Condition

def typeName : String := "ServiceExportCondition"

def ofFields (fields : List (String × Json)) : Except DecodeError Condition := do
  let lastTransitionTime ← optional fields "lastTransitionTime" string
  let message ← optional fields "message" string
  let reason ← optional fields "reason" string
  let status ← present fields "status" string
  let type ← present fields "type" string
  return {
    type := ← required "type" type
    status := ← required "status" status
    lastTransitionTime, reason, message }

/-- The optional fields may be left out at the end. -/
def ofItems : List Json → Except DecodeError Condition
  | [] => .error (.tooShort 0 typeName 5)
  | [type] => do
    discard <| string type
    .error (.tooShort 1 typeName 5)
  | type :: status :: rest => do
    let type ← string type
    let status ← string status
    let lastTransitionTime ← nullable string (rest[0]?.getD .null)
    let reason ← nullable string (rest[1]?.getD .null)
    let message ← nullable string (rest[2]?.getD .null)
    if rest.length > 3 then .error (.tooLong (rest.length + 2))
    return { type, status, lastTransitionTime, reason, message }

def decode : Decoder Condition
  | .obj fields => ofFields fields
  | .arr items => ofItems items
  | v => .error (.invalidType v (.record typeName))

def blank : Condition := ⟨"", "", none, none, none⟩

def toJson (c : Condition) : Json :=
  .ofFields [
    ("lastTransitionTime", c.lastTransitionTime.map .str),
    ("message", c.message.map .str),
    ("reason", c.reason.map .str),
    ("status", some (.str c.status)),
    ("type", some (.str c.type))]

end Condition

namespace ExportSpec

def decode : Decoder ExportSpec
  | .obj _ => .ok {}
  | .arr items => do
    atMost items 0
    return {}
  | v => .error (.invalidType v (.record "ServiceExportSpec"))

def toJson (_ : ExportSpec) : Json := .obj []

end ExportSpec

namespace ExportStatus

/-- Conditions may be left out but not null. -/
def decode : Decoder ExportStatus
  | .obj fields => do
    let conditions ← present fields "conditions" (list Condition.decode)
    return { conditions := conditions.getD [] }
  | .arr [] => .ok {}
  | .arr (first :: rest) => do
    let conditions ← list Condition.decode first
    atMost (first :: rest) 1
    return { conditions }
  | v => .error (.invalidType v (.record "ServiceExportStatus"))

def toJson (s : ExportStatus) : Json :=
  .ofFields [
    ("conditions", if s.conditions.isEmpty then none else some (.arr (s.conditions.map (·.toJson))))]

end ExportStatus

namespace ServiceExport

def typeName : String := "ServiceExport"

def ofFields (fields : List (String × Json)) : Except DecodeError ServiceExport := do
  let metadata ← present fields "metadata" ObjectMeta.decode
  let spec ← present fields "spec" ExportSpec.decode
  let status ← optional fields "status" ExportStatus.decode
  return {
    metadata := ← required "metadata" metadata
    spec := ← required "spec" spec
    status }

/-- All three fields have to be there, the status as null if it is unset. -/
def ofItems : List Json → Except DecodeError ServiceExport
  | [] => .error (.tooShort 0 typeName 3)
  | [metadata] => do
    discard <| ObjectMeta.decode metadata
    .error (.tooShort 1 typeName 3)
  | [metadata, spec] => do
    discard <| ObjectMeta.decode metadata
    discard <| ExportSpec.decode spec
    .error (.tooShort 2 typeName 3)
  | metadata :: spec :: status :: rest => do
    let metadata ← ObjectMeta.decode metadata
    let spec ← ExportSpec.decode spec
    let status ← nullable ExportStatus.decode status
    if !rest.isEmpty then .error (.tooLong (rest.length + 3))
    return { metadata, spec, status }

def decode : Decoder ServiceExport
  | .obj fields => ofFields fields
  | .arr items => ofItems items
  | v => .error (.invalidType v (.record typeName))

def group : String := "multicluster.x-k8s.io"

def version : String := "v1alpha1"

def apiVersion : String := group ++ "/" ++ version

def kind : String := "ServiceExport"

def plural : String := "serviceexports"

def definitionName : String := plural ++ "." ++ group

def urlPath (ns : Option String) : String :=
  let scope :=
    match ns with
    | some ns => "namespaces/" ++ ns ++ "/"
    | none => ""
  "/apis/" ++ apiVersion ++ "/" ++ scope ++ plural

def toJson (e : ServiceExport) : Json :=
  .ofFields [
    ("apiVersion", some (.str apiVersion)),
    ("kind", some (.str kind)),
    ("metadata", some e.metadata.toJson),
    ("spec", some e.spec.toJson),
    ("status", e.status.map (·.toJson))]

def named (name : String) : ServiceExport := { metadata := { name := some name } }

end ServiceExport
end MeshExport
