import MeshExport.Manifest.Decoder

/-! Metadata common to all objects. Every field may be unset; an empty map or list is set. -/

namespace MeshExport

structure ObjectMeta where
  annotations : Option LabelMap := none
  finalizers : Option (List String) := none
  generateName : Option String := none
  generation : Option Int64 := none
  labels : Option LabelMap := none
  name : Option String := none
  ns : Option String := none
  resourceVersion : Option String := none
  uid : Option String := none

namespace ObjectMeta

open Decoder in
def decode : Decoder ObjectMeta := fun v => do
  let fields ← object "ObjectMeta" v
  return {
    annotations := ← optional fields "annotations" Decoder.labels
    finalizers := ← optional fields "finalizers" (list string)
    generateName := ← optional fields "generateName" string
    generation := ← optional fields "generation" int64
    labels := ← optional fields "labels" Decoder.labels
    name := ← optional fields "name" string
    ns := ← optional fields "namespace" string
    resourceVersion := ← optional fields "resourceVersion" string
    uid := ← optional fields "uid" string }

def labelsJson (m : LabelMap) : Json := .obj (m.toList.map fun l => (l.1, .str l.2))

def toJson (m : ObjectMeta) : Json :=
  .ofFields [
    ("annotations", m.annotations.map labelsJson),
    ("finalizers", m.finalizers.map .ofStrings),
    ("generateName", m.generateName.map .str),
    ("generation", m.generation.map fun n => .int n.toInt),
    ("labels", m.labels.map labelsJson),
    ("name", m.name.map .str),
    ("namespace", m.ns.map .str),
    ("resourceVersion", m.resourceVersion.map .str),
    ("uid", m.uid.map .str)]

end ObjectMeta
end MeshExport
