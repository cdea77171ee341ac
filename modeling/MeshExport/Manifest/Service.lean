import MeshExport.Manifest.ObjectMeta

/-! Services. Every field may be missing or null. -/

namespace MeshExport

structure ServicePort where
  port : Int32

structure ServiceSpec where
  clusterIp : Option String
  ports : Option (List ServicePort)
  type : Option String

structure Service where
  metadata : ObjectMeta
  spec : Option ServiceSpec

open Decoder

def ServicePort.decode : Decoder ServicePort := fun v => do
  let fields ← object "ServicePort" v
  return { port := (← optional fields "port" int32).getD 0 }

def ServiceSpec.decode : Decoder ServiceSpec := fun v => do
  let fields ← object "ServiceSpec" v
  return {
    clusterIp := ← optional fields "clusterIP" string
    ports := ← optional fields "ports" (list ServicePort.decode)
    type := ← optional fields "type" string }

namespace Service

def apiVersion : String := "v1"

def kind : String := "Service"

def decode : Decoder Service := fun v => do
  let fields ← object "Service" v
  discard <| present fields "apiVersion" (exactly apiVersion)
  discard <| present fields "kind" (exactly kind)
  return {
    metadata := (← optional fields "metadata" ObjectMeta.decode).getD {}
    spec := ← optional fields "spec" ServiceSpec.decode }

end Service
end MeshExport
