import MeshExport.Net.AddressReader

/-! An IP address with a port; a version 6 address may carry a scope. -/

namespace MeshExport

structure SocketAddress where
  ip : IpAddress
  port : UInt16
  scope : UInt32
deriving DecidableEq

namespace SocketAddress

def of (ip : IpAddress) (port : UInt16) : SocketAddress := ⟨ip, port, 0⟩

/-- A version 6 address stands in brackets; its scope is written unless it is zero. -/
def text (a : SocketAddress) : String :=
  let port := ":" ++ toString a.port.toNat
  match a.ip with
  | .v4 _ => a.ip.text ++ port
  | .v6 _ =>
    let scope := if a.scope = 0 then "" else "%" ++ toString a.scope.toNat
    "[" ++ a.ip.text ++ scope ++ "]" ++ port

open IpAddress in
def readPort : Reader UInt16 := fun cs => do
  let (_, cs) ← readChar ':' cs
  let (n, cs) ← readNumber 10 UInt16.size cs
  return (n.toUInt16, cs)

open IpAddress in
/-- A scope, or zero if none can be read. -/
def readScope (cs : List Char) : UInt32 × List Char :=
  match readChar '%' cs with
  | none => (0, cs)
  | some (_, inner) =>
    match readNumber 10 UInt32.size inner with
    | some (n, rest) => (n.toUInt32, rest)
    | none => (0, cs)

open IpAddress in
def readV4Socket : Reader SocketAddress := fun cs => do
  let (o, cs) ← readV4 cs
  let (port, cs) ← readPort cs
  return (of (.v4 o) port, cs)

open IpAddress in
def readV6Socket : Reader SocketAddress := fun cs => do
  let (_, cs) ← readChar '[' cs
  let (g, cs) ← readV6 cs
  let (scope, cs) := readScope cs
  let (_, cs) ← readChar ']' cs
  let (port, cs) ← readPort cs
  return (⟨.v6 g, port, scope⟩, cs)

def parse? (text : String) : Option SocketAddress :=
  IpAddress.whole (fun cs => (readV4Socket cs).orElse fun _ => readV6Socket cs) text

def parseError : String := "invalid socket address syntax"

end SocketAddress
end MeshExport
