/-! IP addresses and their text. A version 6 address is written in lower case without leading
zeros, its longest run of two or more zero groups (the first of equal runs) as two colons. -/

namespace MeshExport

inductive IpAddress where
  | v4 (octets : Vector UInt8 4)
  | v6 (groups : Vector UInt16 8)
deriving DecidableEq

namespace IpAddress

def octetsText (octets : List UInt8) : String :=
  ".".intercalate (octets.map fun o => toString o.toNat)

def groupText (g : UInt16) : String := String.ofList (Nat.toDigits 16 g.toNat)

def groupsText (gs : List UInt16) : String := ":".intercalate (gs.map groupText)

def zeroRun (gs : List UInt16) : Nat := (gs.takeWhile (· = 0)).length

/-- Start and length of the first longest run of zeros. -/
def longestZeroRun (gs : List UInt16) : Nat × Nat :=
  (List.range gs.length).foldl
    (fun best i => if zeroRun (gs.drop i) > best.2 then (i, zeroRun (gs.drop i)) else best) (0, 0)

/-- The last 32 bits of an address that maps a version 4 address. -/
def mappedOctets? (gs : List UInt16) : Option (List UInt8) :=
  match gs with
  | [0, 0, 0, 0, 0, 0xffff, a, b] =>
    some [(a >>> 8).toUInt8, a.toUInt8, (b >>> 8).toUInt8, b.toUInt8]
  | _ => none

def v6Text (gs : List UInt16) : String :=
  match mappedOctets? gs with
  | some octets => "::ffff:" ++ octetsText octets
  | none =>
    let (start, len) := longestZeroRun gs
    if len > 1 then groupsText (gs.take start) ++ "::" ++ groupsText (gs.drop (start + len))
    else groupsText gs

def text : IpAddress → String
  | v4 octets => octetsText octets.toList
  | v6 groups => v6Text groups.toList

end IpAddress
end MeshExport
