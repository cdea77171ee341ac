import MeshExport.Net.IpAddress

/-! Reading IP addresses. A reader takes what it recognises off the front and returns the rest. -/

namespace MeshExport.IpAddress

abbrev Reader (α : Type) := List Char → Option (α × List Char)

def digit? (radix : Nat) (c : Char) : Option Nat :=
  let d :=
    if '0' ≤ c && c ≤ '9' then c.toNat - '0'.toNat
    else if 'a' ≤ c && c ≤ 'f' then c.toNat - 'a'.toNat + 10
    else if 'A' ≤ c && c ≤ 'F' then c.toNat - 'A'.toNat + 10
    else radix
  if d < radix then some d else none

def isDigit (radix : Nat) (c : Char) : Bool := (digit? radix c).isSome

def numeral (radix : Nat) (ds : List Char) : Nat :=
  ds.foldl (fun n c => n * radix + (digit? radix c).getD 0) 0

/-- The digits in front make a number below `bound`. -/
def readNumber (radix bound : Nat) : Reader Nat := fun cs =>
  let ds := cs.takeWhile (isDigit radix)
  let n := numeral radix ds
  if ds.isEmpty || n ≥ bound then none else some (n, cs.dropWhile (isDigit radix))

def readChar (c : Char) : Reader Unit
  | d :: cs => if d = c then some ((), cs) else none
  | [] => none

/-- At most three digits, no leading zero, below 256. -/
def readOctet : Reader UInt8 := fun cs => do
  let ds := cs.takeWhile (isDigit 10)
  if ds.length > 3 || (ds.head? = some '0' && ds.length > 1) then none
  let (n, cs) ← readNumber 10 UInt8.size cs
  return (n.toUInt8, cs)

/-- At most four digits. -/
def readGroup : Reader UInt16 := fun cs => do
  if (cs.takeWhile (isDigit 16)).length > 4 then none
  let (n, cs) ← readNumber 16 UInt16.size cs
  return (n.toUInt16, cs)

def readV4 : Reader (Vector UInt8 4) := fun cs => do
  let (a, cs) ← readOctet cs
  let (_, cs) ← readChar '.' cs
  let (b, cs) ← readOctet cs
  let (_, cs) ← readChar '.' cs
  let (c, cs) ← readOctet cs
  let (_, cs) ← readChar '.' cs
  let (d, cs) ← readOctet cs
  return (#v[a, b, c, d], cs)

def readV4Groups : Reader (List UInt16) := fun cs => do
  let (o, cs) ← readV4 cs
  let join (hi lo : UInt8) : UInt16 := hi.toUInt16 <<< 8 ||| lo.toUInt16
  return ([join o[0] o[1], join o[2] o[3]], cs)

/-- Groups separated by colons, at most `limit`; whether they end in a version 4 address. -/
def readGroups (first : Bool) : Nat → List Char → List UInt16 × Bool × List Char
  | 0, cs => ([], false, cs)
  | limit + 1, cs =>
    match if first then some ((), cs) else readChar ':' cs with
    | none => ([], false, cs)
    | some (_, inner) =>
      match if limit > 0 then readV4Groups inner else none with
      | some (gs, rest) => (gs, true, rest)
      | none =>
        match readGroup inner with
        | none => ([], false, cs)
        | some (g, rest) =>
          let (gs, ended, rest) := readGroups false limit rest
          (g :: gs, ended, rest)

def ofGroups? (gs : List UInt16) : Option (Vector UInt16 8) :=
  if h : gs.length = 8 then some ⟨gs.toArray, by simpa using h⟩ else none

/-- Eight groups, or fewer around two colons that stand for at least one group of zeros. A version 4
address may stand only at the end. -/
def readV6 : Reader (Vector UInt16 8) := fun cs => do
  let (head, ended, cs) := readGroups true 8 cs
  if head.length = 8 then
    let gs ← ofGroups? head
    return (gs, cs)
  if ended then none
  let (_, cs) ← readChar ':' cs
  let (_, cs) ← readChar ':' cs
  let (tail, _, cs) := readGroups true (8 - (head.length + 1)) cs
  let gs ← ofGroups? (head ++ List.replicate (8 - head.length - tail.length) 0 ++ tail)
  return (gs, cs)

def readAddress : Reader IpAddress := fun cs =>
  match readV4 cs with
  | some (o, cs) => some (v4 o, cs)
  | none => (readV6 cs).map fun (g, cs) => (v6 g, cs)

def whole {α : Type} (r : Reader α) (text : String) : Option α :=
  match r text.toList with
  | some (x, []) => some x
  | _ => none

def parse? (text : String) : Option IpAddress := whole readAddress text

def parseError : String := "invalid IP address syntax"

end MeshExport.IpAddress
