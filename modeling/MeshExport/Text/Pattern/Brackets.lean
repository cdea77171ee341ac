import MeshExport.Text.Pattern.Escape

/-! Sets of characters in brackets, and how deep they are nested. -/

namespace MeshExport.Pattern

/-! Nesting -/

def nestingLimit : Nat := 250

/-- Parts side by side, by their number and the depth of the deepest. -/
structure Row where
  count : Nat := 0
  deepest : Nat := 0
deriving DecidableEq

namespace Row

def add (r : Row) (depth : Nat) : Row := ⟨r.count + 1, max r.deepest depth⟩

/-- The depth of the whole. A part that stands alone is the whole. -/
def depth (r : Row) : Nat := if r.count > 1 then r.deepest + 1 else r.deepest

end Row

/-! Sets -/

/-- Names of sets of ASCII characters, with the colons and the bracket that follow. -/
def asciiSets : List (List Char) :=
  ["alnum", "alpha", "ascii", "blank", "cntrl", "digit", "graph", "lower", "print", "punct", "space",
    "upper", "word", "xdigit"].map fun name => (':' :: name.toList) ++ [':', ']']

def readNamedSet (m : Modes) (cs : List Char) : Option (List Char) :=
  let (negated, cs) :=
    match cs with
    | ':' :: '^' :: rest => (true, ':' :: rest)
    | cs => (false, cs)
  if negated && !m.unicode then none
  else (asciiSets.find? fun name => name.isPrefixOf cs).map fun name => cs.drop name.length

/-- A set of bytes has ASCII characters only, however they are written. -/
def readSetItem (m : Modes) (cs : List Char) : Option (Atom × List Char) := do
  let (atom, cs) ←
    match cs with
    | [] => none
    | '\\' :: cs => readEscape m cs
    | c :: cs => some (.literal c, cs)
  match atom with
  | .literal c => if m.unicode || c.toNat < 128 then return (atom, cs) else none
  | _ => return (atom, cs)

/-- A character, a set, or a range of characters that does not run backwards. -/
def readRange (m : Modes) (cs : List Char) : Option (List Char) := do
  let (low, cs) ← readSetItem m cs
  let single := if low = .assertion then none else some (skip m cs)
  match skip m cs with
  | [] => none
  | '-' :: rest =>
    match skip m rest with
    | [] => none
    | ']' :: _ => single
    | '-' :: _ => single
    | rest =>
      let (high, cs) ← readSetItem m rest
      match low, high with
      | .literal a, .literal b => if a ≤ b then some cs else none
      | _, _ => none
  | _ => single

structure OpenSet where
  items : Row := {}
  /-- The depth of what comes before the last operator, if there is one. -/
  left : Option Nat := none

namespace OpenSet

def add (s : OpenSet) (depth : Nat) : OpenSet := { s with items := s.items.add depth }

def depth (s : OpenSet) : Nat :=
  match s.left with
  | none => s.items.depth
  | some left => max left s.items.depth + 1

def operator (s : OpenSet) : OpenSet := ⟨{}, some s.depth⟩

end OpenSet

/-- Dashes at the front of a set stand for themselves. -/
def readDashes (m : Modes) : Nat → OpenSet → List Char → OpenSet × List Char
  | n + 1, s, '-' :: cs => readDashes m n (s.add 0) (skip m cs)
  | _, s, cs => (s, cs)

/-- The beginning of a set, after its bracket. A closing bracket that comes first stands for itself.
The complement of a set of bytes has bytes that are not ASCII. -/
def openSet (m : Modes) (cs : List Char) : Option (OpenSet × List Char) :=
  let leading (cs : List Char) : OpenSet × List Char :=
    match cs with
    | ']' :: rest => (({} : OpenSet).add 0, rest)
    | cs => readDashes m cs.length {} cs
  match skip m cs with
  | '^' :: rest => if m.unicode then some (leading (skip m rest)) else none
  | cs => some (leading cs)

/-- The rest of a set that is read in part, within the sets around it, and its depth. Two of `&`, `-`
or `~` are an operator. -/
def readSet (m : Modes) : Nat → OpenSet → List OpenSet → List Char → Option (Nat × List Char)
  | 0, _, _, _ => none
  | fuel + 1, s, around, cs =>
    match skip m cs with
    | [] => none
    | '[' :: rest =>
      match readNamedSet m rest with
      | some rest => readSet m fuel (s.add 0) around rest
      | none => do
        let (inner, rest) ← openSet m rest
        readSet m fuel inner (s :: around) rest
    | ']' :: rest =>
      match around with
      | [] => some (s.depth + 1, rest)
      | outer :: around => readSet m fuel (outer.add (s.depth + 1)) around rest
    | '&' :: '&' :: rest => readSet m fuel s.operator around rest
    | '-' :: '-' :: rest => readSet m fuel s.operator around rest
    | '~' :: '~' :: rest => readSet m fuel s.operator around rest
    | cs => do
      let rest ← readRange m cs
      readSet m fuel (s.add 0) around rest

end MeshExport.Pattern
