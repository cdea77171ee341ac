import MeshExport.Text.Letter
import MeshExport.Text.Pattern.Brackets

/-! Regular expressions: which texts are one that an automaton without look-around can be built for.
There are no counted repetitions in them, since the texts come without closing braces. -/

namespace MeshExport.Pattern

/-! Groups -/

structure Flag where
  letter : Char
  on : Bool

/-- Flags up to a colon or a closing parenthesis, which is not taken. Each may be given once; a dash,
of which there is one at most and not at the end, turns off those after it. -/
def readFlags (flags : List Flag) (on : Bool) : List Char → Option (List Flag × List Char)
  | [] => none
  | c :: cs =>
    if c = ':' || c = ')' then some (flags, c :: cs)
    else if c = '-' then
      match cs with
      | d :: _ => if on && d ≠ ':' && d ≠ ')' then readFlags flags false cs else none
      | [] => none
    else if "imsUuRx".toList.contains c && !flags.any (·.letter == c) then
      readFlags (flags ++ [⟨c, on⟩]) on cs
    else none

def Modes.set (m : Modes) (flags : List Flag) : Modes :=
  flags.foldl (fun m f =>
    match f.letter with
    | 'x' => { m with verbose := f.on }
    | 'u' => { m with unicode := f.on }
    | _ => m) m

/-- A name up to an angle bracket, which is taken. It begins with a letter or an underscore. -/
def readName (cs : List Char) : Option (List Char × List Char) :=
  let name := cs.takeWhile (· ≠ '>')
  match name, cs.dropWhile (· ≠ '>') with
  | c :: more, _ :: rest =>
    if (c = '_' || Text.isLetter c) &&
        more.all fun c => "_.[]".toList.contains c || Text.isLetterOrNumber c
    then some (name, rest) else none
  | _, _ => none

/-! Patterns -/

/-- What was read of a group, or of the pattern around all groups. -/
structure OpenGroup where
  modes : Modes := {}
  /-- The branches before the last one. -/
  branches : Row := {}
  /-- The items of the last branch, but for one that can be repeated. -/
  items : Row := {}
  /-- The depth of the item that can be repeated, if there is one. -/
  last : Option Nat := none

namespace OpenGroup

def allItems (g : OpenGroup) : Row :=
  match g.last with
  | none => g.items
  | some depth => g.items.add depth

/-- An item follows, whose depth is given. -/
def item (g : OpenGroup) (depth : Nat) : OpenGroup := { g with items := g.allItems, last := some depth }

/-- Modes are set, which counts as an item that cannot be repeated. -/
def setModes (g : OpenGroup) (flags : List Flag) : OpenGroup :=
  { g with modes := g.modes.set flags, items := g.allItems.add 0, last := none }

def branch (g : OpenGroup) : OpenGroup :=
  { g with branches := g.branches.add g.allItems.depth, items := {}, last := none }

def depth (g : OpenGroup) : Nat := (g.branches.add g.allItems.depth).depth

end OpenGroup

structure Progress where
  group : OpenGroup := {}
  around : List OpenGroup := []
  names : List (List Char) := []

namespace Progress

def modes (p : Progress) : Modes := p.group.modes

def item (p : Progress) (depth : Nat) : Progress := { p with group := p.group.item depth }

/-- A group begins, whose items are read in the given modes. -/
def enter (p : Progress) (modes : Modes) : Progress :=
  { p with group := { modes }, around := p.group :: p.around }

def openGroup (p : Progress) (cs : List Char) : Option (Progress × List Char) :=
  let named (cs : List Char) : Option (Progress × List Char) := do
    let (name, cs) ← readName cs
    if p.names.contains name then none
    return ({ p with names := name :: p.names }.enter p.modes, cs)
  match skip p.modes cs with
  | '?' :: 'P' :: '<' :: cs => named cs
  | '?' :: '<' :: cs => named cs
  | '?' :: cs => do
    let (flags, cs) ← readFlags [] true cs
    match cs with
    | ':' :: cs => return (p.enter (p.modes.set flags), cs)
    | _ :: cs =>
      if flags.isEmpty then none
      else return ({ p with group := p.group.setModes flags }, cs)
    | [] => none
  | cs => some (p.enter p.modes, cs)

/-- A repetition, with the mark of a lazy one if that follows. -/
def repetition (p : Progress) (cs : List Char) : Option (Progress × List Char) := do
  let depth ← p.group.last
  let cs :=
    match cs with
    | '?' :: rest => rest
    | cs => cs
  return ({ p with group := { p.group with last := some (depth + 1) } }, cs)

def step (p : Progress) : List Char → Option (Progress × List Char)
  | [] => none
  | c :: cs =>
    match c with
    | '(' => p.openGroup cs
    | ')' =>
      match p.around with
      | outer :: around => some ({ p with group := outer.item (p.group.depth + 1), around }, cs)
      | [] => none
    | '|' => some ({ p with group := p.group.branch }, cs)
    | '[' => do
      let (s, cs) ← openSet p.modes cs
      let (depth, cs) ← readSet p.modes (cs.length + 1) s [] cs
      return (p.item depth, cs)
    | '?' | '*' | '+' => p.repetition cs
    | '\x7b' => none
    | '\\' => do
      let (_, cs) ← readEscape p.modes cs
      return (p.item 0, cs)
    | '.' => if p.modes.unicode then some (p.item 0, cs) else none
    | _ => some (p.item 0, cs)

/-- Reads to the end; each item takes at least one character. -/
def finish : Nat → Progress → List Char → Bool
  | 0, _, _ => false
  | fuel + 1, p, cs =>
    match skip p.modes cs with
    | [] => p.around.isEmpty && p.group.depth ≤ nestingLimit
    | cs =>
      match p.step cs with
      | none => false
      | some (p, cs) => finish fuel p cs

end Progress

def isPattern (cs : List Char) : Bool := Progress.finish (cs.length + 1) {} cs

end MeshExport.Pattern
