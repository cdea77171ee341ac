import MeshExport.Text.Invisible

/-! Parts of a text between byte positions of its UTF-8 form. A position inside of a character does
not cut. -/

namespace MeshExport.Text

structure SplitCharacter where
  char : Char
  /-- Where the character begins. -/
  start : Nat
deriving DecidableEq

structure SliceError where
  /-- Whether the part was to begin at the position; else it was to end there. -/
  begins : Bool
  position : Nat
  split : SplitCharacter
deriving DecidableEq

def SliceError.message (e : SliceError) : String :=
  let edge := if e.begins then "start" else "end"
  edge ++ " byte index " ++ toString e.position ++ " is not a char boundary; it is inside " ++
    quotedChar e.split.char ++ " (bytes " ++ toString e.split.start ++ ".." ++
    toString (e.split.start + e.split.char.utf8Size) ++ " of string)"

/-- Characters with their positions, the first at `start`. -/
def positions (start : Nat) : List Char → List (Nat × Char)
  | [] => []
  | c :: cs => (start, c) :: positions (start + c.utf8Size) cs

/-- What comes before a position and what comes from it on, in a text that begins at `start`. -/
def splitAt (position start : Nat) : List Char → Except SplitCharacter (List Char × List Char)
  | [] => .ok ([], [])
  | c :: cs =>
    if position ≤ start then .ok ([], c :: cs)
    else if position < start + c.utf8Size then .error ⟨c, start⟩
    else do
      let (before, after) ← splitAt position (start + c.utf8Size) cs
      return (c :: before, after)

def sliceFrom (cs : List Char) (start : Nat) : Except SliceError (List Char) := do
  let parts ← (splitAt start 0 cs).mapError fun split => ⟨true, start, split⟩
  return parts.2

def slice (cs : List Char) (start stop : Nat) : Except SliceError (List Char) := do
  let rest ← sliceFrom cs start
  let parts ← (splitAt stop start rest).mapError fun split => ⟨false, stop, split⟩
  return parts.1

end MeshExport.Text
