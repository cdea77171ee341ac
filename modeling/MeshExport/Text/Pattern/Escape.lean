import MeshExport.Text.Letter

/-! Escapes of regular expressions: what a backslash begins. -/

namespace MeshExport.Pattern

open Text (isBlank)

structure Modes where
  /-- Blanks and comments between items are skipped. -/
  verbose : Bool := false
  /-- Items stand for code points; else for bytes, which then have to be ASCII. -/
  unicode : Bool := true
deriving DecidableEq

/-- Skips blanks and comments; whether it starts inside of a comment. -/
def skipComments : Bool → List Char → List Char
  | _, [] => []
  | true, c :: cs => skipComments (c ≠ '\n') cs
  | false, c :: cs =>
    if isBlank c then skipComments false cs
    else if c = '#' then skipComments true cs
    else c :: cs

def skip (m : Modes) (cs : List Char) : List Char := if m.verbose then skipComments false cs else cs

inductive Atom where
  | literal (c : Char)
  /-- A set of characters. -/
  | set
  /-- A place between characters. -/
  | assertion
deriving DecidableEq

def hexDigit? (c : Char) : Option Nat :=
  let n := c.toNat
  if c.isDigit then some (n - '0'.toNat)
  else if 'a' ≤ c && c ≤ 'f' then some (n - 'a'.toNat + 10)
  else if 'A' ≤ c && c ≤ 'F' then some (n - 'A'.toNat + 10)
  else none

/-- The number that `count` hexadecimal digits make after `value`. -/
def readHex (m : Modes) : Nat → Nat → List Char → Option (Nat × List Char)
  | 0, value, cs => some (value, cs)
  | count + 1, value, cs =>
    match skip m cs with
    | [] => none
    | c :: cs => do readHex m count (value * 16 + (← hexDigit? c)) cs

def readCodePoint (m : Modes) (count : Nat) (cs : List Char) : Option (Atom × List Char) := do
  let (n, cs) ← readHex m count 0 cs
  if n.isValidChar then return (.literal (Char.ofNat n), cs) else none

def metaCharacters : List Char := "\\.+*?()|[]\x7b\x7d^$#&-~".toList

/-- Any ASCII character may be escaped that is no letter, no digit and no angle bracket. -/
def isEscapable (c : Char) : Bool :=
  metaCharacters.contains c || (c.toNat < 128 && !c.isAlphanum && c ≠ '<' && c ≠ '>')

def control? : Char → Option Char
  | 'a' => some '\x07'
  | 'f' => some '\x0c'
  | 't' => some '\t'
  | 'n' => some '\n'
  | 'r' => some '\r'
  | 'v' => some '\x0b'
  | _ => none

/-- What a backslash begins, and what follows it. Categories are named by one letter; word boundaries
exist for bytes only. -/
def readEscape (m : Modes) : List Char → Option (Atom × List Char)
  | [] => none
  | c :: cs =>
    match c with
    | 'x' => do
      let (atom, cs) ← readCodePoint m 2 cs
      match atom with
      | .literal c => if m.unicode || c.toNat < 128 then return (atom, cs) else none
      | _ => none
    | 'u' => readCodePoint m 4 cs
    | 'U' => readCodePoint m 8 cs
    | 'p' | 'P' =>
      match skip m cs with
      | [] => none
      | k :: cs => if m.unicode && "CLMNPSZclmnpsz".toList.contains k then some (.set, cs) else none
    | 'd' | 's' | 'w' => some (.set, cs)
    | 'D' | 'S' | 'W' => if m.unicode then some (.set, cs) else none
    | 'A' | 'z' => some (.assertion, cs)
    | 'b' | 'B' | '<' | '>' => if m.unicode then none else some (.assertion, cs)
    | c =>
      match control? c with
      | some c => some (.literal c, cs)
      | none => if isEscapable c then some (.literal c, cs) else none

end MeshExport.Pattern
