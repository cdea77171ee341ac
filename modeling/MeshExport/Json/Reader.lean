import MeshExport.Json.Number
import Std.Data.ExtTreeMap

/-! Reading JSON text. A reader takes a value off the front of the text and returns the rest. Of two
fields of one name the later counts, and values nest at most 127 deep. -/

namespace MeshExport.Json

abbrev Reader (α : Type) := List Char → Option (α × List Char)

def isBlank (c : Char) : Bool := c = ' ' || c = '\n' || c = '\t' || c = '\r'

def skipBlanks (cs : List Char) : List Char := cs.dropWhile isBlank

def hexDigit? (c : Char) : Option Nat :=
  if '0' ≤ c && c ≤ '9' then some (c.toNat - '0'.toNat)
  else if 'a' ≤ c && c ≤ 'f' then some (c.toNat - 'a'.toNat + 10)
  else if 'A' ≤ c && c ≤ 'F' then some (c.toNat - 'A'.toNat + 10)
  else none

def readUnit : Reader Nat
  | a :: b :: c :: d :: rest => do
    let a ← hexDigit? a
    let b ← hexDigit? b
    let c ← hexDigit? c
    let d ← hexDigit? d
    return (((a * 16 + b) * 16 + c) * 16 + d, rest)
  | _ => none

/-- The character of a `\u` escape, which may take two units. -/
def readCodePoint : Reader Char := fun cs => do
  let (hi, cs) ← readUnit cs
  if 0xDC00 ≤ hi && hi ≤ 0xDFFF then none
  else if 0xD800 ≤ hi && hi ≤ 0xDBFF then
    match cs with
    | '\\' :: 'u' :: cs =>
      let (lo, cs) ← readUnit cs
      if 0xDC00 ≤ lo && lo ≤ 0xDFFF then
        return (Char.ofNat (0x10000 + (hi - 0xD800) * 0x400 + (lo - 0xDC00)), cs)
      else none
    | _ => none
  else return (Char.ofNat hi, cs)

def simpleEscape? : Char → Option Char
  | '"' => some '"'
  | '\\' => some '\\'
  | '/' => some '/'
  | 'b' => some '\x08'
  | 'f' => some '\x0c'
  | 'n' => some '\n'
  | 'r' => some '\r'
  | 't' => some '\t'
  | _ => none

def readStringTail (fuel : Nat) (acc : List Char) : Reader String := fun cs =>
  match fuel, cs with
  | 0, _ => none
  | _, [] => none
  | _ + 1, '"' :: cs => some (String.ofList acc.reverse, cs)
  | fuel + 1, '\\' :: 'u' :: cs => do
    let (c, cs) ← readCodePoint cs
    readStringTail fuel (c :: acc) cs
  | fuel + 1, '\\' :: e :: cs => do
    let c ← simpleEscape? e
    readStringTail fuel (c :: acc) cs
  | fuel + 1, c :: cs => if c < ' ' || c = '\\' then none else readStringTail fuel (c :: acc) cs

def readString : Reader String
  | '"' :: cs => readStringTail (cs.length + 1) [] cs
  | _ => none

/-- Items separated by commas, up to `close`. There is at least one. -/
def readItems {α : Type} (item : Reader α) (close : Char) (fuel : Nat) (acc : List α) :
    Reader (List α) := fun cs =>
  match fuel with
  | 0 => none
  | fuel + 1 => do
    let (x, cs) ← item (skipBlanks cs)
    match skipBlanks cs with
    | c :: cs =>
      if c = close then return ((x :: acc).reverse, cs)
      else if c = ',' then readItems item close fuel (x :: acc) cs
      else none
    | [] => none

/-- Items between an opening bracket, already taken, and `close`. -/
def readGroup {α : Type} (item : Reader α) (close : Char) : Reader (List α) := fun cs =>
  match skipBlanks cs with
  | c :: rest =>
    if c = close then some ([], rest) else readItems item close (cs.length + 1) [] (c :: rest)
  | [] => none

def readField (value : Reader Json) : Reader (String × Json) := fun cs => do
  let (name, cs) ← readString cs
  match skipBlanks cs with
  | ':' :: cs =>
    let (v, cs) ← value (skipBlanks cs)
    return ((name, v), cs)
  | _ => none

/-- An object of the given fields: sorted, and of one name only the last. -/
def ofFieldList (fields : List (String × Json)) : Json :=
  obj (fields.foldl (fun m f => m.insert f.1 f.2) (∅ : Std.ExtTreeMap String Json)).toList

def readWord (word : String) (v : Json) : Reader Json := fun cs =>
  if word.toList.isPrefixOf cs then some (v, cs.drop word.length) else none

/-- A value that nests at most `depth` deep. -/
def readValue : Nat → Reader Json
  | depth, cs =>
    match cs with
    | 'n' :: _ => readWord "null" null cs
    | 't' :: _ => readWord "true" (bool true) cs
    | 'f' :: _ => readWord "false" (bool false) cs
    | '"' :: _ => do
      let (s, cs) ← readString cs
      return (str s, cs)
    | '[' :: cs =>
      match depth with
      | 0 => none
      | depth + 1 => do
        let (items, cs) ← readGroup (readValue depth) ']' cs
        return (arr items, cs)
    | '\x7b' :: cs =>
      match depth with
      | 0 => none
      | depth + 1 => do
        let (fields, cs) ← readGroup (readField (readValue depth)) '\x7d' cs
        return (ofFieldList fields, cs)
    | _ => readNumber cs

def maxDepth : Nat := 127

def read? (text : String) : Option Json := do
  let (v, rest) ← readValue maxDepth (skipBlanks text.toList)
  if (skipBlanks rest).isEmpty then some v else none

end MeshExport.Json
