import MeshExport.CommandLine.FieldValue
import MeshExport.CommandLine.ValueError
import MeshExport.Trace.LogLine

/-! Log filters. A filter is a list of directives separated by commas: a level, a target, a target
with a level, or either of the last two narrowed to a span and to a field of it. A filter is shown
with its most specific directive first, directives for spans last. -/

namespace MeshExport.CommandLine

/-- The least severe level that is shown, if any is. -/
abbrev Threshold := Option LogLevel

namespace Threshold

def text : Threshold → String
  | none => "off"
  | some .error => "error"
  | some .warn => "warn"
  | some .info => "info"
  | some .debug => "debug"
  | some .trace => "trace"

def ofNumber? : Nat → Option Threshold
  | 0 => some none
  | 1 => some (some .error)
  | 2 => some (some .warn)
  | 3 => some (some .info)
  | 4 => some (some .debug)
  | 5 => some (some .trace)
  | _ => none

def ofName? (cs : List Char) : Option Threshold :=
  let name := String.ofList (cs.map Char.toLower)
  [none, some .error, some .warn, some .info, some .debug, some .trace].find? fun t => text t == name

/-- A number from 0 to 5 or a name. -/
def parse? (cs : List Char) : Option Threshold :=
  ((Text.natBelow? UInt64.size cs).bind ofNumber?).or (ofName? cs)

/-- A directive that gives a target and no level shows everything. -/
def ofLevelText? (cs : List Char) : Option Threshold :=
  if cs.isEmpty then some (some .trace) else parse? cs

end Threshold

structure FieldMatch where
  name : String
  value : Option FieldValue
deriving DecidableEq

namespace FieldMatch

def text (m : FieldMatch) : String :=
  match m.value with
  | none => m.name
  | some v => m.name ++ "=" ++ v.text

/-- A name, and a value up to a second equals sign. -/
def parse? (cs : List Char) : Option FieldMatch :=
  let name := String.ofList (cs.takeWhile (· ≠ '='))
  match cs.dropWhile (· ≠ '=') with
  | [] => some ⟨name, none⟩
  | _ :: value => (FieldValue.parse? (value.takeWhile (· ≠ '='))).map fun v => ⟨name, some v⟩

/-- A match that expects no value comes first; then by name and value. -/
def order (a b : FieldMatch) : Ordering :=
  let values :=
    match a.value, b.value with
    | some v, some w => v.order w
    | v, w => compare v.isSome w.isSome
  compare a.value.isSome b.value.isSome |>.then (compare a.name b.name) |>.then values

end FieldMatch

structure LogDirective where
  target : Option String := none
  span : Option String := none
  field : Option FieldMatch := none
  level : Threshold := some .trace
deriving DecidableEq

namespace LogDirective

def text (d : LogDirective) : String :=
  let field :=
    match d.field with
    | none => ""
    | some m => "\x7b" ++ m.text ++ "\x7d"
  let scope := if d.span.isSome || d.field.isSome then "[" ++ d.span.getD "" ++ field ++ "]" else ""
  let selector := d.target.getD "" ++ scope
  let named := d.target.isSome || d.span.isSome || d.field.isSome
  (if named then selector ++ "=" else "") ++ Threshold.text d.level

def isDynamic (d : LogDirective) : Bool := d.span.isSome || d.field.isSome

/-- Whether the directive says something about events outside of spans. -/
def isStatic (d : LogDirective) : Bool :=
  d.span.isNone && (d.field.bind (·.value)).isNone

/-- Less specific directives come first: a shorter target, no span, no field; then by name. -/
def specificity (a b : LogDirective) : Ordering :=
  let fields :=
    match a.field, b.field with
    | some m, some n => m.order n
    | m, n => compare m.isSome n.isSome
  compare (a.target.map (·.utf8ByteSize)) (b.target.map (·.utf8ByteSize))
    |>.then (compare a.span.isSome b.span.isSome)
    |>.then (compare a.field.isSome b.field.isSome)
    |>.then (compare a.target b.target)
    |>.then (compare a.span b.span)
    |>.then fields

/-- Puts a directive in its place, in the stead of one for the same. -/
def insert (d : LogDirective) : List LogDirective → List LogDirective
  | [] => [d]
  | e :: es =>
    match specificity d e with
    | .gt => d :: e :: es
    | .eq => d :: es
    | .lt => e :: insert d es

def arrange (ds : List LogDirective) : List LogDirective := ds.foldl (fun acc d => insert d acc) []

def isTargetStart (c : Char) : Bool :=
  Text.isLetterOrNumber c || c = '-' || c = ':' || c = '_'

/-! A directive is found in the text without the blanks around it, and its parts are cut at the same
positions from the text with them. -/

def slice (whole : List Char) (start stop : Nat) : Except ValueError (List Char) :=
  (Text.slice whole start stop).mapError fun e => .fault (.slice e)

def readLevel (whole : List Char) (start : Nat) (d : LogDirective) :
    Except ValueError LogDirective := do
  let cs ← (Text.sliceFrom whole start).mapError fun e => .fault (.slice e)
  return { d with level := ← expected (Threshold.ofLevelText? cs) }

/-- What may follow a span: nothing or a level. -/
def readEnd (whole : List Char) (d : LogDirective) : List (Nat × Char) → Except ValueError LogDirective
  | [] => .ok d
  | (i, c) :: _ => if c = '=' then readLevel whole (i + 1) d else .error .invalid

def readField (whole : List Char) (start : Nat) (d : LogDirective) (cs : List (Nat × Char)) :
    Except ValueError LogDirective :=
  match cs.dropWhile fun p => p.2 ≠ '\x7d' with
  | [] => .error .invalid
  | (i, _) :: rest => do
    let field ← slice whole start i
    if field.isEmpty then throw .invalid
    let m ← expected (FieldMatch.parse? field)
    match rest with
    | (_, ']') :: rest => readEnd whole { d with field := some m } rest
    | _ => throw .invalid

/-- The span at `start` and what follows it. A span that a field belongs to may have no name. -/
def readSpan (whole : List Char) (start : Nat) (d : LogDirective) (cs : List (Nat × Char)) :
    Except ValueError LogDirective :=
  match cs.dropWhile fun p => p.2 ≠ ']' && p.2 ≠ '\x7b' with
  | [] => .error .invalid
  | (i, c) :: rest => do
    let span := String.ofList (← slice whole start i)
    if c = ']' then readEnd whole { d with span := some span } rest
    else readField whole (i + 1) { d with span := if span.isEmpty then none else some span } rest

/-- A target, or a level if it is the name of one, and what follows a target. -/
def readTarget (whole : List Char) (cs : List (Nat × Char)) : Except ValueError LogDirective :=
  match cs.dropWhile fun p => p.2 ≠ '=' && p.2 ≠ '[' with
  | [] =>
    match Threshold.parse? whole with
    | some level => .ok { level }
    | none => .ok { target := some (String.ofList whole) }
  | (i, c) :: rest => do
    let d : LogDirective := { target := some (String.ofList (← slice whole 0 i)) }
    if c = '=' then readLevel whole (i + 1) d else readSpan whole (i + 1) d rest

def read (whole : List Char) : Except ValueError LogDirective :=
  match Text.positions 0 (Text.trim whole) with
  | [] => .error .invalid
  | (_, c) :: rest =>
    if c = '[' then readSpan whole 1 {} rest
    else if isTargetStart c then readTarget whole rest
    else .error .invalid

end LogDirective

structure LogFilter where
  statics : List LogDirective
  dynamics : List LogDirective
deriving DecidableEq

namespace LogFilter

def ofDirectives (ds : List LogDirective) : LogFilter :=
  let dynamics := ds.filter (·.isDynamic)
  let statics := ds.filter (!·.isDynamic) ++ dynamics.filter (·.isStatic)
  ⟨LogDirective.arrange statics, LogDirective.arrange dynamics⟩

def parse (text : String) : Except ValueError LogFilter := do
  let pieces := (text.toList.splitOn ',').filter (!·.isEmpty)
  return ofDirectives (← pieces.mapM LogDirective.read)

def text (f : LogFilter) : String :=
  ",".intercalate ((f.statics ++ f.dynamics).map (·.text))

end LogFilter
end MeshExport.CommandLine
