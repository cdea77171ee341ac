import MeshExport.CommandLine.Argument

/-! Reading a command line. Each option may be given once. An option whose value is the next argument
is taken up only when that value is complete, that is, at the next option or at the end. Where an
option with a variable is not given, the environment speaks, and is checked only then.

A description of the options is left out: `--help` and `-h` are refused here like any option that is not
listed. -/

namespace MeshExport.CommandLine

abbrev Given := Opt → Option String

namespace Given

def empty : Given := fun _ => none

def put (g : Given) (o : Opt) (value : String) : Given := fun p => if p = o then some value else g p

/-- Takes up an option, once. -/
def take (g : Given) (o : Opt) (value : String) : Except ArgumentError Given := do
  if (g o).isSome then throw (.usage .argumentConflict)
  o.check value
  return g.put o value

end Given

abbrev Environment := String → Option String

/-- An option that waits for its value, or for the argument after it. -/
structure Pending where
  opt : Opt
  value : Option String

structure ParseState where
  given : Given := Given.empty
  pending : Option Pending := none
  /-- Whether the terminator was seen. -/
  terminated : Bool := false

namespace ParseState

def settle (s : ParseState) : Except ArgumentError Given :=
  match s.pending with
  | none => .ok s.given
  | some ⟨_, none⟩ => .error (.usage .invalidValue)
  | some ⟨o, some value⟩ => s.given.take o value

def long (s : ParseState) (name : String) (attached : Option String) :
    Except ArgumentError ParseState :=
  match Opt.ofName? name with
  | none => .error (.usage .unknownArgument)
  | some o =>
    match attached with
    | some value =>
      if o.isFlag then .error (.usage .tooManyValues)
      else do
        let given ← (← s.settle).take o value
        return { s with given, pending := none }
    | none => do
      let given ← s.settle
      if o.isFlag then return { s with given := ← given.take o "true", pending := none }
      else return { s with given, pending := some ⟨o, none⟩ }

def value (s : ParseState) (text : String) : Except ArgumentError ParseState :=
  match s.pending with
  | some ⟨o, none⟩ => .ok { s with pending := some ⟨o, some text⟩ }
  | _ => .error (.usage .unknownArgument)

def step (s : ParseState) (text : String) : Except ArgumentError ParseState :=
  if s.terminated then .error (.usage .unknownArgument)
  else
    match Argument.ofString text with
    | .terminator => .ok { s with terminated := true }
    | .long name attached => s.long name attached
    | .short => .error (.usage .unknownArgument)
    | .plain => s.value text

end ParseState

/-- Lets the variable of an option speak, if the option is not given. -/
def Given.fallBack (env : Environment) (g : Given) (o : Opt) : Except ArgumentError Given :=
  match g o, o.envName?.bind env with
  | none, some value => do
    o.check value
    return g.put o value
  | _, _ => .ok g

def readArguments (argv : List String) (env : Environment) : Except ArgumentError Given := do
  let s ← argv.foldlM ParseState.step {}
  let given ← Opt.all.foldlM (Given.fallBack env) (← s.settle)
  if (given .clusterId).isNone then throw (.usage .missingRequiredArgument)
  return given

end MeshExport.CommandLine
