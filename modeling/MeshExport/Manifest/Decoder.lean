import MeshExport.Endpoint
import MeshExport.Manifest.DecodeError

/-! Decoders for the parts of an object. An object's fields are read in ascending order of their
names, so that of several bad fields the first in that order is reported; a missing field is
reported only when all present ones are good. -/

namespace MeshExport

abbrev Decoder (α : Type) := Json → Except DecodeError α

namespace Decoder

variable {α : Type}

def string : Decoder String
  | .str s => .ok s
  | v => .error (.invalidType v .string)

def boolean : Decoder Bool
  | .bool b => .ok b
  | v => .error (.invalidType v .boolean)

def integer (low high : Int) (expected : Expected) : Decoder Int
  | .int n => if low ≤ n ∧ n ≤ high then .ok n else .error (.invalidValue (.int n) expected)
  | v => .error (.invalidType v expected)

def int32 : Decoder Int32 := fun v =>
  return .ofInt (← integer Int32.minValue.toInt Int32.maxValue.toInt .int32 v)

def int64 : Decoder Int64 := fun v =>
  return .ofInt (← integer Int64.minValue.toInt Int64.maxValue.toInt .int64 v)

def list (item : Decoder α) : Decoder (List α)
  | .arr items => items.mapM item
  | v => .error (.invalidType v .sequence)

def labels : Decoder LabelMap
  | .obj fields => fields.foldlM (fun m f => return m.insert f.1 (← string f.2)) ∅
  | v => .error (.invalidType v .map)

/-- Null stands for an unset value. -/
def nullable (value : Decoder α) : Decoder (Option α)
  | .null => .ok none
  | v => some <$> value v

def exactly (text : String) : Decoder Unit := fun v => do
  let s ← string v
  if s = text then .ok () else .error (.invalidValue v (.exactly text))

/-- The fields of an object; a list is refused. -/
def object (name : String) : Decoder (List (String × Json))
  | .obj fields => .ok fields
  | v => .error (.invalidType v (.object name))

/-- The field if it is there; null counts as a value. -/
def present (fields : List (String × Json)) (name : String) (value : Decoder α) :
    Except DecodeError (Option α) :=
  match Json.field? fields name with
  | none => .ok none
  | some v => some <$> value v

/-- The field if it is there and not null. -/
def optional (fields : List (String × Json)) (name : String) (value : Decoder α) :
    Except DecodeError (Option α) :=
  match Json.field? fields name with
  | none => .ok none
  | some v => nullable value v

def required (name : String) : Option α → Except DecodeError α
  | none => .error (.missingField name)
  | some v => .ok v

/-- A list in place of an object of `fields` fields may not have more. -/
def atMost (items : List Json) (fields : Nat) : Except DecodeError Unit :=
  if items.length ≤ fields then .ok () else .error (.tooLong items.length)

end Decoder
end MeshExport
