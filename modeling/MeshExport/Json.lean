import MeshExport.Text.Decimal

/-! JSON values. A number without fraction or exponent is an integer if it fits in 64 bits, signed
or not; every other number is a finite double. -/

namespace MeshExport

inductive Json where
  | null
  | bool (b : Bool)
  | int (n : Int)
  | float (x : Double)
  | str (s : String)
  | arr (items : List Json)
  /-- Fields in ascending order of their names, each name once. -/
  | obj (fields : List (String × Json))
deriving Inhabited

namespace Json

/-- A double of magnitude from `10 ^ -5` to below `10 ^ 16` is written without an exponent. -/
def floatLayout : Decimal.Layout := ⟨.toEven, some (-4, 16), true⟩

def floatText (x : Double) : String := floatLayout.text x

def field? (fields : List (String × Json)) (name : String) : Option Json := fields.lookup name

def get? : Json → String → Option Json
  | obj fields, name => field? fields name
  | _, _ => none

/-- An object of the fields that are set. -/
def ofFields (fields : List (String × Option Json)) : Json :=
  obj (fields.filterMap fun f => f.2.map (f.1, ·))

def ofStrings (xs : List String) : Json := arr (xs.map str)

end Json
end MeshExport
