import MeshExport.Text.Decimal
import MeshExport.Text.Numeral
import MeshExport.Text.Pattern

/-! The value a log directive expects of a field: a truth value or a number, by the look of it, and
else a pattern. -/

namespace MeshExport.CommandLine

inductive FieldValue where
  | flag (b : Bool)
  | number (x : Double)
  | natural (n : Nat)
  /-- An integer with a minus in front. -/
  | integer (n : Int)
  | pattern (p : String)
deriving DecidableEq

namespace FieldValue

/-- Numbers are written without exponent, a whole one without a point. -/
def layout : Decimal.Layout := ⟨.up, none, false⟩

def text : FieldValue → String
  | flag b => toString b
  | number x => layout.text x
  | natural n => toString n
  | integer n => toString n
  | pattern p => p

def rank : FieldValue → Nat
  | flag _ => 0
  | number _ => 1
  | natural _ => 2
  | integer _ => 3
  | pattern _ => 4

def order : FieldValue → FieldValue → Ordering
  | flag a, flag b => compare a b
  | number x, number y => x.order y
  | natural m, natural n => compare m n
  | integer m, integer n => compare m n
  | pattern p, pattern q => compare p q
  | v, w => compare v.rank w.rank

/-- An integer is one of 64 bits. -/
def parse? (cs : List Char) : Option FieldValue :=
  if cs = "true".toList then some (flag true)
  else if cs = "false".toList then some (flag false)
  else
    ((Text.natBelow? UInt64.size cs).map natural)
    |>.or ((Text.intWithin? (UInt64.size / 2) cs).map integer)
    |>.or ((Text.double? cs).map number)
    |>.or (if Pattern.isPattern cs then some (pattern (String.ofList cs)) else none)

end FieldValue
end MeshExport.CommandLine
