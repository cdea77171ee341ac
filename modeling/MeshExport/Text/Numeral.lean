import MeshExport.Text.Double

/-! Reading numbers from the whole of a text. -/

namespace MeshExport.Text

def isDigit (c : Char) : Bool := '0' ≤ c && c ≤ '9'

def digitsValue (ds : List Char) : Nat := ds.foldl (fun n c => n * 10 + (c.toNat - '0'.toNat)) 0

def digitsBelow? (bound : Nat) (ds : List Char) : Option Nat :=
  let n := digitsValue ds
  if ds.isEmpty || !ds.all isDigit || n ≥ bound then none else some n

/-- A decimal number below `bound`; a plus sign may stand in front. -/
def natBelow? (bound : Nat) : List Char → Option Nat
  | '+' :: ds => digitsBelow? bound ds
  | ds => digitsBelow? bound ds

/-- A decimal number from `-bound` to below `bound`, with or without sign. -/
def intWithin? (bound : Nat) : List Char → Option Int
  | '-' :: ds => (digitsBelow? (bound + 1) ds).map fun n => -n
  | cs => (natBelow? bound cs).map fun n => n

/-- Whether it is minus, and what follows the sign if there is one. -/
def readSign : List Char → Bool × List Char
  | '+' :: cs => (false, cs)
  | '-' :: cs => (true, cs)
  | cs => (false, cs)

/-- The exponent a number ends with, or zero if nothing follows. -/
def exponent? : List Char → Option Int
  | [] => some 0
  | c :: cs =>
    if c = 'e' || c = 'E' then
      let (negative, ds) := readSign cs
      if ds.isEmpty || !ds.all isDigit then none
      else some (if negative then -(digitsValue ds : Int) else digitsValue ds)
    else none

/-- The double nearest to `digits * 10 ^ e`, where `digits` has `places` digits. What is far outside
of the range of doubles is not computed. -/
def nearest (negative : Bool) (digits places : Nat) (e : Int) : Double :=
  if digits = 0 || places + e < -330 then .ofRatio negative 0 1
  else if places + e > 310 then .infinite negative
  else .ofRatio negative (digits * Nat.pow 10 e.toNat) (Nat.pow 10 (-e).toNat)

/-- A double with a sign, digits on at least one side of a decimal point, and an exponent, of which
only the digits must be there; or the name of what is infinite or no number, in either case. -/
def double? (cs : List Char) : Option Double :=
  let (negative, cs) := readSign cs
  let name := String.ofList (cs.map Char.toLower)
  if name = "inf" || name = "infinity" then some (.infinite negative)
  else if name = "nan" then some .nan
  else
    let whole := cs.takeWhile isDigit
    let rest := cs.dropWhile isDigit
    let (fraction, rest) :=
      match rest with
      | '.' :: rest => (rest.takeWhile isDigit, rest.dropWhile isDigit)
      | rest => ([], rest)
    let digits := (whole ++ fraction).dropWhile (· = '0')
    if whole.isEmpty && fraction.isEmpty then none
    else (exponent? rest).map fun e =>
      nearest negative (digitsValue digits) digits.length (e - fraction.length)

end MeshExport.Text
