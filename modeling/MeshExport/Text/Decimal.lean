import MeshExport.Text.Double

/-! The shortest decimal text of a double: the fewest digits that read back to the same double, the
nearest to it among those. What becomes of a tie, and how the digits are laid out, is up to a
layout. -/

namespace MeshExport.Decimal

/-- Which of two decimals at the same distance is taken. -/
inductive Tie where
  | toEven
  | up
deriving DecidableEq

structure Layout where
  tie : Tie
  /-- Least and greatest number of digits before the decimal point in a text without exponent, zeros
  after the point counting as negative; any number if there is no range. -/
  plainRange : Option (Int × Int)
  /-- Whether a whole number is written with a zero after the decimal point. -/
  pointZero : Bool
deriving DecidableEq

/-- A positive double with the bounds of what rounds to it, all over `scale`. -/
structure Interval where
  low : Nat
  value : Nat
  high : Nat
  scale : Nat
  /-- Whether the bounds themselves round to the value. -/
  closed : Bool

/-- The interval of `m * 2 ^ e`. The lower neighbour of a power of two is half as far away as the
upper one. -/
def interval (m : Nat) (e : Int) : Interval :=
  let up := Nat.pow 2 e.toNat
  let below := if m = Nat.pow 2 (Double.precision - 1) && e > Double.minExponent then 1 else 2
  ⟨(4 * m - below) * up, 4 * m * up, (4 * m + 2) * up, 4 * Nat.pow 2 (-e).toNat, m % 2 = 0⟩

def Interval.contains (i : Interval) (digits : Nat) (e : Int) : Bool :=
  let v := digits * Nat.pow 10 e.toNat * i.scale
  let unit := Nat.pow 10 (-e).toNat
  if i.closed then i.low * unit ≤ v && v ≤ i.high * unit
  else i.low * unit < v && v < i.high * unit

/-- The number of digits before the decimal point, or minus the number of zeros right after it. -/
def Interval.magnitude (i : Interval) : Int :=
  if i.value ≥ i.scale then ((Nat.toDigits 10 (i.value / i.scale)).length : Int)
  else
    match (List.range 330).find? fun j => i.value * Nat.pow 10 (j + 1) ≥ i.scale with
    | some j => -(j : Int)
    | none => 0

/-- A decimal of the interval with its last digit at `10 ^ e`, the nearest to the value. -/
def Interval.onGrid? (i : Interval) (tie : Tie) (e : Int) : Option Nat :=
  let num := i.value * Nat.pow 10 (-e).toNat
  let den := i.scale * Nat.pow 10 e.toNat
  let d := num / den
  let rest := 2 * (num % den)
  match i.contains d e, i.contains (d + 1) e with
  | true, true =>
    some (if rest < den || (rest = den && tie = .toEven && d % 2 = 0) then d else d + 1)
  | true, false => some d
  | false, true => some (d + 1)
  | false, false => none

/-- Digits and exponent of the shortest decimal that reads back to `m * 2 ^ e`. -/
def shortest (tie : Tie) (m : Nat) (e : Int) : Nat × Int :=
  let i := interval m e
  let k := i.magnitude
  let found := (List.range 17).findSome? fun n =>
    let e := k - (n + 1 : Nat)
    (i.onGrid? tie e).map (·, e)
  match found with
  | some (10, e) => (1, e + 1)
  | some decimal => decimal
  | none => (m, e)

/-- The digits with the decimal point where the exponent puts it, and at least one before it. -/
def plain (pointZero : Bool) (digits : Nat) (e : Int) : String :=
  let ds := Nat.toDigits 10 digits
  if e ≥ 0 then
    String.ofList (ds ++ List.replicate e.toNat '0' ++ if pointZero then ['.', '0'] else [])
  else
    let places := (-e).toNat
    let ds := List.replicate (places + 1 - ds.length) '0' ++ ds
    String.ofList (ds.take (ds.length - places) ++ '.' :: ds.drop (ds.length - places))

/-- The digits with an exponent, which has a sign always. The decimal point, if there is one, follows
the first digit. -/
def scientific (digits : Nat) (e : Int) : String :=
  let ds := Nat.toDigits 10 digits
  let fraction := if ds.length > 1 then '.' :: ds.drop 1 else []
  let e := e + ds.length - 1
  String.ofList (ds.take 1 ++ fraction) ++ "e" ++ (if e ≥ 0 then "+" else "") ++ toString e

def Layout.place (l : Layout) (digits : Nat) (e : Int) : String :=
  let point := e + (Nat.toDigits 10 digits).length
  match l.plainRange with
  | none => plain l.pointZero digits e
  | some (low, high) =>
    if low ≤ point && point ≤ high then plain l.pointZero digits e else scientific digits e

def Layout.text (l : Layout) : Double → String
  | .nan => "NaN"
  | .infinite negative => if negative then "-inf" else "inf"
  | .finite negative m e =>
    let sign := if negative then "-" else ""
    if m = 0 then sign ++ plain l.pointZero 0 0
    else
      let (d, e) := shortest l.tie m e
      sign ++ l.place d e

end MeshExport.Decimal
