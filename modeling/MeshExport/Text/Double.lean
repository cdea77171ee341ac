/-! Double precision numbers. A finite one is an integer times a power of two; a ratio of integers is
rounded to the nearest double, a tie to the even one. -/

namespace MeshExport

inductive Double where
  /-- The number `significand * 2 ^ exponent`, negated or not; zero has a sign too. -/
  | finite (negative : Bool) (significand : Nat) (exponent : Int)
  | infinite (negative : Bool)
  | nan
deriving DecidableEq

namespace Double

/-- Significands lie below `2 ^ precision`. -/
def precision : Nat := 53

def minExponent : Int := -1074

def maxExponent : Int := 971

def ratio (n : Nat) (e : Int) : Nat × Nat := (n * Nat.pow 2 e.toNat, Nat.pow 2 (-e).toNat)

def roundQuotient (num den : Nat) : Nat :=
  let d := num / den
  let rest := 2 * (num % den)
  if rest < den || (rest = den && d % 2 = 0) then d else d + 1

/-- The exponent at which the ratio has a significand of full precision. -/
def fittingExponent (num den : Nat) : Int :=
  let e : Int := (num.log2 : Int) - den.log2 - precision
  let unit := ratio den e
  if num * unit.2 < Nat.pow 2 precision * unit.1 then e else e + 1

/-- The double nearest to `num / den`, with the given sign. -/
def ofRatio (negative : Bool) (num den : Nat) : Double :=
  if num = 0 then finite negative 0 minExponent
  else
    let e := max (fittingExponent num den) minExponent
    let unit := ratio den e
    let m := roundQuotient (num * unit.2) unit.1
    let (m, e) := if m = Nat.pow 2 precision then (Nat.pow 2 (precision - 1), e + 1) else (m, e)
    if e > maxExponent then infinite negative else finite negative m e

def powerOfTen (k : Nat) : Double := ofRatio false (Nat.pow 10 k) 1

def isInfinite : Double → Bool
  | infinite _ => true
  | _ => false

def isZero : Double → Bool
  | finite _ 0 _ => true
  | _ => false

/-- The size of the number as a ratio; an infinite one has the denominator zero. -/
def magnitude : Double → Nat × Nat
  | finite _ m e => ratio m e
  | infinite _ => (1, 0)
  | nan => (0, 0)

def times (x : Double) (num den : Nat) : Double :=
  match x with
  | finite negative _ _ => ofRatio negative (x.magnitude.1 * num) (x.magnitude.2 * den)
  | x => x

/-- Orders by value, both zeros alike, and what is no number last. -/
def order : Double → Double → Ordering
  | nan, nan => .eq
  | nan, _ => .gt
  | _, nan => .lt
  | infinite s, infinite t => compare t s
  | infinite s, _ => if s then .lt else .gt
  | _, infinite t => if t then .gt else .lt
  | finite s m e, finite t n f =>
    let signed (negative : Bool) (k : Nat) : Int := if negative then -k else k
    compare (signed s ((ratio m e).1 * (ratio n f).2)) (signed t ((ratio n f).1 * (ratio m e).2))

end Double
end MeshExport
