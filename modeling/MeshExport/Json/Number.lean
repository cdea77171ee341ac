import MeshExport.Json
import MeshExport.Text.Numeral

/-! Reading numbers. Digits are taken into a 64-bit significand for as long as it holds them, the
rest of the digits only move the decimal point; a double is the significand, rounded, scaled by one
power of ten. -/

namespace MeshExport.Json

open Text (isDigit digitsValue)

/-- Takes digits while the significand stays below `2 ^ 64`, and returns how many it took. -/
def absorb (significand : Nat) : List Char → Nat × Nat
  | [] => (significand, 0)
  | c :: cs =>
    let next := significand * 10 + (c.toNat - '0'.toNat)
    if next < UInt64.size then
      let (s, n) := absorb next cs
      (s, n + 1)
    else (significand, 0)

def maxPower : Nat := 308

/-- Divides by `10 ^ k`, by at most `10 ^ 308` at a time. -/
def scaleDown (x : Double) (k : Nat) : Double :=
  if k ≤ maxPower then
    let power := (Double.powerOfTen k).magnitude
    x.times power.2 power.1
  else if x.isZero then x
  else
    let power := (Double.powerOfTen maxPower).magnitude
    scaleDown (x.times power.2 power.1) (k - maxPower)
termination_by k
decreasing_by simp only [maxPower] at *; omega

/-- The significand, as a double, times `10 ^ exponent`, unless that is too large for a double. -/
def scaled? (negative : Bool) (significand : Nat) (exponent : Int) : Option Double :=
  let x := Double.ofRatio negative significand 1
  match exponent with
  | .ofNat k =>
    if k ≤ maxPower then
      let power := (Double.powerOfTen k).magnitude
      let x := x.times power.1 power.2
      if x.isInfinite then none else some x
    else if significand = 0 then some x else none
  | .negSucc k => some (scaleDown x (k + 1))

/-- The digits of the integer part: a zero stands alone. -/
def integerDigits : List Char → Option (List Char × List Char)
  | [] => none
  | c :: cs =>
    if c = '0' then
      match cs with
      | d :: _ => if isDigit d then none else some ([c], cs)
      | [] => some ([c], cs)
    else if isDigit c then some (c :: cs.takeWhile isDigit, cs.dropWhile isDigit)
    else none

def fractionDigits : List Char → Option (Option (List Char) × List Char)
  | '.' :: cs =>
    let ds := cs.takeWhile isDigit
    if ds.isEmpty then none else some (some ds, cs.dropWhile isDigit)
  | cs => some (none, cs)

def exponent (cs : List Char) : Option (Option Int × List Char) :=
  match cs with
  | c :: rest =>
    if c = 'e' || c = 'E' then
      let (negative, rest) :=
        match rest with
        | '+' :: r => (false, r)
        | '-' :: r => (true, r)
        | r => (false, r)
      let ds := rest.takeWhile isDigit
      if ds.isEmpty then none
      else
        let e : Int := digitsValue ds
        some (some (if negative then -e else e), rest.dropWhile isDigit)
    else some (none, cs)
  | [] => some (none, [])

def readUnsigned (negative : Bool) (cs : List Char) : Option (Json × List Char) := do
  let (whole, cs) ← integerDigits cs
  let (fraction, cs) ← fractionDigits cs
  let (power, cs) ← exponent cs
  let (s, taken) := absorb 0 whole
  if fraction.isNone && power.isNone && taken = whole.length then
    if !negative then return (int s, cs)
    else if s = 0 || s > Int64.minValue.toInt.natAbs then return (float (.ofRatio true s 1), cs)
    else return (int (-s), cs)
  else
    let (s, after) := absorb s (fraction.getD [])
    let e : Int := (whole.length - taken : Nat) - (after : Int) + power.getD 0
    let x ← scaled? negative s e
    return (float x, cs)

def readNumber : List Char → Option (Json × List Char)
  | '-' :: cs => readUnsigned true cs
  | cs => readUnsigned false cs

end MeshExport.Json
