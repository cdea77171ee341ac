import MeshExport.CommandLine.ValueError
import MeshExport.Text.Letter
import MeshExport.Text.Numeral

/-! Durations on the command line: numbers with their units, e.g. `1h30m` or `1.5s`. Each is a number
of seconds rounded to nanoseconds, a tie to the even one. -/

namespace MeshExport.CommandLine

structure Timeout where
  negative : Bool
  nanoseconds : Nat
deriving DecidableEq

namespace Timeout

def perSecond : Nat := Nat.pow 10 9

def unit? (name : String) : Option Double :=
  match name with
  | "ns" => some (.ofRatio false 1 (Nat.pow 10 9))
  | "us" | "\u00b5s" | "\u03bcs" => some (.ofRatio false 1 (Nat.pow 10 6))
  | "ms" => some (.ofRatio false 1 (Nat.pow 10 3))
  | "s" => some (.ofRatio false 1 1)
  | "m" => some (.ofRatio false 60 1)
  | "h" => some (.ofRatio false 3600 1)
  | _ => none

/-- The nanoseconds of a number of seconds, which has to be positive and fit in 64 bits. -/
def ofSeconds (x : Double) : Except ValueFault Nat :=
  match x with
  | .finite negative m _ =>
    let r := x.magnitude
    if negative && m ≠ 0 then .error .negativeDuration
    else if r.1 ≥ UInt64.size * r.2 then .error .durationTooLong
    else .ok (Double.roundQuotient (r.1 * perSecond) r.2)
  | .infinite true => .error .negativeDuration
  | _ => .error .durationTooLong

/-- The nanoseconds of all the parts, a number and its unit each; a zero alone needs no unit. -/
def sum : Nat → Nat → List Char → Except ValueError Nat
  | _, total, [] => .ok total
  | _, total, ['0'] => .ok total
  | 0, _, _ => .error .invalid
  | fuel + 1, total, cs => do
    let number := cs.takeWhile fun c => !Text.isLetter c
    let rest := cs.dropWhile fun c => !Text.isLetter c
    if rest.isEmpty then throw .invalid
    let x ← expected (Text.double? number)
    let unit ← expected (unit? (String.ofList (rest.takeWhile Text.isLetter)))
    let n ← (ofSeconds (x.times unit.magnitude.1 unit.magnitude.2)).mapError .fault
    if total + n ≥ UInt64.size * perSecond then throw (.fault .durationSumTooLong)
    sum fuel (total + n) (rest.dropWhile Text.isLetter)

/-- A text whose signs in front count only if the first of them is a minus. -/
def parse (text : String) : Except ValueError Timeout := do
  let cs := text.toList
  let unsigned := (cs.dropWhile (· = '+')).dropWhile (· = '-')
  return ⟨cs.head? = some '-', ← sum unsigned.length 0 unsigned⟩

end Timeout
end MeshExport.CommandLine
