import MeshExport.Text.Slice

/-! What is wrong with the value of an option. -/

namespace MeshExport.CommandLine

inductive ValueFault where
  /-- A part of the value begins or ends inside of a character. -/
  | slice (e : Text.SliceError)
  | negativeDuration
  | durationTooLong
  | durationSumTooLong
deriving DecidableEq

def ValueFault.message : ValueFault → String
  | slice e => e.message
  | negativeDuration => "cannot convert float seconds to Duration: value is negative"
  | durationTooLong => "cannot convert float seconds to Duration: value is either too big or NaN"
  | durationSumTooLong => "overflow when adding durations"

def ValueFault.exitCode : Nat := 101

inductive ValueError where
  /-- The value is none of those expected. -/
  | invalid
  | fault (f : ValueFault)
deriving DecidableEq

def expected {α : Type} : Option α → Except ValueError α
  | some a => .ok a
  | none => .error .invalid

end MeshExport.CommandLine
