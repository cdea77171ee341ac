import MeshExport.Trace.Traced

/-! Operations that may stop at a malformed object. What was done before the fault stays done. -/

namespace MeshExport

inductive Fault where
  | missingName
  | missingNamespace
deriving DecidableEq

def Fault.message : Fault → String
  | missingName => ".metadata.name missing"
  | missingNamespace => "resource must have a namespace"

structure Outcome (σ : Type) where
  state : σ
  events : List Event := []
  fault : Option Fault := none

namespace Outcome

variable {σ τ : Type}

def done (s : σ) : Outcome σ := ⟨s, [], none⟩

def stop (s : σ) (f : Fault) : Outcome σ := ⟨s, [], some f⟩

def ofTraced (t : Traced σ) : Outcome σ := ⟨t.value, t.events, none⟩

/-- Goes on unless there was a fault. -/
def andThen (o : Outcome σ) (next : σ → Outcome σ) : Outcome σ :=
  match o.fault with
  | some _ => o
  | none =>
    let n := next o.state
    ⟨n.state, o.events ++ n.events, n.fault⟩

def map (f : σ → τ) (o : Outcome σ) : Outcome τ := ⟨f o.state, o.events, o.fault⟩

end Outcome
end MeshExport
