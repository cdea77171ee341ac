import MeshExport.Feed.Outcome
import MeshExport.Manifest.ObjectMeta

/-! Feeds: what the objects of one kind of resource do to a state. A reset replays every listed object
and then deletes what is gone; it stops at a malformed object, with the objects before it applied. -/

namespace MeshExport

inductive Kind where
  | serviceExport
  | service
  | endpointSlice
deriving DecidableEq

class Resource (ρ : Type) where
  kind : Kind
  metadata : ρ → ObjectMeta
  decode : Decoder ρ

section replay

variable {σ ρ : Type}

/-- Applies objects in order, up to the first fault. -/
def applyAll (apply : σ → ρ → Outcome σ) (s : σ) : List ρ → Outcome σ
  | [] => .done s
  | o :: os => (apply s o).andThen fun s => applyAll apply s os

/-- Applies all objects, then deletes the removed ones in the order given. -/
def replay (apply : σ → ρ → Outcome σ) (delete : σ → NamespacedName → Traced σ) (s : σ)
    (objects : List ρ) (removed : List NamespacedName) : Outcome σ :=
  (applyAll apply s objects).andThen fun s => .ofTraced (Traced.fold delete s removed)

end replay

structure Feed (σ ρ : Type) where
  apply : σ → ρ → Outcome σ
  delete : σ → NamespacedName → Traced σ
  /-- The removed names come in the order in which their set is walked. -/
  reset : σ → List ρ → List NamespacedName → Outcome σ := replay apply delete

inductive FeedCall (ρ : Type) where
  | apply (object : ρ)
  | delete (name : NamespacedName)
  | reset (objects : List ρ) (removed : Std.ExtTreeSet NamespacedName)

namespace Feed

variable {σ τ ρ : Type}

def run (f : Feed σ ρ) (s : σ) : FeedCall ρ → Outcome σ
  | .apply object => f.apply s object
  | .delete name => .ofTraced (f.delete s name)
  | .reset objects removed => f.reset s objects removed.toList

def within (f : Feed σ ρ) (part : τ → σ) (replace : τ → σ → τ) : Feed τ ρ where
  apply t o := (f.apply (part t) o).map (replace t)
  delete t n := replace t <$> f.delete (part t) n
  reset t objects names := (f.reset (part t) objects names).map (replace t)

end Feed
end MeshExport
