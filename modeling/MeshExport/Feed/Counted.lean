import MeshExport.Feed.Basic

/-! Feeds whose calls are counted by kind of resource. A call is counted before it is made, a reset
once and not as the calls it consists of. -/

namespace MeshExport

/-- A count for each kind, below `2 ^ 64`. -/
structure KindCounts where
  serviceExport : Nat := 0
  service : Nat := 0
  endpointSlice : Nat := 0
deriving DecidableEq

namespace KindCounts

def get (c : KindCounts) : Kind → Nat
  | .serviceExport => c.serviceExport
  | .service => c.service
  | .endpointSlice => c.endpointSlice

def count (c : KindCounts) : Kind → KindCounts
  | .serviceExport => { c with serviceExport := c.serviceExport + 1 }
  | .service => { c with service := c.service + 1 }
  | .endpointSlice => { c with endpointSlice := c.endpointSlice + 1 }

theorem get_count (c : KindCounts) (k l : Kind) :
    (c.count k).get l = c.get l + if k = l then 1 else 0 := by
  cases k <;> cases l <;> rfl

end KindCounts

structure FeedCounts where
  applies : KindCounts := {}
  deletes : KindCounts := {}
  resets : KindCounts := {}
deriving DecidableEq

def Feed.counted {σ ρ : Type} [Resource ρ] (f : Feed σ ρ) : Feed (FeedCounts × σ) ρ where
  apply s o :=
    (f.apply s.2 o).map ({ s.1 with applies := s.1.applies.count (Resource.kind ρ) }, ·)
  delete s n :=
    ({ s.1 with deletes := s.1.deletes.count (Resource.kind ρ) }, ·) <$> f.delete s.2 n
  reset s objects names :=
    (f.reset s.2 objects names).map
      ({ s.1 with resets := s.1.resets.count (Resource.kind ρ) }, ·)

end MeshExport
