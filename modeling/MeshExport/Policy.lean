import MeshExport.Endpoint

/-! Which clusters may discover an endpoint. An endpoint is always visible inside its own cluster;
elsewhere only if its service is exported and the policy honours exports. -/

namespace MeshExport

/-- What an operator allows, once, at startup. -/
structure Policy where
  discoveryEnabled : Bool
  clusterLocal : Bool
deriving DecidableEq

inductive Reach where
  /-- Those in the endpoint's cluster. -/
  | clusterLocal
  /-- Those in any cluster. -/
  | meshWide
deriving DecidableEq

namespace Reach

def covers (r : Reach) (origin requesting : ClusterId) : Bool :=
  origin == requesting || r == meshWide

def name : Reach → String
  | clusterLocal => "ClusterLocal"
  | meshWide => "MeshWide"

end Reach

namespace Policy

/-- Everything stays in its own cluster. -/
def off : Policy := ⟨false, false⟩

def honoursExports (p : Policy) : Bool := p.discoveryEnabled && !p.clusterLocal

def reach (p : Policy) (exported : Bool) : Reach :=
  if exported && p.honoursExports then .meshWide else .clusterLocal

def visible (p : Policy) (exported : Bool) (origin requesting : ClusterId) : Bool :=
  (p.reach exported).covers origin requesting

end Policy
end MeshExport
