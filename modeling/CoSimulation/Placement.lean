import CoSimulation.Identity
import CoSimulation.Table

/-!
# Placements

The vertices that one workload executes, how long it runs, and the host it is
pinned to, if any.
-/

namespace CoSimulation

structure Placement where
  host : Option HostId
  vertices : NumberSet
  /-- In whole seconds of the outer clock. -/
  duration : Nat

namespace Placement

/-- A placement that any host may take. -/
def unpinned (vertices : List VertexId) (duration : Nat) : Placement :=
  { host := none, vertices := NumberSet.ofNumbers vertices, duration := duration }

/-- The placement pinned to a host. -/
def onHost (placement : Placement) (host : HostId) : Placement :=
  { placement with host := some host }

/-- Whether the placement executes a vertex. -/
def executes (placement : Placement) (vertex : VertexId) : Bool :=
  placement.vertices.contains vertex

end Placement

end CoSimulation
