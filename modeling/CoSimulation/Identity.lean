/-!
# Identities

Vertices, hosts, datacenters and workloads are told apart by numbers.
-/

namespace CoSimulation

/-- A processing unit of a query graph. -/
abbrev VertexId := Nat

abbrev HostId := Nat

abbrev DatacenterId := Nat

abbrev WorkloadId := Nat

end CoSimulation
