import CoSimulation.Fault
import CoSimulation.Table

/-!
# The placement registry

Which host every vertex lives on and which datacenter owns every host.  A placed
vertex never moves; placing several vertices is all or nothing.
-/

namespace CoSimulation

/-- Where a vertex runs. -/
structure Location where
  host : HostId
  datacenter : DatacenterId
deriving DecidableEq

structure Registry where
  hostOfVertex : Table HostId
  datacenterOfHost : Table DatacenterId

namespace Registry

def empty : Registry := { hostOfVertex := Table.empty, datacenterOfHost := Table.empty }

instance : Inhabited Registry := ⟨empty⟩

def hostOf? (registry : Registry) (vertex : VertexId) : Option HostId :=
  registry.hostOfVertex.get? vertex

def datacenterOf? (registry : Registry) (host : HostId) : Option DatacenterId :=
  registry.datacenterOfHost.get? host

/-- The host of a vertex and that host's datacenter. -/
def resolve? (registry : Registry) (vertex : VertexId) : Option Location := do
  let host ← registry.hostOf? vertex
  let datacenter ← registry.datacenterOf? host
  some { host := host, datacenter := datacenter }

/-- Records which datacenter owns a host. -/
def registerHost (registry : Registry) (host : HostId) (datacenter : DatacenterId) :
    Registry :=
  { registry with datacenterOfHost := registry.datacenterOfHost.insert host datacenter }

/-- The first vertex of a list that lives on another host already. -/
def conflict? (registry : Registry) (host : HostId) (vertices : List VertexId) :
    Option Fault :=
  vertices.findSome? fun vertex =>
    match registry.hostOf? vertex with
    | some existing =>
        if existing = host then none else some (.vertexAlreadyPlaced vertex host existing)
    | none => none

/-- The first reason why the vertices cannot be placed on the host. -/
def check (registry : Registry) (vertices : List VertexId) (host : HostId) :
    Except Fault Unit :=
  if registry.datacenterOfHost.contains host then
    match registry.conflict? host vertices with
    | some fault => .error fault
    | none => .ok ()
  else .error (.unknownHost host)

/-- Writes down that all the vertices live on the host. -/
def insertAll (registry : Registry) (vertices : List VertexId) (host : HostId) : Registry :=
  { registry with
    hostOfVertex :=
      registry.hostOfVertex.insertAll (vertices.map (fun vertex => (vertex, host))) }

/-- Places every vertex on the host, or none of them: the verdict, and the registry after
it. -/
def place (registry : Registry) (vertices : List VertexId) (host : HostId) :
    Except Fault Unit × Registry :=
  match registry.check vertices host with
  | .error fault => (.error fault, registry)
  | .ok () => (.ok (), registry.insertAll vertices host)

/-- The registry with every vertex placed on the host, if all of them can be. -/
def assignAll (registry : Registry) (vertices : List VertexId) (host : HostId) :
    Except Fault Registry :=
  let (verdict, next) := registry.place vertices host
  verdict.map fun _ => next

/-- The registry with one vertex placed on the host, if it can be. -/
def assign (registry : Registry) (vertex : VertexId) (host : HostId) :
    Except Fault Registry :=
  registry.assignAll [vertex] host

def vertexCount (registry : Registry) : Nat := registry.hostOfVertex.size

def hostCount (registry : Registry) : Nat := registry.datacenterOfHost.size

end Registry

end CoSimulation
