import CoSimulation.Network

/-!
# The broker

The broker binds workloads to hosts and hands them to the datacenters that own
the hosts.  A pinned workload goes to its host; the others go round the hosts in
the order in which these were added.

The vertices of a workload are registered before its submission is dispatched, so
they can be resolved as soon as it starts to send.  A workload whose host is not
available waits for the next round; one that reuses a submitted identity, or whose
vertices live on another host, is rejected and leaves no trace in the registry.
-/

namespace CoSimulation

structure Broker where
  registry : Registry
  /-- The hosts in the order in which they were added. -/
  hosts : List HostId
  /-- The place in `hosts` of the host that the next unpinned workload gets. -/
  nextHost : Nat
  /-- Workloads that wait for a host. -/
  pending : List Workload
  /-- Workloads submitted and their hosts, in order. -/
  submitted : List (WorkloadId × HostId)
  /-- Workloads rejected and the reasons, in order. -/
  rejected : List (WorkloadId × Fault)

/-- What the broker decides about a workload. -/
inductive Decision where
  | rejected (fault : Fault)
  | postponed
  | accepted (host : HostId) (datacenter : DatacenterId) (registry : Registry)

namespace Broker

def empty : Broker :=
  { registry := Registry.empty, hosts := [], nextHost := 0, pending := [], submitted := []
    rejected := [] }

instance : Inhabited Broker := ⟨empty⟩

/-- Makes a host available for placement. -/
def addHost (broker : Broker) (host : HostId) (datacenter : DatacenterId) : Broker :=
  { broker with
    registry := broker.registry.registerHost host datacenter
    hosts := if broker.hosts.contains host then broker.hosts else broker.hosts ++ [host] }

/-- Queues a workload for the next round. -/
def queue (broker : Broker) (workload : Workload) : Broker :=
  { broker with pending := broker.pending ++ [workload] }

/-- Whether the identity belongs to a submitted workload. -/
def hasSubmitted (broker : Broker) (workload : WorkloadId) : Bool :=
  broker.submitted.any (fun entry => entry.1 == workload)

/-- The host that a workload is bound to, if any, and the broker after binding it:
the next unpinned workload gets the following host. -/
def bind (broker : Broker) (workload : Workload) : Option HostId × Broker :=
  match workload.placement.host with
  | some host => (some host, broker)
  | none =>
      match broker.hosts[broker.nextHost]? with
      | none => (none, broker)
      | some host =>
          (some host,
            { broker with nextHost := (broker.nextHost + 1) % broker.hosts.length })

/-- What becomes of a workload that is bound to a host. -/
def decide (broker : Broker) (owns : DatacenterId → HostId → Bool) (workload : Workload)
    (host : HostId) : Decision :=
  match broker.registry.datacenterOf? host with
  | none => .postponed
  | some datacenter =>
      if owns datacenter host then
        match broker.registry.assignAll workload.placement.vertices.keys host with
        | .error fault => .rejected fault
        | .ok registry => .accepted host datacenter registry
      else .postponed

/-- The broker with a workload rejected. -/
def reject (broker : Broker) (workload : WorkloadId) (fault : Fault) : Broker :=
  { broker with rejected := broker.rejected ++ [(workload, fault)] }

/-- Considers one workload of a round: it is submitted, rejected or postponed. -/
def consider (owns : DatacenterId → HostId → Bool) (broker : Broker) (workload : Workload) :
    Broker × List Dispatch :=
  if broker.hasSubmitted workload.id then
    (broker.reject workload.id (.duplicateWorkload workload.id), [])
  else
    match broker.bind workload with
    | (none, bound) => (bound.queue workload, [])
    | (some host, bound) =>
        match bound.decide owns workload host with
        | .postponed => (bound.queue workload, [])
        | .rejected fault => (bound.reject workload.id fault, [])
        | .accepted host datacenter registry =>
            ({ bound with
                registry := registry
                submitted := bound.submitted ++ [(workload.id, host)] },
              [{ target := datacenter, delay := 0, event := .submit host workload }])

/-- Considers the workloads of a round one after the other. -/
def considerAll (owns : DatacenterId → HostId → Bool) :
    Broker → List Workload → Broker × List Dispatch
  | broker, [] => (broker, [])
  | broker, workload :: rest =>
      let (next, dispatches) := consider owns broker workload
      let (last, others) := considerAll owns next rest
      (last, dispatches ++ others)

/-- A round: places every queued workload on a host that `owns` accepts and asks
for its submission.  The dispatches are the submissions. -/
def submitWhere (owns : DatacenterId → HostId → Bool) (broker : Broker) :
    Broker × List Dispatch :=
  considerAll owns { broker with pending := [] } broker.pending

/-- A round in which every registered host is taken to be available. -/
def submit (broker : Broker) : Broker × List Dispatch := broker.submitWhere (fun _ _ => true)

end Broker

end CoSimulation
