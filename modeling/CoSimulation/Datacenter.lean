import CoSimulation.Scheduler

/-!
# Datacenters

A datacenter owns hosts and knows which workload every vertex belongs to.  A
submitted workload lands on one of its hosts, a delivered message is queued on the
workload that its destination belongs to, and housekeeping ticks every host.

Every pass over the hosts asks for the next housekeeping one interval ahead, so
the clock keeps moving while workloads wait for the network.
-/

namespace CoSimulation

/-- A host: the share of each PE, and the scheduler that divides it. -/
structure Host where
  id : HostId
  mips : List Binary64
  scheduler : Scheduler

namespace Host

def create (id : HostId) (mips : List Binary64) (gap : Seconds) : Host :=
  { id := id, mips := mips, scheduler := Scheduler.create gap }

/-- Advances the host's scheduler to a time. -/
def tick (host : Host) (network : Network) (time : Seconds) :
    Reaction Host (Option Seconds) :=
  let ticked := host.scheduler.tick network time host.mips
  { state := { host with scheduler := ticked.state }
    dispatches := ticked.dispatches
    result := ticked.result }

/-- The host after its completions are collected. -/
def collected (host : Host) : Host :=
  { host with scheduler := host.scheduler.takeCompleted.2 }

end Host

/-- Where the input of a vertex goes. -/
structure Route where
  host : HostId
  workload : WorkloadId
deriving DecidableEq

/-- What a datacenter counts. -/
structure DatacenterCounters where
  /-- Workloads accepted. -/
  submissions : Nat := 0
  /-- Messages queued on a workload. -/
  deliveries : Nat := 0
  /-- Passes over all hosts. -/
  passes : Nat := 0
  /-- Housekeeping that came too soon and was dropped. -/
  skipped : Nat := 0
  /-- Housekeeping asked for. -/
  armed : Nat := 0
deriving DecidableEq

structure Datacenter where
  id : DatacenterId
  hosts : Table Host
  routes : Table Route
  /-- The period of housekeeping. -/
  interval : Seconds
  /-- Housekeeping sooner than this after a pass is dropped. -/
  gap : Seconds
  /-- When the last pass was. -/
  lastPass : Option Seconds
  /-- Completions that nobody has collected yet. -/
  completed : List WorkloadId
  counters : DatacenterCounters

namespace Datacenter

def create (id : DatacenterId) (interval gap : Seconds) : Datacenter :=
  { id := id, hosts := Table.empty, routes := Table.empty, interval := interval, gap := gap
    lastPass := none, completed := [], counters := {} }

/-- The datacenter with a host, in place of any it has under the same identity. -/
def addHost (datacenter : Datacenter) (host : Host) : Datacenter :=
  { datacenter with hosts := datacenter.hosts.insert host.id host }

def host? (datacenter : Datacenter) (host : HostId) : Option Host := datacenter.hosts.get? host

def route? (datacenter : Datacenter) (vertex : VertexId) : Option Route :=
  datacenter.routes.get? vertex

/-- How many workloads run on the hosts. -/
def activeCount (datacenter : Datacenter) : Nat :=
  sumOf (datacenter.hosts.values.map (fun host => host.scheduler.active.length))

/-- The workload on the first host that has it, if it is not reclaimed. -/
def workload? (datacenter : Datacenter) (workload : WorkloadId) : Option Workload :=
  datacenter.hosts.values.findSome? (fun host => host.scheduler.workload? workload)

/-- Collects the completions since the last collection. -/
def takeCompleted (datacenter : Datacenter) : List WorkloadId × Datacenter :=
  (datacenter.completed, { datacenter with completed := [] })

/-- Hands a finished workload back from the first host that knows it. -/
def reclaim (datacenter : Datacenter) (workload : WorkloadId) :
    Except Fault (Workload × Datacenter) :=
  match datacenter.hosts.values.find? (fun host => host.scheduler.contains workload) with
  | none => .error (.unknownWorkload workload)
  | some host => do
      let (found, scheduler) ← host.scheduler.reclaim workload
      return (found, datacenter.addHost { host with scheduler := scheduler })

/-- A request for housekeeping of this datacenter. -/
def housekeepingIn (datacenter : Datacenter) (delay : Seconds) : Dispatch :=
  { target := datacenter.id, delay := delay, event := .housekeeping }

/-- The datacenter after it has asked for housekeeping so many times. -/
def arm (datacenter : Datacenter) (times : Nat) : Datacenter :=
  let counters := datacenter.counters
  { datacenter with counters := { counters with armed := counters.armed + times } }

/-- Advances every host to the present, all of them even if one fails, and gives the
earliest wake-up that a host asked for and the faults of the hosts in order. -/
def updateHosts (datacenter : Datacenter) (network : Network) :
    Datacenter × List Dispatch × Option Seconds × List Fault :=
  let outcomes := datacenter.hosts.map (fun host => host.tick network network.now)
  let wakeUps := outcomes.values.filterMap fun outcome =>
    match outcome.result with
    | .ok wakeUp => wakeUp
    | .error _ => none
  let faults := outcomes.values.filterMap fun outcome =>
    match outcome.result with
    | .ok _ => none
    | .error fault => some fault
  let finished := outcomes.values.flatMap (fun outcome => outcome.state.scheduler.completed)
  let counters := datacenter.counters
  ({ datacenter with
      hosts := outcomes.map (fun outcome => outcome.state.collected)
      lastPass := some network.now
      completed := datacenter.completed ++ finished
      counters := { counters with passes := counters.passes + 1 } },
    outcomes.values.flatMap Reaction.dispatches, least? wakeUps, faults)

/-- The housekeeping that follows a pass: always one interval ahead, and before
that the earliest wake-up if it comes sooner. -/
def nextHousekeeping (datacenter : Datacenter) (now : Seconds) (wakeUp : Option Seconds) :
    List Dispatch :=
  let regular := datacenter.housekeepingIn datacenter.interval
  match wakeUp with
  | some time =>
      if time - now < datacenter.interval then
        [datacenter.housekeepingIn ((time - now).max 0), regular]
      else [regular]
  | none => [regular]

/-- A pass over all hosts together with the housekeeping that follows it.  The
result is the list of the hosts' faults. -/
def pass (datacenter : Datacenter) (network : Network) :
    Datacenter × List Dispatch × List Fault :=
  let (updated, sent, wakeUp, faults) := datacenter.updateHosts network
  let following := updated.nextHousekeeping network.now wakeUp
  (updated.arm following.length, sent ++ following, faults)

/-- Whether housekeeping at `now` comes too soon after the last pass. -/
def comesTooSoon (datacenter : Datacenter) (now : Seconds) : Bool :=
  match datacenter.lastPass with
  | some last => decide (now < last + datacenter.gap)
  | none => false

/-- Runs a pass, unless it comes too soon after the last one. -/
def housekeeping (datacenter : Datacenter) (network : Network) : Reaction Datacenter Unit :=
  if datacenter.comesTooSoon network.now then
    let counters := datacenter.counters
    { state :=
        { datacenter with counters := { counters with skipped := counters.skipped + 1 } }
      dispatches := []
      result := .ok () }
  else
    let (updated, dispatches, faults) := datacenter.pass network
    { state := updated, dispatches := dispatches, result := reportWorst faults () }

/-- The datacenter with a workload accepted on one of its hosts: the host's
scheduler has taken it in, and its vertices are routed to it. -/
def accept (datacenter : Datacenter) (host : Host) (scheduler : Scheduler)
    (workload : Workload) : Datacenter :=
  let route : Route := { host := host.id, workload := workload.id }
  let counters := datacenter.counters
  { datacenter with
    hosts := datacenter.hosts.insert host.id { host with scheduler := scheduler }
    routes :=
      datacenter.routes.insertAll
        (workload.placement.vertices.keys.map (fun vertex => (vertex, route)))
    counters := { counters with submissions := counters.submissions + 1 } }

/-- The housekeeping at the estimated end of a workload that was just accepted. -/
def housekeepingAtEnd (datacenter : Datacenter) (estimate : Seconds) : List Dispatch :=
  if (0 < estimate) ∧ estimate.isFinite then [datacenter.housekeepingIn estimate] else []

/-- Takes in a workload.  Running workloads are brought up to the present before the
new one shares their host. -/
def submit (datacenter : Datacenter) (network : Network) (host : HostId)
    (workload : Workload) : Reaction Datacenter Unit :=
  let (updated, dispatches, faults) := datacenter.pass network
  match updated.host? host with
  | none =>
      { state := updated, dispatches := dispatches
        result := reportWorst (faults ++ [.unknownHost host]) () }
  | some target =>
      match target.scheduler.submit workload with
      | .error fault =>
          { state := updated, dispatches := dispatches
            result := reportWorst (faults ++ [fault]) () }
      | .ok (estimate, scheduler) =>
          let atEnd := updated.housekeepingAtEnd estimate
          { state := (updated.accept target scheduler workload).arm atEnd.length
            dispatches := dispatches ++ atEnd
            result := reportWorst faults () }

/-- Queues a message on the workload that its destination belongs to. -/
def deliver (datacenter : Datacenter) (message : Message) : Except Fault Datacenter :=
  match datacenter.route? message.destVertex with
  | none => .error (.vertexNotRouted message.destVertex)
  | some route =>
      match datacenter.host? route.host with
      | none => .error (.unknownHost route.host)
      | some host => do
          let scheduler ← host.scheduler.deliver route.workload message
          let counters := datacenter.counters
          return { datacenter with
            hosts := datacenter.hosts.insert route.host { host with scheduler := scheduler }
            counters := { counters with deliveries := counters.deliveries + 1 } }

/-- Handles one event. -/
def handle (datacenter : Datacenter) (network : Network) :
    Event → Reaction Datacenter Unit
  | .submit host workload => datacenter.submit network host workload
  | .housekeeping => datacenter.housekeeping network
  | .deliver message =>
      match datacenter.deliver message with
      | .ok delivered => { state := delivered, dispatches := [], result := .ok () }
      | .error fault => { state := datacenter, dispatches := [], result := .error fault }

end Datacenter

end CoSimulation
