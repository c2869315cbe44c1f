import CoSimulation.Event
import CoSimulation.Registry

/-!
# The network

A batch that an engine reports as sent is delivered to the datacenter that owns
the destination's host, a fixed delay after the engine's time.  Engines report
times inside the slice that just ran, which can lie behind the outer clock; such
a batch is delivered at once.
-/

namespace CoSimulation

/-- The network at one moment: where vertices are, and what the outer clock shows. -/
structure Network where
  registry : Registry
  now : Seconds

namespace Network

/-- The dispatch that carries a batch to its destination. -/
def send (network : Network) (delay : Seconds) (time : Milliseconds)
    (origin dest : VertexId) (payload : Batch) : Except Fault Dispatch :=
  match network.registry.resolve? dest with
  | none => .error (.unresolvedDestination dest)
  | some location =>
      let start := ofEngineTime time
      let arrival := start + delay
      .ok
        { target := location.datacenter
          delay := (arrival - network.now).max 0
          event := .deliver
            { originVertex := origin, originTime := start
              destVertex := dest, destTime := arrival, payload := payload } }

/-- Sends the sent records of a list, up to the first that cannot be sent. -/
def sendAll (network : Network) (delay : Seconds) :
    List Record → List Dispatch × Option Fault
  | [] => ([], none)
  | .sent time origin dest payload :: records =>
      match network.send delay time origin dest payload with
      | .error fault => ([], some fault)
      | .ok dispatch =>
          let (dispatches, fault) := network.sendAll delay records
          (dispatch :: dispatches, fault)
  | _ :: records => network.sendAll delay records

end Network

namespace Workload

/-- Forwards the sent records of a run and tells how many there were.  A workload
counts what it sent only if all of it could be sent. -/
def forward (workload : Workload) (network : Network) (records : List Record) :
    Reaction Workload Nat :=
  match workload.transport with
  | .isolated => { state := workload, dispatches := [], result := .ok 0 }
  | .networked delay =>
      match network.sendAll delay records with
      | (dispatches, some fault) =>
          { state := workload, dispatches := dispatches, result := .error fault }
      | (dispatches, none) =>
          let counters := workload.counters
          { state :=
              { workload with
                counters := { counters with sent := counters.sent + dispatches.length } }
            dispatches := dispatches
            result := .ok dispatches.length }

end Workload

end CoSimulation
