import CoSimulation.Message

/-!
# Workload engines

An engine is told when to start, how many instructions it may spend from a given
time, and which batches arrived; in return it reports what its vertices did.  It
is opaque otherwise: what a run reports may depend on every call made so far, so
an engine is a function of its calls together with the calls themselves.
-/

namespace CoSimulation

/-- One entry of what a run reports.  Times are engine times. -/
inductive Record where
  | produced (time : Milliseconds) (vertex : VertexId) (quantity : Binary64)
  | processed (time : Milliseconds) (vertex : VertexId) (quantity : Binary64)
  | consumed (time : Milliseconds) (vertex : VertexId) (quantity : Binary64)
  /-- A batch was taken off the input queue of `vertex`. -/
  | received (time : Milliseconds) (vertex : VertexId) (quantity : Binary64)
  /-- A batch left `origin` for a vertex on another host. -/
  | sent (time : Milliseconds) (origin dest : VertexId) (payload : Batch)

namespace Record

def time : Record → Milliseconds
  | produced time _ _ | processed time _ _ | consumed time _ _ | received time _ _
  | sent time _ _ _ => time

def isSent : Record → Bool
  | sent .. => true
  | _ => false

end Record

/-- A call made on an engine. -/
inductive Call where
  /-- Prepare to start at a time. -/
  | init (start : Milliseconds)
  /-- Spend up to `instructions` from `start` on, at `capacity` per PE. -/
  | run (instructions : Nat) (start : Milliseconds) (capacity : Binary64)
  /-- A batch arrived for `dest`. -/
  | enqueue (time : Milliseconds) (origin dest : VertexId) (payload : Batch)

namespace Call

def isRun : Call → Bool
  | run .. => true
  | _ => false

def isInit : Call → Bool
  | init .. => true
  | _ => false

def isEnqueue : Call → Bool
  | enqueue .. => true
  | _ => false

end Call

/-- An engine and the calls made on it. -/
structure Engine where
  /-- Tells engines apart in traces; nothing depends on it. -/
  label : Nat
  /-- What a run reports, given all calls up to and including it, latest first. -/
  respond : List Call → List Record
  /-- The calls made so far, latest first. -/
  past : List Call

namespace Engine

/-- A new engine. -/
def fresh (label : Nat) (respond : List Call → List Record) : Engine :=
  { label := label, respond := respond, past := [] }

/-- The calls made so far, in order. -/
def calls (engine : Engine) : List Call := engine.past.reverse

/-- The engine after one more call. -/
def after (engine : Engine) (call : Call) : Engine :=
  { engine with past := call :: engine.past }

def init (engine : Engine) (start : Milliseconds) : Engine := engine.after (.init start)

def enqueue (engine : Engine) (time : Milliseconds) (origin dest : VertexId)
    (payload : Batch) : Engine :=
  engine.after (.enqueue time origin dest payload)

/-- Runs the engine. -/
def run (engine : Engine) (instructions : Nat) (start : Milliseconds)
    (capacity : Binary64) : List Record × Engine :=
  let next := engine.after (.run instructions start capacity)
  (next.respond next.past, next)

/-- What an engine reports that only passes batches on: one record for every batch
that arrived since the run before, then one batch of one event along every route. -/
def relay (routes : List (VertexId × VertexId)) : List Call → List Record
  | .run _ start _ :: earlier =>
      let arrivals := (earlier.takeWhile (fun call => !call.isRun)).reverse
      let received := arrivals.filterMap fun
        | .enqueue time _ dest payload => some (Record.received time dest payload.size)
        | _ => none
      let sent := routes.map fun (origin, dest) =>
        Record.sent start origin dest
          { size := 1, timestamp := start, latency := 0
            totals := Table.ofList [(origin, 1)] }
      received ++ sent
  | _ => []

/-- What an engine reports whose runs are fixed in advance; later runs report
nothing. -/
def script (runs : List (List Record)) (past : List Call) : List Record :=
  (runs[past.countP Call.isRun - 1]?).getD []

end Engine

end CoSimulation
