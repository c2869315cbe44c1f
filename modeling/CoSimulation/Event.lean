import CoSimulation.Workload

/-!
# Events

What the outer simulator delivers to a datacenter, and what is asked of it to
deliver later.
-/

namespace CoSimulation

inductive Event where
  /-- A workload bound to a host is handed over for execution. -/
  | submit (host : HostId) (workload : Workload)
  /-- A periodic pass over all hosts is due. -/
  | housekeeping
  /-- A message has reached its destination. -/
  | deliver (message : Message)

namespace Event

def tag : Event → String
  | submit .. => "submit"
  | housekeeping => "housekeeping"
  | deliver _ => "deliver"

end Event

/-- A request to deliver an event to a datacenter after a delay. -/
structure Dispatch where
  target : DatacenterId
  delay : Seconds
  event : Event

/-- What an operation leaves behind: the state after it, what it asks to be
delivered, in order, and its result. -/
structure Reaction (σ α : Type) where
  state : σ
  dispatches : List Dispatch
  result : Except Fault α

end CoSimulation
