import CoSimulation.Simulation

/-!
# Descriptions

Values as one line of text: a name followed by the named parts in braces.
-/

namespace CoSimulation

namespace Description

def real (x : Binary64) : String := NumberFormat.descriptive.write x

def flag (value : Bool) : String := if value then "true" else "false"

/-- The parts between two brackets, separated by commas. -/
def enclosed (opening closing : String) (parts : List String) : String :=
  opening ++ String.intercalate ", " parts ++ closing

/-- A name and named parts. -/
def record (name : String) (parts : List (String × String)) : String :=
  name ++ enclosed " \x7b " " \x7d" (parts.map (fun (part, text) => part ++ ": " ++ text))

/-- A name and one part. -/
def wrapped (name : String) (part : String) : String := name ++ "(" ++ part ++ ")"

def optional {α : Type} (text : α → String) : Option α → String
  | some value => wrapped "Some" (text value)
  | none => "None"

def list {α : Type} (text : α → String) (items : List α) : String :=
  enclosed "[" "]" (items.map text)

def numbers (set : NumberSet) : String := enclosed "\x7b" "\x7d" (set.keys.map toString)

def table {α : Type} (text : α → String) (entries : Table α) : String :=
  enclosed "\x7b" "\x7d"
    (entries.entries.map (fun (key, value) => toString key ++ ": " ++ text value))

def pair (first second : String) : String := "(" ++ first ++ ", " ++ second ++ ")"

end Description

open Description

def Batch.describe (batch : Batch) : String :=
  record "EventSet" [
    ("size", real batch.size),
    ("timestamp", real batch.timestamp),
    ("latency", real batch.latency),
    ("totals", table real batch.totals)]

def Message.describe (message : Message) : String :=
  record "NetworkEvent" [
    ("origin_vertex", toString message.originVertex),
    ("origin_timestamp", real message.originTime),
    ("dest_vertex", toString message.destVertex),
    ("dest_timestamp", real message.destTime),
    ("payload", message.payload.describe)]

def Placement.describe (placement : Placement) : String :=
  record "Placement" [
    ("host", optional toString placement.host),
    ("vertices", numbers placement.vertices),
    ("duration", toString placement.duration)]

def Transport.describe : Transport → String
  | isolated => "Isolated"
  | networked _ => "Networked"

def Workload.describe (workload : Workload) : String :=
  record "WorkloadAdapter" [
    ("id", toString workload.id),
    ("placement", workload.placement.describe),
    ("transport", workload.transport.describe),
    ("pes", toString workload.pes),
    ("elapsed_time", optional real workload.elapsed),
    ("finished", flag workload.finished),
    ("pending_events", toString workload.pending.size)]

def Event.describe : Event → String
  | submit host workload =>
      record "Submit" [("host", toString host), ("workload", toString workload.id)]
  | housekeeping => "Housekeeping"
  | deliver message => wrapped "Deliver" message.describe

def EventQueue.describe {α : Type} (queue : EventQueue α) : String :=
  record "EventQueue" [
    ("now", real queue.now),
    ("pending", toString queue.size),
    ("next", optional real queue.nextTime?)]

/-- The name of a kind of fault. -/
def Fault.name : Fault → String
  | nonMonotonicTime .. => "NonMonotonicTime"
  | workloadReclaimed .. => "WorkloadReclaimed"
  | workloadStillRunning .. => "WorkloadStillRunning"
  | unknownWorkload .. => "UnknownWorkload"
  | duplicateWorkload .. => "DuplicateWorkload"
  | unknownHost .. => "UnknownHost"
  | unknownDatacenter .. => "UnknownDatacenter"
  | vertexAlreadyPlaced .. => "VertexAlreadyPlaced"
  | unresolvedDestination .. => "UnresolvedDestination"
  | vertexNotRouted .. => "VertexNotRouted"

/-- What a fault is about. -/
def Fault.parts : Fault → List (String × String)
  | nonMonotonicTime workload previous current =>
      [("workload", toString workload), ("previous", real previous), ("current", real current)]
  | workloadReclaimed workload => [("workload", toString workload)]
  | workloadStillRunning workload => [("workload", toString workload)]
  | unknownWorkload workload => [("workload", toString workload)]
  | duplicateWorkload workload => [("workload", toString workload)]
  | unknownHost host => [("host", toString host)]
  | unknownDatacenter datacenter => [("datacenter", toString datacenter)]
  | vertexAlreadyPlaced vertex host existing =>
      [("vertex", toString vertex), ("host", toString host), ("existing", toString existing)]
  | unresolvedDestination vertex => [("vertex", toString vertex)]
  | vertexNotRouted vertex => [("vertex", toString vertex)]

def Fault.describe (fault : Fault) : String := record fault.name fault.parts

def Broker.describe (broker : Broker) : String :=
  record "Broker" [
    ("hosts", list toString broker.hosts),
    ("pending", toString broker.pending.length),
    ("submitted",
      list (fun (workload, host) => pair (toString workload) (toString host)) broker.submitted),
    ("rejected",
      list (fun (workload, fault) => pair (toString workload) fault.describe) broker.rejected)]

end CoSimulation
