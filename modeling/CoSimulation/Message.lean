import CoSimulation.Identity
import CoSimulation.Table
import CoSimulation.Time

/-!
# Messages

A batch of events travels from one vertex to another as a message.  Messages are
ordered by the time they are due, then by the time they were sent, then by their
vertices; what they carry does not count.
-/

namespace CoSimulation

/-- Events flowing along one edge of a query graph. -/
structure Batch where
  /-- How many events there are. -/
  size : Binary64
  /-- When they were produced. -/
  timestamp : Milliseconds
  /-- The latency gathered so far, in milliseconds. -/
  latency : Binary64
  /-- How many events each producer contributed. -/
  totals : Table Binary64

/-- A batch on its way from one vertex to another.  Times are outer times. -/
structure Message where
  originVertex : VertexId
  originTime : Seconds
  destVertex : VertexId
  destTime : Seconds
  payload : Batch

namespace Message

/-- The order of messages.  Times are compared in the total order of their bit
patterns, so also messages due at NaN have their place. -/
def compare (x y : Message) : Ordering :=
  ((x.destTime.totalCompare y.destTime).then (x.originTime.totalCompare y.originTime)).then
    ((Ord.compare x.originVertex y.originVertex).then (Ord.compare x.destVertex y.destVertex))

/-- The same comparison, as a partial order offers it: it always has a result. -/
def partialCompare (x y : Message) : Option Ordering := some (x.compare y)

/-- Whether a message may be delivered before another. -/
def precedes (x y : Message) : Bool := x.compare y != .gt

/-- Messages are the same if neither comes before the other. -/
def same (x y : Message) : Bool := x.compare y == .eq

/-- Whether a message comes before another. -/
def before (x y : Message) : Bool := x.compare y == .lt

/-- The messages in order; those that are the same keep their places. -/
def sort (messages : List Message) : List Message := messages.mergeSort precedes

end Message

end CoSimulation
