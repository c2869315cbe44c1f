import CoSimulation.Engine
import CoSimulation.Json.Shape
import CoSimulation.Json.Writer
import CoSimulation.Placement

/-!
# Messages, placements and records as JSON

What crosses between simulators is exchanged as JSON: batches, messages, placements
and the records of engines.  For each of them `document` lays it out and `reader`
reads it.
-/

namespace CoSimulation

open Json (Reader)

namespace Batch

def document (batch : Batch) : Document :=
  .record [
    ("size", .real batch.size),
    ("timestamp", .real batch.timestamp),
    ("latency", .real batch.latency),
    ("totals",
      .record (batch.totals.entries.map
        (fun (producer, amount) => (toString producer, .real amount))))]

def reader : Reader Batch :=
  Json.Shape.record
    [Field.needed "size" Json.Shape.real (fun size batch => { batch with size := size }),
      Field.needed "timestamp" Json.Shape.real
        (fun timestamp batch => { batch with timestamp := timestamp }),
      Field.needed "latency" Json.Shape.real
        (fun latency batch => { batch with latency := latency }),
      Field.needed "totals" (Json.Shape.table Json.Shape.real)
        (fun totals batch => { batch with totals := totals })]
    { size := 0, timestamp := 0, latency := 0, totals := Table.empty }

end Batch

namespace Message

def document (message : Message) : Document :=
  .record [
    ("origin_vertex", .count message.originVertex),
    ("origin_timestamp", .real message.originTime),
    ("dest_vertex", .count message.destVertex),
    ("dest_timestamp", .real message.destTime),
    ("payload", message.payload.document)]

def reader : Reader Message :=
  Json.Shape.record
    [Field.needed "origin_vertex" Format.count64
        (fun vertex message => { message with originVertex := vertex }),
      Field.needed "origin_timestamp" Json.Shape.real
        (fun time message => { message with originTime := time }),
      Field.needed "dest_vertex" Format.count64
        (fun vertex message => { message with destVertex := vertex }),
      Field.needed "dest_timestamp" Json.Shape.real
        (fun time message => { message with destTime := time }),
      Field.needed "payload" Batch.reader
        (fun payload message => { message with payload := payload })]
    { originVertex := 0, originTime := 0, destVertex := 0, destTime := 0
      payload := { size := 0, timestamp := 0, latency := 0, totals := Table.empty } }

end Message

namespace Placement

def document (placement : Placement) : Document :=
  .record [
    ("host", Document.optional Document.count placement.host),
    ("vertices", .list (placement.vertices.keys.map Document.count)),
    ("duration", .count placement.duration)]

def reader : Reader Placement :=
  Json.Shape.record
    [Field.defaulted "host" (Json.Shape.optional Format.count32)
        (fun host placement => { placement with host := host }),
      Field.needed "vertices" (NumberSet.ofNumbers <$> Json.Shape.list Format.count64)
        (fun vertices placement => { placement with vertices := vertices }),
      Field.needed "duration" Format.count64
        (fun duration placement => { placement with duration := duration })]
    (unpinned [] 0)

end Placement

namespace Record

/-- What the records of one vertex have in common. -/
structure Activity where
  time : Milliseconds
  vertex : VertexId
  quantity : Binary64

def Activity.document (activity : Activity) : Document :=
  .record [
    ("time_ms", .real activity.time),
    ("vertex", .count activity.vertex),
    ("quantity", .real activity.quantity)]

def Activity.reader : Reader Activity :=
  Json.Shape.record
    [Field.needed "time_ms" Json.Shape.real
        (fun time activity => { activity with time := time }),
      Field.needed "vertex" Format.count64
        (fun vertex activity => { activity with vertex := vertex }),
      Field.needed "quantity" Json.Shape.real
        (fun quantity activity => { activity with quantity := quantity })]
    { time := 0, vertex := 0, quantity := 0 }

/-- What a sent record is made of. -/
structure Departure where
  time : Milliseconds
  origin : VertexId
  dest : VertexId
  payload : Batch

def Departure.document (departure : Departure) : Document :=
  .record [
    ("time_ms", .real departure.time),
    ("origin", .count departure.origin),
    ("dest", .count departure.dest),
    ("payload", departure.payload.document)]

def Departure.reader : Reader Departure :=
  Json.Shape.record
    [Field.needed "time_ms" Json.Shape.real
        (fun time departure => { departure with time := time }),
      Field.needed "origin" Format.count64
        (fun origin departure => { departure with origin := origin }),
      Field.needed "dest" Format.count64
        (fun dest departure => { departure with dest := dest }),
      Field.needed "payload" Batch.reader
        (fun payload departure => { departure with payload := payload })]
    { time := 0, origin := 0, dest := 0
      payload := { size := 0, timestamp := 0, latency := 0, totals := Table.empty } }

def document : Record → Document
  | produced time vertex quantity =>
      .record [("Produced", (Activity.mk time vertex quantity).document)]
  | processed time vertex quantity =>
      .record [("Processed", (Activity.mk time vertex quantity).document)]
  | consumed time vertex quantity =>
      .record [("Consumed", (Activity.mk time vertex quantity).document)]
  | received time vertex quantity =>
      .record [("Received", (Activity.mk time vertex quantity).document)]
  | sent time origin dest payload =>
      .record [("Sent", (Departure.mk time origin dest payload).document)]

def reader : Reader Record :=
  Json.Shape.variant [
    ("Produced", (fun part => produced part.time part.vertex part.quantity) <$> Activity.reader),
    ("Processed", (fun part => processed part.time part.vertex part.quantity) <$> Activity.reader),
    ("Consumed", (fun part => consumed part.time part.vertex part.quantity) <$> Activity.reader),
    ("Received", (fun part => received part.time part.vertex part.quantity) <$> Activity.reader),
    ("Sent",
      (fun part => sent part.time part.origin part.dest part.payload) <$> Departure.reader)]

end Record

end CoSimulation
