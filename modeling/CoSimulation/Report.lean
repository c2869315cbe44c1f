import CoSimulation.Document
import CoSimulation.Simulation

/-!
# Reports

The counters and the state of a run as documents.
-/

namespace CoSimulation

def Workload.report (workload : Workload) : Document :=
  .record [
    ("workload", .count workload.id),
    ("duration", .count workload.placement.duration),
    ("elapsed_time", Document.optional Document.measured workload.elapsed),
    ("finished", .flag workload.finished),
    ("pending_events", .count workload.pending.size),
    ("ticks", .count workload.counters.ticks),
    ("instructions_offered", .count workload.counters.offered),
    ("instructions_executed", .count workload.counters.executed),
    ("events_enqueued", .count workload.counters.enqueued),
    ("events_dropped", .count workload.counters.dropped),
    ("events_drained", .count workload.counters.drained),
    ("events_sent", .count workload.counters.sent)]

def Scheduler.report (scheduler : Scheduler) : Document :=
  .record [
    ("previous_time", Document.measured scheduler.previous),
    ("capacity", Document.measured scheduler.lastCapacity),
    ("active", .count scheduler.active.length),
    ("finished", .count scheduler.finished.size),
    ("reclaimed", .count scheduler.reclaimed.length),
    ("ticks", .count scheduler.counters.ticks),
    ("adapter_ticks", .count scheduler.counters.workloadTicks),
    ("instructions_granted", .count scheduler.counters.granted),
    ("records", .count scheduler.counters.records),
    ("completions", .count scheduler.counters.completions),
    ("reclaims", .count scheduler.counters.reclaims),
    ("errors", .count scheduler.counters.faults)]

/-- A table as a record whose fields are named by the keys. -/
def Table.report {α : Type} (value : α → Document) (table : Table α) : Document :=
  .record (table.entries.map (fun (key, entry) => (toString key, value entry)))

def Datacenter.report (datacenter : Datacenter) : Document :=
  .record [
    ("id", .count datacenter.id),
    ("routes", .count datacenter.routes.size),
    ("last_process_time", Document.optional Document.measured datacenter.lastPass),
    ("submissions", .count datacenter.counters.submissions),
    ("deliveries", .count datacenter.counters.deliveries),
    ("processing_passes", .count datacenter.counters.passes),
    ("housekeeping_armed", .count datacenter.counters.armed),
    ("housekeeping_skipped", .count datacenter.counters.skipped),
    ("hosts", datacenter.hosts.report (fun host => host.scheduler.report))]

def Simulation.report (simulation : Simulation) : Document :=
  .record [
    ("simulation",
      .record [
        ("current_time", Document.measured simulation.now),
        ("pending_events", .count simulation.queue.size),
        ("events_processed", .count simulation.counters.events),
        ("contract_violations", .count simulation.counters.violations),
        ("completions", .count simulation.counters.completions)]),
    ("datacenters", simulation.datacenters.report Datacenter.report)]

end CoSimulation
