import CoSimulation.Configuration.Basic
import CoSimulation.Document

/-!
# Configurations as documents

`document` lays a configuration out as a document.  `schema` describes the same
layout for reading, for every text format at once: the same fields in the same
order, and what holds for those that are missing.
-/

namespace CoSimulation

variable {read : Type → Type} [Format read]

namespace RunSettings

def document (settings : RunSettings) : Document :=
  .record [
    ("end_time", .real settings.endTime),
    ("scheduling_interval", .real settings.interval),
    ("min_time_between_events", .real settings.gap),
    ("log_level", .text settings.logLevel)]

def schema : read RunSettings :=
  Format.record
    [Field.defaulted "end_time" Format.real
        (fun endTime settings => { settings with endTime := endTime }),
      Field.defaulted "scheduling_interval" Format.real
        (fun interval settings => { settings with interval := interval }),
      Field.defaulted "min_time_between_events" Format.real
        (fun gap settings => { settings with gap := gap }),
      Field.defaulted "log_level" Format.text
        (fun logLevel settings => { settings with logLevel := logLevel })]
    {}

end RunSettings

namespace WorkloadSettings

def document (settings : WorkloadSettings) : Document :=
  .record [
    ("completion_epsilon", .real settings.tolerance),
    ("record_history", .flag settings.keepsHistory)]

def schema : read WorkloadSettings :=
  Format.record
    [Field.defaulted "completion_epsilon" Format.real
        (fun tolerance settings => { settings with tolerance := tolerance }),
      Field.defaulted "record_history" Format.flag
        (fun keepsHistory settings => { settings with keepsHistory := keepsHistory })]
    {}

end WorkloadSettings

namespace NetworkSettings

def document (settings : NetworkSettings) : Document :=
  .record [("delay", .real settings.delay)]

def schema : read NetworkSettings :=
  Format.record
    [Field.defaulted "delay" Format.real (fun delay settings => { settings with delay := delay })]
    {}

end NetworkSettings

namespace HostSettings

def document (host : HostSettings) : Document :=
  .record [("id", .count host.id), ("pes", .list (host.mips.map Document.real))]

def schema : read HostSettings :=
  Format.record
    [Field.needed "id" Format.count32 (fun id host => { host with id := id }),
      Field.needed "pes" (Format.list Format.real) (fun mips host => { host with mips := mips })]
    { id := 0, mips := [] }

end HostSettings

namespace DatacenterSettings

def document (datacenter : DatacenterSettings) : Document :=
  .record [
    ("id", .count datacenter.id),
    ("hosts", .list (datacenter.hosts.map HostSettings.document))]

def schema : read DatacenterSettings :=
  Format.record
    [Field.needed "id" Format.count32 (fun id datacenter => { datacenter with id := id }),
      Field.defaulted "hosts" (Format.list HostSettings.schema)
        (fun hosts datacenter => { datacenter with hosts := hosts })]
    { id := 0 }

end DatacenterSettings

namespace Configuration

def document (configuration : Configuration) : Document :=
  .record [
    ("simulation", configuration.run.document),
    ("adapter", configuration.workloads.document),
    ("network", Document.optional NetworkSettings.document configuration.network),
    ("datacenters", .list (configuration.datacenters.map DatacenterSettings.document))]

def schema : read Configuration :=
  Format.record
    [Field.defaulted "simulation" RunSettings.schema
        (fun settings configuration => { configuration with run := settings }),
      Field.defaulted "adapter" WorkloadSettings.schema
        (fun settings configuration => { configuration with workloads := settings }),
      Field.defaulted "network" (Format.optional NetworkSettings.schema)
        (fun network configuration => { configuration with network := network }),
      Field.defaulted "datacenters" (Format.list DatacenterSettings.schema)
        (fun datacenters configuration => { configuration with datacenters := datacenters })]
    {}

end Configuration

end CoSimulation
