import CoSimulation.Scheduler

/-!
# Configurations

A configuration describes a deployment: when the run ends and how often hosts are
looked after, what holds for every workload, the network, and the datacenters with
their hosts.

`validate` finds the first defect: the settings are checked in their order, then
the datacenters and, inside each, its hosts.  Host identities are unique in the
whole configuration.
-/

namespace CoSimulation

structure RunSettings where
  endTime : Seconds := 600
  /-- The period of housekeeping. -/
  interval : Seconds := 0.1
  /-- Housekeeping sooner than this after a pass is dropped; also the smallest
  wake-up gap of every host. -/
  gap : Seconds := defaultGap
  logLevel : String := "info"
deriving DecidableEq

structure WorkloadSettings where
  tolerance : Binary64 := defaultTolerance
  keepsHistory : Bool := false
deriving DecidableEq

structure NetworkSettings where
  delay : Seconds := 0
deriving DecidableEq

structure HostSettings where
  id : HostId
  /-- The share of each PE. -/
  mips : List Binary64
deriving DecidableEq

structure DatacenterSettings where
  id : DatacenterId
  hosts : List HostSettings := []
deriving DecidableEq

structure Configuration where
  run : RunSettings := {}
  workloads : WorkloadSettings := {}
  /-- Without a network every workload is isolated. -/
  network : Option NetworkSettings := none
  datacenters : List DatacenterSettings := []
deriving DecidableEq

/-- Why a configuration cannot be used. -/
inductive Defect where
  | intervalNotPositive (interval : Seconds)
  | gapNotPositive (gap : Seconds)
  | endTimeNegative (endTime : Seconds)
  | toleranceNegative (tolerance : Binary64)
  | delayNegative (delay : Seconds)
  | duplicateDatacenter (datacenter : DatacenterId)
  | duplicateHost (host : HostId)
  | hostWithoutCapacity (host : HostId)
  | hostWithNegativeShare (host : HostId)
deriving DecidableEq

namespace Defect

def message : Defect → String
  | intervalNotPositive interval =>
      s!"scheduling_interval must be positive, got {NumberFormat.plain.write interval}"
  | gapNotPositive gap =>
      s!"min_time_between_events must be positive, got {NumberFormat.plain.write gap}"
  | endTimeNegative endTime =>
      s!"end_time must not be negative, got {NumberFormat.plain.write endTime}"
  | toleranceNegative tolerance =>
      s!"completion_epsilon must not be negative, got {NumberFormat.plain.write tolerance}"
  | delayNegative delay =>
      s!"network delay must not be negative, got {NumberFormat.plain.write delay}"
  | duplicateDatacenter datacenter => s!"Duplicate datacenter ID: {datacenter}"
  | duplicateHost host => s!"Duplicate host ID: {host}"
  | hostWithoutCapacity host => s!"Host {host} has no PE with positive MIPS"
  | hostWithNegativeShare host => s!"Host {host} has a PE with negative MIPS"

end Defect

/-- Success if a condition holds. -/
def Defect.unless (condition : Bool) (defect : Defect) : Except Defect Unit :=
  if condition then .ok () else .error defect

/-- Times must be positive or at least zero; NaN is neither. -/
def RunSettings.validate (settings : RunSettings) : Except Defect Unit := do
  Defect.unless (decide (0 < settings.interval)) (.intervalNotPositive settings.interval)
  Defect.unless (decide (0 < settings.gap)) (.gapNotPositive settings.gap)
  Defect.unless (decide (0 ≤ settings.endTime)) (.endTimeNegative settings.endTime)

def WorkloadSettings.validate (settings : WorkloadSettings) : Except Defect Unit :=
  Defect.unless (decide (0 ≤ settings.tolerance)) (.toleranceNegative settings.tolerance)

def NetworkSettings.validate (settings : NetworkSettings) : Except Defect Unit :=
  Defect.unless (decide (0 ≤ settings.delay)) (.delayNegative settings.delay)

namespace HostSettings

/-- A host needs an identity that no earlier host has, a PE with a positive share,
and no negative share. -/
def validate (earlier : List HostId) (host : HostSettings) : Except Defect Unit := do
  Defect.unless (!earlier.contains host.id) (.duplicateHost host.id)
  Defect.unless (host.mips.any (fun share => decide (0 < share)))
    (.hostWithoutCapacity host.id)
  Defect.unless (host.mips.all (fun share => decide (0 ≤ share)))
    (.hostWithNegativeShare host.id)

/-- Checks hosts one after the other and gives the identities seen so far. -/
def validateAll (earlier : List HostId) : List HostSettings → Except Defect (List HostId)
  | [] => .ok earlier
  | host :: rest => do
      host.validate earlier
      validateAll (host.id :: earlier) rest

end HostSettings

/-- Checks datacenters and their hosts one after the other. -/
def DatacenterSettings.validateAll (earlier : List DatacenterId) (hosts : List HostId) :
    List DatacenterSettings → Except Defect Unit
  | [] => .ok ()
  | datacenter :: rest => do
      Defect.unless (!earlier.contains datacenter.id) (.duplicateDatacenter datacenter.id)
      let seen ← HostSettings.validateAll hosts datacenter.hosts
      validateAll (datacenter.id :: earlier) seen rest

namespace Configuration

/-- The first defect, if there is one. -/
def validate (configuration : Configuration) : Except Defect Unit := do
  configuration.run.validate
  configuration.workloads.validate
  match configuration.network with
  | some settings => settings.validate
  | none => pure ()
  DatacenterSettings.validateAll [] [] configuration.datacenters

/-- The number of hosts in all datacenters. -/
def hostCount (configuration : Configuration) : Nat :=
  sumOf (configuration.datacenters.map (fun datacenter => datacenter.hosts.length))

/-! ## Assembling a configuration -/

def withEndTime (configuration : Configuration) (endTime : Seconds) : Configuration :=
  { configuration with run := { configuration.run with endTime := endTime } }

def withInterval (configuration : Configuration) (interval : Seconds) : Configuration :=
  { configuration with run := { configuration.run with interval := interval } }

def withGap (configuration : Configuration) (gap : Seconds) : Configuration :=
  { configuration with run := { configuration.run with gap := gap } }

def withLogLevel (configuration : Configuration) (logLevel : String) : Configuration :=
  { configuration with run := { configuration.run with logLevel := logLevel } }

def withTolerance (configuration : Configuration) (tolerance : Binary64) : Configuration :=
  { configuration with
    workloads := { configuration.workloads with tolerance := tolerance } }

def withHistory (configuration : Configuration) (keepsHistory : Bool) : Configuration :=
  { configuration with
    workloads := { configuration.workloads with keepsHistory := keepsHistory } }

def withDelay (configuration : Configuration) (delay : Seconds) : Configuration :=
  { configuration with network := some { delay := delay } }

/-- A host added to the first datacenter of an identity, or to a new one. -/
def addHostTo (datacenter : DatacenterId) (host : HostSettings) :
    List DatacenterSettings → List DatacenterSettings
  | [] => [{ id := datacenter, hosts := [host] }]
  | candidate :: rest =>
      if candidate.id = datacenter then
        { candidate with hosts := candidate.hosts ++ [host] } :: rest
      else candidate :: addHostTo datacenter host rest

/-- Adds a host to a datacenter, which is created if need be. -/
def addHost (configuration : Configuration) (datacenter : DatacenterId) (host : HostId)
    (mips : List Binary64) : Configuration :=
  { configuration with
    datacenters := addHostTo datacenter { id := host, mips := mips } configuration.datacenters }

end Configuration

end CoSimulation
