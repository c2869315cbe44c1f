import CoSimulation.Configuration.Basic
import CoSimulation.Simulation

/-!
# Deployments

A deployment is a simulation made from a configuration: its datacenters and hosts
are in place, the broker knows every host, and workloads queued through it get the
configured settings.
-/

namespace CoSimulation

structure Deployment where
  simulation : Simulation
  broker : Broker
  /-- The delay of the network, if there is one. -/
  delay : Option Seconds
  settings : WorkloadSettings
  endTime : Seconds

/-- A datacenter with the configured hosts. -/
def DatacenterSettings.build (datacenter : DatacenterSettings) (run : RunSettings) :
    Datacenter :=
  datacenter.hosts.foldl
    (fun built host => built.addHost (Host.create host.id host.mips run.gap))
    (Datacenter.create datacenter.id run.interval run.gap)

/-- A broker that knows the configured hosts of a datacenter. -/
def DatacenterSettings.register (broker : Broker) (datacenter : DatacenterSettings) : Broker :=
  datacenter.hosts.foldl (fun known host => known.addHost host.id datacenter.id) broker

/-- The deployment that a configuration describes, if it has no defect. -/
def Configuration.build (configuration : Configuration) : Except Defect Deployment := do
  configuration.validate
  return {
    simulation :=
      configuration.datacenters.foldl
        (fun simulation datacenter =>
          simulation.addDatacenter (datacenter.build configuration.run))
        Simulation.empty
    broker := configuration.datacenters.foldl DatacenterSettings.register Broker.empty
    delay := configuration.network.map NetworkSettings.delay
    settings := configuration.workloads
    endTime := configuration.run.endTime }

namespace Deployment

/-- How workloads of the deployment send. -/
def transport (deployment : Deployment) : Transport :=
  match deployment.delay with
  | some delay => .networked delay
  | none => .isolated

/-- A workload with the configured settings. -/
def workload (deployment : Deployment) (id : WorkloadId) (placement : Placement)
    (engine : Engine) : Workload :=
  (((Workload.create id placement engine).withTolerance
    deployment.settings.tolerance).withHistory deployment.settings.keepsHistory).withTransport
      deployment.transport

/-- Queues a workload on the broker. -/
def queue (deployment : Deployment) (id : WorkloadId) (placement : Placement)
    (engine : Engine) : Deployment :=
  { deployment with
    broker := deployment.broker.queue (deployment.workload id placement engine) }

/-- Hands the queued workloads to their datacenters and tells how many were
scheduled. -/
def submit (deployment : Deployment) : Nat × Deployment :=
  let (count, simulation, broker) := deployment.simulation.submit deployment.broker
  (count, { deployment with simulation := simulation, broker := broker })

/-- Runs the simulation up to a time; no result if that takes more than `bound`
events. -/
def runUntil? (deployment : Deployment) (limit : Seconds) (bound : Nat) :
    Option (Except Fault Seconds × Deployment) :=
  (deployment.simulation.runUntil? deployment.broker.registry limit bound).map
    fun (result, simulation) => (result, { deployment with simulation := simulation })

/-- Submits the queued workloads and runs to the configured end. -/
def run? (deployment : Deployment) (bound : Nat) :
    Option (Except Fault Seconds × Deployment) :=
  deployment.submit.2.runUntil? deployment.endTime bound

end Deployment

end CoSimulation
