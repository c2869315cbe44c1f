import CoSimulation.Proofs.Broker.Serving
import CoSimulation.Proofs.Deployment.Assembly

/-!
# Deployments mirror their configurations

The simulation, the registry and the broker of a deployment are filled separately.  All
three have every configured host exactly once, under its own datacenter.  This stays so
while the deployment runs, so that no round ever leaves a workload waiting for a configured
host.
-/

namespace CoSimulation

namespace Table

variable {α : Type}

/-- Entries with different keys are all kept. -/
theorem keys_insertAll_empty {entries : List (Nat × α)}
    (distinct : (entries.map Prod.fst).Nodup) :
    (empty.insertAll entries).keys.Perm (entries.map Prod.fst) := by
  refine (List.perm_ext_iff_of_nodup (nodup_keys _) distinct).2 fun key => ?_
  rw [mem_keys]
  constructor
  · rintro ⟨value, found⟩
    rcases of_get?_insertAll found with member | absent
    · exact List.mem_map.2 ⟨_, member, rfl⟩
    · cases absent
  · intro member
    obtain ⟨⟨_, value⟩, here, rfl⟩ := List.mem_map.1 member
    exact ⟨value, get?_insertAll_of_mem distinct here⟩

end Table

namespace Configuration

/-- The host is listed under the datacenter with these shares. -/
def Lists (configuration : Configuration) (datacenter : DatacenterId) (host : HostId)
    (mips : List Binary64) : Prop :=
  ∃ settings ∈ configuration.datacenters, settings.id = datacenter ∧
    ∃ described ∈ settings.hosts, described.id = host ∧ described.mips = mips

/-- The hosts of all datacenters. -/
def hostIds (configuration : Configuration) : List HostId :=
  configuration.datacenters.flatMap fun settings => settings.hosts.map HostSettings.id

variable {configuration : Configuration}

theorem map_fst_owners :
    (DatacenterSettings.owners configuration.datacenters).map Prod.fst =
      configuration.hostIds := by
  simp [DatacenterSettings.owners, hostIds, List.map_flatMap, Function.comp_def]

theorem mem_owners {id : DatacenterId} {place : HostId} :
    (place, id) ∈ DatacenterSettings.owners configuration.datacenters ↔
      ∃ mips, configuration.Lists id place mips := by
  constructor
  · intro owned
    obtain ⟨settings, member, inside⟩ := List.mem_flatMap.1 owned
    obtain ⟨described, listed, same⟩ := List.mem_map.1 inside
    cases same
    exact ⟨described.mips, settings, member, rfl, described, listed, rfl, rfl⟩
  · rintro ⟨_, settings, member, rfl, described, listed, rfl, -⟩
    exact List.mem_flatMap.2 ⟨settings, member, List.mem_map.2 ⟨described, listed, rfl⟩⟩

theorem mem_hostIds {place : HostId} :
    place ∈ configuration.hostIds ↔ ∃ id mips, configuration.Lists id place mips := by
  rw [← map_fst_owners]
  constructor
  · intro member
    obtain ⟨⟨_, id⟩, owned, rfl⟩ := List.mem_map.1 member
    exact ⟨id, mem_owners.1 owned⟩
  · rintro ⟨id, listed⟩
    exact List.mem_map.2 ⟨_, mem_owners.2 listed, rfl⟩

end Configuration

/-- The broker goes round new hosts after those that it knows. -/
theorem foldl_addHost {hosts : List HostSettings} {broker : Broker} (id : DatacenterId)
    (distinct : (broker.hosts ++ hosts.map HostSettings.id).Nodup) :
    let known := hosts.foldl (fun known host => known.addHost host.id id) broker
    known.hosts = broker.hosts ++ hosts.map HostSettings.id ∧
      known.nextHost = broker.nextHost := by
  induction hosts generalizing broker with
  | nil => exact ⟨(List.append_nil _).symm, rfl⟩
  | cons host hosts induction =>
      have new : host.id ∉ broker.hosts := fun member =>
        (List.nodup_append.1 distinct).2.2 host.id member host.id List.mem_cons_self rfl
      have added : (broker.addHost host.id id).hosts = broker.hosts ++ [host.id] := by
        simp [Broker.addHost, new]
      rw [List.map_cons, List.append_cons, ← added] at distinct
      obtain ⟨known, turn⟩ := induction distinct
      refine ⟨?_, turn⟩
      rw [List.map_cons, List.append_cons, ← added]
      exact known

theorem foldl_register_hosts {datacenters : List DatacenterSettings} {broker : Broker}
    (distinct : (broker.hosts ++
      datacenters.flatMap fun settings => settings.hosts.map HostSettings.id).Nodup) :
    let registered := datacenters.foldl DatacenterSettings.register broker
    registered.hosts = broker.hosts ++
        datacenters.flatMap (fun settings => settings.hosts.map HostSettings.id) ∧
      registered.nextHost = broker.nextHost := by
  induction datacenters generalizing broker with
  | nil => exact ⟨(List.append_nil _).symm, rfl⟩
  | cons datacenter datacenters induction =>
      rw [List.flatMap_cons, ← List.append_assoc] at distinct ⊢
      obtain ⟨first, turn⟩ := foldl_addHost datacenter.id (List.nodup_append.1 distinct).1
      change (datacenter.register broker).hosts = _ at first
      rw [← first] at distinct ⊢
      obtain ⟨rest, still⟩ := induction distinct
      exact ⟨rest, still.trans turn⟩

namespace Deployment

/-- Everything that is configured is there exactly once, and nothing else. -/
structure Mirrors (configuration : Configuration) (deployment : Deployment) : Prop where
  registered : ∀ id place, deployment.broker.registry.datacenterOf? place = some id ↔
    ∃ mips, configuration.Lists id place mips
  present : ∀ id place mips,
    (∃ datacenter host, deployment.simulation.datacenters.get? id = some datacenter ∧
      datacenter.host? place = some host ∧ host.mips = mips) ↔
    configuration.Lists id place mips
  datacenters : deployment.simulation.datacenters.keys.Perm
    (configuration.datacenters.map DatacenterSettings.id)
  hosts : ∀ settings ∈ configuration.datacenters, ∃ datacenter,
    deployment.simulation.datacenters.get? settings.id = some datacenter ∧
      datacenter.hosts.keys.Perm (settings.hosts.map HostSettings.id)
  owners : deployment.broker.registry.datacenterOfHost.keys.Perm configuration.hostIds
  known : deployment.broker.hosts = configuration.hostIds
  distinctDatacenters : (configuration.datacenters.map DatacenterSettings.id).Nodup
  distinctHosts : configuration.hostIds.Nodup

namespace Assembled

variable {configuration : Configuration} {deployment : Deployment}
  (assembled : Assembled configuration deployment)
include assembled

theorem distinct_hosts : configuration.hostIds.Nodup := by
  rw [← Configuration.map_fst_owners]
  exact (Configuration.validate_eq_ok assembled.valid).2.2.2

theorem distinct_inside {settings : DatacenterSettings}
    (member : settings ∈ configuration.datacenters) :
    (settings.hosts.map HostSettings.id).Nodup :=
  (List.nodup_flatMap.1 assembled.distinct_hosts).1 settings member

theorem present {id : DatacenterId} {place : HostId} {mips : List Binary64} :
    (∃ datacenter host, deployment.simulation.datacenters.get? id = some datacenter ∧
      datacenter.host? place = some host ∧ host.mips = mips) ↔
    configuration.Lists id place mips := by
  constructor
  · rintro ⟨datacenter, host, found, present, rfl⟩
    obtain ⟨settings, member, rfl, rfl⟩ := assembled.of_get?_datacenter found
    rw [DatacenterSettings.build_eq] at present
    rcases Table.of_get?_insertAll present with listed | absent
    · obtain ⟨described, here, same⟩ := List.mem_map.1 listed
      cases same
      exact ⟨settings, member, rfl, described, here, rfl, rfl⟩
    · cases absent
  · rintro ⟨settings, member, rfl, described, listed, rfl, rfl⟩
    refine ⟨_, Host.create described.id described.mips configuration.run.gap,
      assembled.get?_datacenter member, ?_, rfl⟩
    rw [DatacenterSettings.build_eq]
    refine Table.get?_insertAll_of_mem ?_ (List.mem_map.2 ⟨described, listed, rfl⟩)
    rw [List.map_map]
    exact assembled.distinct_inside member

theorem registered {id : DatacenterId} {place : HostId} :
    deployment.broker.registry.datacenterOf? place = some id ↔
      ∃ mips, configuration.Lists id place mips := by
  rw [← Configuration.mem_owners, Registry.datacenterOf?, assembled.owners]
  constructor
  · intro found
    rcases Table.of_get?_insertAll found with owned | absent
    · exact owned
    · cases absent
  · exact Table.get?_insertAll_of_mem (Configuration.validate_eq_ok assembled.valid).2.2.2

theorem mirrors (known : deployment.broker.hosts = configuration.hostIds) :
    deployment.Mirrors configuration where
  registered id place := assembled.registered
  present id place mips := assembled.present
  datacenters := by
    have distinct := (Configuration.validate_eq_ok assembled.valid).2.2.1
    have named : (configuration.datacenters.map fun settings =>
          (settings.id, settings.build configuration.run)).map Prod.fst =
        configuration.datacenters.map DatacenterSettings.id := by
      rw [List.map_map]
      rfl
    rw [assembled.simulation, ← named]
    exact Table.keys_insertAll_empty (named ▸ distinct)
  hosts settings member := by
    have named : (settings.hosts.map fun host =>
          (host.id, Host.create host.id host.mips configuration.run.gap)).map Prod.fst =
        settings.hosts.map HostSettings.id := by
      rw [List.map_map]
      rfl
    refine ⟨_, assembled.get?_datacenter member, ?_⟩
    rw [DatacenterSettings.build_eq, ← named]
    exact Table.keys_insertAll_empty (named ▸ assembled.distinct_inside member)
  owners := by
    rw [assembled.owners, ← Configuration.map_fst_owners]
    exact Table.keys_insertAll_empty (Configuration.validate_eq_ok assembled.valid).2.2.2
  known := known
  distinctDatacenters := (Configuration.validate_eq_ok assembled.valid).2.2.1
  distinctHosts := assembled.distinct_hosts

end Assembled

/-! ## While a deployment runs -/

theorem broker_reclaim (deployment : Deployment) (id : DatacenterId) (workload : WorkloadId) :
    (deployment.reclaim id workload).2.broker = deployment.broker := by
  rw [reclaim]
  split
  · rfl
  · split <;> rfl

theorem broker_submit (deployment : Deployment) :
    deployment.submit.2.broker =
      (deployment.broker.submitWhere deployment.simulation.owns).1 := rfl

theorem rotates_after {hosts : List HostId} {deployment : Deployment}
    (rotates : deployment.broker.Rotates hosts) (operations : List Operation) :
    (deployment.after operations).broker.Rotates hosts := by
  induction operations generalizing deployment with
  | nil => exact rotates
  | cons operation operations induction =>
      apply induction
      cases operation with
      | queue | run => exact ⟨rotates.known, rotates.turn⟩
      | submit => exact Broker.rotates_submitWhere rotates _
      | reclaim id workload =>
          rw [perform, broker_reclaim]
          exact rotates

/-- No host ever changes its datacenter. -/
theorem Step.datacenterOf? {before after : Deployment} {fault : Option Fault}
    (step : Step before fault after) (host : HostId) :
    after.broker.registry.datacenterOf? host = before.broker.registry.datacenterOf? host := by
  cases step with
  | queued | gathered | started | ran => rfl
  | considered issued considered => exact considered.datacenterOf? host
  | reclaimed id workload => rw [broker_reclaim]

/-- The hosts of the deployment can be used. -/
def Usable (hosts : List HostId) (deployment : Deployment) : Prop :=
  Broker.Available deployment.simulation.owns hosts deployment.broker.registry

theorem Consistent.usable_step {hosts : List HostId} {before after : Deployment}
    {fault : Option Fault} (consistent : before.Consistent) (step : Step before fault after)
    (usable : before.Usable hosts) : after.Usable hosts := by
  intro host listed
  obtain ⟨id, known, owned⟩ := usable host listed
  refine ⟨id, (step.datacenterOf? host).trans known, ?_⟩
  rw [Simulation.owns_of_layout (consistent.layout_step step)]
  exact owned

namespace Assembled

variable {configuration : Configuration} {deployment : Deployment}
  (assembled : Assembled configuration deployment)
include assembled

theorem usable : deployment.Usable configuration.hostIds := by
  intro place member
  obtain ⟨_, _, settings, inside, rfl, described, listed, rfl, -⟩ :=
    Configuration.mem_hostIds.1 member
  obtain ⟨owned, known⟩ := assembled.owns_host inside listed
  exact ⟨settings.id, known, owned⟩

theorem usable_after (operations : List Operation) :
    (deployment.after operations).Usable configuration.hostIds :=
  assembled.after_induction (Usable configuration.hostIds) (fun _ => True) assembled.usable
    (fun consistent step _ usable => consistent.usable_step step usable) operations
    (fun _ _ => trivial)

end Assembled

theorem rotates_of_build {configuration : Configuration} {deployment : Deployment}
    (built : configuration.build = .ok deployment) :
    deployment.broker.Rotates configuration.hostIds := by
  have distinct := (assembled_of_build built).distinct_hosts
  obtain ⟨_, -, rest⟩ := Except.bind_eq_ok_iff.1 built
  cases rest
  have started : (Broker.empty.hosts ++
      configuration.datacenters.flatMap fun settings =>
        settings.hosts.map HostSettings.id).Nodup := distinct
  obtain ⟨known, turn⟩ := foldl_register_hosts started
  refine ⟨known, fun some => ?_⟩
  rw [turn]
  exact List.length_pos_iff.2 some

/-- Exactly the configurations without defects are built.  What is built mirrors its
configuration, and whatever is done with it, a workload that still waits right after a round
is pinned to a host that is not configured, or unpinned while no host is configured. -/
theorem build_mirrors (configuration : Configuration) :
    ((∃ deployment, configuration.build = .ok deployment) ↔
      configuration.validate = .ok ()) ∧
    ∀ deployment, configuration.build = .ok deployment →
      deployment.Mirrors configuration ∧
        ∀ operations : List Operation,
          ∀ workload ∈ (deployment.after operations).submit.2.broker.pending,
            workload.Homeless configuration.hostIds := by
  refine ⟨⟨?_, fun valid => ⟨_, Configuration.build_of_valid valid⟩⟩, ?_⟩
  · rintro ⟨deployment, built⟩
    exact (assembled_of_build built).valid
  · intro deployment built
    have assembled := assembled_of_build built
    have rotates := rotates_of_build built
    refine ⟨assembled.mirrors rotates.known, fun operations workload waits => ?_⟩
    rw [broker_submit] at waits
    exact (Broker.pending_submitWhere (rotates_after rotates operations)
      (assembled.usable_after operations) workload waits).2

/-- Of four workloads one is pinned to a host that is not there. -/
def wanderingOperations : List Operation :=
  [.queue 7 (Placement.unpinned [1] 2) 0 (Engine.relay []),
    .queue 8 ((Placement.unpinned [2] 2).onHost 9) 0 (Engine.relay []), .submit, .run 4 30,
    .queue 10 (Placement.unpinned [3] 2) 0 (Engine.relay []),
    .queue 11 ((Placement.unpinned [4] 2).onHost 1) 0 (Engine.relay [])]

/-- The others go to the two hosts in turn and to the host that they ask for. -/
theorem build_mirrors_wandering :
    let reached := (Configuration.paired.assemble.after wanderingOperations).submit.2
    Configuration.paired.build = .ok Configuration.paired.assemble ∧
      Configuration.paired.assemble.Mirrors Configuration.paired ∧
      Configuration.paired.hostIds = [1, 2] ∧
      reached.broker.pending.map Workload.id = [8] ∧
      reached.broker.submitted = [(7, 1), (10, 2), (11, 1)] ∧
      ∀ workload ∈ reached.broker.pending, workload.Homeless [1, 2] := by
  have built := Configuration.build_of_valid Configuration.paired_valid
  obtain ⟨mirrors, homeless⟩ := (build_mirrors Configuration.paired).2 _ built
  have ran :
      let reached := (Configuration.paired.assemble.after wanderingOperations).submit.2
      reached.broker.pending.map Workload.id = [8] ∧
        reached.broker.submitted = [(7, 1), (10, 2), (11, 1)] := by
    decide +kernel
  exact ⟨built, mirrors, rfl, ran.1, ran.2, homeless wanderingOperations⟩

end Deployment

end CoSimulation
