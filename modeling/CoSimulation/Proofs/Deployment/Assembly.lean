import CoSimulation.Proofs.Configuration.Validating
import CoSimulation.Proofs.Deployment.Consistency

/-!
# Deployments as they are assembled

The deployment made from a configuration without defects has exactly its
datacenters, every host registered with its own, nothing under way and nothing
submitted, so it is consistent.
-/

namespace CoSimulation

open Binary64

/-- The deployment that a configuration without defects describes. -/
def Configuration.assemble (configuration : Configuration) : Deployment :=
  { simulation :=
      configuration.datacenters.foldl
        (fun simulation datacenter =>
          simulation.addDatacenter (datacenter.build configuration.run))
        Simulation.empty
    broker := configuration.datacenters.foldl DatacenterSettings.register Broker.empty
    delay := configuration.network.map NetworkSettings.delay
    settings := configuration.workloads
    endTime := configuration.run.endTime }

theorem Configuration.build_of_valid {configuration : Configuration}
    (valid : configuration.validate = .ok ()) :
    configuration.build = .ok configuration.assemble := by
  rw [build, valid]
  rfl

/-- Two datacenters with one host each, and a network between them. -/
def Configuration.paired : Configuration :=
  { run := { endTime := 10, interval := 1, gap := 1 }
    network := some { delay := 1 }
    datacenters :=
      [{ id := 1, hosts := [{ id := 1, mips := [1] }] },
        { id := 2, hosts := [{ id := 2, mips := [1] }] }] }

theorem Configuration.paired_valid : paired.validate = .ok () := by decide +kernel

theorem DatacenterSettings.build_eq (settings : DatacenterSettings) (run : RunSettings) :
    settings.build run =
      { Datacenter.create settings.id run.interval run.gap with
        hosts := Table.empty.insertAll
          (settings.hosts.map fun host =>
            (host.id, Host.create host.id host.mips run.gap)) } := by
  have folded : ∀ (hosts : List HostSettings) (datacenter : Datacenter),
      hosts.foldl
          (fun built host => built.addHost (Host.create host.id host.mips run.gap))
          datacenter =
        { datacenter with
          hosts := datacenter.hosts.insertAll
            (hosts.map fun host => (host.id, Host.create host.id host.mips run.gap)) } := by
    intro hosts
    induction hosts with
    | nil => exact fun datacenter => rfl
    | cons host hosts induction => exact fun datacenter => induction _
  exact folded settings.hosts _

theorem foldl_addDatacenter (datacenters : List Datacenter) (simulation : Simulation) :
    datacenters.foldl Simulation.addDatacenter simulation =
      { simulation with
        datacenters := simulation.datacenters.insertAll
          (datacenters.map fun datacenter => (datacenter.id, datacenter)) } := by
  induction datacenters generalizing simulation with
  | nil => rfl
  | cons datacenter datacenters induction => exact induction _

/-- Registering datacenters with the broker records the owners of their hosts. -/
theorem foldl_register (datacenters : List DatacenterSettings) (broker : Broker) :
    let registered := datacenters.foldl DatacenterSettings.register broker
    registered.registry.datacenterOfHost =
        broker.registry.datacenterOfHost.insertAll (DatacenterSettings.owners datacenters) ∧
      registered.registry.hostOfVertex = broker.registry.hostOfVertex ∧
      registered.pending = broker.pending ∧ registered.submitted = broker.submitted ∧
      registered.rejected = broker.rejected := by
  have hosts : ∀ (id : DatacenterId) (hosts : List HostSettings) (broker : Broker),
      let known := hosts.foldl (fun known host => known.addHost host.id id) broker
      known.registry.datacenterOfHost =
          broker.registry.datacenterOfHost.insertAll (hosts.map fun host => (host.id, id)) ∧
        known.registry.hostOfVertex = broker.registry.hostOfVertex ∧
        known.pending = broker.pending ∧ known.submitted = broker.submitted ∧
        known.rejected = broker.rejected := by
    intro id hosts
    induction hosts with
    | nil => exact fun broker => ⟨rfl, rfl, rfl, rfl, rfl⟩
    | cons host hosts induction => exact fun broker => induction (broker.addHost host.id id)
  induction datacenters generalizing broker with
  | nil => exact ⟨rfl, rfl, rfl, rfl, rfl⟩
  | cons datacenter datacenters induction =>
      obtain ⟨owners, vertices, pending, submitted, rejected⟩ :=
        hosts datacenter.id datacenter.hosts broker
      obtain ⟨laterOwners, laterVertices, laterPending, laterSubmitted, laterRejected⟩ :=
        induction (datacenter.register broker)
      refine ⟨?_, laterVertices.trans vertices, laterPending.trans pending,
        laterSubmitted.trans submitted, laterRejected.trans rejected⟩
      apply laterOwners.trans
      have listed : DatacenterSettings.owners (datacenter :: datacenters) =
          datacenter.hosts.map (fun host => (host.id, datacenter.id)) ++
            DatacenterSettings.owners datacenters := List.flatMap_cons
      rw [listed, Table.insertAll_append, ← owners]
      rfl

/-- All datacenters have the same interval and the same gap. -/
def Simulation.Timed (interval gap : Seconds) (simulation : Simulation) : Prop :=
  ∀ id datacenter, simulation.datacenters.get? id = some datacenter →
    datacenter.interval = interval ∧ datacenter.gap = gap

namespace Deployment

/-- A deployment as it is made from a configuration. -/
structure Assembled (configuration : Configuration) (deployment : Deployment) : Prop where
  valid : configuration.validate = .ok ()
  simulation : deployment.simulation =
    { Simulation.empty with
      datacenters := Table.empty.insertAll
        (configuration.datacenters.map fun settings =>
          (settings.id, settings.build configuration.run)) }
  owners : deployment.broker.registry.datacenterOfHost =
    Table.empty.insertAll (DatacenterSettings.owners configuration.datacenters)
  vertices : deployment.broker.registry.hostOfVertex = Table.empty
  pending : deployment.broker.pending = []
  submitted : deployment.broker.submitted = []
  rejected : deployment.broker.rejected = []
  delay : deployment.delay = configuration.network.map NetworkSettings.delay

theorem assembled_of_build {configuration : Configuration} {deployment : Deployment}
    (built : configuration.build = .ok deployment) : Assembled configuration deployment := by
  obtain ⟨_, valid, rest⟩ := Except.bind_eq_ok_iff.1 built
  cases rest
  obtain ⟨owners, vertices, pending, submitted, rejected⟩ :=
    foldl_register configuration.datacenters Broker.empty
  refine ⟨valid, ?_, owners, vertices, pending, submitted, rejected, rfl⟩
  have folded := foldl_addDatacenter
    (configuration.datacenters.map fun settings => settings.build configuration.run)
    Simulation.empty
  rw [List.foldl_map, List.map_map] at folded
  apply folded.trans
  simp [Function.comp_def, DatacenterSettings.build_eq, Datacenter.create]
  rfl

namespace Assembled

variable {configuration : Configuration} {deployment : Deployment}
  (assembled : Assembled configuration deployment)
include assembled

theorem get?_datacenter {settings : DatacenterSettings}
    (member : settings ∈ configuration.datacenters) :
    deployment.simulation.datacenters.get? settings.id =
      some (settings.build configuration.run) := by
  rw [assembled.simulation]
  refine Table.get?_insertAll_of_mem ?_ (List.mem_map.2 ⟨settings, member, rfl⟩)
  rw [List.map_map]
  exact (Configuration.validate_eq_ok assembled.valid).2.2.1

theorem of_get?_datacenter {id : DatacenterId} {datacenter : Datacenter}
    (found : deployment.simulation.datacenters.get? id = some datacenter) :
    ∃ settings ∈ configuration.datacenters, settings.id = id ∧
      datacenter = settings.build configuration.run := by
  rw [assembled.simulation] at found
  rcases Table.of_get?_insertAll found with listed | absent
  · obtain ⟨settings, member, same⟩ := List.mem_map.1 listed
    cases same
    exact ⟨settings, member, rfl, rfl⟩
  · cases absent

theorem waitsIssued : deployment.WaitsIssued := by
  intro workload member
  rw [assembled.pending] at member
  cases member

theorem queue : deployment.simulation.queue = EventQueue.empty := by
  rw [assembled.simulation]
  rfl

/-- The hosts are those of the configuration, with nothing on them. -/
theorem of_host? {id : DatacenterId} {datacenter : Datacenter} {place : HostId} {host : Host}
    (found : deployment.simulation.datacenters.get? id = some datacenter)
    (present : datacenter.host? place = some host) :
    (place, id) ∈ DatacenterSettings.owners configuration.datacenters ∧
      ∃ mips, host = Host.create place mips configuration.run.gap := by
  obtain ⟨settings, member, rfl, rfl⟩ := assembled.of_get?_datacenter found
  rw [DatacenterSettings.build_eq] at present
  rcases Table.of_get?_insertAll present with listed | absent
  · obtain ⟨described, here, same⟩ := List.mem_map.1 listed
    cases same
    refine ⟨List.mem_flatMap.2 ⟨settings, member, ?_⟩, described.mips, rfl⟩
    exact List.mem_map.2 ⟨described, here, rfl⟩
  · cases absent

/-- A host of the configuration is there and registered. -/
theorem owns_host {settings : DatacenterSettings}
    (member : settings ∈ configuration.datacenters) {host : HostSettings}
    (listed : host ∈ settings.hosts) :
    deployment.simulation.owns settings.id host.id = true ∧
      deployment.broker.registry.datacenterOf? host.id = some settings.id := by
  have apart := (Configuration.validate_eq_ok assembled.valid).2.2.2
  constructor
  · refine Simulation.owns_eq_true.2 ⟨_, assembled.get?_datacenter member, ?_⟩
    have distinct : ((settings.hosts.map fun host =>
        (host.id, Host.create host.id host.mips configuration.run.gap)).map Prod.fst).Nodup := by
      rw [DatacenterSettings.owners, List.map_flatMap] at apart
      have here := (List.nodup_flatMap.1 apart).1 settings member
      rw [List.map_map] at here ⊢
      exact here
    rw [DatacenterSettings.build_eq, Datacenter.host?,
      Table.get?_insertAll_of_mem distinct (List.mem_map.2 ⟨host, listed, rfl⟩)]
    rfl
  · rw [Registry.datacenterOf?, assembled.owners]
    exact Table.get?_insertAll_of_mem apart
      (List.mem_flatMap.2 ⟨settings, member, List.mem_map.2 ⟨host, listed, rfl⟩⟩)

theorem lawful {id : DatacenterId} {datacenter : Datacenter}
    (found : deployment.simulation.datacenters.get? id = some datacenter) :
    datacenter.Lawful 0 where
  named := by
    intro place host present
    obtain ⟨-, mips, rfl⟩ := assembled.of_host? found present
    rfl
  hosts := by
    intro place host present
    obtain ⟨-, mips, rfl⟩ := assembled.of_host? found present
    exact Host.lawful_create _ _ _ isInstant_zero
  routes := by
    intro vertex route routed
    obtain ⟨settings, member, rfl, rfl⟩ := assembled.of_get?_datacenter found
    rw [DatacenterSettings.build_eq] at routed
    cases routed

/-- A quantity that is nothing on an empty host is nothing at first. -/
theorem total_eq_zero {M : Type} [AddCommMonoid M] {quantity : HostId → Scheduler → M}
    (nothing : ∀ id gap, quantity id (Scheduler.create gap) = 0) {id : DatacenterId}
    {datacenter : Datacenter}
    (found : deployment.simulation.datacenters.get? id = some datacenter) :
    datacenter.total quantity = 0 := by
  apply Table.sum_eq_zero
  intro place host present
  obtain ⟨-, mips, rfl⟩ := assembled.of_host? found present
  exact nothing _ _

theorem consistent : deployment.Consistent where
  ordered := by
    rw [assembled.queue]
    exact EventQueue.ordered_empty
  named := by
    intro id datacenter found
    obtain ⟨settings, member, rfl, rfl⟩ := assembled.of_get?_datacenter found
    rw [DatacenterSettings.build_eq]
    rfl
  collected := by
    intro id datacenter found
    obtain ⟨settings, member, rfl, rfl⟩ := assembled.of_get?_datacenter found
    rw [DatacenterSettings.build_eq]
    rfl
  lawful := by
    intro id datacenter found
    rw [Simulation.now, assembled.queue]
    exact assembled.lawful found
  wired := by
    intro id place owned
    obtain ⟨datacenter, found, present⟩ := Simulation.owns_eq_true.1 owned
    obtain ⟨host, present⟩ := Option.isSome_iff_exists.1 present
    rw [Registry.datacenterOf?, assembled.owners]
    exact Table.get?_insertAll_of_mem (Configuration.validate_eq_ok assembled.valid).2.2.2
      (assembled.of_host? found present).1
  targets := by
    rw [assembled.queue]
    exact fun _ waits => absurd waits List.not_mem_nil
  submissions := by
    rw [assembled.queue]
    exact fun _ waits => absurd waits List.not_mem_nil
  prompt := by
    rw [assembled.queue]
    exact fun _ waits => absurd waits List.not_mem_nil
  roster := by
    have none : (deployment.simulation.datacenters.sum fun _ datacenter =>
        datacenter.roster) = 0 :=
      Table.sum_eq_zero fun _ _ found => assembled.total_eq_zero (fun _ _ => rfl) found
    rw [Simulation.roster, none, assembled.queue, assembled.submitted]
    rfl
  distinct := by
    rw [assembled.submitted]
    exact List.nodup_nil
  placed := by
    intro vertex host located
    rw [Registry.hostOf?, assembled.vertices] at located
    cases located
  announced := by
    rw [assembled.queue]
    trivial

theorem consistent_after (operations : List Operation) :
    (deployment.after operations).Consistent :=
  assembled.consistent.steps (after_steps assembled.waitsIssued operations)

/-- What holds at first and is kept by the steps of a consistent deployment holds after
any operations, as long as all their faults are allowed. -/
theorem after_induction (property : Deployment → Prop) (allowed : Fault → Prop)
    (initially : property deployment)
    (kept : ∀ {before fault after}, before.Consistent → Step before fault after →
      (∀ raised ∈ fault, allowed raised) → property before → property after)
    (operations : List Operation)
    (known : ∀ fault ∈ deployment.faults operations, allowed fault) :
    property (deployment.after operations) := by
  have both := (after_steps assembled.waitsIssued operations).keep
    (fun reached => reached.Consistent ∧ property reached) allowed known
    (fun holds step allows =>
      ⟨holds.1.step step, kept holds.1 step allows holds.2⟩)
    ⟨assembled.consistent, initially⟩
  exact both.2

/-- The datacenters stay those of the configuration. -/
theorem layout_after (operations : List Operation) :
    (deployment.after operations).simulation.layout = deployment.simulation.layout :=
  assembled.after_induction
    (fun reached => reached.simulation.layout = deployment.simulation.layout)
    (fun _ => True) rfl (fun consistent step _ same => (consistent.layout_step step).trans same)
    operations (fun _ _ => trivial)

/-- Datacenters that are laid out as at first are timed as configured. -/
theorem timed {reached : Deployment}
    (layout : reached.simulation.layout = deployment.simulation.layout) :
    reached.simulation.Timed configuration.run.interval configuration.run.gap := by
  intro id datacenter found
  have same := congrArg (fun table => table.get? id) layout
  simp only [Simulation.layout, Table.get?_map, found] at same
  obtain ⟨initial, present, equal⟩ := Option.map_eq_some_iff.1 same.symm
  obtain ⟨settings, -, -, rfl⟩ := assembled.of_get?_datacenter present
  rw [DatacenterSettings.build_eq] at equal
  exact ⟨(congrArg Datacenter.Layout.interval equal).symm,
    (congrArg Datacenter.Layout.gap equal).symm⟩

end Assembled

end Deployment

end CoSimulation
