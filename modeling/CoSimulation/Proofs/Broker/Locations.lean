import CoSimulation.Proofs.Broker.Tickets

/-!
# Locations of placed vertices

Whoever writes into the registry, directly or through the broker, a placed vertex stays
on its host.  The datacenter of the host is the one it was registered for last, so a
location lasts exactly as long as its host is not registered for another datacenter.
-/

namespace CoSimulation.Broker

/-- What is asked of a broker or, past it, of its registry. -/
inductive Operation where
  | registry (request : Registry.Request)
  | broker (request : Request)

def operate (broker : Broker) : Operation → Broker
  | .registry request => { broker with registry := (broker.registry.perform request).2 }
  | .broker request => (broker.perform request).1

def operateAll (broker : Broker) (operations : List Operation) : Broker :=
  operations.foldl operate broker

/-- The host that an operation registers, with its datacenter. -/
def Operation.registers : Operation → Option (HostId × DatacenterId)
  | .registry request => request.registers
  | .broker (.addHost host datacenter) => some (host, datacenter)
  | .broker (.queue _) | .broker (.submit _) => none

/-- The owner of a host after an operation, if it had one before. -/
def Operation.ownerAfter (host : HostId) (owner : DatacenterId) (operation : Operation) :
    DatacenterId :=
  match operation.registers with
  | some (registered, datacenter) => if host = registered then datacenter else owner
  | none => owner

theorem extends_considerAll (owns : DatacenterId → HostId → Bool) (broker : Broker)
    (round : List Workload) :
    broker.registry.Extends (considerAll owns broker round).1.registry
      broker.registry.datacenterOf? := by
  induction round generalizing broker with
  | nil => exact Registry.Extends.refl _
  | cons workload rest induction =>
      have considered := consider_considered owns broker workload
      have later := induction (consider owns broker workload).1
      constructor
      · exact fun vertex host located => later.placed vertex host (considered.hostOf? located)
      · exact fun host => (later.owned host).trans (considered.datacenterOf? host)

theorem extends_operate (broker : Broker) (operation : Operation) :
    broker.registry.Extends (broker.operate operation).registry
      (broker.registry.ownerAfter? operation.registers) := by
  cases operation with
  | registry request => exact broker.registry.extends_perform request
  | broker request =>
      cases request with
      | queue workload => exact Registry.Extends.refl _
      | addHost host datacenter => exact Registry.extends_registerHost _ _ _
      | submit owns => exact extends_considerAll owns { broker with pending := [] } broker.pending

section Location

variable {broker : Broker} {vertex : VertexId} {location : Location}

/-- A vertex stays on its host, whose datacenter may be registered anew. -/
theorem resolve?_operate (resolved : broker.registry.resolve? vertex = some location)
    (operation : Operation) :
    (broker.operate operation).registry.resolve? vertex =
      some { location with
        datacenter := operation.ownerAfter location.host location.datacenter } := by
  obtain ⟨placed, owned⟩ := Registry.resolve?_eq_some.1 resolved
  have extended := extends_operate broker operation
  apply Registry.resolve?_eq_some.2
  refine ⟨extended.placed vertex _ placed, (extended.owned _).trans ?_⟩
  simp only [Registry.ownerAfter?, Operation.ownerAfter]
  cases operation.registers with
  | none => exact owned
  | some registration =>
      by_cases same : location.host = registration.1
      · simp [same]
      · simp [same, owned]

theorem resolve?_operateAll (resolved : broker.registry.resolve? vertex = some location)
    (operations : List Operation) :
    (broker.operateAll operations).registry.resolve? vertex =
      some { location with
        datacenter :=
          operations.foldl (Operation.ownerAfter location.host) location.datacenter } := by
  induction operations generalizing broker location with
  | nil => exact resolved
  | cons operation later induction => exact induction (resolve?_operate resolved operation)

theorem ownerAfter_eq_self {host : HostId} {owner : DatacenterId} {operation : Operation} :
    operation.ownerAfter host owner = owner ↔
      ∀ datacenter, operation.registers = some (host, datacenter) → datacenter = owner := by
  rw [Operation.ownerAfter]
  rcases operation.registers with - | ⟨registered, datacenter⟩
  · simp
  · by_cases same : host = registered
    · simp [same]
    · simp [same, Ne.symm same]

/-- Operations that register a host for no other datacenter leave it its owner. -/
theorem foldl_ownerAfter {host : HostId} {owner : DatacenterId} {operations : List Operation}
    (kept : ∀ operation ∈ operations, operation.ownerAfter host owner = owner) :
    operations.foldl (Operation.ownerAfter host) owner = owner := by
  induction operations with
  | nil => rfl
  | cons operation later induction =>
      rw [List.foldl_cons, kept operation List.mem_cons_self]
      exact induction fun other member => kept other (List.mem_cons_of_mem _ member)

/-- A location lasts through operations if its host keeps its owner. -/
theorem resolve?_operateAll_iff (resolved : broker.registry.resolve? vertex = some location)
    (operations : List Operation) :
    (broker.operateAll operations).registry.resolve? vertex = some location ↔
      operations.foldl (Operation.ownerAfter location.host) location.datacenter =
        location.datacenter := by
  rw [resolve?_operateAll resolved operations, Option.some.injEq]
  constructor
  · exact fun same => congrArg Location.datacenter same
  · intro same
    rw [same]

/-- A location lasts through all operations exactly if none of them registers its host for
another datacenter. -/
theorem location_lasts_iff (resolved : broker.registry.resolve? vertex = some location)
    (operations : List Operation) :
    (∀ early, early <+: operations →
        (broker.operateAll early).registry.resolve? vertex = some location) ↔
      ∀ operation ∈ operations, ∀ datacenter,
        operation.registers = some (location.host, datacenter) →
          datacenter = location.datacenter := by
  constructor
  · intro lasts operation member
    obtain ⟨early, late, rfl⟩ := List.append_of_mem member
    have before := (resolve?_operateAll_iff resolved early).1 (lasts _ (List.prefix_append _ _))
    have after := (resolve?_operateAll_iff resolved (early ++ [operation])).1
      (lasts _ (by simp))
    rw [List.foldl_append, before] at after
    exact ownerAfter_eq_self.1 after
  · intro unregistered early part
    refine (resolve?_operateAll_iff resolved early).2 (foldl_ownerAfter fun operation member => ?_)
    exact ownerAfter_eq_self.2 (unregistered operation (part.subset member))

/-- A host is registered anew after a vertex was placed on it. -/
theorem location_lasts_iff_reregistered :
    let broker := empty.operateAll
      [.registry (.registerHost 1 10), .registry (.assign 5 1)]
    let operation : Operation := .registry (.registerHost 1 20)
    broker.registry.resolve? 5 = some ⟨1, 10⟩ ∧
      ((∀ early, early <+: [operation] →
          (broker.operateAll early).registry.resolve? 5 = some ⟨1, 10⟩) ↔
        ∀ other ∈ [operation], ∀ datacenter,
          other.registers = some (1, datacenter) → datacenter = 10) ∧
      (broker.operateAll [operation]).registry.resolve? 5 = some ⟨1, 20⟩ := by
  intro broker operation
  have resolved : broker.registry.resolve? 5 = some ⟨1, 10⟩ := by decide
  exact ⟨resolved, location_lasts_iff resolved [operation], by decide⟩

end Location

end CoSimulation.Broker
