import CoSimulation.Proofs.Table
import CoSimulation.Registry

/-!
# Requests to a registry

Vertices can be placed on a host that has an owner if none of them lives elsewhere;
`Obstacle` tells what stands in the way otherwise.  A request that is refused leaves the
registry as it was, and no request moves a placed vertex or, unless it registers the host
anew, changes the owner of a host.
-/

namespace CoSimulation.Registry

variable {registry next : Registry} {vertices : List VertexId} {host : HostId}

theorem resolve?_eq_some {vertex : VertexId} {location : Location} :
    registry.resolve? vertex = some location ↔
      registry.hostOf? vertex = some location.host ∧
        registry.datacenterOf? location.host = some location.datacenter := by
  rw [resolve?]
  constructor
  · intro resolved
    obtain ⟨host, placed, rest⟩ := Option.bind_eq_some_iff.1 resolved
    obtain ⟨datacenter, owned, same⟩ := Option.bind_eq_some_iff.1 rest
    cases same
    exact ⟨placed, owned⟩
  · rintro ⟨placed, owned⟩
    simp [placed, owned]

/-! ## What stands in the way -/

/-- No vertex of a list lives on another host. -/
def Free (registry : Registry) (vertices : List VertexId) (host : HostId) : Prop :=
  ∀ vertex ∈ vertices, ∀ existing, registry.hostOf? vertex = some existing → existing = host

/-- Why the vertices cannot be placed on the host: nobody owns it, or this vertex is the
first of them that lives elsewhere. -/
inductive Obstacle (registry : Registry) (vertices : List VertexId) (host : HostId) :
    Fault → Prop where
  | unowned (unknown : registry.datacenterOf? host = none) :
      Obstacle registry vertices host (.unknownHost host)
  | taken {datacenter : DatacenterId} {before after : List VertexId} {vertex : VertexId}
      {existing : HostId} (owned : registry.datacenterOf? host = some datacenter)
      (split : vertices = before ++ vertex :: after) (free : registry.Free before host)
      (lives : registry.hostOf? vertex = some existing) (elsewhere : existing ≠ host) :
      Obstacle registry vertices host (.vertexAlreadyPlaced vertex host existing)

theorem contains_datacenterOfHost :
    registry.datacenterOfHost.contains host = true ↔
      ∃ datacenter, registry.datacenterOf? host = some datacenter := by
  rw [Table.contains, Option.isSome_iff_exists]
  rfl

theorem conflict?_eq_none :
    registry.conflict? host vertices = none ↔ registry.Free vertices host := by
  rw [conflict?, List.findSome?_eq_none_iff]
  refine forall₂_congr fun vertex _ => ?_
  cases registry.hostOf? vertex with
  | none => simp
  | some existing => simp

instance : Decidable (registry.Free vertices host) := decidable_of_iff _ conflict?_eq_none

/-- The fault is that of the first vertex that lives elsewhere. -/
theorem conflict?_eq_some {fault : Fault}
    (conflict : registry.conflict? host vertices = some fault) :
    ∃ before vertex after existing, vertices = before ++ vertex :: after ∧
      registry.Free before host ∧ registry.hostOf? vertex = some existing ∧ existing ≠ host ∧
        fault = .vertexAlreadyPlaced vertex host existing := by
  obtain ⟨before, vertex, after, split, found, passed⟩ := List.findSome?_eq_some_iff.1 conflict
  have free : registry.conflict? host before = none := List.findSome?_eq_none_iff.2 passed
  cases located : registry.hostOf? vertex with
  | none => simp [located] at found
  | some existing =>
      simp only [located] at found
      split at found
      · cases found
      · rename_i elsewhere
        exact ⟨before, vertex, after, existing, split, conflict?_eq_none.1 free, located,
          elsewhere, (Option.some.inj found).symm⟩

theorem check_eq_ok :
    registry.check vertices host = .ok () ↔
      (∃ datacenter, registry.datacenterOf? host = some datacenter) ∧
        registry.Free vertices host := by
  rw [check, ← contains_datacenterOfHost, ← conflict?_eq_none]
  split
  · rename_i owned
    cases registry.conflict? host vertices <;> simp [owned]
  · rename_i unowned
    simp [unowned]

theorem obstacle_of_check {fault : Fault} (checked : registry.check vertices host = .error fault) :
    registry.Obstacle vertices host fault := by
  rw [check] at checked
  split at checked
  · rename_i owned
    obtain ⟨datacenter, owned⟩ := contains_datacenterOfHost.1 owned
    split at checked
    · rename_i found conflict
      cases checked
      obtain ⟨before, vertex, after, existing, split, free, lives, elsewhere, rfl⟩ :=
        conflict?_eq_some conflict
      exact .taken owned split free lives elsewhere
    · cases checked
  · rename_i unowned
    cases checked
    refine .unowned (Option.not_isSome_iff_eq_none.1 fun owned => unowned ?_)
    exact contains_datacenterOfHost.2 (Option.isSome_iff_exists.1 owned)

/-! ## Placing vertices -/

theorem hostOf?_insertAll (registry : Registry) (vertices : List VertexId) (host : HostId)
    (vertex : VertexId) :
    (registry.insertAll vertices host).hostOf? vertex =
      if vertex ∈ vertices then some host else registry.hostOf? vertex :=
  Table.get?_insertAll _ _ _ _

theorem place_of_check (checked : registry.check vertices host = .ok ()) :
    registry.place vertices host = (.ok (), registry.insertAll vertices host) := by
  rw [place, checked]

theorem place_of_refused {fault : Fault} (refused : registry.check vertices host = .error fault) :
    registry.place vertices host = (.error fault, registry) := by
  rw [place, refused]

theorem assignAll_eq_ok_iff :
    registry.assignAll vertices host = .ok next ↔
      registry.check vertices host = .ok () ∧ next = registry.insertAll vertices host := by
  rw [assignAll]
  cases checked : registry.check vertices host with
  | error fault => simp [place_of_refused checked, Except.map]
  | ok value => simp [place_of_check checked, Except.map, eq_comm]

theorem obstacle_of_assignAll {fault : Fault}
    (refused : registry.assignAll vertices host = .error fault) :
    registry.Obstacle vertices host fault := by
  rw [assignAll] at refused
  cases checked : registry.check vertices host with
  | error obstacle =>
      rw [place_of_refused checked] at refused
      cases refused
      exact obstacle_of_check checked
  | ok value =>
      rw [place_of_check checked] at refused
      cases refused

theorem assignAll_eq_ok (assigned : registry.assignAll vertices host = .ok next) :
    next.datacenterOfHost = registry.datacenterOfHost ∧
      ∀ vertex, next.hostOf? vertex =
        if vertex ∈ vertices then some host else registry.hostOf? vertex := by
  obtain ⟨-, rfl⟩ := assignAll_eq_ok_iff.1 assigned
  exact ⟨rfl, registry.hostOf?_insertAll vertices host⟩

/-- A placed vertex never moves. -/
theorem hostOf?_of_assignAll (assigned : registry.assignAll vertices host = .ok next)
    {vertex : VertexId} {place : HostId} (located : registry.hostOf? vertex = some place) :
    next.hostOf? vertex = some place := by
  obtain ⟨checked, rfl⟩ := assignAll_eq_ok_iff.1 assigned
  rw [hostOf?_insertAll]
  split
  · rename_i listed
    rw [(check_eq_ok.1 checked).2 vertex listed place located]
  · exact located

/-! ## Requests -/

inductive Request where
  | registerHost (host : HostId) (datacenter : DatacenterId)
  | assign (vertex : VertexId) (host : HostId)
  | assignAll (vertices : List VertexId) (host : HostId)
deriving DecidableEq

/-- The verdict on a request, and the registry after it. -/
def perform (registry : Registry) : Request → Except Fault Unit × Registry
  | .registerHost host datacenter => (.ok (), registry.registerHost host datacenter)
  | .assign vertex host => registry.place [vertex] host
  | .assignAll vertices host => registry.place vertices host

/-- The host that a request registers, with its datacenter. -/
def Request.registers : Request → Option (HostId × DatacenterId)
  | .registerHost host datacenter => some (host, datacenter)
  | .assign _ _ | .assignAll _ _ => none

/-- The owner of a host once another one, or this one, is registered. -/
def ownerAfter? (registry : Registry) (registers : Option (HostId × DatacenterId))
    (host : HostId) : Option DatacenterId :=
  match registers with
  | some (registered, datacenter) =>
      if host = registered then some datacenter else registry.datacenterOf? host
  | none => registry.datacenterOf? host

/-- All placements are kept, and the hosts have the owners that `owner?` tells. -/
structure Extends (before after : Registry) (owner? : HostId → Option DatacenterId) :
    Prop where
  placed : ∀ vertex host, before.hostOf? vertex = some host → after.hostOf? vertex = some host
  owned : ∀ host, after.datacenterOf? host = owner? host

theorem Extends.refl (registry : Registry) :
    registry.Extends registry registry.datacenterOf? where
  placed := fun _ _ placed => placed
  owned := fun _ => rfl

theorem extends_place (registry : Registry) (vertices : List VertexId) (host : HostId) :
    registry.Extends (registry.place vertices host).2 registry.datacenterOf? := by
  cases checked : registry.check vertices host with
  | error fault =>
      rw [place_of_refused checked]
      exact Extends.refl registry
  | ok value =>
      rw [place_of_check checked]
      have assigned := assignAll_eq_ok_iff.2 ⟨checked, rfl⟩
      exact ⟨fun vertex place => hostOf?_of_assignAll assigned, fun other => rfl⟩

theorem extends_registerHost (registry : Registry) (host : HostId)
    (datacenter : DatacenterId) :
    registry.Extends (registry.registerHost host datacenter)
      (registry.ownerAfter? (some (host, datacenter))) where
  placed := fun _ _ placed => placed
  owned := fun _ => Table.get?_insert _ _ _ _

theorem extends_perform (registry : Registry) (request : Request) :
    registry.Extends (registry.perform request).2
      (registry.ownerAfter? request.registers) := by
  cases request with
  | registerHost host datacenter => exact extends_registerHost _ _ _
  | assign vertex host => exact extends_place _ _ _
  | assignAll vertices host => exact extends_place _ _ _

end CoSimulation.Registry
