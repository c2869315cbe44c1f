import CoSimulation.Proofs.Registry
import Mathlib.Data.Finset.Card
import Mathlib.Data.List.Induction

/-!
# Placements are all or nothing

Whatever was asked of a new registry before, a host is owned by the datacenter that it was
registered for last, and vertices are placed on a registered host all together or not at all.
A refusal names the first obstacle, a check tells it beforehand, and a list that is placed in
one request is placed as well vertex by vertex.  No vertex is ever placed on a host without an
owner, so every placed vertex can be resolved.
-/

namespace CoSimulation

namespace Table

variable {α : Type}

theorem size_eq_card (table : Table α) : table.size = table.keys.toFinset.card := by
  rw [List.toFinset_card_of_nodup table.nodup_keys, size, keys, List.length_map]

/-- Insertion of a value at many keys adds those that were not there, each once. -/
theorem size_insertAll (table : Table α) (keys : List Nat) (value : α) :
    (table.insertAll (keys.map fun key => (key, value))).size =
      table.size + (keys.toFinset.filter fun key => table.get? key = none).card := by
  have listed : (table.insertAll (keys.map fun key => (key, value))).keys.toFinset =
      keys.toFinset ∪ table.keys.toFinset := by
    ext key
    rw [Finset.mem_union, List.mem_toFinset, List.mem_toFinset, List.mem_toFinset, mem_keys,
      mem_keys, get?_insertAll]
    by_cases added : key ∈ keys <;> simp [added]
  have new : keys.toFinset.filter (fun key => table.get? key = none) =
      keys.toFinset \ table.keys.toFinset := by
    ext key
    rw [Finset.mem_filter, Finset.mem_sdiff, List.mem_toFinset (l := table.keys), mem_keys,
      ← Option.isSome_iff_exists, Bool.not_eq_true, Option.isSome_eq_false_iff,
      Option.isNone_iff_eq_none]
  rw [size_eq_card, listed, new, size_eq_card, Nat.add_comm, Finset.card_sdiff_add_card]

end Table

namespace Registry

/-! ## Calls -/

/-- A request, or the question whether vertices could be placed. -/
inductive Call where
  | change (request : Request)
  | check (vertices : List VertexId) (host : HostId)
deriving DecidableEq

/-- The verdict on a call, and the registry after it. -/
def answer (registry : Registry) : Call → Except Fault Unit × Registry
  | .change request => registry.perform request
  | .check vertices host => (registry.check vertices host, registry)

def afterCalls (registry : Registry) (calls : List Call) : Registry :=
  calls.foldl (fun known call => (known.answer call).2) registry

/-- The host that a call registers, with its datacenter. -/
def Call.registers : Call → Option (HostId × DatacenterId)
  | .change request => request.registers
  | .check _ _ => none

/-- The datacenter that a host was registered for last. -/
def lastOwner? (host : HostId) (calls : List Call) : Option DatacenterId :=
  ((calls.filterMap Call.registers).filter fun entry => entry.1 == host).getLast?.map Prod.snd

/-- Every vertex is placed on a host that has an owner. -/
def Grounded (registry : Registry) : Prop :=
  ∀ vertex host, registry.hostOf? vertex = some host →
    ∃ datacenter, registry.datacenterOf? host = some datacenter

/-- The two outcomes of an attempt to place vertices on a host: all of them are placed, and
nothing else changes, or there is an obstacle, and nothing changes at all. -/
inductive Placing (registry : Registry) (vertices : List VertexId) (host : HostId) :
    Except Fault Unit → Registry → Prop where
  | placed {datacenter : DatacenterId} {next : Registry}
      (owned : registry.datacenterOf? host = some datacenter)
      (free : registry.Free vertices host)
      (owners : next.datacenterOfHost = registry.datacenterOfHost)
      (hosts : ∀ vertex, next.hostOf? vertex =
        if vertex ∈ vertices then some host else registry.hostOf? vertex)
      (count : next.vertexCount = registry.vertexCount +
        (vertices.toFinset.filter fun vertex => registry.hostOf? vertex = none).card)
      (oneByOne : vertices.foldlM (fun known vertex => known.assign vertex host) registry =
        .ok next) :
      Placing registry vertices host (.ok ()) next
  | refused {fault : Fault} (obstacle : registry.Obstacle vertices host fault) :
      Placing registry vertices host (.error fault) registry

/-- What becomes of a call.  A check gives the verdict of the placement that it is about. -/
inductive Answered (registry : Registry) : Call → Except Fault Unit → Registry → Prop where
  | registered {host : HostId} {datacenter : DatacenterId} {next : Registry}
      (hosts : next.hostOfVertex = registry.hostOfVertex)
      (owners : ∀ other, next.datacenterOf? other =
        if other = host then some datacenter else registry.datacenterOf? other) :
      Answered registry (.change (.registerHost host datacenter)) (.ok ()) next
  | assigned {vertex : VertexId} {host : HostId} {verdict : Except Fault Unit}
      {next : Registry} (placing : registry.Placing [vertex] host verdict next) :
      Answered registry (.change (.assign vertex host)) verdict next
  | assignedAll {vertices : List VertexId} {host : HostId} {verdict : Except Fault Unit}
      {next : Registry} (placing : registry.Placing vertices host verdict next) :
      Answered registry (.change (.assignAll vertices host)) verdict next
  | checked {vertices : List VertexId} {host : HostId} {verdict : Except Fault Unit}
      {next : Registry} (placing : registry.Placing vertices host verdict next) :
      Answered registry (.check vertices host) verdict registry

/-! ## Vertex by vertex -/

/-- What is left of a list can be placed after its first vertex. -/
theorem check_tail {registry next : Registry} {vertex : VertexId} {vertices : List VertexId}
    {host : HostId} (checked : registry.check (vertex :: vertices) host = .ok ())
    (assigned : registry.assign vertex host = .ok next) :
    next.check vertices host = .ok () := by
  obtain ⟨⟨datacenter, owned⟩, free⟩ := check_eq_ok.1 checked
  obtain ⟨owners, hosts⟩ := assignAll_eq_ok assigned
  refine check_eq_ok.2 ⟨⟨datacenter, ?_⟩, fun other member existing located => ?_⟩
  · rw [datacenterOf?, owners]
    exact owned
  · rw [hosts] at located
    split at located
    · exact (Option.some.inj located).symm
    · exact free other (List.mem_cons_of_mem _ member) existing located

theorem foldlM_assign {registry next : Registry} {vertices : List VertexId} {host : HostId}
    (assigned : registry.assignAll vertices host = .ok next) :
    vertices.foldlM (fun known vertex => known.assign vertex host) registry = .ok next := by
  induction vertices generalizing registry with
  | nil =>
      obtain ⟨-, rfl⟩ := assignAll_eq_ok_iff.1 assigned
      rfl
  | cons vertex vertices induction =>
      obtain ⟨checked, rfl⟩ := assignAll_eq_ok_iff.1 assigned
      obtain ⟨owned, free⟩ := check_eq_ok.1 checked
      have single : registry.check [vertex] host = .ok () :=
        check_eq_ok.2 ⟨owned, fun other member =>
          free other (List.mem_singleton.1 member ▸ List.mem_cons_self)⟩
      have first := assignAll_eq_ok_iff.2 ⟨single, rfl⟩
      have rest := assignAll_eq_ok_iff.2 ⟨check_tail checked first, rfl⟩
      rw [List.foldlM_cons, assign, first]
      exact induction rest

theorem placing_check (registry : Registry) (vertices : List VertexId) (host : HostId) :
    registry.Placing vertices host (registry.check vertices host)
      (registry.place vertices host).2 := by
  cases checked : registry.check vertices host with
  | ok value =>
      have assigned := assignAll_eq_ok_iff.2 ⟨checked, rfl⟩
      obtain ⟨⟨datacenter, owned⟩, free⟩ := check_eq_ok.1 checked
      rw [place_of_check checked]
      exact .placed owned free rfl (hostOf?_insertAll _ _ _) (Table.size_insertAll _ _ _)
        (foldlM_assign assigned)
  | error fault =>
      rw [place_of_refused checked]
      exact .refused (obstacle_of_check checked)

/-- A check gives the verdict of the placement. -/
theorem place_fst (registry : Registry) (vertices : List VertexId) (host : HostId) :
    (registry.place vertices host).1 = registry.check vertices host := by
  cases checked : registry.check vertices host with
  | ok value => rw [place_of_check checked]
  | error fault => rw [place_of_refused checked]

theorem placing (registry : Registry) (vertices : List VertexId) (host : HostId) :
    registry.Placing vertices host (registry.place vertices host).1
      (registry.place vertices host).2 :=
  registry.place_fst vertices host ▸ registry.placing_check vertices host

theorem answered (registry : Registry) (call : Call) :
    registry.Answered call (registry.answer call).1 (registry.answer call).2 := by
  cases call with
  | check vertices host => exact .checked (registry.placing_check vertices host)
  | change request =>
      cases request with
      | registerHost host datacenter => exact .registered rfl fun _ => Table.get?_insert _ _ _ _
      | assign vertex host => exact .assigned (registry.placing [vertex] host)
      | assignAll vertices host => exact .assignedAll (registry.placing vertices host)

/-! ## Any calls -/

section Calls

variable {registry next : Registry} {vertices : List VertexId} {host : HostId} {call : Call}
  {verdict : Except Fault Unit}

theorem Placing.grounded (placing : Placing registry vertices host verdict next)
    (grounded : registry.Grounded) : next.Grounded := by
  cases placing with
  | refused => exact grounded
  | @placed datacenter next owned free owners hosts =>
      intro vertex place located
      rw [datacenterOf?, owners]
      rw [hosts] at located
      split at located
      · cases located
        exact ⟨datacenter, owned⟩
      · exact grounded vertex place located

/-- What is refused changes nothing. -/
theorem Answered.eq_of_error {fault : Fault}
    (answered : registry.Answered call (.error fault) next) : next = registry := by
  cases answered with
  | checked => rfl
  | assigned placing | assignedAll placing =>
      cases placing
      rfl

theorem Answered.grounded (answered : registry.Answered call verdict next)
    (grounded : registry.Grounded) : next.Grounded := by
  cases answered with
  | checked => exact grounded
  | assigned placing | assignedAll placing => exact placing.grounded grounded
  | @registered registered datacenter next hosts owners =>
      intro vertex host located
      rw [hostOf?, hosts] at located
      obtain ⟨owner, owned⟩ := grounded vertex host located
      rw [owners]
      split
      · exact ⟨datacenter, rfl⟩
      · exact ⟨owner, owned⟩

theorem grounded_afterCalls (grounded : registry.Grounded) (calls : List Call) :
    (registry.afterCalls calls).Grounded := by
  induction calls generalizing registry with
  | nil => exact grounded
  | cons call calls induction => exact induction ((registry.answered call).grounded grounded)

theorem extends_answer (registry : Registry) (call : Call) :
    registry.Extends (registry.answer call).2 (registry.ownerAfter? call.registers) := by
  cases call with
  | check vertices host => exact Extends.refl registry
  | change request => exact registry.extends_perform request

theorem hostOf?_afterCalls {vertex : VertexId} (located : registry.hostOf? vertex = some host)
    (calls : List Call) : (registry.afterCalls calls).hostOf? vertex = some host := by
  induction calls generalizing registry with
  | nil => exact located
  | cons call calls induction =>
      exact induction ((registry.extends_answer call).placed vertex host located)

/-- A host is owned by the datacenter that it was registered for last, if any. -/
theorem datacenterOf?_afterCalls (host : HostId) (calls : List Call) :
    (empty.afterCalls calls).datacenterOf? host = lastOwner? host calls := by
  induction calls using List.reverseRecOn with
  | nil => rfl
  | append_singleton calls call induction =>
      have owned := ((empty.afterCalls calls).extends_answer call).owned host
      rw [afterCalls, List.foldl_append]
      apply owned.trans
      rw [lastOwner?] at induction ⊢
      cases registers : call.registers with
      | none => simpa [ownerAfter?, registers] using induction
      | some entry =>
          by_cases same : host = entry.1
          · simp [ownerAfter?, registers, same]
          · simpa [ownerAfter?, registers, same, Ne.symm same] using induction

theorem Call.registers_eq_some {datacenter : DatacenterId} :
    call.registers = some (host, datacenter) ↔
      call = .change (.registerHost host datacenter) := by
  cases call with
  | check => simp [registers]
  | change request => cases request <;> simp [registers, Request.registers]

theorem exists_lastOwner? {calls : List Call} :
    (∃ datacenter, lastOwner? host calls = some datacenter) ↔
      ∃ datacenter, Call.change (.registerHost host datacenter) ∈ calls := by
  rw [← Option.isSome_iff_exists, lastOwner?, Option.isSome_map, List.getLast?_isSome]
  constructor
  · intro some
    obtain ⟨⟨registered, datacenter⟩, member⟩ := List.exists_mem_of_ne_nil _ some
    obtain ⟨listed, same⟩ := List.mem_filter.1 member
    obtain ⟨call, called, registers⟩ := List.mem_filterMap.1 listed
    obtain rfl : registered = host := by simpa using same
    exact ⟨datacenter, Call.registers_eq_some.1 registers ▸ called⟩
  · rintro ⟨datacenter, called⟩
    have listed : (host, datacenter) ∈ calls.filterMap Call.registers :=
      List.mem_filterMap.2 ⟨_, called, rfl⟩
    exact List.ne_nil_of_mem (List.mem_filter.2 ⟨listed, by simp⟩)

theorem Grounded.isSome_resolve? (grounded : registry.Grounded) (vertex : VertexId) :
    (registry.resolve? vertex).isSome = true ↔ (registry.hostOf? vertex).isSome = true := by
  rw [Option.isSome_iff_exists, Option.isSome_iff_exists]
  constructor
  · rintro ⟨location, resolved⟩
    exact ⟨_, (resolve?_eq_some.1 resolved).1⟩
  · rintro ⟨host, located⟩
    obtain ⟨datacenter, owned⟩ := grounded vertex host located
    exact ⟨⟨host, datacenter⟩, resolve?_eq_some.2 ⟨located, owned⟩⟩

end Calls

/-- After any calls on a new registry, exactly the hosts that were registered have an owner,
the last one; every placed vertex can be resolved and stays on its host; and vertices are
placed on a host exactly if it was registered and none of them lives elsewhere: all of them
or, with the first obstacle as the reason, none. -/
theorem places_all_or_none (calls : List Call) :
    let registry := empty.afterCalls calls
    (∀ host, registry.datacenterOf? host = lastOwner? host calls) ∧
      (∀ host, (∃ datacenter, registry.datacenterOf? host = some datacenter) ↔
        ∃ datacenter, Call.change (.registerHost host datacenter) ∈ calls) ∧
      registry.Grounded ∧
      (∀ vertex, (registry.resolve? vertex).isSome = true ↔
        (registry.hostOf? vertex).isSome = true) ∧
      (∀ vertex host, registry.hostOf? vertex = some host →
        ∀ later, (registry.afterCalls later).hostOf? vertex = some host) ∧
      (∀ call, registry.Answered call (registry.answer call).1 (registry.answer call).2) ∧
      (∀ call fault, (registry.answer call).1 = .error fault →
        (registry.answer call).2 = registry) ∧
      ∀ vertices host,
        ((registry.answer (.change (.assignAll vertices host))).1 = .ok () ↔
          (∃ datacenter, Call.change (.registerHost host datacenter) ∈ calls) ∧
            registry.Free vertices host) ∧
        registry.answer (.check vertices host) =
          ((registry.answer (.change (.assignAll vertices host))).1, registry) := by
  intro registry
  have owners : ∀ host, registry.datacenterOf? host = lastOwner? host calls :=
    fun host => datacenterOf?_afterCalls host calls
  have registered : ∀ host, (∃ datacenter, registry.datacenterOf? host = some datacenter) ↔
      ∃ datacenter, Call.change (.registerHost host datacenter) ∈ calls := fun host => by
    rw [owners]
    exact exists_lastOwner?
  have grounded : registry.Grounded :=
    grounded_afterCalls (fun _ _ located => by cases located) calls
  refine ⟨owners, registered, grounded, grounded.isSome_resolve?,
    fun vertex host => hostOf?_afterCalls, registry.answered, fun call fault refused => ?_,
    fun vertices host => ?_⟩
  · exact Answered.eq_of_error (refused ▸ registry.answered call)
  · have verdict : (registry.answer (.change (.assignAll vertices host))).1 =
        registry.check vertices host := registry.place_fst vertices host
    rw [verdict, ← registered]
    exact ⟨check_eq_ok, rfl⟩

/-- Two hosts, one of them registered twice, and a list of vertices that names one twice. -/
def busyCalls : List Call :=
  [.change (.registerHost 1 10), .change (.registerHost 2 20), .change (.registerHost 1 11),
    .change (.assignAll [5, 5, 6] 1)]

/-- Three lists of vertices: one of them is placed, one meets a vertex that lives elsewhere,
and the host of one was never registered. -/
theorem places_all_or_none_busy :
    let registry := empty.afterCalls busyCalls
    let placed := (registry.answer (.change (.assignAll [6, 7, 7] 1))).2
    registry.resolve? 5 = some ⟨1, 11⟩ ∧ registry.vertexCount = 2 ∧
      (registry.answer (.change (.assignAll [6, 7, 7] 1))).1 = .ok () ∧
      placed.resolve? 7 = some ⟨1, 11⟩ ∧ placed.vertexCount = 3 ∧
      registry.answer (.change (.assignAll [8, 6, 5] 2)) =
        (.error (.vertexAlreadyPlaced 6 2 1), registry) ∧
      registry.answer (.change (.assignAll [9] 3)) = (.error (.unknownHost 3), registry) := by
  intro registry placed
  obtain ⟨-, -, -, -, -, -, unchanged, verdicts⟩ := places_all_or_none busyCalls
  have accepted : (registry.answer (.change (.assignAll [6, 7, 7] 1))).1 = .ok () :=
    (verdicts [6, 7, 7] 1).1.2 ⟨⟨10, by decide⟩, by decide⟩
  have taken : (registry.answer (.change (.assignAll [8, 6, 5] 2))).1 =
      .error (.vertexAlreadyPlaced 6 2 1) := by decide
  have unowned : (registry.answer (.change (.assignAll [9] 3))).1 = .error (.unknownHost 3) := by
    decide
  exact ⟨by decide, by decide, accepted, by decide, by decide,
    Prod.ext taken (unchanged _ _ taken), Prod.ext unowned (unchanged _ _ unowned)⟩

end Registry

end CoSimulation
