import CoSimulation.Broker
import CoSimulation.Proofs.Registry

/-!
# The rounds of the broker

`Considered` says what a round does with one workload: it is rejected, it waits for
the next round, or its vertices are placed and its submission is dispatched.  The
identity of an accepted workload is new, and no host changes its datacenter.
-/

namespace CoSimulation

namespace Broker

/-- What becomes of one workload in a round. -/
inductive Considered (owns : DatacenterId → HostId → Bool) (broker : Broker)
    (workload : Workload) : Broker → List Dispatch → Prop where
  | rejected (nextHost : Nat) (fault : Fault) :
      Considered owns broker workload
        ({ broker with nextHost := nextHost }.reject workload.id fault) []
  | postponed (nextHost : Nat) :
      Considered owns broker workload ({ broker with nextHost := nextHost }.queue workload) []
  | accepted (nextHost : Nat) {host : HostId} {datacenter : DatacenterId}
      {registry : Registry}
      (new : ∀ entry ∈ broker.submitted, entry.1 ≠ workload.id)
      (known : broker.registry.datacenterOf? host = some datacenter)
      (owned : owns datacenter host = true)
      (assigned :
        broker.registry.assignAll workload.placement.vertices.keys host = .ok registry)
      (pinned : ∀ pin, workload.placement.host = some pin → host = pin) :
      Considered owns broker workload
        { broker with
          nextHost := nextHost
          registry := registry
          submitted := broker.submitted ++ [(workload.id, host)] }
        [{ target := datacenter, delay := 0, event := .submit host workload }]

variable {owns : DatacenterId → HostId → Bool} {broker : Broker} {workload : Workload}

theorem bind_snd (broker : Broker) (workload : Workload) :
    ∃ nextHost, (broker.bind workload).2 = { broker with nextHost := nextHost } := by
  rw [bind]
  split
  · exact ⟨broker.nextHost, rfl⟩
  · split
    · exact ⟨broker.nextHost, rfl⟩
    · exact ⟨_, rfl⟩

theorem bind_eq_of_fst {host : HostId} (bound : (broker.bind workload).1 = some host) :
    ∃ nextHost, broker.bind workload = (some host, { broker with nextHost := nextHost }) := by
  obtain ⟨nextHost, moved⟩ := bind_snd broker workload
  exact ⟨nextHost, Prod.ext bound moved⟩

theorem bind_unpinned (unpinned : workload.placement.host = none) :
    (broker.bind workload).1 = broker.hosts[broker.nextHost]? := by
  rw [bind, unpinned]
  cases broker.hosts[broker.nextHost]? <;> rfl

theorem bind_fst_of_pinned {host pin : HostId} (bound : (broker.bind workload).1 = some host)
    (pinned : workload.placement.host = some pin) : host = pin := by
  rw [bind, pinned] at bound
  exact (Option.some.inj bound).symm

theorem consider_considered (owns : DatacenterId → HostId → Bool) (broker : Broker)
    (workload : Workload) :
    Considered owns broker workload (consider owns broker workload).1
      (consider owns broker workload).2 := by
  obtain ⟨nextHost, moved⟩ := bind_snd broker workload
  rw [consider]
  split
  · exact .rejected broker.nextHost _
  · rename_i unknown
    have new : ∀ entry ∈ broker.submitted, entry.1 ≠ workload.id :=
      fun entry member same =>
        unknown (List.any_eq_true.2 ⟨entry, member, by simpa using same⟩)
    split
    · rename_i bound result
      rw [result] at moved
      subst moved
      exact .postponed nextHost
    · rename_i host bound result
      have pinned : ∀ pin, workload.placement.host = some pin → host = pin :=
        fun pin => bind_fst_of_pinned (congrArg Prod.fst result)
      rw [result] at moved
      subst moved
      split
      · exact .postponed nextHost
      · exact .rejected nextHost _
      · rename_i chosen datacenter registry decided
        rw [decide] at decided
        split at decided
        · cases decided
        · rename_i owner known
          split at decided
          · rename_i owned
            split at decided
            · cases decided
            · rename_i placed assigned
              cases decided
              exact .accepted nextHost new known owned assigned pinned
          · cases decided

/-- A workload that is pinned to a known host is submitted if nothing was placed before. -/
theorem consider_of_vacant {host : HostId} {datacenter : DatacenterId}
    (new : broker.submitted = []) (pinned : workload.placement.host = some host)
    (known : broker.registry.datacenterOf? host = some datacenter)
    (owned : owns datacenter host = true)
    (vacant : broker.registry.hostOfVertex = Table.empty) :
    (consider owns broker workload).2 =
      [{ target := datacenter, delay := 0, event := .submit host workload }] := by
  have free : broker.registry.Free workload.placement.vertices.keys host := by
    intro vertex listed existing located
    rw [Registry.hostOf?, vacant] at located
    cases located
  have assigned := Registry.assignAll_eq_ok_iff.2
    ⟨Registry.check_eq_ok.2 ⟨⟨datacenter, known⟩, free⟩, rfl⟩
  simp [consider, hasSubmitted, bind, decide, new, pinned, known, owned, assigned]

namespace Considered

variable {next : Broker} {dispatches : List Dispatch}

theorem datacenterOf? (considered : Considered owns broker workload next dispatches)
    (host : HostId) :
    next.registry.datacenterOf? host = broker.registry.datacenterOf? host := by
  cases considered with
  | rejected | postponed => rfl
  | accepted nextHost new known owned assigned =>
      rw [Registry.datacenterOf?, (Registry.assignAll_eq_ok assigned).1]
      rfl

theorem hostOf? (considered : Considered owns broker workload next dispatches)
    {vertex : VertexId} {place : HostId}
    (located : broker.registry.hostOf? vertex = some place) :
    next.registry.hostOf? vertex = some place := by
  cases considered with
  | rejected | postponed => exact located
  | accepted nextHost new known owned assigned =>
      exact Registry.hostOf?_of_assignAll assigned located

/-- Everything that waits after a round waited before. -/
theorem pending (considered : Considered owns broker workload next dispatches) :
    ∀ waiting ∈ next.pending, waiting ∈ broker.pending ∨ waiting = workload := by
  cases considered with
  | rejected | accepted => exact fun waiting member => .inl member
  | postponed =>
      intro waiting member
      rcases List.mem_append.1 member with old | new
      · exact .inl old
      · exact .inr (List.mem_singleton.1 new)

/-- What is dispatched is the submission of the workload. -/
theorem brings (considered : Considered owns broker workload next dispatches) :
    ∀ dispatch ∈ dispatches, ∃ host, dispatch.event = .submit host workload := by
  cases considered with
  | rejected | postponed =>
      intro dispatch member
      cases member
  | accepted =>
      intro dispatch member
      rw [List.mem_singleton.1 member]
      exact ⟨_, rfl⟩

theorem rejected_le (considered : Considered owns broker workload next dispatches) :
    broker.rejected.length ≤ next.rejected.length := by
  cases considered with
  | rejected => simp [reject]
  | postponed | accepted => exact Nat.le_refl _

end Considered

end Broker

end CoSimulation
