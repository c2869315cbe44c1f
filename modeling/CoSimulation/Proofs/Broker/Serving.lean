import CoSimulation.Proofs.Broker

/-!
# Brokers that can use all their hosts

A broker goes round its hosts in turn.  If each of them is known to the registry and owned
by its datacenter, a round leaves a workload waiting only if there is no host for it at all.
-/

namespace CoSimulation

/-- The workload is pinned to a host that is not there, or there are no hosts. -/
def Workload.Homeless (hosts : List HostId) (workload : Workload) : Prop :=
  (∃ pin, workload.placement.host = some pin ∧ pin ∉ hosts) ∨
    (workload.placement.host = none ∧ hosts = [])

namespace Broker

/-- Unpinned workloads go round the hosts. -/
structure Rotates (hosts : List HostId) (broker : Broker) : Prop where
  known : broker.hosts = hosts
  turn : hosts ≠ [] → broker.nextHost < hosts.length

/-- Every host has an owner that accepts it. -/
def Available (owns : DatacenterId → HostId → Bool) (hosts : List HostId)
    (registry : Registry) : Prop :=
  ∀ host ∈ hosts, ∃ datacenter,
    registry.datacenterOf? host = some datacenter ∧ owns datacenter host = true

variable {owns : DatacenterId → HostId → Bool} {hosts : List HostId} {broker : Broker}
  {workload : Workload}

theorem rotates_bind (rotates : broker.Rotates hosts) (workload : Workload) :
    (broker.bind workload).2.Rotates hosts := by
  rw [bind]
  split
  · exact rotates
  · split
    · exact rotates
    · refine ⟨rotates.known, fun some => ?_⟩
      rw [← rotates.known] at some ⊢
      exact Nat.mod_lt _ (List.length_pos_iff.2 some)

theorem rotates_consider (rotates : broker.Rotates hosts)
    (owns : DatacenterId → HostId → Bool) (workload : Workload) :
    (consider owns broker workload).1.Rotates hosts := by
  have moved := rotates_bind rotates workload
  rw [consider]
  split
  · exact ⟨rotates.known, rotates.turn⟩
  · split
    · rename_i bound result
      rw [result] at moved
      exact ⟨moved.known, moved.turn⟩
    · rename_i host bound result
      rw [result] at moved
      split <;> exact ⟨moved.known, moved.turn⟩

theorem rotates_considerAll (rotates : broker.Rotates hosts)
    (owns : DatacenterId → HostId → Bool) (workloads : List Workload) :
    (considerAll owns broker workloads).1.Rotates hosts := by
  induction workloads generalizing broker with
  | nil => exact rotates
  | cons workload workloads induction => exact induction (rotates_consider rotates owns workload)

theorem rotates_cleared (rotates : broker.Rotates hosts) :
    Rotates hosts { broker with pending := [] } :=
  ⟨rotates.known, rotates.turn⟩

theorem rotates_submitWhere (rotates : broker.Rotates hosts)
    (owns : DatacenterId → HostId → Bool) : (submitWhere owns broker).1.Rotates hosts :=
  rotates_considerAll (rotates_cleared rotates) owns broker.pending

/-- A workload with a host is bound to one of the hosts. -/
theorem bind_of_housed (rotates : broker.Rotates hosts)
    (housed : ¬ workload.Homeless hosts) :
    ∃ host ∈ hosts, (broker.bind workload).1 = some host := by
  rw [Workload.Homeless, not_or] at housed
  cases pinned : workload.placement.host with
  | some pin =>
      refine ⟨pin, ?_, by rw [bind, pinned]⟩
      by_contra unlisted
      exact housed.1 ⟨pin, pinned, unlisted⟩
  | none =>
      have nonempty : hosts ≠ [] := fun empty => housed.2 ⟨pinned, empty⟩
      have inside : broker.nextHost < broker.hosts.length := by
        rw [rotates.known]
        exact rotates.turn nonempty
      refine ⟨broker.hosts[broker.nextHost], ?_, ?_⟩
      · rw [← rotates.known]
        exact List.getElem_mem inside
      · rw [bind_unpinned pinned, List.getElem?_eq_getElem inside]

theorem decide_ne_postponed {host : HostId} {datacenter : DatacenterId}
    (known : broker.registry.datacenterOf? host = some datacenter)
    (owned : owns datacenter host = true) : broker.decide owns workload host ≠ .postponed := by
  rw [decide, known]
  simp only [owned, if_true]
  split <;> exact Decision.noConfusion

/-- Only a workload without a host waits longer than it did. -/
theorem pending_consider (rotates : broker.Rotates hosts)
    (available : Available owns hosts broker.registry) :
    ∀ waiting ∈ (consider owns broker workload).1.pending,
      waiting ∈ broker.pending ∨ (waiting = workload ∧ workload.Homeless hosts) := by
  intro waiting member
  by_cases homeless : workload.Homeless hosts
  · exact ((consider_considered owns broker workload).pending waiting member).imp_right
      fun same => ⟨same, homeless⟩
  · obtain ⟨host, listed, found⟩ := bind_of_housed rotates homeless
    obtain ⟨datacenter, known, owned⟩ := available host listed
    obtain ⟨nextHost, bound⟩ := bind_eq_of_fst found
    have decided : { broker with nextHost := nextHost }.decide owns workload host ≠ .postponed :=
      decide_ne_postponed known owned
    left
    rw [consider, bound] at member
    split at member
    · exact member
    · simp only at member
      split at member
      · exact absurd ‹_› decided
      · exact member
      · exact member

theorem pending_considerAll (rotates : broker.Rotates hosts)
    (available : Available owns hosts broker.registry) {workloads : List Workload} :
    ∀ waiting ∈ (considerAll owns broker workloads).1.pending,
      waiting ∈ broker.pending ∨ (waiting ∈ workloads ∧ waiting.Homeless hosts) := by
  induction workloads generalizing broker with
  | nil => exact fun waiting member => .inl member
  | cons workload workloads induction =>
      intro waiting member
      have considered := consider_considered owns broker workload
      have still : Available owns hosts (consider owns broker workload).1.registry := by
        intro host listed
        rw [considered.datacenterOf? host]
        exact available host listed
      rcases induction (rotates_consider rotates owns workload) still waiting member with
        now | ⟨later, homeless⟩
      · rcases pending_consider rotates available waiting now with before | ⟨rfl, homeless⟩
        · exact .inl before
        · exact .inr ⟨List.mem_cons_self, homeless⟩
      · exact .inr ⟨List.mem_cons_of_mem _ later, homeless⟩

/-- After a round only workloads without a host wait. -/
theorem pending_submitWhere (rotates : broker.Rotates hosts)
    (available : Available owns hosts broker.registry) :
    ∀ waiting ∈ (submitWhere owns broker).1.pending,
      waiting ∈ broker.pending ∧ waiting.Homeless hosts := by
  intro waiting member
  rcases pending_considerAll (rotates_cleared rotates) available waiting member with before | waits
  · cases before
  · exact waits

end Broker

end CoSimulation
