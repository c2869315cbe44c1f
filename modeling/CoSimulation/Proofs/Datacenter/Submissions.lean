import CoSimulation.Proofs.Binary64.Counts
import CoSimulation.Proofs.Datacenter.Raising

/-!
# What a submission does beyond a pass

A submission is a pass over all hosts first.  If the workload is refused, that is all it is:
the datacenter and its dispatches are those of housekeeping at the same time.  A workload that
is accepted joins the others of its host at the end, takes over its vertices, and has
housekeeping asked for at its estimated end.
-/

namespace CoSimulation

open Binary64

namespace Binary64

/-- Every count but zero is a number above zero. -/
theorem ofNat_pos {n : Nat} : 0 < ofNat n ↔ 0 < n := by
  have zero : ofNat 0 = 0 := rfl
  constructor
  · intro positive
    apply Nat.pos_of_ne_zero
    rintro rfl
    have above := (lt_iff.1 (zero ▸ positive)).2.2
    exact Int.lt_irrefl _ above
  · intro counted
    have least : (ofNat 1).magnitude ≤ (ofNat n).magnitude := by
      rw [magnitude_ofNat, magnitude_ofNat]
      exact nearestMagnitude_mono (Nat.mul_le_mul_right _ counted)
    have one : 0 < (ofNat 1).magnitude := by decide +kernel
    rw [isInstant_zero.lt_iff (isInstant_ofNat n), rank_zero, (isInstant_ofNat n).rank_eq]
    omega

end Binary64

namespace Datacenter

variable {datacenter : Datacenter} {network : Network}

/-- The datacenter as if it had made no pass yet, so that it drops no housekeeping. -/
def unpaced (datacenter : Datacenter) : Datacenter := { datacenter with lastPass := none }

theorem handle_unpaced (datacenter : Datacenter) (network : Network) :
    datacenter.unpaced.handle network .housekeeping =
      { state := (datacenter.pass network).1
        dispatches := (datacenter.pass network).2.1
        result := reportWorst (datacenter.pass network).2.2 () } := rfl

/-- Whether housekeeping is dropped is all that it depends on the pass before. -/
theorem handle_of_due (due : datacenter.comesTooSoon network.now = false) :
    datacenter.handle network .housekeeping =
      datacenter.unpaced.handle network .housekeeping := by
  rw [handle_unpaced, handle, housekeeping, due]
  rfl

/-- The host does not belong to the datacenter, or the workload was submitted to it before. -/
def Refuses (datacenter : Datacenter) (id : HostId) (workload : Workload) : Prop :=
  ∀ host, datacenter.host? id = some host → host.scheduler.contains workload.id = true

/-- A workload was accepted on a host after a pass, and this is all that was done for it. -/
structure Joins (passed : Reaction Datacenter Unit) (id : HostId) (workload : Workload)
    (after : Reaction Datacenter Unit) : Prop where
  host : ∃ target, passed.state.host? id = some target ∧
    after.state.host? id = some
      { target with
        scheduler :=
          { target.scheduler with active := target.scheduler.active ++ [workload] } }
  others : ∀ other, other ≠ id → after.state.host? other = passed.state.host? other
  routes : ∀ vertex, after.state.route? vertex =
    if workload.placement.executes vertex then some { host := id, workload := workload.id }
    else passed.state.route? vertex
  state : after.state =
    { passed.state with
      hosts := after.state.hosts
      routes := after.state.routes
      counters :=
        { passed.state.counters with
          submissions := passed.state.counters.submissions + 1
          armed := passed.state.counters.armed +
            if 0 < workload.placement.duration then 1 else 0 } }
  dispatches : after.dispatches = passed.dispatches ++
    if 0 < workload.placement.duration then [passed.state.housekeepingIn workload.duration]
    else []
  result : after.result = passed.result

/-- Housekeeping is asked for at the end of every workload that takes any time. -/
theorem housekeepingAtEnd_duration {workload : Workload}
    (counts : workload.placement.duration ≤ countLimit) :
    datacenter.housekeepingAtEnd workload.duration =
      if 0 < workload.placement.duration then [datacenter.housekeepingIn workload.duration]
      else [] := by
  have finite : workload.duration.isFinite = true := decide_eq_true (isFinite_ofNat counts)
  have positive : 0 < workload.duration ↔ 0 < workload.placement.duration := ofNat_pos
  simp only [housekeepingAtEnd, finite, positive, and_true]

theorem isSome_submissionFault? {id : HostId} {workload : Workload} :
    (datacenter.submissionFault? id workload).isSome ↔ datacenter.Refuses id workload := by
  rw [submissionFault?, Refuses]
  cases datacenter.host? id with
  | none => simp
  | some host => cases contained : host.scheduler.contains workload.id <;> simp [contained]

theorem submit_of_refuses {id : HostId} {workload : Workload}
    (refused : datacenter.Refuses id workload) :
    (datacenter.handle network (.submit id workload)).state = (datacenter.pass network).1 ∧
      (datacenter.handle network (.submit id workload)).dispatches =
        (datacenter.pass network).2.1 := by
  obtain ⟨fault, raised⟩ := Option.isSome_iff_exists.1 (isSome_submissionFault?.2 refused)
  rw [handle, submit_of_fault raised]
  exact ⟨rfl, rfl⟩

theorem joins_of_not_refuses
    (named : ∀ id host, datacenter.host? id = some host → host.id = id)
    {id : HostId} {workload : Workload} (taken : ¬ datacenter.Refuses id workload)
    (counts : workload.placement.duration ≤ countLimit) :
    Joins (datacenter.unpaced.handle network .housekeeping) id workload
      (datacenter.handle network (.submit id workload)) := by
  have silent : datacenter.submissionFault? id workload = none := by
    rwa [← isSome_submissionFault?, Option.not_isSome_iff_eq_none] at taken
  obtain ⟨host, found, submitted⟩ := submit_of_no_fault silent network
  have target : (datacenter.pass network).1.host? id =
      some (host.ticked network network.now) := host?_pass found
  have place : (host.ticked network network.now).id = id := named id host found
  have atEnd : (datacenter.pass network).1.housekeepingAtEnd workload.duration =
      if 0 < workload.placement.duration then
        [(datacenter.pass network).1.housekeepingIn workload.duration]
      else [] := housekeepingAtEnd_duration counts
  rw [handle_unpaced, handle, submitted]
  simp only [accept_eq place, atEnd]
  constructor
  · exact ⟨_, target, (host?_reschedule id).trans (if_pos rfl)⟩
  · intro other different
    exact (host?_reschedule other).trans (if_neg different)
  · intro vertex
    have listed : vertex ∈ workload.placement.vertices.keys ↔
        workload.placement.executes vertex = true := Table.contains_iff.symm
    simp only [← listed]
    exact Table.get?_insertAll _ _ _ _
  · have asked : (if 0 < workload.placement.duration then
          [(datacenter.pass network).1.housekeepingIn workload.duration] else []).length =
        if 0 < workload.placement.duration then 1 else 0 := by
      split <;> rfl
    simp only [arm, asked]
    rfl
  · rfl
  · rfl

/-- A submission that is refused leaves what housekeeping leaves that is not dropped, and
nothing of the workload.  One that is accepted adds the workload behind the others of its
host, its routes, housekeeping at its end and two counts, and nothing else. -/
theorem submission_is_pass (named : ∀ id host, datacenter.host? id = some host → host.id = id)
    (network : Network) (id : HostId) {workload : Workload}
    (counts : workload.placement.duration ≤ countLimit) :
    let passed := datacenter.unpaced.handle network .housekeeping
    let reaction := datacenter.handle network (.submit id workload)
    (datacenter.comesTooSoon network.now = false →
      datacenter.handle network .housekeeping = passed) ∧
    (datacenter.Refuses id workload →
      reaction.state = passed.state ∧ reaction.dispatches = passed.dispatches) ∧
    (¬ datacenter.Refuses id workload → Joins passed id workload reaction) := by
  exact ⟨handle_of_due, submit_of_refuses, fun taken => joins_of_not_refuses named taken counts⟩

/-- A workload of two seconds. -/
def visitor (id : WorkloadId) : Workload :=
  .create id (.unpinned [5] 2) (.fresh id (Engine.relay []))

def silentNetwork (now : Seconds) : Network := { registry := Registry.empty, now := now }

/-- A datacenter of one host, on which workload 7 runs. -/
def occupied : Datacenter :=
  (((create 1 1 1).addHost (Host.create 1 [1] 1)).handle (silentNetwork 0)
    (.submit 1 (visitor 7))).state

/-- The same workload is refused, another one joins it. -/
theorem submission_is_pass_visitors :
    let passed := occupied.unpaced.handle (silentNetwork 1) .housekeeping
    let again := occupied.handle (silentNetwork 1) (.submit 1 (visitor 7))
    (∀ id host, occupied.host? id = some host → host.id = id) ∧
      occupied.Refuses 1 (visitor 7) ∧ again.state = passed.state ∧
      again.dispatches = passed.dispatches ∧ ¬ occupied.Refuses 1 (visitor 8) ∧
      Joins passed 1 (visitor 8) (occupied.handle (silentNetwork 1) (.submit 1 (visitor 8))) := by
  intro passed again
  have reached : occupied.Reached :=
    .handled (.equipped (.created 1 1 1) (Host.create 1 [1] 1) ⟨1, [], rfl⟩) _ _
  have named := reached.orderly.named
  have counts (id : WorkloadId) : (visitor id).placement.duration ≤ countLimit :=
    show 2 ≤ countLimit by decide
  have known : (occupied.host? 1).all (fun host => host.scheduler.contains 7) = true ∧
      (occupied.host? 1).any (fun host => !host.scheduler.contains 8) = true := by
    decide +kernel
  have refused : occupied.Refuses 1 (visitor 7) := (Option.all_eq_true _ _).1 known.1
  have accepted : ¬ occupied.Refuses 1 (visitor 8) := by
    obtain ⟨host, found, new⟩ := (Option.any_eq_true _ _).1 known.2
    intro all
    have contained : host.scheduler.contains 8 = true := all host found
    simp [contained] at new
  obtain ⟨-, refuses, -⟩ := submission_is_pass named (silentNetwork 1) 1 (counts 7)
  obtain ⟨-, -, joins⟩ := submission_is_pass named (silentNetwork 1) 1 (counts 8)
  exact ⟨named, refused, (refuses refused).1, (refuses refused).2, accepted, joins accepted⟩

end Datacenter

end CoSimulation
