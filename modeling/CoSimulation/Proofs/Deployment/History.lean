import CoSimulation.Proofs.Deployment.Assembly

/-!
# The passes of a run

A submission makes its datacenter pass over all its hosts, and so does housekeeping
unless it comes too soon.  `passes` lists the passes that operations lead to, in order,
each with its time and with the workload that was accepted after it, if it was a
submission's.  What a step keeps together with the passes that it adds holds of the
whole list and the deployment after any operations.
-/

namespace CoSimulation

/-- A pass of a datacenter over its hosts. -/
structure Pass where
  datacenter : DatacenterId
  time : Seconds
  /-- The workload that was accepted after the pass, and its host. -/
  accepted : Option (HostId × Workload)

namespace Datacenter

/-- Whether a workload is accepted on a host: the host is here, and the workload is new to
it. -/
def accepts (datacenter : Datacenter) (host : HostId) (workload : WorkloadId) : Bool :=
  match datacenter.host? host with
  | some found => !found.scheduler.contains workload
  | none => false

/-- The pass that is made to handle an event, if it takes one. -/
def passFor (datacenter : Datacenter) (entry : Scheduled Event) : Option Pass :=
  match entry.event with
  | .submit host workload =>
      some
        { datacenter := entry.target
          time := entry.time
          accepted :=
            if datacenter.accepts host workload.id then some (host, workload) else none }
  | .housekeeping =>
      if datacenter.comesTooSoon entry.time then none
      else some { datacenter := entry.target, time := entry.time, accepted := none }
  | .deliver _ => none

end Datacenter

namespace Simulation

/-- The pass that is made when the next event is handled. -/
def nextPass? (simulation : Simulation) : Option Pass :=
  match simulation.queue.pop? with
  | none => none
  | some (entry, _) =>
      (simulation.datacenters.get? entry.target).bind fun datacenter =>
        datacenter.passFor entry

/-- The passes that are made while events are handled until none is due up to `limit`, a
fault stops the run or `bound` events were handled. -/
def passes (registry : Registry) (limit : Seconds) : Nat → Simulation → List Pass
  | 0, _ => []
  | bound + 1, simulation =>
      match simulation.step? registry limit with
      | none => []
      | some (some _, _) => simulation.nextPass?.toList
      | some (none, next) => simulation.nextPass?.toList ++ passes registry limit bound next

end Simulation

namespace Deployment

def passesOf (deployment : Deployment) : Operation → List Pass
  | .run limit bound =>
      deployment.simulation.start.passes deployment.broker.registry limit bound
  | .queue .. | .submit | .reclaim .. => []

/-- The passes that are made while operations are performed, in order. -/
def passes (deployment : Deployment) : List Operation → List Pass
  | [] => []
  | operation :: rest =>
      deployment.passesOf operation ++ (deployment.perform operation).2.passes rest

/-! ## Steps with their passes -/

/-- A step and the passes that are made in it. -/
inductive Recorded : Deployment → List Pass → Deployment → Prop where
  | quiet {before after : Deployment} {fault : Option Fault} (step : Step before fault after)
      (same : after.simulation.datacenters = before.simulation.datacenters) :
      Recorded before [] after
  | ran {deployment : Deployment} {limit : Seconds} {fault : Option Fault}
      {next : Simulation} (running : deployment.simulation.started = true)
      (stepped : deployment.simulation.step? deployment.broker.registry limit =
        some (fault, next)) :
      Recorded deployment deployment.simulation.nextPass?.toList
        { deployment with simulation := next }
  | reclaimed (deployment : Deployment) (datacenter : DatacenterId)
      (workload : WorkloadId) :
      Recorded deployment [] (deployment.reclaim datacenter workload).2

theorem Recorded.step {before after : Deployment} {made : List Pass}
    (recorded : Recorded before made after) : ∃ fault, Step before fault after := by
  cases recorded with
  | quiet step => exact ⟨_, step⟩
  | ran running stepped => exact ⟨_, .ran running stepped⟩
  | reclaimed datacenter workload => exact ⟨_, .reclaimed before datacenter workload⟩

inductive History : Deployment → List Pass → Deployment → Prop where
  | refl (deployment : Deployment) : History deployment [] deployment
  | head {first second third : Deployment} {made more : List Pass} :
      Recorded first made second → History second more third →
      History first (made ++ more) third

namespace History

variable {first second third : Deployment} {early late : List Pass}

theorem trans (history : History first early second) (more : History second late third) :
    History first (early ++ late) third := by
  induction history with
  | refl => exact more
  | head recorded _ induction =>
      rw [List.append_assoc]
      exact .head recorded (induction more)

theorem single (recorded : Recorded first early second) : History first early second := by
  rw [← List.append_nil early]
  exact .head recorded (.refl second)

/-- What every step keeps of the passes so far and the deployment holds in the end. -/
theorem keep (history : History first late second)
    (property : List Pass → Deployment → Prop)
    (kept : ∀ {earlier made before after}, property earlier before →
      Recorded before made after → property (earlier ++ made) after)
    (holds : property early first) : property (early ++ late) second := by
  induction history generalizing early with
  | refl =>
      rw [List.append_nil]
      exact holds
  | head recorded _ induction =>
      rw [← List.append_assoc]
      exact induction (kept holds recorded)

end History

/-! ## Operations are made of them -/

theorem foldl_consider_history {workloads : List Workload} {deployment : Deployment}
    (issued : ∀ workload ∈ workloads, deployment.Issued workload) :
    History deployment [] (workloads.foldl consider deployment) := by
  induction workloads generalizing deployment with
  | nil => exact .refl deployment
  | cons workload workloads induction =>
      have considered := Broker.consider_considered deployment.simulation.owns
        deployment.broker workload
      have first : Recorded deployment [] (deployment.consider workload) :=
        .quiet (.considered (issued workload List.mem_cons_self) considered) rfl
      exact .head first
        (induction fun other member => issued other (List.mem_cons_of_mem _ member))

theorem advance_history {deployment : Deployment} {limit : Seconds} {bound : Nat}
    (running : deployment.simulation.started = true) :
    History deployment
      (deployment.simulation.passes deployment.broker.registry limit bound)
      { deployment with
        simulation :=
          (deployment.simulation.advance deployment.broker.registry limit bound).2 } := by
  induction bound generalizing deployment with
  | zero => exact .refl deployment
  | succ bound induction =>
      rw [Simulation.advance, Simulation.passes]
      cases stepped : deployment.simulation.step? deployment.broker.registry limit with
      | none => exact .refl deployment
      | some outcome =>
          obtain ⟨fault, next⟩ := outcome
          have recorded := Recorded.ran running stepped
          cases fault with
          | some fault => exact .single recorded
          | none =>
              let after : Deployment := { deployment with simulation := next }
              have still : after.simulation.started = true :=
                (Simulation.started_of_step? stepped).trans running
              exact .head recorded (induction still)

theorem perform_history {deployment : Deployment} (waits : deployment.WaitsIssued)
    (operation : Operation) :
    History deployment (deployment.passesOf operation) (deployment.perform operation).2 := by
  cases operation with
  | queue id placement label respond =>
      exact .single (.quiet (.queued deployment id placement label respond) rfl)
  | submit =>
      have issued : ∀ workload ∈ deployment.broker.pending,
          deployment.gathered.Issued workload := waits
      rw [perform, submit_eq]
      exact .head (.quiet (.gathered deployment) rfl) (foldl_consider_history issued)
  | run limit bound =>
      have same : deployment.simulation.start.datacenters =
          deployment.simulation.datacenters := by
        rw [Simulation.start]
        split <;> rfl
      exact .head (.quiet (.started deployment) same)
        (advance_history (Simulation.started_start _))
  | reclaim datacenter workload => exact .single (.reclaimed deployment datacenter workload)

theorem after_history {deployment : Deployment} (waits : deployment.WaitsIssued)
    (operations : List Operation) :
    History deployment (deployment.passes operations) (deployment.after operations) := by
  induction operations generalizing deployment with
  | nil => exact .refl deployment
  | cons operation operations induction =>
      exact (perform_history waits operation).trans
        (induction (perform_steps waits operation).2)

/-- What holds at first and is kept by the steps of a consistent deployment, with the passes
that they add, holds after any operations. -/
theorem Assembled.history_induction {configuration : Configuration} {deployment : Deployment}
    (assembled : Assembled configuration deployment)
    (property : List Pass → Deployment → Prop) (initially : property [] deployment)
    (kept : ∀ {earlier made before after}, before.Consistent → Recorded before made after →
      property earlier before → property (earlier ++ made) after)
    (operations : List Operation) :
    property (deployment.passes operations) (deployment.after operations) := by
  have both := (after_history assembled.waitsIssued operations).keep
    (fun made reached => reached.Consistent ∧ property made reached)
    (fun {earlier made before after} holds recorded => by
      obtain ⟨fault, step⟩ := recorded.step
      exact ⟨holds.1.step step, kept holds.1 recorded holds.2⟩)
    ⟨assembled.consistent, initially⟩
  exact both.2

end Deployment

/-! ## The passes are those that the datacenters count -/

namespace Datacenter

/-- How many passes, and how many of them before a workload was accepted. -/
def passCounts (datacenter : Datacenter) : Nat × Nat :=
  (datacenter.counters.passes, datacenter.counters.submissions)

variable {datacenter : Datacenter} {network : Network} {now : Seconds}

theorem Lawful.contains_ticked (lawful : datacenter.Lawful now) {id : HostId} {host : Host}
    (found : datacenter.host? id = some host) (workload : WorkloadId) :
    (host.ticked network network.now).scheduler.contains workload =
      host.scheduler.contains workload := by
  rw [Bool.eq_iff_iff, Scheduler.contains_iff, Scheduler.contains_iff]
  exact (Host.ticked_identities (lawful.hosts id host found).formed network.now).mem_iff

theorem Lawful.accepts_of_submit (lawful : datacenter.Lawful now) {id : HostId} {host : Host}
    (found : (datacenter.pass network).1.host? id = some host) {workload : Workload}
    {estimate : Seconds} {next : Scheduler}
    (taken : host.scheduler.submit workload = .ok (estimate, next)) :
    datacenter.accepts id workload.id = true := by
  obtain ⟨before, present, rfl⟩ := of_host?_pass found
  have unknown := (Scheduler.submit_eq_ok taken).1
  rw [← Scheduler.contains_iff, lawful.contains_ticked present] at unknown
  simpa [accepts, present] using unknown

theorem Lawful.passCounts_submit (lawful : datacenter.Lawful now) (id : HostId)
    (workload : Workload) :
    (datacenter.submit network id workload).state.passCounts =
      (datacenter.counters.passes + 1,
        datacenter.counters.submissions +
          if datacenter.accepts id workload.id then 1 else 0) := by
  rw [submit, accepts]
  cases found : datacenter.host? id with
  | none =>
      have missing : (datacenter.pass network).1.host? id = none := by
        cases present : (datacenter.pass network).1.host? id with
        | none => rfl
        | some after =>
            obtain ⟨host, before, -⟩ := of_host?_pass present
            rw [found] at before
            cases before
      simp only [missing]
      rfl
  | some host =>
      have same : (host.ticked network network.now).scheduler.contains workload.id =
          host.scheduler.contains workload.id := lawful.contains_ticked found workload.id
      cases known : host.scheduler.contains workload.id with
      | true =>
          have refused : (host.ticked network network.now).scheduler.submit workload =
              .error (.duplicateWorkload workload.id) := by
            rw [Scheduler.submit, same, known]
            rfl
          simp only [host?_pass found, refused, known]
          rfl
      | false =>
          have new : workload.id ∉ (host.ticked network network.now).scheduler.identities := by
            rw [← Scheduler.contains_iff, same, known]
            exact Bool.false_ne_true
          simp only [host?_pass found, Scheduler.submit_of_not_mem new, known]
          rfl

theorem passCounts_deliver (message : Message) :
    (datacenter.handle network (.deliver message)).state.passCounts = datacenter.passCounts := by
  rw [handle, deliver]
  cases datacenter.route? message.destVertex with
  | none => rfl
  | some route =>
      simp only
      cases datacenter.host? route.host with
      | none => rfl
      | some host =>
          simp only
          cases host.scheduler.deliver route.workload message <;> rfl

theorem Lawful.passCounts_handle (lawful : datacenter.Lawful now) (target : DatacenterId)
    (event : Event) :
    (datacenter.handle network event).state.passCounts =
      match datacenter.passFor { time := network.now, target := target, event := event } with
      | none => datacenter.passCounts
      | some pass =>
          (datacenter.counters.passes + 1,
            datacenter.counters.submissions + if pass.accepted.isSome then 1 else 0) := by
  cases event with
  | submit id workload =>
      rw [handle, lawful.passCounts_submit]
      simp only [passFor]
      cases datacenter.accepts id workload.id <;> rfl
  | housekeeping =>
      rw [handle, housekeeping]
      simp only [passFor]
      cases datacenter.comesTooSoon network.now <;> rfl
  | deliver message => exact passCounts_deliver message

end Datacenter

namespace Simulation

theorem nextPass?_eq {simulation : Simulation} {entry : Scheduled Event}
    {rest : EventQueue Event} {datacenter : Datacenter}
    (popped : simulation.queue.pop? = some (entry, rest))
    (found : simulation.datacenters.get? entry.target = some datacenter) :
    simulation.nextPass? = datacenter.passFor entry := by
  rw [nextPass?, popped]
  simp only [found, Option.bind_some]

end Simulation

theorem Datacenter.target_of_passFor {datacenter : Datacenter} {entry : Scheduled Event}
    {pass : Pass} (made : datacenter.passFor entry = some pass) :
    pass.datacenter = entry.target ∧ pass.time = entry.time := by
  rw [passFor] at made
  split at made
  · cases made
    exact ⟨rfl, rfl⟩
  · split at made
    · cases made
    · cases made
      exact ⟨rfl, rfl⟩
  · cases made

namespace Deployment

/-- The passes are counted by their datacenters, and those that were made for an accepted
workload once more. -/
def Counts (made : List Pass) (deployment : Deployment) : Prop :=
  ∀ id datacenter, deployment.simulation.datacenters.get? id = some datacenter →
    datacenter.counters.passes = made.countP (fun pass => pass.datacenter = id) ∧
      datacenter.counters.submissions =
        made.countP fun pass => pass.datacenter = id ∧ pass.accepted.isSome

theorem Counts.ran {earlier : List Pass} {deployment : Deployment}
    (counts : Counts earlier deployment) (consistent : deployment.Consistent)
    {limit : Seconds} {fault : Option Fault} {next : Simulation}
    (stepped : deployment.simulation.step? deployment.broker.registry limit =
      some (fault, next)) :
    Counts (earlier ++ deployment.simulation.nextPass?.toList)
      { deployment with simulation := next } := by
  obtain ⟨entry, rest, datacenter, popped, -, found, absorbed⟩ :=
    Simulation.step?_eq_some consistent.targets stepped
  let network : Network := { registry := deployment.broker.registry, now := entry.time }
  have handled : (datacenter.handle network entry.event).state.passCounts =
      match datacenter.passFor entry with
      | none => datacenter.passCounts
      | some pass =>
          (datacenter.counters.passes + 1,
            datacenter.counters.submissions + if pass.accepted.isSome then 1 else 0) :=
    (consistent.lawful _ _ found).passCounts_handle entry.target entry.event
  rw [Simulation.nextPass?_eq popped found]
  intro id other present
  rcases absorbed.get?_datacenter present with ⟨rfl, rfl⟩ | ⟨different, old⟩
  · obtain ⟨passes, submissions⟩ := counts _ _ found
    cases made : datacenter.passFor entry with
    | none =>
        rw [made] at handled
        obtain ⟨samePasses, sameSubmissions⟩ := Prod.mk.inj handled
        rw [Option.toList_none, List.append_nil]
        exact ⟨samePasses.trans passes, sameSubmissions.trans submissions⟩
    | some pass =>
        rw [made] at handled
        obtain ⟨onePass, oneSubmission⟩ := Prod.mk.inj handled
        have here := (Datacenter.target_of_passFor made).1
        constructor
        · rw [List.countP_append, ← passes]
          simpa [here] using onePass
        · rw [List.countP_append, ← submissions]
          simpa [here, List.countP_cons] using oneSubmission
  · obtain ⟨passes, submissions⟩ := counts _ _ old
    have elsewhere : ∀ pass ∈ (datacenter.passFor entry).toList, pass.datacenter ≠ id := by
      intro pass member same
      have here := Datacenter.target_of_passFor (Option.mem_toList.1 member)
      exact different (same.symm.trans here.1)
    constructor
    · rw [List.countP_append, ← passes, List.countP_eq_zero.2]
      · rfl
      · simpa using elsewhere
    · rw [List.countP_append, ← submissions, List.countP_eq_zero.2]
      · rfl
      · intro pass member
        simp [elsewhere pass member]

theorem Counts.recorded {earlier made : List Pass} {before after : Deployment}
    (counts : Counts earlier before) (consistent : before.Consistent)
    (recorded : Recorded before made after) : Counts (earlier ++ made) after := by
  cases recorded with
  | quiet step same =>
      rw [List.append_nil]
      intro id datacenter found
      rw [same] at found
      exact counts id datacenter found
  | ran running stepped => exact counts.ran consistent stepped
  | reclaimed id workload =>
      rw [List.append_nil]
      rcases consistent.reclaim_cases id workload with
        same | ⟨datacenter, owner, host, returned, scheduler, found, present, handed, same⟩
      · rw [same]
        exact counts
      · rw [same]
        intro other next replaced
        rcases Table.of_get?_insert replaced with ⟨rfl, rfl⟩ | ⟨-, old⟩
        · have counted := counts other datacenter found
          exact counted
        · exact counts other _ old

theorem Assembled.counts_after {configuration : Configuration} {deployment : Deployment}
    (assembled : Assembled configuration deployment) (operations : List Operation) :
    Counts (deployment.passes operations) (deployment.after operations) := by
  refine assembled.history_induction Counts ?_
    (fun consistent recorded counts => counts.recorded consistent recorded) operations
  intro id datacenter found
  obtain ⟨settings, -, -, rfl⟩ := assembled.of_get?_datacenter found
  rw [DatacenterSettings.build_eq]
  exact ⟨rfl, rfl⟩

end Deployment

end CoSimulation
