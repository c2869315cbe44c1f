import CoSimulation.Proofs.Arrivals.Turns
import CoSimulation.Proofs.Datacenter.Reactions

/-!
# Relays in a datacenter

The hosts of a datacenter tick together, so the slice that a pass brings to an end began
with the pass before on each of them.  A property of workloads that turns and messages keep
is kept by everything a datacenter does, and no workload is lost.
-/

namespace CoSimulation

open Binary64

namespace Host

variable {host : Host} {now : Seconds} {network : Network} {Good : Workload → Prop}

theorem Lawful.forall_ticked (lawful : host.Lawful now) (clock : now.IsInstant)
    (turns : ∀ workload previous after handed, previous.IsInstant → previous.rank ≤ now.rank →
      workload.Turned previous after handed → Good workload → Good after)
    (good : ∀ workload ∈ host.scheduler.workloads, Good workload) :
    ∀ workload ∈ (host.ticked network now).scheduler.workloads, Good workload := by
  intro workload member
  rcases List.mem_append.1 ((ticked_workloads lawful.formed now).mem_iff.1 member) with
    turned | finished
  · rw [Scheduler.turned_eq] at turned
    obtain ⟨earlier, active, rfl⟩ := List.mem_map.1 turned
    obtain ⟨handed, turned⟩ := Workload.turned_of_running (lawful.formed.running earlier active)
      (lawful.monotone clock) network (host.scheduler.capacity host.mips)
    exact turns earlier _ _ handed lawful.instant lawful.notLater turned
      (good earlier (List.mem_append_left _ active))
  · exact good workload (List.mem_append_right _ finished)

/-- A workload stays, and so does what it answers. -/
theorem Lawful.stays_ticked (lawful : host.Lawful now) (clock : now.IsInstant)
    {workload : Workload} (member : workload ∈ host.scheduler.workloads) :
    ∃ after ∈ (host.ticked network now).scheduler.workloads,
      after.engine.respond = workload.engine.respond := by
  have every : (host.ticked network now).scheduler.workloads.Perm _ :=
    ticked_workloads lawful.formed now
  rcases List.mem_append.1 member with active | finished
  · obtain ⟨handed, turned⟩ := Workload.turned_of_running (lawful.formed.running workload active)
      (lawful.monotone clock) network (host.scheduler.capacity host.mips)
    refine ⟨_, every.mem_iff.2 (List.mem_append_left _ ?_), turned.respond⟩
    rw [Scheduler.turned_eq]
    exact List.mem_map_of_mem active
  · exact ⟨workload, every.mem_iff.2 (List.mem_append_right _ finished), rfl⟩

end Host

namespace Datacenter

/-- When the slice began that the next pass brings to an end. -/
def sliceStart (datacenter : Datacenter) : Seconds := datacenter.lastPass.getD 0

/-- The workload is on one of the hosts. -/
def Houses (datacenter : Datacenter) (workload : Workload) : Prop :=
  ∃ id host, datacenter.host? id = some host ∧ workload ∈ host.scheduler.workloads

theorem houses_of_workload? {datacenter : Datacenter} {id : WorkloadId} {workload : Workload}
    (found : datacenter.workload? id = some workload) : datacenter.Houses workload := by
  obtain ⟨host, listed, here⟩ := List.exists_of_findSome?_eq_some found
  obtain ⟨place, present⟩ := Table.mem_values.1 listed
  refine ⟨place, host, present, ?_⟩
  rw [Scheduler.workload?] at here
  split at here
  · rename_i active first
    cases here
    exact List.mem_append_left _ (List.mem_of_find?_eq_some first)
  · exact List.mem_append_right _ (Table.mem_values.2 ⟨id, here⟩)

/-- The hosts are lawful and tick together, and all workloads are good. -/
structure Keeps (now : Seconds) (Good : Workload → Prop) (datacenter : Datacenter) : Prop where
  named : ∀ id host, datacenter.host? id = some host → host.id = id
  lawful : ∀ id host, datacenter.host? id = some host → host.Lawful now
  together : ∀ id host, datacenter.host? id = some host →
    host.scheduler.previous = datacenter.sliceStart
  instant : datacenter.sliceStart.IsInstant
  notLater : datacenter.sliceStart.rank ≤ now.rank
  good : ∀ workload, datacenter.Houses workload → Good workload

section Kept

variable {datacenter after : Datacenter} {network : Network} {event : Event}
  {dispatches : List Dispatch} {now : Seconds} {Good Better : Workload → Prop}

theorem Keeps.later (keeps : datacenter.Keeps now Good) {later : Seconds}
    (le : now.rank ≤ later.rank) :
    datacenter.Keeps later Good :=
  { keeps with
    lawful := fun id host found => (keeps.lawful id host found).later le
    notLater := Int.le_trans keeps.notLater le }

theorem Keeps.mono (keeps : datacenter.Keeps now Good)
    (better : ∀ workload, datacenter.Houses workload → Good workload → Better workload) :
    datacenter.Keeps now Better :=
  { keeps with good := fun workload housed => better workload housed (keeps.good workload housed) }

theorem Keeps.collected (keeps : datacenter.Keeps now Good) :
    ({ datacenter with completed := [] } : Datacenter).Keeps now Good :=
  ⟨keeps.named, keeps.lawful, keeps.together, keeps.instant, keeps.notLater, keeps.good⟩

theorem previous_ticked (host : Host) (network : Network) (time : Seconds) :
    (host.ticked network time).scheduler.previous = time :=
  Scheduler.tick_previous host.scheduler network time host.mips

/-- A workload stays on its host if the host's next scheduler keeps it. -/
theorem Houses.reschedule {workload : Workload} (housed : datacenter.Houses workload)
    {id : HostId} {host : Host} {next : Scheduler} (found : datacenter.host? id = some host)
    (stays : workload ∈ host.scheduler.workloads →
      ∃ kept ∈ next.workloads, kept.engine.respond = workload.engine.respond) :
    ∃ kept, (datacenter.reschedule id host next).Houses kept ∧
      kept.engine.respond = workload.engine.respond := by
  obtain ⟨place, owner, present, member⟩ := housed
  by_cases same : place = id
  · subst same
    cases found.symm.trans present
    obtain ⟨kept, here, answers⟩ := stays member
    exact ⟨kept, ⟨place, _, by rw [host?_reschedule, if_pos rfl], here⟩, answers⟩
  · exact ⟨workload, ⟨place, owner, by rw [host?_reschedule, if_neg same, present], member⟩, rfl⟩

namespace Reacts

variable (reacts : datacenter.Reacts network event after dispatches)
include reacts

theorem sliceStart_eq :
    after.sliceStart = datacenter.sliceStart ∨ after.sliceStart = network.now := by
  cases reacts with
  | skipped | delivered | refused => exact .inl rfl
  | passed | accepted => exact .inr rfl

theorem together (lawful : ∀ id host, datacenter.host? id = some host → host.Lawful now)
    (before : ∀ id host, datacenter.host? id = some host →
      host.scheduler.previous = datacenter.sliceStart) :
    ∀ id host, after.host? id = some host → host.scheduler.previous = after.sliceStart := by
  have passed : ∀ id host, (datacenter.pass network).1.host? id = some host →
      host.scheduler.previous = network.now := by
    intro id host found
    obtain ⟨earlier, -, rfl⟩ := of_host?_pass found
    exact previous_ticked earlier network network.now
  cases reacts with
  | skipped | refused => exact before
  | passed => exact passed
  | accepted found taken =>
      intro id other present
      rcases Table.of_get?_insert present with ⟨-, rfl⟩ | ⟨-, old⟩
      · have same := passed _ _ found
        obtain ⟨-, -, rfl⟩ := Scheduler.submit_eq_ok taken
        exact same
      · exact passed id other old
  | delivered routed found taken =>
      intro id other present
      rcases Table.of_get?_insert present with ⟨-, rfl⟩ | ⟨-, old⟩
      · exact ((lawful _ _ found).formed.delivered taken).previous.trans (before _ _ found)
      · exact before id other old

/-- Hosts stay lawful, and a property of workloads stays that turns and messages keep. -/
theorem forall_workload (clock : network.now.IsInstant)
    (turns : ∀ workload previous after handed, previous.IsInstant →
      previous.rank ≤ network.now.rank → workload.Turned previous after handed →
        Good workload → Good after)
    (submits : ∀ id workload, event = .submit id workload →
      workload.finished = false ∧ Good workload)
    (receives : ∀ message, event = .deliver message →
      ∀ workload, Good workload → Good (workload.receive message))
    (before : ∀ id host, datacenter.host? id = some host →
      host.Lawful network.now ∧ ∀ workload ∈ host.scheduler.workloads, Good workload) :
    ∀ id host, after.host? id = some host →
      host.Lawful network.now ∧ ∀ workload ∈ host.scheduler.workloads, Good workload := by
  apply reacts.forall_host fun host =>
    host.Lawful network.now ∧ ∀ workload ∈ host.scheduler.workloads, Good workload
  · rintro host ⟨lawful, good⟩
    exact ⟨lawful.ticked clock, lawful.forall_ticked clock turns good⟩
  · rintro id workload brought host estimate next ⟨lawful, good⟩ taken
    obtain ⟨running, new⟩ := submits id workload brought
    refine ⟨lawful.submit running taken, fun found member => ?_⟩
    obtain ⟨-, -, rfl⟩ := Scheduler.submit_eq_ok taken
    simp only [Scheduler.workloads, List.mem_append, List.mem_singleton] at member good
    grind
  · rintro message brought host id next ⟨lawful, good⟩ taken
    have delivered := lawful.formed.delivered taken
    refine ⟨lawful.deliver delivered, fun found member => ?_⟩
    rcases delivered.of_mem_workloads member with old | ⟨workload, old, rfl⟩
    · exact good found old
    · exact receives message brought workload (good workload old)
  · exact before

theorem keeps (clock : network.now.IsInstant)
    (turns : ∀ workload previous after handed, previous.IsInstant →
      previous.rank ≤ network.now.rank → workload.Turned previous after handed →
        Good workload → Good after)
    (submits : ∀ id workload, event = .submit id workload →
      workload.finished = false ∧ Good workload)
    (receives : ∀ message, event = .deliver message →
      ∀ workload, Good workload → Good (workload.receive message))
    (before : datacenter.Keeps network.now Good) : after.Keeps network.now Good := by
  have kept := reacts.forall_workload clock turns submits receives fun id host found =>
    ⟨before.lawful id host found, fun workload member =>
      before.good workload ⟨id, host, found, member⟩⟩
  constructor
  · exact reacts.named before.named
  · exact fun id host found => (kept id host found).1
  · exact reacts.together before.lawful before.together
  · rcases reacts.sliceStart_eq with same | passed
    · exact same ▸ before.instant
    · exact passed ▸ clock
  · rcases reacts.sliceStart_eq with same | passed
    · exact same ▸ before.notLater
    · exact Int.le_of_eq (congrArg rank passed)
  · rintro workload ⟨id, host, found, member⟩
    exact (kept id host found).2 workload member

/-- No workload is lost. -/
theorem houses (clock : network.now.IsInstant) (keeps : datacenter.Keeps network.now Good)
    {workload : Workload} (housed : datacenter.Houses workload) :
    ∃ kept, after.Houses kept ∧ kept.engine.respond = workload.engine.respond := by
  have passed : ∃ kept, (datacenter.pass network).1.Houses kept ∧
      kept.engine.respond = workload.engine.respond := by
    obtain ⟨id, host, found, member⟩ := housed
    obtain ⟨kept, stays, same⟩ := (keeps.lawful id host found).stays_ticked clock member
    exact ⟨kept, ⟨id, _, host?_pass found, stays⟩, same⟩
  cases reacts with
  | skipped | refused => exact ⟨workload, housed, rfl⟩
  | passed => exact passed
  | @accepted _ _ _ _ next found taken =>
      obtain ⟨earlier, housed, same⟩ := passed
      obtain ⟨before, present, rfl⟩ := of_host?_pass found
      have named : (before.ticked network network.now).id = _ := keeps.named _ before present
      have stays : earlier ∈ (before.ticked network network.now).scheduler.workloads →
          ∃ kept ∈ next.workloads, kept.engine.respond = earlier.engine.respond := by
        intro member
        obtain ⟨-, -, rfl⟩ := Scheduler.submit_eq_ok taken
        refine ⟨earlier, ?_, rfl⟩
        simp only [Scheduler.workloads, List.mem_append] at member ⊢
        tauto
      obtain ⟨kept, here, again⟩ := housed.reschedule (named ▸ found) stays
      exact ⟨kept, here, again.trans same⟩
  | delivered routed found taken =>
      have delivered := (keeps.lawful _ _ found).formed.delivered taken
      apply housed.reschedule found
      intro member
      rcases delivered.mem_workloads member with stays | received
      · exact ⟨workload, stays, rfl⟩
      · exact ⟨_, received, by rw [Workload.engine_receive]⟩

/-- Besides housekeeping, nothing is dispatched but what relays on the hosts send. -/
theorem relays (clock : network.now.IsInstant) {delay : Seconds}
    {known : VertexId → VertexId → Prop}
    (keeps : datacenter.Keeps network.now (Workload.Steady delay known)) {dispatch : Dispatch}
    (member : dispatch ∈ dispatches) :
    dispatch.event = .housekeeping ∨
      ∃ workload routes, datacenter.Houses workload ∧
        workload.engine.respond = Engine.relay routes ∧
          Workload.Relays routes (Workload.stamp delay datacenter.sliceStart) network.now
            dispatch := by
  rcases reacts.mem_dispatches member with sent | ⟨-, own⟩
  · obtain ⟨host, listed, sent⟩ := List.mem_flatMap.1 sent
    obtain ⟨id, found⟩ := Table.mem_values.1 listed
    obtain ⟨turn, taken, sent⟩ := List.mem_flatMap.1 sent
    obtain ⟨workload, active, rfl⟩ := List.mem_map.1 taken
    have lawful := keeps.lawful id host found
    have housed : datacenter.Houses workload :=
      ⟨id, host, found, List.mem_append_left _ active⟩
    have steady := keeps.good workload housed
    obtain ⟨routes, relay⟩ := steady.relays
    refine .inr ⟨workload, routes, housed, relay, ?_⟩
    rw [← keeps.together id host found]
    exact Workload.relays_of_mem_turn (lawful.formed.running workload active)
      (lawful.monotone clock) steady.transport relay sent
  · exact .inl own

end Reacts

end Kept

end Datacenter

end CoSimulation
