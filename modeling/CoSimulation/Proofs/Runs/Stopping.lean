import CoSimulation.Proofs.Datacenter.Raising
import CoSimulation.Proofs.Runs.Splitting

/-!
# What stops a run

`Meets` goes through the events that are due one after another and lists what each of them
raises, whatever it is.  A run follows this list and stops with an error at the first entry
that has a fatal fault or no datacenter, and nowhere else; every faulty entry before counts
as one violation.
-/

namespace CoSimulation.Simulation

/-- What comes of one event. -/
inductive Encounter where
  /-- There is no such datacenter. -/
  | stray (target : DatacenterId)
  /-- The event was handled, and these faults came up. -/
  | handled (faults : List Fault)

namespace Encounter

/-- The fault for which a run stops. -/
def stop? : Encounter → Option Fault
  | stray target => some (.unknownDatacenter target)
  | handled faults => faults.find? Fault.isFatal

def isFaulty : Encounter → Bool
  | stray _ => true
  | handled faults => !faults.isEmpty

/-- The violations that one event counts for. -/
def violations (encounter : Encounter) : Nat :=
  if encounter.stop?.isNone && encounter.isFaulty then 1 else 0

end Encounter

/-- What comes of the event that is taken from the queue. -/
def encounter (simulation : Simulation) (registry : Registry) (entry : Scheduled Event) :
    Encounter :=
  match simulation.datacenters.get? entry.target with
  | none => .stray entry.target
  | some datacenter =>
      .handled (datacenter.raised { registry := registry, now := entry.time } entry.event)

/-- The events that are due are taken one after another, whatever comes of them. -/
inductive Meets (registry : Registry) (limit : Seconds) :
    Simulation → List Encounter → Simulation → Prop where
  | nothing (simulation : Simulation) : Meets registry limit simulation [] simulation
  | next {simulation final : Simulation} {entry : Scheduled Event} {rest : EventQueue Event}
      {encounters : List Encounter} (popped : simulation.queue.pop? = some (entry, rest))
      (due : ¬ limit < entry.time)
      (later : Meets registry limit
        (({ simulation with queue := rest } : Simulation).process registry entry).2
        encounters final) :
      Meets registry limit simulation (simulation.encounter registry entry :: encounters) final

variable {registry : Registry} {limit : Seconds} {simulation next final : Simulation}
  {entry : Scheduled Event} {rest : EventQueue Event}

variable (registry) in
/-- One event stops the run as its encounter says, and counts for the violations that it
says. -/
theorem process_encounter (popped : simulation.queue.pop? = some (entry, rest)) :
    let processed := ({ simulation with queue := rest } : Simulation).process registry entry
    processed.1 = (simulation.encounter registry entry).stop? ∧
      processed.2.counters.violations =
        simulation.counters.violations + (simulation.encounter registry entry).violations := by
  have shown : rest.now = entry.time := (EventQueue.pop?_eq_some.1 popped).2
  intro processed
  simp only [processed, process, encounter, now, shown]
  cases found : simulation.datacenters.get? entry.target with
  | none => exact ⟨rfl, rfl⟩
  | some datacenter =>
      have reports := datacenter.reports { registry := registry, now := entry.time } entry.event
      dsimp only
      generalize datacenter.raised { registry := registry, now := entry.time } entry.event =
        faults at reports ⊢
      cases result : (datacenter.handle { registry := registry, now := entry.time }
          entry.event).result with
      | ok value =>
          rw [reports.ok.1 result]
          exact ⟨rfl, rfl⟩
      | error fault =>
          have worst := (reports.error fault).1 result
          have nonempty : faults ≠ [] := by
            rintro rfl
            cases worst
          dsimp only
          cases fatal : faults.find? Fault.isFatal with
          | some first =>
              rw [fatal] at worst
              cases worst
              simp [Encounter.stop?, Encounter.violations, fatal, List.find?_some fatal, absorb]
          | none =>
              rw [fatal] at worst
              have listed : fault ∈ faults := List.mem_of_mem_head? worst
              have mild : fault.isFatal = false := by
                simpa using List.find?_eq_none.1 fatal fault listed
              simp [Encounter.stop?, Encounter.violations, Encounter.isFaulty, fatal, mild,
                nonempty, absorb, violated]

/-! ## Runs and their encounters -/

theorem step?_eq_some_iff {result : Option Fault × Simulation} :
    simulation.step? registry limit = some result ↔
      ∃ entry rest, simulation.queue.pop? = some (entry, rest) ∧ ¬ limit < entry.time ∧
        ({ simulation with queue := rest } : Simulation).process registry entry = result := by
  rw [step?]
  constructor
  · intro stepped
    split at stepped
    · cases stepped
    · rename_i entry rest popped
      split at stepped
      · cases stepped
      · rename_i due
        exact ⟨entry, rest, popped, due, Option.some.inj stepped⟩
  · rintro ⟨entry, rest, popped, due, processed⟩
    simp only [popped]
    rw [if_neg due, processed]

theorem step?_eq_none_iff :
    simulation.step? registry limit = none ↔
      ∀ entry rest, simulation.queue.pop? = some (entry, rest) → limit < entry.time := by
  rw [step?]
  constructor
  · intro settled entry rest popped
    simp only [popped] at settled
    split at settled
    · rename_i late
      exact late
    · cases settled
  · intro late
    split
    · rfl
    · rename_i entry rest popped
      rw [if_pos (late entry rest popped)]

theorem violations_start (simulation : Simulation) :
    simulation.start.counters.violations = simulation.counters.violations := by
  rw [start]
  split <;> rfl

theorem Meets.violations {encounters : List Encounter}
    (meets : Meets registry limit simulation encounters final) :
    final.counters.violations =
      simulation.counters.violations + (encounters.map Encounter.violations).sum := by
  induction meets with
  | nothing => rfl
  | next popped due later induction =>
      rw [induction, (process_encounter registry popped).2, List.map_cons, List.sum_cons,
        Nat.add_assoc]

theorem sum_violations {encounters : List Encounter}
    (harmless : ∀ encounter ∈ encounters, encounter.stop? = none) :
    (encounters.map Encounter.violations).sum = encounters.countP Encounter.isFaulty := by
  induction encounters with
  | nil => rfl
  | cons first rest induction =>
      have here : first.stop? = none := harmless first List.mem_cons_self
      have there := induction fun encounter member =>
        harmless encounter (List.mem_cons_of_mem _ member)
      rw [List.map_cons, List.sum_cons, there, List.countP_cons, Encounter.violations, here]
      exact Nat.add_comm _ _

/-- A run comes to its end after harmless encounters only, when nothing is due any more. -/
theorem settles_ok_iff {time : Seconds} :
    Settles registry limit simulation (.ok time, final) ↔
      ∃ encounters, Meets registry limit simulation encounters final ∧
        (∀ encounter ∈ encounters, encounter.stop? = none) ∧
        (∀ entry rest, final.queue.pop? = some (entry, rest) → limit < entry.time) ∧
        time = final.now := by
  constructor
  · intro settles
    generalize reached : (Except.ok time, final) = outcome at settles
    induction settles with
    | done settled =>
        cases reached
        exact ⟨[], .nothing _, by simp, step?_eq_none_iff.1 settled, rfl⟩
    | stopped => cases reached
    | went stepped _ induction =>
        obtain ⟨encounters, meets, harmless, settled, same⟩ := induction reached
        obtain ⟨entry, rest, popped, due, processed⟩ := step?_eq_some_iff.1 stepped
        have stops := (process_encounter registry popped).1
        refine ⟨_ :: encounters, .next popped due (processed ▸ meets), ?_, settled, same⟩
        rw [List.forall_mem_cons]
        exact ⟨by rw [← stops, processed], harmless⟩
  · rintro ⟨encounters, meets, harmless, settled, rfl⟩
    induction meets with
    | nothing => exact .done (step?_eq_none_iff.2 settled)
    | next popped due later induction =>
        obtain ⟨here, there⟩ := List.forall_mem_cons.1 harmless
        refine .went (step?_eq_some_iff.2 ⟨_, _, popped, due, ?_⟩) (induction there settled)
        exact Prod.ext ((process_encounter registry popped).1.trans here) rfl

/-- A run stops with an error at the first encounter that does not let it go on. -/
theorem settles_error_iff {fault : Fault} :
    Settles registry limit simulation (.error fault, final) ↔
      ∃ earlier last, Meets registry limit simulation (earlier ++ [last]) final ∧
        (∀ encounter ∈ earlier, encounter.stop? = none) ∧ last.stop? = some fault := by
  constructor
  · intro settles
    generalize reached : (Except.error fault, final) = outcome at settles
    induction settles with
    | done => cases reached
    | stopped stepped =>
        cases reached
        obtain ⟨entry, rest, popped, due, processed⟩ := step?_eq_some_iff.1 stepped
        have stops := (process_encounter registry popped).1
        refine ⟨[], _, .next popped due (processed ▸ .nothing _), by simp, ?_⟩
        rw [← stops, processed]
    | went stepped _ induction =>
        obtain ⟨earlier, last, meets, harmless, stopped⟩ := induction reached
        obtain ⟨entry, rest, popped, due, processed⟩ := step?_eq_some_iff.1 stepped
        have stops := (process_encounter registry popped).1
        refine ⟨_ :: earlier, last, .next popped due (processed ▸ meets), ?_, stopped⟩
        rw [List.forall_mem_cons]
        exact ⟨by rw [← stops, processed], harmless⟩
  · rintro ⟨earlier, last, meets, harmless, stopped⟩
    induction earlier generalizing simulation with
    | nil =>
        cases meets with
        | next popped due later =>
            cases later
            refine .stopped (step?_eq_some_iff.2 ⟨_, _, popped, due, ?_⟩)
            exact Prod.ext ((process_encounter registry popped).1.trans stopped) rfl
    | cons first earlier induction =>
        cases meets with
        | next popped due later =>
            obtain ⟨here, there⟩ := List.forall_mem_cons.1 harmless
            refine .went (step?_eq_some_iff.2 ⟨_, _, popped, due, ?_⟩) (induction later there)
            exact Prod.ext ((process_encounter registry popped).1.trans here) rfl

/-- Of all faults that come up while an event is handled the first fatal one is reported,
and only if none is fatal the first one; no fault keeps a host or a workload from its turn;
and a run stops at the first event that is stray or raises a fatal fault, and counts every
faulty event before as one violation. -/
theorem fatal_faults_prevail :
    (∀ (datacenter : Datacenter) (network : Network) (event : Event),
      Datacenter.Reports (datacenter.raised network event)
        (datacenter.handle network event).result ∧
      (datacenter.Reached → datacenter.Passes network event →
        ∀ id host, datacenter.host? id = some host →
          ∃ after, (datacenter.handle network event).state.host? id = some after ∧
            Datacenter.Attended network host after
              (datacenter.handle network event).dispatches)) ∧
    ∀ (simulation : Simulation) (registry : Registry) (limit : Seconds) (final : Simulation),
      (∀ fault, simulation.Returns registry limit (.error fault, final) ↔
        ∃ earlier last, Meets registry limit simulation.start (earlier ++ [last]) final ∧
          (∀ encounter ∈ earlier, encounter.stop? = none) ∧ last.stop? = some fault ∧
          final.counters.violations =
            simulation.counters.violations + earlier.countP Encounter.isFaulty) ∧
      ∀ time, simulation.Returns registry limit (.ok time, final) ↔
        ∃ encounters, Meets registry limit simulation.start encounters final ∧
          (∀ encounter ∈ encounters, encounter.stop? = none) ∧
          (∀ entry rest, final.queue.pop? = some (entry, rest) → limit < entry.time) ∧
          time = final.now ∧
          final.counters.violations =
            simulation.counters.violations + encounters.countP Encounter.isFaulty := by
  refine ⟨fun datacenter network event => ⟨datacenter.reports network event, ?_⟩,
    fun simulation registry limit final => ⟨fun fault => ?_, fun time => ?_⟩⟩
  · exact fun reached passes id host found => reached.orderly.attended passes found
  · rw [returns_iff, settles_error_iff]
    refine exists_congr fun earlier => exists_congr fun last => and_congr_right fun meets => ?_
    refine and_congr_right fun harmless => (and_iff_left_of_imp fun stopped => ?_).symm
    have free : last.violations = 0 := by simp [Encounter.violations, stopped]
    rw [meets.violations, violations_start, List.map_append, List.sum_append,
      sum_violations harmless, List.map_singleton, List.sum_singleton, free]
    rfl
  · rw [returns_iff, settles_ok_iff]
    refine exists_congr fun encounters => and_congr_right fun meets => ?_
    refine and_congr_right fun harmless => and_congr_right fun settled => ?_
    refine (and_iff_left_of_imp fun _ => ?_).symm
    rw [meets.violations, violations_start, sum_violations harmless]

/-- Two hosts, of which the first has already been where the second is still going, and the
second has a workload that sends to a vertex nobody has placed. -/
def torn : Datacenter :=
  let network : Network := { registry := Registry.empty, now := 0 }
  let first := Workload.create 1 (Placement.unpinned [1] 8) (Engine.fresh 1 (Engine.relay []))
  let second := (Workload.create 2 (Placement.unpinned [2] 8)
    (Engine.fresh 2 (Engine.relay [(2, 9)]))).withTransport (.networked 1)
  let ahead := (Scheduler.create 0).after [.submit first, .tick network 5 [1]]
  let behind := (Scheduler.create 0).after [.submit second]
  ((Datacenter.create 1 1 0).addHost { id := 1, mips := [1], scheduler := ahead }).addHost
    { id := 2, mips := [1], scheduler := behind }

theorem fatal_faults_prevail_torn :
    let network : Network := { registry := Registry.empty, now := 3 }
    let reaction := torn.handle network .housekeeping
    torn.raised network .housekeeping =
        [.nonMonotonicTime 1 5 3, .unresolvedDestination 9] ∧
      reaction.result = .error (.unresolvedDestination 9) ∧
      torn.Reached ∧ torn.Passes network .housekeeping ∧
      ∀ id host, torn.host? id = some host →
        ∃ after, reaction.state.host? id = some after ∧
          Datacenter.Attended network host after reaction.dispatches := by
  intro network reaction
  have raised : torn.raised network .housekeeping =
      [.nonMonotonicTime 1 5 3, .unresolvedDestination 9] := by
    decide +kernel
  have reached : torn.Reached :=
    .equipped (.equipped (.created 1 1 0) _ ⟨_, _, rfl⟩) _ ⟨_, _, rfl⟩
  have passes : torn.Passes network .housekeeping := by
    change torn.comesTooSoon network.now = false
    decide +kernel
  obtain ⟨reports, attended⟩ := fatal_faults_prevail.1 torn network .housekeeping
  refine ⟨raised, (reports.error _).2 ?_, reached, passes, attended reached passes⟩
  rw [raised]
  rfl

end CoSimulation.Simulation
