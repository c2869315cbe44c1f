import CoSimulation.Proofs.Deployment.Steps
import CoSimulation.Proofs.Isolation

/-!
# Runs that return

`Settles` says what a run that comes to its end leaves behind, without counting its
events.  An event that is due up to a limit is due up to every later one, so a run up to
the later limit begins with the run up to the sooner one, and a run may be split anywhere.
-/

namespace CoSimulation.Simulation

variable {registry : Registry} {limit sooner later : Seconds} {simulation next : Simulation}
  {outcome : Except Fault Seconds × Simulation}

/-- The outcome of handling events until none is due or a fault stops the run. -/
inductive Settles (registry : Registry) (limit : Seconds) :
    Simulation → Except Fault Seconds × Simulation → Prop where
  | done {simulation : Simulation} (settled : simulation.step? registry limit = none) :
      Settles registry limit simulation (.ok simulation.now, simulation)
  | stopped {simulation next : Simulation} {fault : Fault}
      (stepped : simulation.step? registry limit = some (some fault, next)) :
      Settles registry limit simulation (.error fault, next)
  | went {simulation next : Simulation} {outcome : Except Fault Seconds × Simulation}
      (stepped : simulation.step? registry limit = some (none, next))
      (rest : Settles registry limit next outcome) :
      Settles registry limit simulation outcome

/-- The run returns after finitely many events, with its result and what it leaves. -/
def Returns (simulation : Simulation) (registry : Registry) (limit : Seconds)
    (outcome : Except Fault Seconds × Simulation) : Prop :=
  ∃ bound, simulation.runUntil? registry limit bound = some outcome

theorem settles_of_continue? {bound : Nat}
    (ran : continue? registry limit bound simulation = some outcome) :
    Settles registry limit simulation outcome := by
  induction bound generalizing simulation with
  | zero => cases ran
  | succ bound induction =>
      rw [continue?] at ran
      split at ran
      · rename_i settled
        cases ran
        exact .done settled
      · rename_i stepped
        cases ran
        exact .stopped stepped
      · rename_i stepped
        exact .went stepped (induction ran)

theorem Settles.continue? (settles : Settles registry limit simulation outcome) :
    ∃ bound, Simulation.continue? registry limit bound simulation = some outcome := by
  induction settles with
  | done settled => exact ⟨1, by rw [Simulation.continue?, settled]⟩
  | stopped stepped => exact ⟨1, by rw [Simulation.continue?, stepped]⟩
  | went stepped _ induction =>
      obtain ⟨bound, ran⟩ := induction
      refine ⟨bound + 1, ?_⟩
      rw [Simulation.continue?, stepped]
      exact ran

theorem returns_iff :
    simulation.Returns registry limit outcome ↔
      Settles registry limit simulation.start outcome :=
  ⟨fun ⟨_, ran⟩ => settles_of_continue? ran, Settles.continue?⟩

/-- A run has one outcome. -/
theorem Settles.unique {other : Except Fault Seconds × Simulation}
    (settles : Settles registry limit simulation outcome)
    (again : Settles registry limit simulation other) : other = outcome := by
  induction settles with
  | done settled =>
      cases again with
      | done => rfl
      | stopped stepped | went stepped => cases settled.symm.trans stepped
  | stopped stepped =>
      cases again with
      | done settled => cases settled.symm.trans stepped
      | stopped also =>
          cases stepped.symm.trans also
          rfl
      | went also => cases stepped.symm.trans also
  | went stepped _ induction =>
      cases again with
      | done settled => cases settled.symm.trans stepped
      | stopped also => cases stepped.symm.trans also
      | went also rest =>
          cases stepped.symm.trans also
          exact induction rest

theorem Settles.started (settles : Settles registry limit simulation outcome) :
    outcome.2.started = simulation.started := by
  induction settles with
  | done => rfl
  | stopped stepped => exact started_of_step? stepped
  | went stepped _ induction => exact induction.trans (started_of_step? stepped)

theorem start_of_started (started : simulation.started = true) : simulation.start = simulation := by
  rw [start, if_pos started]

/-- What is handled up to a limit is handled in the same way up to a later one. -/
theorem step?_of_le (order : sooner ≤ later) {result : Option Fault × Simulation}
    (stepped : simulation.step? registry sooner = some result) :
    simulation.step? registry later = some result := by
  rw [step?] at stepped ⊢
  split at stepped
  · cases stepped
  · rename_i entry rest popped
    split at stepped
    · cases stepped
    · rename_i due
      have stillDue : ¬ later < entry.time := by
        intro after
        obtain ⟨soonerNumeric, -, below⟩ := Binary64.le_iff.1 order
        obtain ⟨-, timeNumeric, above⟩ := Binary64.lt_iff.1 after
        exact due (Binary64.lt_iff.2 ⟨soonerNumeric, timeNumeric, Int.lt_of_le_of_lt below above⟩)
      rw [if_neg stillDue]
      exact stepped

/-- A run up to the later limit goes on where the run up to the sooner one has ended. -/
theorem Settles.resumes (order : sooner ≤ later) {time : Seconds} {middle : Simulation}
    (settles : Settles registry sooner simulation (.ok time, middle)) :
    Settles registry later simulation outcome ↔ Settles registry later middle outcome := by
  generalize reached : (Except.ok time, middle) = first at settles
  induction settles with
  | done =>
      cases reached
      exact Iff.rfl
  | stopped => cases reached
  | went stepped _ induction =>
      rw [← induction reached]
      have along := step?_of_le order stepped
      constructor
      · intro longer
        cases longer with
        | done settled => cases settled.symm.trans along
        | stopped also => cases along.symm.trans also
        | went also rest =>
            cases along.symm.trans also
            exact rest
      · exact .went along

theorem Settles.fails (order : sooner ≤ later) {fault : Fault} {final : Simulation}
    (settles : Settles registry sooner simulation (.error fault, final)) :
    Settles registry later simulation (.error fault, final) := by
  generalize reached : (Except.error fault, final) = last at settles ⊢
  induction settles with
  | done => cases reached
  | stopped stepped => exact .stopped (step?_of_le order stepped)
  | went stepped _ induction => exact .went (step?_of_le order stepped) (induction reached)

/-- After a run that ended well, running on up to a later limit does what running up to
that limit at once does; and a fault that stops a run stops every longer run, too. -/
theorem returns_split (order : sooner ≤ later) (simulation : Simulation) (registry : Registry) :
    (∀ time middle, simulation.Returns registry sooner (.ok time, middle) →
      ∀ outcome, middle.Returns registry later outcome ↔
        simulation.Returns registry later outcome) ∧
    ∀ fault final, simulation.Returns registry sooner (.error fault, final) →
      ∀ outcome, simulation.Returns registry later outcome ↔ outcome = (.error fault, final) := by
  refine ⟨fun time middle returned outcome => ?_, fun fault final returned outcome => ?_⟩
  · rw [returns_iff] at returned
    have running : middle.started = true := by
      rw [returned.started, started_start]
    rw [returns_iff, returns_iff, start_of_started running]
    exact (returned.resumes order).symm
  · rw [returns_iff] at returned ⊢
    have longer := returned.fails order
    constructor
    · exact longer.unique
    · rintro rfl
      exact longer

theorem exists_returns_ok (bound : Nat) {time : Seconds}
    (ended : (simulation.runUntil? registry limit bound).map (fun outcome =>
      outcome.1.toOption) = some (some time)) :
    ∃ final, simulation.Returns registry limit (.ok time, final) := by
  obtain ⟨⟨reached, final⟩, ran, same⟩ := Option.map_eq_some_iff.1 ended
  cases reached with
  | error fault => cases same
  | ok reached =>
      cases same
      exact ⟨final, bound, ran⟩

theorem exists_returns_error (bound : Nat) {fault : Fault}
    (ended : (simulation.runUntil? registry limit bound).map (fun outcome =>
      match outcome.1 with
      | .ok _ => none
      | .error fault => some fault) = some (some fault)) :
    ∃ final, simulation.Returns registry limit (.error fault, final) := by
  obtain ⟨⟨reached, final⟩, ran, same⟩ := Option.map_eq_some_iff.1 ended
  cases reached with
  | ok time => cases same
  | error raised =>
      cases same
      exact ⟨final, bound, ran⟩

/-- Two datacenters at work, and an event for a third one that does not exist. -/
def strayed : Simulation :=
  { neighbours with
    queue := neighbours.queue.dispatch [{ target := 9, delay := 3, event := .housekeeping }] }

theorem returns_split_strayed :
    (1 : Seconds) ≤ 2 ∧ (3 : Seconds) ≤ 4 ∧
      ∃ middle final last, strayed.Returns Registry.empty 1 (.ok 1, middle) ∧
        strayed.Returns Registry.empty 2 (.ok 2, final) ∧
        middle.Returns Registry.empty 2 (.ok 2, final) ∧
        strayed.Returns Registry.empty 3 (.error (.unknownDatacenter 9), last) ∧
        strayed.Returns Registry.empty 4 (.error (.unknownDatacenter 9), last) := by
  have soon : (1 : Seconds) ≤ 2 := by decide +kernel
  have late : (3 : Seconds) ≤ 4 := by decide +kernel
  obtain ⟨middle, first⟩ : ∃ middle, strayed.Returns Registry.empty 1 (.ok 1, middle) :=
    exists_returns_ok 20 (by decide +kernel)
  obtain ⟨final, second⟩ : ∃ final, strayed.Returns Registry.empty 2 (.ok 2, final) :=
    exists_returns_ok 20 (by decide +kernel)
  obtain ⟨last, third⟩ :
      ∃ last, strayed.Returns Registry.empty 3 (.error (.unknownDatacenter 9), last) :=
    exists_returns_error 20 (by decide +kernel)
  have resumed := ((returns_split soon strayed Registry.empty).1 1 middle first
    (.ok 2, final)).2 second
  have failing := ((returns_split late strayed Registry.empty).2 (.unknownDatacenter 9) last
    third (.error (.unknownDatacenter 9), last)).2 rfl
  exact ⟨soon, late, middle, final, last, first, second, resumed, third, failing⟩

end CoSimulation.Simulation
