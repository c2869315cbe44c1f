import CoSimulation.Proofs.Binary64.Signed
import CoSimulation.Proofs.Binary64.Waiting
import CoSimulation.Proofs.Datacenter.Routes
import CoSimulation.Proofs.Datacenter.Submissions
import CoSimulation.Proofs.Workload.Requests

/-!
# No wake-up is lost

A workload that runs on after a pass wants its host to be woken at its estimated end, but not
before the smallest gap of the host.  Every host asks for the earliest wake-up of its own
workloads, and the datacenter picks the earliest of these.  So there is housekeeping by the
time of each of them: for the earliest itself, or at the regular interval if that is not after
it.  All the housekeeping that is asked for is counted.
-/

namespace CoSimulation

open Binary64

def Dispatch.isHousekeeping (dispatch : Dispatch) : Bool :=
  match dispatch.event with
  | .housekeeping => true
  | .submit .. | .deliver _ => false

/-! ## The earliest of several times -/

/-- The earliest of several times, if there are any. -/
structure Earliest (earliest : Option Seconds) (times : List Seconds) : Prop where
  none_iff : earliest = none ↔ times = []
  listed : ∀ first, earliest = some first → first ∈ times
  below : ∀ first, earliest = some first → ∀ time ∈ times, first ≤ time

theorem Binary64.min_le {x y : Binary64} (left : x.isNaN = false) (right : y.isNaN = false) :
    x.min y ≤ x ∧ x.min y ≤ y := by
  rw [Binary64.min, if_neg (by simp [left])]
  split
  · rename_i less
    exact ⟨le_of_lt less, le_refl right⟩
  · rename_i notLess
    exact ⟨le_refl left, le_of_not_lt left right notLess⟩

theorem Binary64.min_eq (x y : Binary64) : x.min y = x ∨ x.min y = y := by
  rw [Binary64.min]
  split
  · exact .inr rfl
  · split
    · exact .inr rfl
    · exact .inl rfl

theorem foldl_min_least {first : Seconds} {rest : List Seconds}
    (numeric : ∀ time ∈ first :: rest, time.isNaN = false) :
    rest.foldl Binary64.min first ∈ first :: rest ∧
      ∀ time ∈ first :: rest, rest.foldl Binary64.min first ≤ time := by
  induction rest generalizing first with
  | nil =>
      refine ⟨List.mem_cons_self, fun time member => ?_⟩
      rw [List.mem_singleton.1 member]
      exact le_refl (numeric first List.mem_cons_self)
  | cons second rest induction =>
      have lower := min_le (numeric first (by simp)) (numeric second (by simp))
      have one := Binary64.min_eq first second
      have remain : ∀ time ∈ first.min second :: rest, time.isNaN = false := by
        intro time member
        rcases List.mem_cons.1 member with rfl | later
        · rcases one with same | same <;> rw [same] <;> exact numeric _ (by simp)
        · exact numeric time (by simp [later])
      obtain ⟨listed, below⟩ := induction remain
      have least := below _ List.mem_cons_self
      constructor
      · rcases List.mem_cons.1 listed with same | later
        · rw [List.foldl_cons, same]
          rcases one with same | same <;> simp [same]
        · exact List.mem_cons_of_mem _ (List.mem_cons_of_mem _ later)
      · intro time member
        rcases List.mem_cons.1 member with rfl | member
        · exact le_trans least lower.1
        · rcases List.mem_cons.1 member with rfl | later
          · exact le_trans least lower.2
          · exact below time (List.mem_cons_of_mem _ later)

theorem earliest_least? {times : List Seconds}
    (numeric : ∀ time ∈ times, time.isNaN = false) : Earliest (least? times) times := by
  cases times with
  | nil => exact ⟨⟨fun _ => rfl, fun _ => rfl⟩, nofun, nofun⟩
  | cons start rest =>
      obtain ⟨listed, below⟩ := foldl_min_least numeric
      refine ⟨Scheduler.least?_eq_none, fun first found => ?_, fun first found => ?_⟩
      · cases found
        exact listed
      · cases found
        exact below

/-- The earliest of the earliest times of several groups is the earliest of all. -/
theorem earliest_least?_flatten {groups : List (List Seconds)}
    (numeric : ∀ time ∈ groups.flatten, time.isNaN = false) :
    Earliest (least? (groups.filterMap least?)) groups.flatten := by
  have each (group : List Seconds) (member : group ∈ groups) : Earliest (least? group) group :=
    earliest_least? fun time listed => numeric time (List.mem_flatten.2 ⟨group, member, listed⟩)
  have firsts : ∀ first ∈ groups.filterMap least?, first ∈ groups.flatten := by
    intro first member
    obtain ⟨group, listed, found⟩ := List.mem_filterMap.1 member
    exact List.mem_flatten.2 ⟨group, listed, (each group listed).listed first found⟩
  have all := earliest_least? fun first member => numeric first (firsts first member)
  constructor
  · rw [all.none_iff, List.filterMap_eq_nil_iff, List.flatten_eq_nil_iff]
    exact forall₂_congr fun group member => (each group member).none_iff
  · exact fun first found => firsts first (all.listed first found)
  · intro first found time member
    obtain ⟨group, listed, inside⟩ := List.mem_flatten.1 member
    obtain ⟨lead, leads⟩ : ∃ lead, least? group = some lead := by
      apply Option.ne_none_iff_exists'.1
      intro nothing
      rw [(each group listed).none_iff.1 nothing] at inside
      cases inside
    exact le_trans (all.below first found lead (List.mem_filterMap.2 ⟨group, listed, leads⟩))
      ((each group listed).below lead leads time inside)

/-! ## Workloads that run on -/

namespace Workload

/-- A workload that has not reached its end yet has time left. -/
theorem timeToFinish_nonneg {workload : Workload} (running : workload.finished = false)
    (before : workload.reachesEnd (workload.elapsed.getD 0) = false)
    (numeric : workload.timeToFinish.isNaN = false) : 0 ≤ workload.timeToFinish := by
  have ends : workload.duration.IsInstant := isInstant_ofNat _
  have missed : ¬ workload.duration ≤ workload.elapsed.getD 0 + workload.tolerance :=
    of_decide_eq_false before
  have left : workload.timeToFinish = workload.duration - workload.elapsed.getD 0 := by
    rw [timeToFinish, if_neg (by simp [running])]
  rw [left] at numeric ⊢
  generalize workload.elapsed.getD 0 = elapsed at missed numeric ⊢
  have timed : elapsed.isNaN = false := (isNaN_of_passNaN numeric).2
  refine sub_nonneg (le_of_not_lt timed ends.isNaN_eq fun late => missed ?_)
    (nonneg_of_isInstant ends) numeric
  -- an elapsed time beyond the duration would not get shorter by the tolerance
  have positive : 0 < elapsed := by
    obtain ⟨-, -, above⟩ := lt_iff.1 late
    have nonneg := (le_iff.1 (nonneg_of_isInstant ends)).2.2
    exact lt_iff.2 ⟨isInstant_zero.isNaN_eq, timed, by omega⟩
  have instant := isInstant_of_pos positive
  rw [ends.le_iff (instant.add workload.tolerance_nonneg)]
  rw [ends.lt_iff instant] at late
  exact Int.le_trans (Int.le_of_lt late) (rank_le_add instant workload.tolerance_nonneg)

/-- A workload that runs on after a turn without faults has not reached its end. -/
theorem turn_before_end {workload : Workload} {network : Network} {time previous : Seconds}
    {capacity : Binary64}
    (quiet : workload.raised? network (workload.sliceOf time previous capacity) = none)
    (running : (workload.turn network time previous capacity).workload.finished = false) :
    let after := (workload.turn network time previous capacity).workload
    after.reachesEnd (after.elapsed.getD 0) = false := by
  intro after
  have started : workload.finished = false := by
    rw [finished_turn, tick] at running
    split at running
    · rename_i ended
      rw [ended] at running
      cases running
    · rename_i unended
      simpa using unended
  have forward : ¬ time < previous := by
    intro (back : (workload.sliceOf time previous capacity).current <
      (workload.sliceOf time previous capacity).previous)
    rw [raised?, tick, if_neg (by simp [started]), if_pos back] at quiet
    cases quiet
  have ends := reachesEnd_eq_of_terms (workload.terms_turn network time previous capacity)
  simp only [after, ends]
  simp only [turn_of_running started forward, finished_forward, elapsed_forward, elapsed_run,
    finished_run] at running ⊢
  exact running

end Workload

/-! ## The wake-ups of a host -/

/-- When the running workloads of a host want it to be woken. -/
def Host.wakeUps (host : Host) (now : Seconds) : List Seconds :=
  host.scheduler.active.map fun workload =>
    (now + workload.timeToFinish).max (now + host.scheduler.gap)

/-- A wake-up is a delay after now that is not negative, and not before the smallest gap. -/
theorem exists_wait {now estimate : Seconds} (clock : now.IsInstant) (left : 0 ≤ estimate)
    (gap : Seconds) :
    ∃ wait, 0 ≤ wait ∧ (now + estimate).max (now + gap) = now + wait ∧
      ¬ now + wait < now + gap := by
  have numeric := (clock.add left).isNaN_eq
  by_cases less : now + estimate < now + gap
  · refine ⟨gap, ?_, by rw [Binary64.max, if_neg (by simp [numeric]), if_pos less], ?_⟩
    · have gapNumeric : gap.isNaN = false := (isNaN_of_passNaN (lt_iff.1 less).2.1).2
      refine le_of_not_lt isInstant_zero.isNaN_eq gapNumeric fun negative => ?_
      exact not_add_lt clock.isNaN_eq (le_trans (le_of_lt negative) left) less
    · exact fun self => Int.lt_irrefl _ (lt_iff.1 self).2.2
  · exact ⟨estimate, left, by rw [Binary64.max, if_neg (by simp [numeric]), if_neg less], less⟩

/-- What is not before a gap is not before a smaller one. -/
theorem spaced_of_le {now wait least gap : Seconds} (clock : now.IsInstant)
    (le : least ≤ gap) (spaced : ¬ now + wait < now + gap) : ¬ now + wait < now + least := by
  intro less
  obtain ⟨waitNumeric, leastNumeric, order⟩ := lt_iff.1 less
  obtain ⟨-, gapNumeric, -⟩ := le_iff.1 le
  rcases finite_or_infinite clock.isNaN_eq with finite | infinite
  · have between := le_of_not_lt leastNumeric (finite.isNaN_add gapNumeric)
      (not_add_lt clock.isNaN_eq le)
    have positions := (le_iff.1 between).2.2
    exact spaced (lt_iff.2 ⟨waitNumeric, finite.isNaN_add gapNumeric, by omega⟩)
  · have here := (add_of_infinite infinite (isNaN_of_passNaN waitNumeric).2).resolve_right
      (by simp [waitNumeric])
    have there := (add_of_infinite infinite (isNaN_of_passNaN leastNumeric).2).resolve_right
      (by simp [leastNumeric])
    rw [here, there] at order
    exact Int.lt_irrefl _ order

namespace Scheduler

variable {scheduler : Scheduler} {network : Network} {time : Seconds} {mips : List Binary64}

/-- Who still runs after a tick without faults has not reached the end. -/
theorem active_before_end (quiet : scheduler.raised network time mips = []) {workload : Workload}
    (runs : workload ∈ (scheduler.tick network time mips).state.active) :
    workload.finished = false ∧ workload.reachesEnd (workload.elapsed.getD 0) = false := by
  rw [tick_active, turned_eq, List.mem_filter] at runs
  obtain ⟨turned, running⟩ := runs
  obtain ⟨before, member, rfl⟩ := List.mem_map.1 turned
  have going := Bool.not_eq_true' _ ▸ running
  exact ⟨going, Workload.turn_before_end (List.filterMap_eq_nil_iff.1 quiet before member) going⟩

theorem tick_of_quiet (quiet : scheduler.raised network time mips = []) :
    (scheduler.tick network time mips).result =
      .ok (least? ((scheduler.tick network time mips).state.active.map fun workload =>
        (time + workload.timeToFinish).max (time + scheduler.gap))) := by
  rw [raised_eq] at quiet
  exact reportWorst_eq_ok_iff.2 ⟨quiet, rfl⟩

end Scheduler

namespace Datacenter

variable {datacenter : Datacenter} {network : Network} {event : Event}

/-! ## The housekeeping that a pass asks for -/

/-- When the running workloads of all hosts want to be woken. -/
def wakeUps (datacenter : Datacenter) (now : Seconds) : List Seconds :=
  datacenter.hosts.values.flatMap fun host => host.wakeUps now

/-- The housekeeping at the end of the workload that an event brings, if a host takes it. -/
def atEnd (datacenter : Datacenter) : Event → List Dispatch
  | .submit id workload =>
      if (datacenter.submissionFault? id workload).isNone ∧ 0 < workload.placement.duration then
        [datacenter.housekeepingIn workload.duration]
      else []
  | .housekeeping | .deliver _ => []

theorem wakeUps_pass (datacenter : Datacenter) (network : Network) (now : Seconds) :
    (datacenter.pass network).1.wakeUps now =
      (datacenter.hosts.values.map fun host =>
        (host.ticked network network.now).wakeUps now).flatten := by
  rw [wakeUps, pass_hosts, Table.values_map, List.flatMap_map, List.flatMap_def]

theorem raised_of_quiet (quiet : datacenter.raisedInPass network = []) {host : Host}
    (member : host ∈ datacenter.hosts.values) :
    host.scheduler.raised network network.now host.mips = [] :=
  List.flatMap_eq_nil_iff.1 quiet host member

/-- A host without faults asks for the earliest of its wake-ups. -/
theorem updateHosts_of_quiet (quiet : datacenter.raisedInPass network = []) :
    (datacenter.updateHosts network).2.2.1 =
      least? ((datacenter.hosts.values.map fun host =>
        (host.ticked network network.now).wakeUps network.now).filterMap least?) := by
  simp only [updateHosts, Table.values_map, List.filterMap_map]
  congr 1
  apply List.filterMap_congr
  intro host member
  have gap : (host.ticked network network.now).scheduler.gap = host.scheduler.gap :=
    Scheduler.tick_gap ..
  have asked : (host.tick network network.now).result =
      .ok (least? ((host.ticked network network.now).wakeUps network.now)) := by
    rw [Host.wakeUps, gap]
    exact Scheduler.tick_of_quiet (raised_of_quiet quiet member)
  simp only [Function.comp, asked]

theorem dispatches_of_submit {id : HostId} {workload : Workload}
    (counts : workload.placement.duration ≤ countLimit) :
    (datacenter.handle network (.submit id workload)).dispatches =
      (datacenter.pass network).2.1 ++ datacenter.atEnd (.submit id workload) := by
  rw [handle, atEnd]
  cases refused : datacenter.submissionFault? id workload with
  | some fault =>
      rw [submit_of_fault refused]
      simp
  | none =>
      obtain ⟨host, -, submitted⟩ := submit_of_no_fault refused network
      have atEnd : (datacenter.pass network).1.housekeepingAtEnd workload.duration =
          if 0 < workload.placement.duration then
            [(datacenter.pass network).1.housekeepingIn workload.duration]
          else [] := housekeepingAtEnd_duration counts
      simp only [submitted, atEnd, Option.isNone_none, true_and]
      rfl

theorem dispatches_of_passes (passes : datacenter.Passes network event)
    (counts : ∀ id workload, event = .submit id workload →
      workload.placement.duration ≤ countLimit) :
    (datacenter.handle network event).dispatches =
      (datacenter.pass network).2.1 ++ datacenter.atEnd event := by
  cases event with
  | submit id workload => exact dispatches_of_submit (counts id workload rfl)
  | deliver message => exact passes.elim
  | housekeeping =>
      have due : datacenter.comesTooSoon network.now = false := passes
      rw [handle_of_due due, handle_unpaced, atEnd, List.append_nil]

/-! ## Every wake-up is provided for -/

/-- What keeps wake-ups from lying in the past: the clock is one of a queue, and every workload
that runs on knows how much time is left. -/
structure Timely (datacenter : Datacenter) (network : Network) : Prop where
  clock : network.now.IsInstant
  estimates : ∀ host ∈ (datacenter.pass network).1.hosts.values,
    ∀ workload ∈ host.scheduler.active, workload.timeToFinish.isNaN = false

/-- The housekeeping that is asked for while an event is handled that brings all hosts up to
the present, where `earliest` is when a workload first wants to be woken. -/
structure Rearms (datacenter : Datacenter) (network : Network) (event : Event)
    (earliest : Option Seconds) : Prop where
  least : Earliest earliest ((datacenter.pass network).1.wakeUps network.now)
  /-- An interval ahead, before that if it is sooner, and at the end of a new workload. -/
  armed : (datacenter.handle network event).dispatches.filter Dispatch.isHousekeeping =
    (earliest.toList.filter fun first => first - network.now < datacenter.interval).map
        (fun first => datacenter.housekeepingIn ((first - network.now).max 0)) ++
      [datacenter.housekeepingIn datacenter.interval] ++ datacenter.atEnd event
  /-- By the time of each wake-up there is housekeeping. -/
  covered : ∀ wakeUp ∈ (datacenter.pass network).1.wakeUps network.now,
    ∃ dispatch ∈ (datacenter.handle network event).dispatches,
      dispatch.target = datacenter.id ∧ dispatch.isHousekeeping = true ∧
        network.now + dispatch.delay.max 0 ≤ wakeUp
  spaced : ∀ first, earliest = some first → ∀ gap,
    (∀ host ∈ datacenter.hosts.values, gap ≤ host.scheduler.gap) →
      ¬ first < network.now + gap

theorem Timely.wakeUp_eq (timely : datacenter.Timely network)
    (quiet : datacenter.raisedInPass network = []) {wakeUp : Seconds}
    (wanted : wakeUp ∈ (datacenter.pass network).1.wakeUps network.now) :
    ∃ wait, 0 ≤ wait ∧ wakeUp = network.now + wait ∧ ∃ host ∈ datacenter.hosts.values,
      ¬ network.now + wait < network.now + host.scheduler.gap := by
  rw [wakeUps_pass, List.mem_flatten] at wanted
  obtain ⟨group, grouped, listed⟩ := wanted
  obtain ⟨host, member, rfl⟩ := List.mem_map.1 grouped
  obtain ⟨workload, runs, rfl⟩ := List.mem_map.1 listed
  obtain ⟨running, before⟩ := Scheduler.active_before_end (raised_of_quiet quiet member) runs
  have present : host.ticked network network.now ∈ (datacenter.pass network).1.hosts.values := by
    rw [pass_hosts, Table.values_map]
    exact List.mem_map_of_mem member
  have left : 0 ≤ workload.timeToFinish :=
    Workload.timeToFinish_nonneg running before (timely.estimates _ present workload runs)
  have gap : (host.ticked network network.now).scheduler.gap = host.scheduler.gap :=
    Scheduler.tick_gap ..
  obtain ⟨wait, nonneg, same, spaced⟩ := exists_wait timely.clock left host.scheduler.gap
  exact ⟨wait, nonneg, gap ▸ same, host, member, spaced⟩

theorem filter_sent_eq_nil : (datacenter.sent network).filter Dispatch.isHousekeeping = [] := by
  rw [List.filter_eq_nil_iff]
  intro dispatch member
  obtain ⟨message, location, delivers, -⟩ := sent_isDelivery dispatch member
  simp [Dispatch.isHousekeeping, delivers]

theorem nextHousekeeping_eq (datacenter : Datacenter) (now : Seconds) (wakeUp : Option Seconds) :
    datacenter.nextHousekeeping now wakeUp =
      (wakeUp.toList.filter fun first => first - now < datacenter.interval).map
          (fun first => datacenter.housekeepingIn ((first - now).max 0)) ++
        [datacenter.housekeepingIn datacenter.interval] := by
  cases wakeUp with
  | none => rfl
  | some first =>
      by_cases sooner : first - now < datacenter.interval <;> simp [nextHousekeeping, sooner]

theorem all_nextHousekeeping (datacenter : Datacenter) (now : Seconds)
    (wakeUp : Option Seconds) :
    ∀ dispatch ∈ datacenter.nextHousekeeping now wakeUp, dispatch.isHousekeeping = true := by
  rw [nextHousekeeping_eq]
  intro dispatch member
  rcases List.mem_append.1 member with sooner | regular
  · obtain ⟨first, -, rfl⟩ := List.mem_map.1 sooner
    rfl
  · rw [List.mem_singleton.1 regular]
    rfl

theorem all_atEnd (datacenter : Datacenter) (event : Event) :
    ∀ dispatch ∈ datacenter.atEnd event, dispatch.isHousekeeping = true := by
  cases event with
  | housekeeping | deliver => simp [atEnd]
  | submit id workload =>
      rw [atEnd]
      split <;> simp [housekeepingIn, Dispatch.isHousekeeping]

theorem filter_of_passes (passes : datacenter.Passes network event)
    (counts : ∀ id workload, event = .submit id workload →
      workload.placement.duration ≤ countLimit) :
    (datacenter.handle network event).dispatches.filter Dispatch.isHousekeeping =
      datacenter.nextHousekeeping network.now (datacenter.updateHosts network).2.2.1 ++
        datacenter.atEnd event := by
  rw [dispatches_of_passes passes counts, pass_dispatches_eq, List.filter_append,
    List.filter_append, filter_sent_eq_nil, List.nil_append,
    List.filter_eq_self.2 (datacenter.all_nextHousekeeping _ _),
    List.filter_eq_self.2 (datacenter.all_atEnd event)]

/-- There is housekeeping by the time of the earliest wake-up. -/
theorem exists_nextHousekeeping {now wait : Seconds} (clock : now.IsInstant) (nonneg : 0 ≤ wait) :
    ∃ delay, datacenter.housekeepingIn delay ∈
        datacenter.nextHousekeeping now (some (now + wait)) ∧
      now + delay.max 0 ≤ now + wait := by
  by_cases sooner : now + wait - now < datacenter.interval
  · refine ⟨(now + wait - now).max 0, by simp [nextHousekeeping, sooner], ?_⟩
    rw [max_zero_of_nonneg (max_zero_nonneg _)]
    exact add_max_zero_le clock nonneg fun self => Int.lt_irrefl _ (lt_iff.1 self).2.2
  · exact ⟨datacenter.interval, by simp [nextHousekeeping, sooner],
      add_max_zero_le clock nonneg sooner⟩

theorem Timely.rearms (timely : datacenter.Timely network)
    (passes : datacenter.Passes network event) (quiet : datacenter.raisedInPass network = [])
    (counts : ∀ id workload, event = .submit id workload →
      workload.placement.duration ≤ countLimit) :
    datacenter.Rearms network event (datacenter.updateHosts network).2.2.1 := by
  have listed := filter_of_passes passes counts
  have least : Earliest (datacenter.updateHosts network).2.2.1
      ((datacenter.pass network).1.wakeUps network.now) := by
    rw [updateHosts_of_quiet quiet, wakeUps_pass]
    apply earliest_least?_flatten
    rw [← wakeUps_pass]
    intro wakeUp wanted
    obtain ⟨wait, nonneg, rfl, -⟩ := timely.wakeUp_eq quiet wanted
    exact (timely.clock.add nonneg).isNaN_eq
  refine ⟨least, by rw [listed, nextHousekeeping_eq], fun wakeUp wanted => ?_,
    fun first found gap smallest => ?_⟩
  · obtain ⟨first, found⟩ : ∃ first, (datacenter.updateHosts network).2.2.1 = some first := by
      apply Option.ne_none_iff_exists'.1
      intro nothing
      rw [least.none_iff.1 nothing] at wanted
      cases wanted
    obtain ⟨wait, nonneg, rfl, -⟩ := timely.wakeUp_eq quiet (least.listed first found)
    obtain ⟨delay, asked, within⟩ :=
      datacenter.exists_nextHousekeeping timely.clock nonneg
    have member : datacenter.housekeepingIn delay ∈
        (datacenter.handle network event).dispatches := by
      apply List.mem_of_mem_filter (p := Dispatch.isHousekeeping)
      rw [listed, found]
      exact List.mem_append_left _ asked
    exact ⟨_, member, rfl, rfl, le_trans within (least.below _ found wakeUp wanted)⟩
  · obtain ⟨wait, nonneg, rfl, host, member, spaced⟩ :=
      timely.wakeUp_eq quiet (least.listed first found)
    exact spaced_of_le timely.clock (smallest host member) spaced

/-! ## What is armed -/

def dispatchedIn (datacenter : Datacenter) : Request → List Dispatch
  | .handle network event => (datacenter.handle network event).dispatches
  | .addHost _ | .reclaim _ | .takeCompleted => []

/-- What the datacenter asks to be delivered while it performs requests. -/
def dispatched (datacenter : Datacenter) : List Request → List Dispatch
  | [] => []
  | request :: later =>
      datacenter.dispatchedIn request ++ (datacenter.perform request).dispatched later

theorem countP_pass (datacenter : Datacenter) (network : Network) :
    (datacenter.pass network).2.1.countP Dispatch.isHousekeeping =
      (datacenter.nextHousekeeping network.now (datacenter.updateHosts network).2.2.1).length := by
  rw [pass_dispatches_eq, List.countP_append, List.countP_eq_length_filter, filter_sent_eq_nil,
    List.length_nil, Nat.zero_add, List.countP_eq_length]
  exact datacenter.all_nextHousekeeping _ _

theorem armed_pass (datacenter : Datacenter) (network : Network) :
    (datacenter.pass network).1.counters.armed =
      datacenter.counters.armed + (datacenter.pass network).2.1.countP Dispatch.isHousekeeping := by
  rw [countP_pass]
  rfl

theorem all_housekeepingAtEnd (datacenter : Datacenter) (estimate : Seconds) :
    ∀ dispatch ∈ datacenter.housekeepingAtEnd estimate, dispatch.isHousekeeping = true := by
  rw [housekeepingAtEnd]
  split <;> simp [housekeepingIn, Dispatch.isHousekeeping]

theorem armed_handle (datacenter : Datacenter) (network : Network) (event : Event) :
    (datacenter.handle network event).state.counters.armed = datacenter.counters.armed +
      (datacenter.handle network event).dispatches.countP Dispatch.isHousekeeping := by
  cases event with
  | housekeeping =>
      rw [handle, housekeeping]
      split
      · rfl
      · exact datacenter.armed_pass network
  | submit id workload =>
      rw [handle]
      cases refused : datacenter.submissionFault? id workload with
      | some fault =>
          rw [submit_of_fault refused]
          exact datacenter.armed_pass network
      | none =>
          obtain ⟨host, -, submitted⟩ := submit_of_no_fault refused network
          have atEnd := List.countP_eq_length.2
            ((datacenter.pass network).1.all_housekeepingAtEnd workload.duration)
          simp only [submitted, List.countP_append, atEnd, ← Nat.add_assoc, ← armed_pass]
          rfl
  | deliver message =>
      rw [handle, deliver]
      cases datacenter.route? message.destVertex with
      | none => rfl
      | some route =>
          cases found : datacenter.host? route.host with
          | none => simp [found]
          | some host =>
              simp only [found]
              cases host.scheduler.deliver route.workload message <;> rfl

theorem armed_perform (datacenter : Datacenter) (request : Request) :
    (datacenter.perform request).counters.armed = datacenter.counters.armed +
      (datacenter.dispatchedIn request).countP Dispatch.isHousekeeping := by
  cases request with
  | handle network event => exact datacenter.armed_handle network event
  | addHost | takeCompleted => rfl
  | reclaim id =>
      rw [perform]
      split
      · rename_i reclaimed
        obtain ⟨host, scheduler, -, -, rfl⟩ := reclaim_eq_ok reclaimed
        rfl
      · rfl

theorem armed_after (datacenter : Datacenter) (requests : List Request) :
    (datacenter.after requests).counters.armed = datacenter.counters.armed +
      (datacenter.dispatched requests).countP Dispatch.isHousekeeping := by
  induction requests generalizing datacenter with
  | nil => rfl
  | cons request later induction =>
      calc
        ((datacenter.perform request).after later).counters.armed =
            (datacenter.perform request).counters.armed +
              ((datacenter.perform request).dispatched later).countP Dispatch.isHousekeeping :=
          induction _
        _ = datacenter.counters.armed +
              (datacenter.dispatched (request :: later)).countP Dispatch.isHousekeeping := by
          rw [armed_perform, dispatched, List.countP_append, Nat.add_assoc]

/-- Whenever all hosts are brought up to the present and none of them reports a fault, there is
housekeeping an interval later, before that for the earliest wake-up if it is sooner, and at
the end of a workload that is accepted.  So no workload misses its wake-up, and the datacenter
has counted all housekeeping that it has asked for. -/
theorem wakeUps_covered (passes : datacenter.Passes network event)
    (quiet : datacenter.raisedInPass network = []) (timely : datacenter.Timely network)
    (counts : ∀ id workload, event = .submit id workload →
      workload.placement.duration ≤ countLimit) :
    (∃ earliest, datacenter.Rearms network event earliest) ∧
      ∀ id interval gap requests, ((create id interval gap).after requests).counters.armed =
        ((create id interval gap).dispatched requests).countP Dispatch.isHousekeeping := by
  refine ⟨⟨_, timely.rearms passes quiet counts⟩, fun id interval gap requests => ?_⟩
  rw [armed_after]
  exact Nat.zero_add _

/-- Two hosts, on each of which a workload runs. -/
def guests : Datacenter :=
  (create 1 5 1).after
    [.addHost (Host.create 1 [1] 1), .addHost (Host.create 2 [1] 2),
      .handle (silentNetwork 0) (.submit 1 (visitor 7)),
      .handle (silentNetwork 0) (.submit 2
        (.create 8 (.unpinned [6] 2) (.fresh 8 (Engine.relay []))))]

/-- Both workloads end at 2, but the second host may not be woken before 3. -/
theorem wakeUps_covered_guests :
    guests.Passes (silentNetwork 1) (.submit 1 (visitor 9)) ∧
      guests.raisedInPass (silentNetwork 1) = [] ∧ guests.Timely (silentNetwork 1) ∧
      (guests.pass (silentNetwork 1)).1.wakeUps 1 = [2, 3] ∧
      (∃ earliest, guests.Rearms (silentNetwork 1) (.submit 1 (visitor 9)) earliest) ∧
      (guests.handle (silentNetwork 1) (.submit 1 (visitor 9))).dispatches.map Dispatch.delay =
        [1, 5, 2] := by
  have passes : guests.Passes (silentNetwork 1) (.submit 1 (visitor 9)) := trivial
  have quiet : guests.raisedInPass (silentNetwork 1) = [] :=
    List.isEmpty_iff.1 (by decide +kernel)
  have timely : guests.Timely (silentNetwork 1) :=
    ⟨⟨by decide +kernel, by decide +kernel⟩, by decide +kernel⟩
  refine ⟨passes, quiet, timely, by decide +kernel, ?_, by decide +kernel⟩
  refine (wakeUps_covered passes quiet timely fun id workload same => ?_).1
  cases same
  exact show 2 ≤ countLimit by decide

end Datacenter

end CoSimulation
