import CoSimulation.Proofs.Broker.Serving
import CoSimulation.Proofs.Broker.Tickets
import Mathlib.Data.Int.CardIntervalMod

/-!
# Going round the hosts

A round comes to one workload after the other.  Those that are not pinned and whose identity
is new take turns: the hosts get them in the order in which the hosts were first added, and
after the last host the first one is next again.  The turns go on across rounds, whatever
becomes of the workloads and whatever others come in between.  So while no new host is added,
no host gets more than one turn more than another.
-/

namespace CoSimulation

/-- What may be decided about a workload that is bound to the host. -/
inductive Decision.Concerns (host : HostId) : Decision → Prop where
  | rejected (vertex : VertexId) (existing : HostId) :
      Concerns host (.rejected (.vertexAlreadyPlaced vertex host existing))
  | postponed : Concerns host .postponed
  | accepted (datacenter : DatacenterId) (registry : Registry) :
      Concerns host (.accepted host datacenter registry)

namespace Broker

/-- A workload as a round comes to it. -/
structure Visit where
  owns : DatacenterId → HostId → Bool
  broker : Broker
  workload : Workload

namespace Visit

/-- The host that the workload is bound to. -/
def host? (visit : Visit) : Option HostId := (visit.broker.bind visit.workload).1

/-- The workload is not pinned and its identity is new. -/
def takesTurn (visit : Visit) : Bool :=
  !visit.broker.hasSubmitted visit.workload.id && visit.workload.placement.host.isNone

def next (visit : Visit) : Broker := (consider visit.owns visit.broker visit.workload).1

def dispatches (visit : Visit) : List Dispatch :=
  (consider visit.owns visit.broker visit.workload).2

/-- What comes of a workload that is bound to a host is all about this host. -/
inductive Settled (visit : Visit) (host : HostId) : Prop where
  | submitted (datacenter : DatacenterId)
      (entry : visit.next.submitted = visit.broker.submitted ++ [(visit.workload.id, host)])
      (sent : visit.dispatches =
        [{ target := datacenter, delay := 0, event := .submit host visit.workload }])
  | postponed
      (waits : visit.next.pending = visit.broker.pending ++ [visit.workload])
      (silent : visit.dispatches = [])
  | rejected (vertex : VertexId) (existing : HostId)
      (entry : visit.next.rejected = visit.broker.rejected ++
        [(visit.workload.id, .vertexAlreadyPlaced vertex host existing)])
      (silent : visit.dispatches = [])

end Visit

/-- The workloads of a round as it comes to them. -/
def visits (owns : DatacenterId → HostId → Bool) : Broker → List Workload → List Visit
  | _, [] => []
  | broker, workload :: rest =>
      ⟨owns, broker, workload⟩ :: visits owns (consider owns broker workload).1 rest

def visitsOf (broker : Broker) : Request → List Visit
  | .queue _ | .addHost .. => []
  | .submit owns => visits owns { broker with pending := [] } broker.pending

def visited (broker : Broker) : List Request → List Visit
  | [] => []
  | request :: rest => broker.visitsOf request ++ (broker.perform request).1.visited rest

/-- The visits, over all rounds, in which a host is bound in its turn. -/
def turns (broker : Broker) (requests : List Request) : List Visit :=
  (broker.visited requests).filter Visit.takesTurn

def Request.added : Request → List HostId
  | addHost host _ => [host]
  | queue _ | submit _ => []

/-- The hosts that so many turns get, beginning at some place of the list. -/
def lap (hosts : List HostId) (start count : Nat) : List (Option HostId) :=
  (List.range count).map fun turn => hosts[(start + turn) % hosts.length]?

section Visits

variable {owns : DatacenterId → HostId → Bool} {broker : Broker} {workload : Workload}
  {host : HostId}

/-! ## One visit -/

theorem Considered.hosts {next : Broker} {dispatches : List Dispatch}
    (considered : Considered owns broker workload next dispatches) : next.hosts = broker.hosts := by
  cases considered <;> rfl

theorem nextHost_bind_pinned (pinned : workload.placement.host = some host) :
    (broker.bind workload).2.nextHost = broker.nextHost := by
  rw [bind, pinned]

theorem nextHost_bind_unpinned (unpinned : workload.placement.host = none)
    (inside : broker.nextHost < broker.hosts.length) :
    (broker.bind workload).2.nextHost = (broker.nextHost + 1) % broker.hosts.length := by
  rw [bind, unpinned, List.getElem?_eq_getElem inside]

theorem nextHost_consider :
    (consider owns broker workload).1.nextHost =
      if broker.hasSubmitted workload.id then broker.nextHost
      else (broker.bind workload).2.nextHost := by
  rw [consider]
  split
  · rfl
  · split
    · rename_i bound result
      rw [result]
      rfl
    · rename_i host bound result
      rw [result]
      split <;> rfl

theorem concerns_decide (owns : DatacenterId → HostId → Bool) (broker : Broker)
    (workload : Workload) (host : HostId) : (broker.decide owns workload host).Concerns host := by
  rw [decide]
  split
  · exact .postponed
  · rename_i datacenter known
    split
    · split
      · rename_i fault assigned
        cases Registry.obstacle_of_assignAll assigned with
        | unowned unknown =>
            rw [known] at unknown
            cases unknown
        | taken => exact .rejected _ _
      · exact .accepted _ _
    · exact .postponed

theorem Visit.takesTurn_iff {visit : Visit} :
    visit.takesTurn = true ↔ visit.broker.hasSubmitted visit.workload.id = false ∧
      visit.workload.placement.host = none := by
  simp [takesTurn]

/-- The turn passes to the next host if a workload takes it. -/
theorem Visit.nextHost_of_turn {visit : Visit} (turn : visit.takesTurn = true)
    (inside : visit.broker.nextHost < visit.broker.hosts.length) :
    visit.next.nextHost = (visit.broker.nextHost + 1) % visit.broker.hosts.length := by
  obtain ⟨new, unpinned⟩ := takesTurn_iff.1 turn
  rw [next, nextHost_consider, if_neg (by simp [new]), nextHost_bind_unpinned unpinned inside]

theorem Visit.nextHost_of_no_turn {visit : Visit} (passed : visit.takesTurn = false) :
    visit.next.nextHost = visit.broker.nextHost := by
  rw [next, nextHost_consider]
  split
  · rfl
  · rename_i new
    have pinned : visit.workload.placement.host ≠ none := fun unpinned =>
      Bool.eq_false_iff.1 passed (takesTurn_iff.2 ⟨by simpa using new, unpinned⟩)
    obtain ⟨pin, pinned⟩ := Option.ne_none_iff_exists'.1 pinned
    exact nextHost_bind_pinned pinned

theorem Visit.settled {visit : Visit} (turn : visit.takesTurn = true)
    (bound : visit.host? = some host) : visit.Settled host := by
  obtain ⟨owns, broker, workload⟩ := visit
  obtain ⟨nextHost, result⟩ := bind_eq_of_fst bound
  have new : broker.hasSubmitted workload.id = false := (takesTurn_iff.1 turn).1
  have concerns := concerns_decide owns { broker with nextHost := nextHost } workload host
  generalize decided : decide { broker with nextHost := nextHost } owns workload host = decision
    at concerns
  cases concerns with
  | rejected vertex existing =>
      apply Settled.rejected vertex existing
      · simp [Visit.next, consider, new, result, decided, reject]
      · simp [Visit.dispatches, consider, new, result, decided]
  | postponed =>
      apply Settled.postponed
      · simp [Visit.next, consider, new, result, decided, queue]
      · simp [Visit.dispatches, consider, new, result, decided]
  | accepted datacenter registry =>
      apply Settled.submitted datacenter
      · simp [Visit.next, consider, new, result, decided]
      · simp [Visit.dispatches, consider, new, result, decided]

end Visits

/-! ## The turn -/

/-- It is the turn of one of the hosts, if there are any. -/
def Poised (broker : Broker) : Prop :=
  broker.nextHost = 0 ∨ broker.nextHost < broker.hosts.length

section Turn

variable {hosts : List HostId} {broker : Broker}

theorem Poised.rotates (poised : broker.Poised) : broker.Rotates broker.hosts := by
  refine ⟨rfl, fun nonempty => ?_⟩
  rcases poised with first | inside
  · rw [first]
    exact List.length_pos_iff.2 nonempty
  · exact inside

theorem Rotates.poised (rotates : broker.Rotates hosts) (nonempty : hosts ≠ []) :
    broker.Poised := by
  right
  rw [rotates.known]
  exact rotates.turn nonempty

theorem Poised.consider (poised : broker.Poised) (owns : DatacenterId → HostId → Bool)
    (workload : Workload) : (consider owns broker workload).1.Poised := by
  by_cases nonempty : broker.hosts = []
  · left
    have first : broker.nextHost = 0 := poised.resolve_right (by simp [nonempty])
    rw [nextHost_consider]
    split
    · exact first
    · rw [bind]
      split
      · exact first
      · simpa [nonempty] using first
  · exact (rotates_consider poised.rotates owns workload).poised nonempty

theorem hosts_considerAll (owns : DatacenterId → HostId → Bool) (broker : Broker)
    (workloads : List Workload) : (considerAll owns broker workloads).1.hosts = broker.hosts := by
  induction workloads generalizing broker with
  | nil => rfl
  | cons workload workloads induction =>
      exact (induction _).trans (consider_considered owns broker workload).hosts

theorem Poised.considerAll (poised : broker.Poised) (owns : DatacenterId → HostId → Bool)
    (workloads : List Workload) : (considerAll owns broker workloads).1.Poised := by
  induction workloads generalizing broker with
  | nil => exact poised
  | cons workload workloads induction => exact induction (poised.consider owns workload)

/-- Only a host that is not there yet is added. -/
theorem hosts_perform (broker : Broker) (request : Request) :
    (broker.perform request).1.hosts = broker.hosts ++ request.added.removeAll broker.hosts := by
  cases request with
  | queue workload => exact (List.append_nil _).symm
  | addHost host datacenter =>
      by_cases listed : host ∈ broker.hosts
      · simp [perform, addHost, Request.added, List.removeAll, listed]
      · simp [perform, addHost, Request.added, List.removeAll, listed]
  | submit owns =>
      exact (hosts_considerAll owns _ broker.pending).trans (List.append_nil _).symm

theorem Request.added_removeAll (request : Request) (known : List HostId) :
    request.added.removeAll known = [] ∨
      ∃ host, host ∉ known ∧ request.added.removeAll known = [host] := by
  cases request with
  | queue workload => exact .inl rfl
  | addHost host datacenter =>
      by_cases listed : host ∈ known
      · exact .inl (by simp [added, List.removeAll, listed])
      · exact .inr ⟨host, listed, by simp [added, List.removeAll, listed]⟩
  | submit owns => exact .inl rfl

theorem Poised.perform (poised : broker.Poised) (request : Request) :
    (broker.perform request).1.Poised := by
  cases request with
  | queue workload => exact poised
  | addHost host datacenter =>
      refine poised.imp_right fun inside => Nat.lt_of_lt_of_le inside ?_
      rw [hosts_perform, List.length_append]
      exact Nat.le_add_right _ _
  | submit owns =>
      have cleared : Poised { broker with pending := [] } := poised
      exact cleared.considerAll owns broker.pending

theorem Poised.after (poised : broker.Poised) (requests : List Request) :
    (broker.after requests).Poised := by
  induction requests generalizing broker with
  | nil => exact poised
  | cons request requests induction => exact induction (poised.perform request)

theorem hosts_prefix_after (broker : Broker) (requests : List Request) :
    broker.hosts <+: (broker.after requests).hosts := by
  induction requests generalizing broker with
  | nil => exact List.prefix_refl _
  | cons request requests induction =>
      refine List.IsPrefix.trans ?_ (induction (broker.perform request).1)
      rw [hosts_perform]
      exact List.prefix_append _ _

/-- The hosts are those that were added, in the order of their first additions. -/
theorem hosts_after (requests : List Request) :
    (empty.after requests).hosts = (requests.flatMap Request.added).eraseDups := by
  induction requests using List.reverseRecOn with
  | nil => rfl
  | append_singleton requests request induction =>
      have same : request.added.removeAll (requests.flatMap Request.added).eraseDups =
          request.added.removeAll (requests.flatMap Request.added) := by
        simp [List.removeAll]
      rw [after_append, after, after, hosts_perform, induction, same, List.flatMap_append,
        List.flatMap_singleton, List.eraseDups_append]
      rcases request.added_removeAll (requests.flatMap Request.added) with none | ⟨host, -, one⟩
      · rw [none]
        rfl
      · rw [one]
        rfl

theorem nodup_hosts_perform (distinct : broker.hosts.Nodup) (request : Request) :
    (broker.perform request).1.hosts.Nodup := by
  rw [hosts_perform]
  rcases request.added_removeAll broker.hosts with none | ⟨host, new, one⟩
  · rw [none, List.append_nil]
    exact distinct
  · rw [one]
    exact List.concat_eq_append ▸ distinct.concat new

theorem nodup_hosts_after (distinct : broker.hosts.Nodup) (requests : List Request) :
    (broker.after requests).hosts.Nodup := by
  induction requests generalizing broker with
  | nil => exact distinct
  | cons request requests induction => exact induction (nodup_hosts_perform distinct request)

/-! ## All visits -/

theorem poised_visits (poised : broker.Poised) (owns : DatacenterId → HostId → Bool)
    (workloads : List Workload) : ∀ visit ∈ visits owns broker workloads, visit.broker.Poised := by
  induction workloads generalizing broker with
  | nil => exact fun visit member => by cases member
  | cons workload workloads induction =>
      exact List.forall_mem_cons.2 ⟨poised, induction (poised.consider owns workload)⟩

theorem poised_visited (poised : broker.Poised) (requests : List Request) :
    ∀ visit ∈ broker.visited requests, visit.broker.Poised := by
  induction requests generalizing broker with
  | nil => exact fun visit member => by cases member
  | cons request requests induction =>
      refine List.forall_mem_append.2 ⟨?_, induction (poised.perform request)⟩
      cases request with
      | queue | addHost => exact fun visit member => by cases member
      | submit owns =>
          have cleared : Poised { broker with pending := [] } := poised
          exact poised_visits cleared owns broker.pending

/-- A round comes to every workload that waits, in order. -/
theorem workloads_visits (owns : DatacenterId → HostId → Bool) (broker : Broker)
    (workloads : List Workload) :
    (visits owns broker workloads).map Visit.workload = workloads := by
  induction workloads generalizing broker with
  | nil => rfl
  | cons workload workloads induction => exact congrArg _ (induction _)

theorem dispatches_visits (owns : DatacenterId → HostId → Bool) (broker : Broker)
    (workloads : List Workload) :
    (considerAll owns broker workloads).2 =
      (visits owns broker workloads).flatMap Visit.dispatches := by
  induction workloads generalizing broker with
  | nil => rfl
  | cons workload workloads induction => exact congrArg _ (induction _)

theorem sent_eq_dispatches (broker : Broker) (requests : List Request) :
    broker.sent requests = (broker.visited requests).flatMap Visit.dispatches := by
  induction requests generalizing broker with
  | nil => rfl
  | cons request requests induction =>
      rw [sent, visited, List.flatMap_append, induction]
      cases request with
      | queue | addHost => rfl
      | submit owns => exact congrArg (· ++ _) (dispatches_visits owns _ broker.pending)

end Turn

/-! ## Laps -/

section Laps

variable {hosts : List HostId}

theorem lap_append (hosts : List HostId) (start first second : Nat) :
    lap hosts start (first + second) =
      lap hosts start first ++ lap hosts (start + first) second := by
  simp [lap, List.range_add, Nat.add_assoc]

theorem lap_congr {start other : Nat} (same : hosts ≠ [] → start ≡ other [MOD hosts.length])
    (count : Nat) : lap hosts start count = lap hosts other count := by
  apply List.map_congr_left
  intro turn _
  by_cases nonempty : hosts = []
  · simp [nonempty]
  · rw [(same nonempty).add_right turn]

theorem lap_one {broker : Broker} (rotates : broker.Rotates hosts) :
    lap hosts broker.nextHost 1 = [hosts[broker.nextHost]?] := by
  change [hosts[broker.nextHost % hosts.length]?] = _
  by_cases nonempty : hosts = []
  · simp [nonempty]
  · rw [Nat.mod_eq_of_lt (rotates.turn nonempty)]

theorem length_lap (hosts : List HostId) (start count : Nat) :
    (lap hosts start count).length = count := by
  simp [lap]

/-- Consecutive turns are a lap from some place on. -/
theorem lap_infix {turns run : List Visit} {start : Nat}
    (round : turns.map Visit.host? = lap hosts start turns.length) (part : run <:+: turns) :
    ∃ later, run.map Visit.host? = lap hosts later run.length := by
  obtain ⟨before, after, rfl⟩ := part
  rw [List.length_append, List.length_append, lap_append, lap_append, List.map_append,
    List.map_append] at round
  have front := (List.append_inj round (by simp [length_lap])).1
  exact ⟨start + before.length, (List.append_inj front (by simp [length_lap])).2⟩

theorem countP_range (property : Nat → Bool) (count : Nat) :
    (List.range count).countP property = Nat.count (fun turn => property turn = true) count := by
  induction count with
  | zero => rfl
  | succ count induction =>
      rw [List.range_succ, List.countP_append, induction, Nat.count_succ, List.countP_singleton]

/-- Every host comes as often as there are full laps, and perhaps once more. -/
theorem count_lap (distinct : hosts.Nodup) {host : HostId} (listed : host ∈ hosts)
    (start count : Nat) :
    count / hosts.length ≤ (lap hosts start count).count (some host) ∧
      (lap hosts start count).count (some host) ≤ count / hosts.length + 1 := by
  obtain ⟨place, inside, rfl⟩ := List.getElem_of_mem listed
  have positive : 0 < hosts.length := Nat.zero_lt_of_lt inside
  -- the turns of the host at `place` are those that are congruent to `offset`
  let offset := place + start * (hosts.length - 1)
  have arrives : (start + offset) % hosts.length = place := by
    have whole : start + offset = place + start * (hosts.length - 1 + 1) := by
      simp only [offset]
      ring
    rw [whole, Nat.sub_add_cancel positive, Nat.add_mul_mod_self_right, Nat.mod_eq_of_lt inside]
  have served (turn : Nat) :
      (hosts[(start + turn) % hosts.length]? == some hosts[place]) = true ↔
        turn ≡ offset [MOD hosts.length] := by
    rw [List.getElem?_eq_getElem (Nat.mod_lt _ positive), beq_iff_eq, Option.some_inj,
      distinct.getElem_inj_iff]
    constructor
    · intro comes
      exact Nat.ModEq.add_left_cancel' start (comes.trans arrives.symm)
    · intro same
      exact Eq.trans (same.add_left start) arrives
  have counted : (lap hosts start count).count (some hosts[place]) =
      Nat.count (fun turn => turn ≡ offset [MOD hosts.length]) count := by
    rw [lap, List.count, List.countP_map, countP_range]
    simp only [Function.comp_apply, served]
  rw [counted, Nat.count_modEq_card count positive]
  split <;> omega

end Laps

/-! ## Stretches without new hosts -/

/-- Between two brokers the hosts are bound in turn. -/
structure Advances (hosts : List HostId) (broker : Broker) (visits : List Visit)
    (next : Broker) : Prop where
  bound : (visits.filter Visit.takesTurn).map Visit.host? =
    lap hosts broker.nextHost (visits.filter Visit.takesTurn).length
  turn : hosts ≠ [] → next.nextHost ≡
    broker.nextHost + (visits.filter Visit.takesTurn).length [MOD hosts.length]

/-- The requests bind the hosts of the broker in turn. -/
structure GoesRound (broker : Broker) (requests : List Request) : Prop where
  /-- The next unpinned workload with a new identity gets the next host, if there are any. -/
  bound : ∀ turn visit, (broker.turns requests)[turn]? = some visit →
    visit.host? = broker.hosts[(broker.nextHost + turn) % broker.hosts.length]?
  settled : ∀ visit ∈ broker.turns requests, ∀ host, visit.host? = some host →
    visit.Settled host
  /-- However many consecutive turns are counted, from whichever on. -/
  balanced : ∀ run, run <:+: broker.turns requests →
    ∀ first ∈ broker.hosts, ∀ second ∈ broker.hosts,
      (run.map Visit.host?).count (some first) ≤ (run.map Visit.host?).count (some second) + 1

section Stretches

variable {hosts : List HostId} {broker next last : Broker} {early late : List Visit}

theorem Advances.still (same : next.nextHost = broker.nextHost) :
    Advances hosts broker [] next where
  bound := rfl
  turn _ := congrArg (· % hosts.length) same

theorem Advances.trans (first : Advances hosts broker early next)
    (second : Advances hosts next late last) : Advances hosts broker (early ++ late) last := by
  constructor
  · rw [List.filter_append, List.map_append, List.length_append, lap_append, first.bound,
      second.bound, lap_congr first.turn]
  · intro nonempty
    rw [List.filter_append, List.length_append, ← Nat.add_assoc]
    exact (second.turn nonempty).trans ((first.turn nonempty).add_right _)

theorem advances_visit (visit : Visit) (rotates : visit.broker.Rotates hosts) :
    Advances hosts visit.broker [visit] visit.next := by
  cases turn : visit.takesTurn with
  | true =>
      have alone : [visit].filter Visit.takesTurn = [visit] := List.filter_cons_of_pos turn
      obtain ⟨-, unpinned⟩ := Visit.takesTurn_iff.1 turn
      constructor
      · rw [alone, List.map_singleton, List.length_singleton, lap_one rotates, Visit.host?,
          bind_unpinned unpinned, rotates.known]
      · intro nonempty
        have inside : visit.broker.nextHost < visit.broker.hosts.length :=
          rotates.known ▸ rotates.turn nonempty
        rw [alone, Visit.nextHost_of_turn turn inside, rotates.known]
        exact Nat.mod_modEq _ _
  | false =>
      have none : [visit].filter Visit.takesTurn = [] := List.filter_cons_of_neg (by simp [turn])
      constructor
      · rw [none]
        rfl
      · intro _
        rw [none, Visit.nextHost_of_no_turn turn]
        exact Nat.ModEq.refl _

theorem advances_considerAll (rotates : broker.Rotates hosts)
    (owns : DatacenterId → HostId → Bool) (workloads : List Workload) :
    Advances hosts broker (visits owns broker workloads)
      (considerAll owns broker workloads).1 := by
  induction workloads generalizing broker with
  | nil => exact .still rfl
  | cons workload workloads induction =>
      have rest := induction (rotates_consider rotates owns workload)
      exact (advances_visit ⟨owns, broker, workload⟩ rotates).trans rest

theorem advances_perform (rotates : broker.Rotates hosts) (request : Request) :
    Advances hosts broker (broker.visitsOf request) (broker.perform request).1 := by
  cases request with
  | queue workload => exact .still rfl
  | addHost host datacenter => exact .still rfl
  | submit owns =>
      have advances := advances_considerAll (rotates_cleared rotates) owns broker.pending
      exact ⟨advances.bound, advances.turn⟩

/-- Hosts are never removed, so they are the same all the time if they are in the end. -/
theorem advances_after (poised : broker.Poised) {requests : List Request}
    (fixed : (broker.after requests).hosts = broker.hosts) :
    Advances broker.hosts broker (broker.visited requests) (broker.after requests) := by
  induction requests generalizing broker with
  | nil => exact .still rfl
  | cons request requests induction =>
      have grows : broker.hosts <+: (broker.perform request).1.hosts := by
        rw [hosts_perform]
        exact List.prefix_append _ _
      have stays : (broker.perform request).1.hosts <+: broker.hosts :=
        fixed ▸ hosts_prefix_after (broker.perform request).1 requests
      have same : (broker.perform request).1.hosts = broker.hosts :=
        stays.eq_of_length_le grows.length_le
      have later := induction (poised.perform request) (fixed.trans same.symm)
      rw [same] at later
      exact (advances_perform poised.rotates request).trans later

theorem goesRound_of_fixed (poised : broker.Poised) (distinct : broker.hosts.Nodup)
    {requests : List Request} (fixed : (broker.after requests).hosts = broker.hosts) :
    broker.GoesRound requests := by
  have round : (broker.turns requests).map Visit.host? =
      lap broker.hosts broker.nextHost (broker.turns requests).length :=
    (advances_after poised fixed).bound
  refine ⟨fun turn visit here => ?_, fun visit member host bound => ?_,
    fun run part first firstListed second secondListed => ?_⟩
  · have inside : turn < (broker.turns requests).length := (List.getElem?_eq_some_iff.1 here).1
    have bound := congrArg (fun served => served[turn]?) round
    simp only [List.getElem?_map, here, lap, List.getElem?_range inside, Option.map_some] at bound
    exact Option.some.inj bound
  · exact Visit.settled (List.mem_filter.1 member).2 bound
  · obtain ⟨start, served⟩ := lap_infix round part
    rw [served]
    have few := (count_lap distinct firstListed start run.length).2
    have many := (count_lap distinct secondListed start run.length).1
    omega

/-- Whatever was asked of a new broker, its hosts are the added ones, each once, in the order
of their first additions, a turn is always that of one of them, and while no new host is
added the unpinned workloads with new identities go round them. -/
theorem goes_round_hosts (requests : List Request) :
    let reached := empty.after requests
    reached.hosts.Nodup ∧ reached.hosts = (requests.flatMap Request.added).eraseDups ∧
    (∀ visit ∈ empty.turns requests, visit.broker.hosts ≠ [] →
      ∃ inside : visit.broker.nextHost < visit.broker.hosts.length,
        visit.host? = some visit.broker.hosts[visit.broker.nextHost]) ∧
    ((∀ owns, (reached.visitsOf (.submit owns)).map Visit.workload = reached.pending) ∧
      empty.sent requests = (empty.visited requests).flatMap Visit.dispatches) ∧
    ∀ stretch, (reached.after stretch).hosts = reached.hosts → reached.GoesRound stretch := by
  intro reached
  have start : empty.Poised := .inl rfl
  have distinct : reached.hosts.Nodup := nodup_hosts_after List.nodup_nil requests
  refine ⟨distinct, hosts_after requests, fun visit member nonempty => ?_,
    ⟨fun owns => workloads_visits owns _ _, sent_eq_dispatches empty requests⟩,
    fun stretch => goesRound_of_fixed (start.after requests) distinct⟩
  obtain ⟨visited, turn⟩ := List.mem_filter.1 member
  have poised : visit.broker.Poised := poised_visited start requests visit visited
  have inside := poised.rotates.turn nonempty
  refine ⟨inside, ?_⟩
  rw [Visit.host?, bind_unpinned (Visit.takesTurn_iff.1 turn).2, List.getElem?_eq_getElem inside]

/-- A workload with one vertex. -/
def oneVertex (id : WorkloadId) (vertex : VertexId) (pin : Option HostId) : Workload :=
  Workload.create id { Placement.unpinned [vertex] 2 with host := pin }
    (Engine.fresh id (Engine.relay []))

/-- One of three hosts has had its turn; one of them is added twice. -/
def threeHosts : List Request :=
  [.addHost 1 10, .addHost 2 20, .addHost 1 10, .addHost 3 10, .queue (oneVertex 7 1 none),
    .submit fun _ _ => true]

/-- Only the hosts of one datacenter are available at first. -/
def retrial : List Request :=
  [.queue (oneVertex 8 1 none), .queue (oneVertex 9 2 (some 3)), .queue (oneVertex 7 3 none),
    .queue (oneVertex 10 3 none), .submit fun datacenter _ => datacenter == 20, .addHost 2 20,
    .submit fun _ _ => true]

/-- The turns are taken by a workload that is rejected and by one that has to try again; the
pinned workload and the one whose identity was submitted before take none. -/
theorem goes_round_hosts_retried :
    let reached := empty.after threeHosts
    (reached.after retrial).hosts = reached.hosts ∧ reached.GoesRound retrial ∧
      (reached.turns retrial).map (fun visit => (visit.workload.id, visit.host?)) =
        [(8, some 2), (10, some 3), (10, some 1)] ∧
      (reached.after retrial).submitted = [(7, 1), (9, 3), (10, 1)] := by
  intro reached
  obtain ⟨-, -, -, -, stretches⟩ := goes_round_hosts threeHosts
  have fixed : (reached.after retrial).hosts = reached.hosts := by decide +kernel
  exact ⟨fixed, stretches retrial fixed, by decide +kernel, by decide +kernel⟩

end Stretches

end Broker

end CoSimulation
