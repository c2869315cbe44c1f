import CoSimulation.Proofs.Arrivals.Runs

/-!
# Order of arrivals over a whole session

A session is a simulation with its broker: workloads are queued and submitted, and the
simulation runs for a while, in any order.  If all workloads are relays on one network, what
an engine is handed is in the order of the times, with one exception: a datacenter whose
slice took longer than the delay sends messages that are overdue, and these may come after
ones of another datacenter that were due later, once the engine has run between them.
-/

namespace CoSimulation

open Binary64

namespace Broker

/-- Only workloads of the round are submitted in it, or wait for the next one. -/
theorem considerAll_brings (owns : DatacenterId → HostId → Bool) (broker : Broker)
    (round : List Workload) :
    (∀ dispatch ∈ (considerAll owns broker round).2,
        ∃ host, ∃ workload ∈ round, dispatch.event = .submit host workload) ∧
      ∀ waiting ∈ (considerAll owns broker round).1.pending,
        waiting ∈ broker.pending ∨ waiting ∈ round := by
  induction round generalizing broker with
  | nil => simp [considerAll]
  | cons workload rest induction =>
      have considered := consider_considered owns broker workload
      obtain ⟨others, left⟩ := induction (consider owns broker workload).1
      constructor
      · intro dispatch member
        rcases List.mem_append.1 member with own | later
        · obtain ⟨host, brings⟩ := considered.brings dispatch own
          exact ⟨host, workload, List.mem_cons_self, brings⟩
        · obtain ⟨host, found, listed, brings⟩ := others dispatch later
          exact ⟨host, found, List.mem_cons_of_mem _ listed, brings⟩
      · intro waiting member
        rcases left waiting member with known | later
        · rcases considered.pending waiting known with old | rfl
          · exact .inl old
          · exact .inr List.mem_cons_self
        · exact .inr (List.mem_cons_of_mem _ later)

end Broker

/-- A simulation and the broker through which workloads are submitted to it. -/
structure Session where
  simulation : Simulation
  broker : Broker

namespace Session

inductive Request where
  | addHost (host : HostId) (datacenter : DatacenterId)
  | queue (workload : Workload)
  | submit
  /-- Handles the events up to `limit`, at most `bound` of them. -/
  | run (limit : Seconds) (bound : Nat)

def perform (session : Session) : Request → Session
  | .addHost host datacenter =>
      { session with broker := session.broker.addHost host datacenter }
  | .queue workload => { session with broker := session.broker.queue workload }
  | .submit =>
      let (_, simulation, broker) := session.simulation.submit session.broker
      { simulation := simulation, broker := broker }
  | .run limit bound =>
      { session with
        simulation :=
          (session.simulation.start.advance session.broker.registry limit bound).2 }

def performAll (session : Session) (requests : List Request) : Session :=
  requests.foldl perform session

def periodsOf (session : Session) : Request → List Simulation.Period
  | .run limit bound => session.simulation.start.periods session.broker.registry limit bound
  | .addHost .. | .queue .. | .submit => []

/-- The periods that end while requests are performed, in order. -/
def periods (session : Session) : List Request → List Simulation.Period
  | [] => []
  | request :: later => session.periodsOf request ++ (session.perform request).periods later

/-- The datacenters and their hosts are in place, and nothing has happened yet. -/
structure New (session : Session) : Prop where
  queue : session.simulation.queue = EventQueue.empty
  passless : ∀ id datacenter, session.simulation.datacenters.get? id = some datacenter →
    datacenter.lastPass = none
  hosts : ∀ id datacenter, session.simulation.datacenters.get? id = some datacenter →
    ∀ place host, datacenter.host? place = some host →
      ∃ mips gap, host = Host.create place mips gap
  broker : session.broker.pending = []

structure Sequenced (delay : Seconds) (periods : List Simulation.Period) (session : Session) :
    Prop where
  simulation : session.simulation.Sequenced delay periods
  waiting : ∀ workload ∈ session.broker.pending, workload.IsRelay delay

section Requests

variable {delay : Seconds} {session : Session} {earlier : List Simulation.Period}

theorem New.not_houses (new : session.New) {id : DatacenterId} {datacenter : Datacenter}
    (present : session.simulation.datacenters.get? id = some datacenter) (workload : Workload) :
    ¬ datacenter.Houses workload := by
  rintro ⟨place, host, found, member⟩
  obtain ⟨mips, gap, rfl⟩ := new.hosts id datacenter present place host found
  cases member

theorem New.keeps (new : session.New) {id : DatacenterId} {datacenter : Datacenter}
    (present : session.simulation.datacenters.get? id = some datacenter)
    (Good : Workload → Prop) : datacenter.Keeps 0 Good := by
  have created := new.hosts id datacenter present
  have start : datacenter.sliceStart = 0 := by
    rw [Datacenter.sliceStart, new.passless id datacenter present]
    rfl
  constructor
  · intro place host found
    obtain ⟨mips, gap, rfl⟩ := created place host found
    rfl
  · intro place host found
    obtain ⟨mips, gap, rfl⟩ := created place host found
    exact Host.lawful_create place mips gap isInstant_zero
  · intro place host found
    obtain ⟨mips, gap, rfl⟩ := created place host found
    exact start.symm
  · exact start ▸ isInstant_zero
  · exact Int.le_of_eq (congrArg rank start)
  · exact fun workload housed => absurd housed (new.not_houses present workload)

theorem New.sequenced (new : session.New) : session.Sequenced delay [] := by
  have noEvent : session.simulation.queue.pending = [] := by
    rw [new.queue]
    rfl
  have clock : session.simulation.now = 0 := by
    rw [Simulation.now, new.queue]
    rfl
  have nobody (id : DatacenterId) (workload : Workload) :
      ¬ session.simulation.Hosts id workload := by
    rintro ⟨datacenter, present, housed⟩
    exact new.not_houses present workload housed
  refine ⟨⟨?_, fun home chosen _ => ?_, fun chosen _ => ?_⟩, by simp [new.broker]⟩
  · constructor
    · rw [new.queue]
      exact EventQueue.ordered_empty
    · rw [clock]
      exact fun id datacenter present => new.keeps present _
    · simp [noEvent]
  · constructor
    · constructor <;> simp [noEvent]
    · exact fun id workload hosted => absurd hosted (nobody id workload)
    · exact fun id workload hosted => absurd hosted (nobody id workload)
  · constructor
    · simp [EventQueue.Prompt, noEvent]
    · exact fun id workload hosted => absurd hosted (nobody id workload)
    · exact fun id workload hosted => absurd hosted (nobody id workload)

theorem Sequenced.perform (nonneg : 0 ≤ delay) (sequenced : session.Sequenced delay earlier)
    {request : Request} (relay : ∀ workload, request = .queue workload → workload.IsRelay delay) :
    (session.perform request).Sequenced delay (earlier ++ session.periodsOf request) := by
  obtain ⟨simulation, waiting⟩ := sequenced
  cases request with
  | addHost host datacenter =>
      rw [periodsOf, List.append_nil]
      exact ⟨simulation, waiting⟩
  | queue workload =>
      rw [periodsOf, List.append_nil]
      refine ⟨simulation, fun found member => ?_⟩
      rcases List.mem_append.1 member with old | new
      · exact waiting found old
      · exact List.mem_singleton.1 new ▸ relay workload rfl
  | submit =>
      rw [periodsOf, List.append_nil]
      obtain ⟨brings, left⟩ := Broker.considerAll_brings session.simulation.owns
        { session.broker with pending := [] } session.broker.pending
      constructor
      · apply simulation.dispatched
        · rfl
        · rfl
        · intro dispatch member
          obtain ⟨host, workload, listed, submits⟩ := brings dispatch member
          exact .inr ⟨host, workload, submits, waiting workload listed⟩
      · intro workload member
        rcases left workload member with none | listed
        · cases none
        · exact waiting workload listed
  | run limit bound => exact ⟨simulation.start.advance nonneg bound, waiting⟩

theorem Sequenced.performAll (nonneg : 0 ≤ delay) (sequenced : session.Sequenced delay earlier)
    {requests : List Request}
    (relays : ∀ workload, .queue workload ∈ requests → workload.IsRelay delay) :
    (session.performAll requests).Sequenced delay (earlier ++ session.periods requests) := by
  induction requests generalizing session earlier with
  | nil =>
      rw [periods, List.append_nil]
      exact sequenced
  | cons request later induction =>
      rw [periods, ← List.append_assoc]
      apply induction
      · apply sequenced.perform nonneg
        rintro workload rfl
        exact relays workload List.mem_cons_self
      · exact fun workload member => relays workload (List.mem_cons_of_mem _ member)

/-- What an engine is handed is in the order of the times over the whole session, but for a
message that was overdue and comes after the engine ran, and one that may come from another
datacenter. -/
theorem arrivals_ordered_or_crossing (nonneg : 0 ≤ delay) (new : session.New)
    {requests : List Request}
    (relays : ∀ workload, .queue workload ∈ requests → workload.IsRelay delay)
    {id : DatacenterId} {workload : Workload}
    (hosted : (session.performAll requests).simulation.Hosts id workload) :
    workload.engine.arrivals.Pairwise fun earlier later =>
      earlier.time ≤ later.time ∨ (session.performAll requests).simulation.Crossing delay
        (session.periods requests) earlier later :=
  (new.sequenced.performAll nonneg relays).simulation.arrivals hosted

end Requests

/-! ## Two paces -/

/-- Two datacenters with a host each, of which one is looked after three times as often. -/
def twoPaces : Session :=
  let datacenter (id : DatacenterId) (interval : Seconds) : Datacenter :=
    (Datacenter.create id interval 1).addHost (Host.create id [1] 1)
  { simulation := (Simulation.empty.addDatacenter (datacenter 1 1)).addDatacenter (datacenter 2 3)
    broker := Broker.empty }

/-- A relay on one of the hosts. -/
def relayOn (host : HostId) (vertex : VertexId) (routes : List (VertexId × VertexId)) :
    Workload :=
  ((((Workload.create vertex ((Placement.unpinned [vertex] 100).onHost host)
    (Engine.fresh vertex (Engine.relay routes))).withPes 1).withTolerance
      defaultTolerance).withHistory false).withTransport (.networked 0.5)

/-- Both hosts send to a workload on the first one. -/
def crossing : List Request :=
  [.addHost 1 1, .addHost 2 2, .queue (relayOn 1 1 [(1, 3)]), .queue (relayOn 2 2 [(2, 3)]),
    .queue (relayOn 1 3 []), .submit, .run 4 40]

theorem new_twoPaces : twoPaces.New := by
  have created {id : DatacenterId} {interval : Seconds} {place : HostId} {host : Host}
      (found : ((Datacenter.create id interval 1).addHost (Host.create id [1] 1)).host? place =
        some host) : ∃ mips gap, host = Host.create place mips gap := by
    rcases Table.of_get?_insert found with ⟨rfl, rfl⟩ | ⟨-, absent⟩
    · exact ⟨[1], 1, rfl⟩
    · cases absent
  have known {id : DatacenterId} {datacenter : Datacenter}
      (present : twoPaces.simulation.datacenters.get? id = some datacenter) :
      ∃ interval, datacenter =
        (Datacenter.create id interval 1).addHost (Host.create id [1] 1) := by
    rcases Table.of_get?_insert present with ⟨rfl, rfl⟩ | ⟨-, first⟩
    · exact ⟨3, rfl⟩
    · rcases Table.of_get?_insert first with ⟨rfl, rfl⟩ | ⟨-, absent⟩
      · exact ⟨1, rfl⟩
      · cases absent
  refine ⟨rfl, fun id datacenter present => ?_, fun id datacenter present => ?_, rfl⟩
  · obtain ⟨interval, rfl⟩ := known present
    rfl
  · obtain ⟨interval, rfl⟩ := known present
    exact fun place host => created

theorem isRelay_crossing {workload : Workload} (queued : .queue workload ∈ crossing) :
    workload.IsRelay 0.5 := by
  have relay (host : HostId) (vertex : VertexId) (routes : List (VertexId × VertexId)) :
      (relayOn host vertex routes).IsRelay 0.5 := ⟨_, _, _, _, _, _, _, rfl⟩
  simp only [crossing, List.mem_cons, List.not_mem_nil, or_false, reduceCtorEq, false_or,
    Request.queue.injEq] at queued
  rcases queued with rfl | rfl | rfl <;> exact relay _ _ _

/-- What was due after half a second comes after what was due a second later. -/
theorem received_crossing : ∃ workload,
    (twoPaces.performAll crossing).simulation.Hosts 1 workload ∧
      workload.engine.arrivals.map Arrival.time = [500, 500, 1500, 500, 2500] := by
  have received : (((twoPaces.performAll crossing).simulation.datacenters.get? 1).bind
      fun datacenter => (datacenter.workload? 3).map fun workload =>
        workload.engine.arrivals.map Arrival.time) = some [500, 500, 1500, 500, 2500] := by
    decide +kernel
  obtain ⟨datacenter, present, received⟩ := Option.bind_eq_some_iff.1 received
  obtain ⟨workload, found, times⟩ := Option.map_eq_some_iff.1 received
  exact ⟨workload, ⟨datacenter, present, Datacenter.houses_of_workload? found⟩, times⟩

theorem arrivals_ordered_or_crossing_twoPaces :
    (0 : Seconds) ≤ 0.5 ∧ twoPaces.New ∧
      (∀ workload, .queue workload ∈ crossing → workload.IsRelay 0.5) ∧
        ∃ workload, (twoPaces.performAll crossing).simulation.Hosts 1 workload ∧
          workload.engine.arrivals.Pairwise fun earlier later =>
            earlier.time ≤ later.time ∨ (twoPaces.performAll crossing).simulation.Crossing 0.5
              (twoPaces.periods crossing) earlier later := by
  have nonneg : (0 : Seconds) ≤ 0.5 := by decide +kernel
  obtain ⟨workload, hosted, -⟩ := received_crossing
  exact ⟨nonneg, new_twoPaces, fun _ => isRelay_crossing, workload, hosted,
    arrivals_ordered_or_crossing nonneg new_twoPaces (fun _ => isRelay_crossing) hosted⟩

/-- Two datacenters are enough for messages to come too late. -/
theorem not_arrivals_ordered :
    ¬ ∀ (delay : Seconds) (session : Session) (requests : List Request),
      0 ≤ delay → delay.isFinite = true → session.New →
      (∀ id datacenter, session.simulation.datacenters.get? id = some datacenter →
        0 < datacenter.gap ∧ datacenter.gap ≤ datacenter.interval) →
      (∀ workload, .queue workload ∈ requests → workload.IsRelay delay) →
      ∀ id workload, (session.performAll requests).simulation.Hosts id workload →
        workload.engine.arrivals.Pairwise fun earlier later => earlier.time ≤ later.time := by
  intro ordered
  have paced : ∀ id datacenter, twoPaces.simulation.datacenters.get? id = some datacenter →
      0 < datacenter.gap ∧ datacenter.gap ≤ datacenter.interval := by
    intro id datacenter present
    rcases Table.of_get?_insert present with ⟨-, rfl⟩ | ⟨-, first⟩
    · decide +kernel
    · rcases Table.of_get?_insert first with ⟨-, rfl⟩ | ⟨-, absent⟩
      · decide +kernel
      · cases absent
  obtain ⟨workload, hosted, times⟩ := received_crossing
  have sorted := List.pairwise_map.2 (ordered 0.5 twoPaces crossing (by decide +kernel)
    (by decide +kernel) new_twoPaces paced (fun _ => isRelay_crossing) 1 workload hosted)
  rw [times] at sorted
  revert sorted
  decide +kernel

end Session

end CoSimulation
