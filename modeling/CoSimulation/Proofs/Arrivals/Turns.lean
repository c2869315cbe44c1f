import CoSimulation.Proofs.Clocks
import CoSimulation.Proofs.Heap.Order
import CoSimulation.Proofs.Messages
import CoSimulation.Proofs.Workload

/-!
# Messages at a workload

A workload keeps the messages that have reached it in a heap, and in each of its turns it
hands those to its engine that are due before the slice that just ended.  An arrival is such
a call on the engine, with the number of runs that the engine had made before.

The arrivals of one turn are in the order of their times.  Those of different turns are if
no message reaches the workload that is due before one which was handed over already.  For
a message that is still queued this is its `Trails`: it is due not before the other one, or
it will leave the queue at the latest one step after it is due.

In general only some messages are in order, which a `Selection` tells.
-/

namespace CoSimulation

open Binary64

/-! ## Arrivals -/

/-- A batch that was handed to an engine after so many runs. -/
structure Arrival where
  tick : Nat
  time : Milliseconds
  origin : VertexId
  dest : VertexId
deriving DecidableEq

def Message.arrivalIn (message : Message) (tick : Nat) : Arrival :=
  { tick := tick
    time := toEngineTime message.destTime
    origin := message.originVertex
    dest := message.destVertex }

/-- Some messages, chosen by the time when they are handed over and the edge they go along. -/
abbrev Selection := Milliseconds → VertexId → VertexId → Prop

def Message.Among (message : Message) (chosen : Selection) : Prop :=
  chosen (toEngineTime message.destTime) message.originVertex message.destVertex

def Arrival.Among (arrival : Arrival) (chosen : Selection) : Prop :=
  chosen arrival.time arrival.origin arrival.dest

/-- A message that leaves the queue at a time does not come too late for one due at
another. -/
def Message.Trails (message : Message) (leaves time : Seconds) : Prop :=
  time.rank ≤ message.destTime.rank ∨ leaves.rank ≤ message.destTime.rank + 1

namespace Engine

def runs (engine : Engine) : Nat := engine.past.countP Call.isRun

/-- The arrivals among calls, which are listed latest first, in their order. -/
def arrivalsIn : List Call → List Arrival
  | [] => []
  | call :: earlier =>
      match call with
      | .enqueue time origin dest _ =>
          arrivalsIn earlier ++
            [{ tick := earlier.countP Call.isRun, time := time, origin := origin, dest := dest }]
      | .init _ | .run _ _ _ => arrivalsIn earlier

def arrivals (engine : Engine) : List Arrival := arrivalsIn engine.past

theorem runs_after_run (engine : Engine) (budget : Nat) (start : Milliseconds)
    (capacity : Binary64) : (engine.after (.run budget start capacity)).runs = engine.runs + 1 :=
  List.countP_cons_of_pos rfl

theorem handOverAll_eq (messages : List Message) (engine : Engine) :
    (messages.foldl Workload.handOver engine).runs = engine.runs ∧
      (messages.foldl Workload.handOver engine).respond = engine.respond ∧
      (messages.foldl Workload.handOver engine).arrivals =
        engine.arrivals ++ messages.map fun message => message.arrivalIn engine.runs := by
  induction messages generalizing engine with
  | nil => simp
  | cons message messages induction =>
      obtain ⟨runs, respond, arrivals⟩ := induction (Workload.handOver engine message)
      have counted : (Workload.handOver engine message).runs = engine.runs := by
        simp [Workload.handOver, enqueue, after, Engine.runs, Call.isRun]
      refine ⟨runs.trans counted, respond, ?_⟩
      rw [List.foldl_cons, arrivals, counted, List.map_cons]
      exact List.append_assoc _ _ _

end Engine

namespace Workload

/-- A workload after a turn in which its engine was handed some messages and ran once. -/
structure Turned (before : Workload) (previous : Seconds) (after : Workload)
    (handed : List Message) : Prop where
  terms : after.terms = before.terms
  respond : after.engine.respond = before.engine.respond
  runs : after.engine.runs = before.engine.runs + 1
  arrivals : after.engine.arrivals =
    before.engine.arrivals ++ handed.map fun message => message.arrivalIn before.engine.runs
  drained : (handed, after.pending) =
    before.pending.drainWhile Message.precedes (isDue previous)

theorem elapse_keeps (workload : Workload) (current previous : Seconds) :
    (workload.elapse current previous).pending = workload.pending ∧
      (workload.elapse current previous).engine.respond = workload.engine.respond ∧
      (workload.elapse current previous).engine.runs = workload.engine.runs ∧
      (workload.elapse current previous).engine.arrivals = workload.engine.arrivals := by
  rw [elapse]
  split
  · exact ⟨rfl, rfl, rfl, rfl⟩
  · simp [Engine.init, Engine.after, Engine.runs, Engine.arrivals, Engine.arrivalsIn,
      Call.isRun]

theorem forward_keeps (workload : Workload) (network : Network) (records : List Record) :
    (workload.forward network records).state.pending = workload.pending ∧
      (workload.forward network records).state.engine = workload.engine := by
  rw [forward]
  split
  · exact ⟨rfl, rfl⟩
  · split <;> exact ⟨rfl, rfl⟩

theorem turned_run (workload : Workload) (slice : Slice) :
    workload.Turned slice.previous (workload.run slice).2
      (workload.pending.drainWhile Message.precedes (isDue slice.previous)).1 := by
  let elapsed := workload.elapse slice.current slice.previous
  let due := (workload.pending.drainWhile Message.precedes (isDue slice.previous)).1
  obtain ⟨pending, respond, runs, arrivals⟩ :=
    workload.elapse_keeps slice.current slice.previous
  obtain ⟨runsHanded, respondHanded, arrivalsHanded⟩ :=
    Engine.handOverAll_eq due elapsed.engine
  have drained : (elapsed.drain slice.previous).engine = due.foldl handOver elapsed.engine := by
    simp only [drain, elapsed, due, pending]
  have left : (elapsed.drain slice.previous).pending =
      (workload.pending.drainWhile Message.precedes (isDue slice.previous)).2 := by
    simp only [drain, elapsed, pending]
  obtain ⟨budget, ran⟩ : ∃ budget, (workload.run slice).2.engine =
      (elapsed.drain slice.previous).engine.after
        (.run budget (toEngineTime slice.previous) slice.capacity) := ⟨_, rfl⟩
  rw [drained] at ran
  constructor
  · simp [run]
  · rw [ran]
    exact respondHanded.trans respond
  · rw [ran, Engine.runs_after_run, runsHanded, runs]
  · rw [ran]
    change (due.foldl handOver elapsed.engine).arrivals = _
    rw [arrivalsHanded, arrivals, runs]
  · exact Prod.ext rfl left

theorem run_reports (workload : Workload) (slice : Slice) :
    ∃ budget earlier, (workload.run slice).1 =
      workload.engine.respond
        (.run budget (toEngineTime slice.previous) slice.capacity :: earlier) := by
  let elapsed := workload.elapse slice.current slice.previous
  obtain ⟨-, respond, -, -⟩ := workload.elapse_keeps slice.current slice.previous
  have respondHanded : (elapsed.drain slice.previous).engine.respond = workload.engine.respond :=
    (Engine.handOverAll_eq _ elapsed.engine).2.1.trans respond
  exact ⟨_, (elapsed.drain slice.previous).engine.past, congrFun respondHanded _⟩

section Turn

variable {workload : Workload} {time previous : Seconds}
  (running : workload.finished = false) (monotone : ¬ time < previous)
include running monotone

/-- A turn hands over what is due. -/
theorem turned_of_running (network : Network) (capacity : Binary64) :
    ∃ handed, workload.Turned previous
      (workload.turn network time previous capacity).workload handed := by
  have turned := workload.turned_run (workload.sliceOf time previous capacity)
  obtain ⟨pending, engine⟩ := (workload.run (workload.sliceOf time previous capacity)).2.forward_keeps
    network (workload.run (workload.sliceOf time previous capacity)).1
  refine ⟨(workload.pending.drainWhile Message.precedes (isDue previous)).1, ?_⟩
  rw [turn_of_running running monotone]
  simp only
  constructor
  · exact (terms_forward _ _ _).trans turned.terms
  · rw [engine]
    exact turned.respond
  · rw [engine]
    exact turned.runs
  · rw [engine]
    exact turned.arrivals
  · rw [pending]
    exact turned.drained

end Turn

/-! ## What a relay sends -/

/-- When a message is due that is sent in a slice which began at `start`. -/
def stamp (delay start : Seconds) : Seconds := ofEngineTime (toEngineTime start) + delay

/-- The dispatch carries a message along one of the routes, due at a time and delivered
then, or at once if that is past. -/
def Relays (routes : List (VertexId × VertexId)) (due now : Seconds) (dispatch : Dispatch) :
    Prop :=
  ∃ message, dispatch.event = .deliver message ∧
    (message.originVertex, message.destVertex) ∈ routes ∧ message.destTime = due ∧
      dispatch.delay = (due - now).max 0

theorem sent_of_mem_sendAll {network : Network} {delay : Seconds} {records : List Record}
    {dispatch : Dispatch} (member : dispatch ∈ (network.sendAll delay records).1) :
    ∃ time origin dest payload, Record.sent time origin dest payload ∈ records ∧
      network.send delay time origin dest payload = .ok dispatch := by
  induction records with
  | nil => cases member
  | cons record records induction =>
      have later (old : dispatch ∈ (network.sendAll delay records).1) :
          ∃ time origin dest payload, Record.sent time origin dest payload ∈ record :: records ∧
            network.send delay time origin dest payload = .ok dispatch := by
        obtain ⟨time, origin, dest, payload, listed, sent⟩ := induction old
        exact ⟨time, origin, dest, payload, List.mem_cons_of_mem _ listed, sent⟩
      cases record with
      | sent time origin dest payload =>
          rw [Network.sendAll] at member
          split at member
          · cases member
          · rename_i first sent
            rcases List.mem_cons.1 member with same | old
            · exact ⟨time, origin, dest, payload, List.mem_cons_self, same ▸ sent⟩
            · exact later old
      | produced | processed | consumed | received => exact later member

theorem mem_relay {routes : List (VertexId × VertexId)} {earlier : List Call} {budget : Nat}
    {start time : Milliseconds} {capacity : Binary64} {origin dest : VertexId}
    {payload : Batch}
    (reported : Record.sent time origin dest payload ∈
      Engine.relay routes (.run budget start capacity :: earlier)) :
    time = start ∧ (origin, dest) ∈ routes := by
  simp only [Engine.relay, List.mem_append, List.mem_filterMap, List.mem_map] at reported
  rcases reported with ⟨call, -, received⟩ | ⟨route, listed, same⟩
  · split at received <;> cases received
  · cases same
    exact ⟨rfl, listed⟩

theorem relays_of_mem_turn {workload : Workload} {network : Network}
    {time previous delay : Seconds} {capacity : Binary64} {routes : List (VertexId × VertexId)}
    (running : workload.finished = false) (monotone : ¬ time < previous)
    (transport : workload.transport = .networked delay)
    (relay : workload.engine.respond = Engine.relay routes) {dispatch : Dispatch}
    (member : dispatch ∈ (workload.turn network time previous capacity).dispatches) :
    Relays routes (stamp delay previous) network.now dispatch := by
  let slice := workload.sliceOf time previous capacity
  have sends : (workload.run slice).2.transport = .networked delay :=
    (transport_eq_of_terms (workload.turned_run slice).terms).trans transport
  obtain ⟨budget, earlier, reported⟩ := workload.run_reports slice
  rw [turn_of_running running monotone] at member
  simp only [forward] at member
  rw [sends, reported, relay] at member
  have sent : dispatch ∈ (network.sendAll delay
      (Engine.relay routes (.run budget (toEngineTime previous) capacity :: earlier))).1 := by
    rcases outcome : network.sendAll delay (Engine.relay routes
      (.run budget (toEngineTime previous) capacity :: earlier)) with ⟨dispatches, fault⟩
    simp only [slice, sliceOf, outcome] at member
    cases fault <;> exact member
  obtain ⟨start, origin, dest, payload, listed, carried⟩ := sent_of_mem_sendAll sent
  obtain ⟨rfl, route⟩ := mem_relay listed
  rw [Network.send] at carried
  split at carried
  · cases carried
  · cases carried
    exact ⟨_, rfl, route, rfl, rfl⟩

/-! ## Relays on the network -/

namespace Turned

variable {before after : Workload} {previous : Seconds} {handed : List Message}
  (turned : before.Turned previous after handed)
include turned

theorem held : before.pending.toList.Perm (handed ++ after.pending.toList) := by
  have split : before.pending.toList.Perm
      ((before.pending.drainWhile Message.precedes (isDue previous)).1 ++
        (before.pending.drainWhile Message.precedes (isDue previous)).2.toList) :=
    Heap.drainWhile_perm before.pending
  rwa [← turned.drained] at split

theorem waited {message : Message}
    (member : message ∈ handed ∨ message ∈ after.pending.toList) :
    message ∈ before.pending.toList :=
  turned.held.mem_iff.2 (List.mem_append.2 member)

theorem inOrder (sound : before.pending.Sound Message.precedes) :
    Heap.Drained Message.precedes (isDue previous) handed after.pending := by
  have drained : Heap.Drained Message.precedes (isDue previous)
      (before.pending.drainWhile Message.precedes (isDue previous)).1
      (before.pending.drainWhile Message.precedes (isDue previous)).2 :=
    sound.drain Message.precedes_total Message.precedes_trans before.pending.size
  rwa [← turned.drained] at drained

end Turned

/-- A workload on the network that only relays, as it is before it is submitted. -/
def IsRelay (delay : Seconds) (workload : Workload) : Prop :=
  ∃ id placement label routes pes tolerance keepsHistory,
    workload = ((((Workload.create id placement (Engine.fresh label (Engine.relay routes))).withPes
      pes).withTolerance tolerance).withHistory keepsHistory).withTransport (.networked delay)

/-- What a relay keeps whatever reaches it.  All its messages came along edges in `known`. -/
structure Steady (delay : Seconds) (known : VertexId → VertexId → Prop)
    (workload : Workload) : Prop where
  transport : workload.transport = .networked delay
  relays : ∃ routes, workload.engine.respond = Engine.relay routes
  heap : workload.pending.Sound Message.precedes
  waiting : ∀ message ∈ workload.pending.toList,
    message.destTime.IsInstant ∧ known message.originVertex message.destVertex
  arrived : ∀ arrival ∈ workload.engine.arrivals,
    arrival.time.IsInstant ∧ known arrival.origin arrival.dest ∧
      arrival.tick < workload.engine.runs
  ticks : workload.engine.arrivals.Pairwise fun earlier later =>
    earlier.tick < later.tick ∨
      earlier.tick = later.tick ∧ earlier.time.rank ≤ later.time.rank

/-- What was handed over or waits of the `early` messages is in order with what waits or is
queued of the `late` ones. -/
structure Orderly (early late : Selection) (queued : Seconds → Message → Prop)
    (workload : Workload) : Prop where
  waiting_queued : ∀ message ∈ workload.pending.toList, message.Among early →
    ∀ leaves later, queued leaves later → later.Trails leaves message.destTime
  arrived_queued : ∀ arrival ∈ workload.engine.arrivals, arrival.Among early →
    ∀ leaves later, queued leaves later →
      arrival.time.rank ≤ (toEngineTime later.destTime).rank
  arrived_waiting : ∀ arrival ∈ workload.engine.arrivals, arrival.Among early →
    ∀ message ∈ workload.pending.toList, message.Among late →
      arrival.time.rank ≤ (toEngineTime message.destTime).rank
  sorted : workload.engine.arrivals.Pairwise fun earlier later =>
    earlier.Among early → later.Among late → earlier.time.rank ≤ later.time.rank

/-- All chosen messages are due up to a time. -/
structure Bounded (chosen : Selection) (bound : Seconds) (workload : Workload) : Prop where
  waiting : ∀ message ∈ workload.pending.toList, message.Among chosen →
    message.destTime.rank ≤ bound.rank
  arrived : ∀ arrival ∈ workload.engine.arrivals, arrival.Among chosen →
    arrival.time.rank ≤ (toEngineTime bound).rank

/-- Everything was handed over after it was due. -/
def Served (now : Seconds) (workload : Workload) : Prop :=
  ∀ arrival ∈ workload.engine.arrivals, ∃ due : Seconds,
    due.IsInstant ∧ due.rank < now.rank ∧ arrival.time = toEngineTime due

theorem IsRelay.untouched {delay : Seconds} {workload : Workload}
    (relay : workload.IsRelay delay) :
    workload.pending.toList = [] ∧ workload.engine.arrivals = [] := by
  obtain ⟨_, _, _, _, _, _, _, rfl⟩ := relay
  exact ⟨rfl, rfl⟩

theorem steady_of_isRelay {delay : Seconds} {known : VertexId → VertexId → Prop}
    {workload : Workload} (relay : workload.IsRelay delay) : workload.Steady delay known := by
  obtain ⟨noMessage, noArrival⟩ := relay.untouched
  obtain ⟨id, placement, label, routes, pes, tolerance, keepsHistory, rfl⟩ := relay
  exact ⟨rfl, ⟨routes, rfl⟩, Heap.sound_empty, by simp [noMessage], by simp [noArrival],
    List.Pairwise.nil⟩

section New

variable {delay bound now : Seconds} {early late chosen : Selection}
  {queued : Seconds → Message → Prop} {workload : Workload} (relay : workload.IsRelay delay)
include relay

theorem orderly_of_isRelay : workload.Orderly early late queued := by
  obtain ⟨noMessage, noArrival⟩ := relay.untouched
  constructor <;> simp [noMessage, noArrival]

theorem bounded_of_isRelay : workload.Bounded chosen bound := by
  obtain ⟨noMessage, noArrival⟩ := relay.untouched
  constructor <;> simp [noMessage, noArrival]

theorem served_of_isRelay : workload.Served now := by
  simp [Served, relay.untouched.2]

end New

section Kept

variable {delay previous bound now : Seconds}
  {known more : VertexId → VertexId → Prop} {chosen early late : Selection}
  {queued others : Seconds → Message → Prop} {workload after : Workload}
  {handed : List Message}

theorem Steady.mono (steady : workload.Steady delay known)
    (grown : ∀ origin dest, known origin dest → more origin dest) :
    workload.Steady delay more :=
  { steady with
    waiting := fun message member =>
      (steady.waiting message member).imp_right (grown _ _)
    arrived := fun arrival member =>
      (steady.arrived arrival member).imp_right (And.imp_left (grown _ _)) }

theorem Steady.turn (steady : workload.Steady delay known)
    (turned : workload.Turned previous after handed) : after.Steady delay known := by
  have drained := turned.inOrder steady.heap
  constructor
  · exact (transport_eq_of_terms turned.terms).trans steady.transport
  · obtain ⟨routes, relay⟩ := steady.relays
    exact ⟨routes, turned.respond.trans relay⟩
  · exact drained.sound
  · exact fun message member => steady.waiting message (turned.waited (.inr member))
  · rw [turned.arrivals, turned.runs]
    intro arrival member
    rcases List.mem_append.1 member with old | new
    · obtain ⟨instant, edge, before⟩ := steady.arrived arrival old
      exact ⟨instant, edge, Nat.lt_succ_of_lt before⟩
    · obtain ⟨message, listed, rfl⟩ := List.mem_map.1 new
      obtain ⟨instant, edge⟩ := steady.waiting message (turned.waited (.inl listed))
      exact ⟨isInstant_toEngineTime instant, edge, Nat.lt_succ_self _⟩
  · rw [turned.arrivals, List.pairwise_append, List.pairwise_map]
    refine ⟨steady.ticks, ?_, fun earlier old later new => ?_⟩
    · apply drained.ordered.imp_of_mem
      intro earlier later first second precedes
      have left := (steady.waiting earlier (turned.waited (.inl first))).1
      have right := (steady.waiting later (turned.waited (.inl second))).1
      exact .inr ⟨rfl, toEngineTime_mono left right (Message.rank_le_of_precedes precedes)⟩
    · obtain ⟨message, -, rfl⟩ := List.mem_map.1 new
      exact .inl (steady.arrived earlier old).2.2

theorem mem_receive {message other : Message}
    (member : other ∈ (workload.receive message).pending.toList) :
    other = message ∨ other ∈ workload.pending.toList := by
  rw [receive] at member
  split at member
  · exact .inr member
  · exact List.mem_cons.1 ((Heap.push_perm message workload.pending).mem_iff.1 member)

theorem engine_receive (workload : Workload) (message : Message) :
    (workload.receive message).engine = workload.engine := by
  rw [receive]
  split <;> rfl

theorem Steady.receive (steady : workload.Steady delay known) {message : Message}
    (dated : message.destTime.IsInstant)
    (edge : known message.originVertex message.destVertex) :
    (workload.receive message).Steady delay known := by
  have engine := workload.engine_receive message
  constructor
  · exact (transport_eq_of_terms (workload.terms_receive message)).trans steady.transport
  · rw [engine]
    exact steady.relays
  · rw [Workload.receive]
    split
    · exact steady.heap
    · exact steady.heap.push Message.precedes_total Message.precedes_trans message
  · intro other member
    rcases mem_receive member with rfl | old
    · exact ⟨dated, edge⟩
    · exact steady.waiting other old
  · rw [engine]
    exact steady.arrived
  · rw [engine]
    exact steady.ticks

section Turn

variable (steady : workload.Steady delay known) (turned : workload.Turned previous after handed)
include steady turned

theorem Steady.waited {message : Message}
    (member : message ∈ handed ∨ message ∈ after.pending.toList) :
    message ∈ workload.pending.toList ∧ message.destTime.IsInstant :=
  ⟨turned.waited member, (steady.waiting message (turned.waited member)).1⟩

theorem Steady.overdue {message : Message} (member : message ∈ handed)
    (slice : previous.IsInstant) : message.destTime.rank < previous.rank := by
  have drained := turned.inOrder steady.heap
  have due : ¬ previous ≤ message.destTime := by simpa [isDue] using drained.ripe message member
  rw [slice.le_iff (steady.waited turned (.inl member)).2] at due
  exact Int.not_le.1 due

/-- A message that is handed over is due before the slice that just ended, and everything
still queued leaves after it; so what is queued cannot be due earlier. -/
theorem Orderly.turn (orderly : workload.Orderly early late queued) (slice : previous.IsInstant)
    (dated : ∀ leaves later, queued leaves later → later.destTime.IsInstant)
    (upcoming : ∀ leaves later, queued leaves later → previous.rank ≤ leaves.rank) :
    after.Orderly early late queued := by
  have drained := turned.inOrder steady.heap
  have arrivals {arrival : Arrival} (member : arrival ∈ after.engine.arrivals) :
      arrival ∈ workload.engine.arrivals ∨
        ∃ message ∈ handed, message.arrivalIn workload.engine.runs = arrival := by
    rw [turned.arrivals] at member
    exact (List.mem_append.1 member).imp_right List.mem_map.1
  constructor
  · intro message member among
    exact orderly.waiting_queued message (steady.waited turned (.inr member)).1 among
  · intro arrival member among leaves later waits
    rcases arrivals member with old | ⟨message, new, rfl⟩
    · exact orderly.arrived_queued arrival old among leaves later waits
    · obtain ⟨was, instant⟩ := steady.waited turned (.inl new)
      apply toEngineTime_mono instant (dated leaves later waits)
      rcases orderly.waiting_queued message was among leaves later waits with fine | close
      · exact fine
      · have overdue := steady.overdue turned new slice
        have notYet := upcoming leaves later waits
        omega
  · intro arrival member among message waits waitsAmong
    obtain ⟨waited, waitsInstant⟩ := steady.waited turned (.inr waits)
    rcases arrivals member with old | ⟨earlier, new, rfl⟩
    · exact orderly.arrived_waiting arrival old among message waited waitsAmong
    · exact toEngineTime_mono (steady.waited turned (.inl new)).2 waitsInstant
        (Message.rank_le_of_precedes (drained.before earlier new message waits))
  · rw [turned.arrivals, List.pairwise_append, List.pairwise_map]
    refine ⟨orderly.sorted, ?_, fun earlier old later new => ?_⟩
    · apply drained.ordered.imp_of_mem
      intro earlier later first second precedes _ _
      exact toEngineTime_mono (steady.waited turned (.inl first)).2
        (steady.waited turned (.inl second)).2 (Message.rank_le_of_precedes precedes)
    · obtain ⟨message, listed, rfl⟩ := List.mem_map.1 new
      exact fun among laterAmong => orderly.arrived_waiting earlier old among message
        (steady.waited turned (.inl listed)).1 laterAmong

theorem Bounded.turn (bounded : workload.Bounded chosen bound) (instant : bound.IsInstant) :
    after.Bounded chosen bound := by
  constructor
  · intro message member
    exact bounded.waiting message (steady.waited turned (.inr member)).1
  · rw [turned.arrivals]
    intro arrival member among
    rcases List.mem_append.1 member with old | new
    · exact bounded.arrived arrival old among
    · obtain ⟨message, listed, rfl⟩ := List.mem_map.1 new
      obtain ⟨was, dated⟩ := steady.waited turned (.inl listed)
      exact toEngineTime_mono dated instant (bounded.waiting message was among)

theorem Served.turn (served : workload.Served now) (slice : previous.IsInstant)
    (le : previous.rank ≤ now.rank) : after.Served now := by
  intro arrival member
  rw [turned.arrivals] at member
  rcases List.mem_append.1 member with old | new
  · exact served arrival old
  · obtain ⟨message, listed, rfl⟩ := List.mem_map.1 new
    exact ⟨message.destTime, (steady.waited turned (.inl listed)).2,
      Int.lt_of_lt_of_le (steady.overdue turned listed slice) le, rfl⟩

end Turn

theorem Orderly.receive (orderly : workload.Orderly early late queued) {message : Message}
    (trailed : message.Among early →
      ∀ leaves later, queued leaves later → later.Trails leaves message.destTime)
    (awaited : message.Among late →
      ∀ arrival ∈ workload.engine.arrivals, arrival.Among early →
        arrival.time.rank ≤ (toEngineTime message.destTime).rank) :
    (workload.receive message).Orderly early late queued := by
  have engine := workload.engine_receive message
  constructor
  · intro other member among
    rcases mem_receive member with rfl | old
    · exact trailed among
    · exact orderly.waiting_queued other old among
  · rw [engine]
    exact orderly.arrived_queued
  · rw [engine]
    intro arrival arrived arrivedAmong other member among
    rcases mem_receive member with rfl | old
    · exact awaited among arrival arrived arrivedAmong
    · exact orderly.arrived_waiting arrival arrived arrivedAmong other old among
  · rw [engine]
    exact orderly.sorted

theorem Bounded.receive (bounded : workload.Bounded chosen bound) {message : Message}
    (limited : message.Among chosen → message.destTime.rank ≤ bound.rank) :
    (workload.receive message).Bounded chosen bound := by
  constructor
  · intro other member among
    rcases mem_receive member with rfl | old
    · exact limited among
    · exact bounded.waiting other old among
  · rw [workload.engine_receive message]
    exact bounded.arrived

theorem Served.receive (served : workload.Served now) (message : Message) :
    (workload.receive message).Served now := by
  rw [Served, workload.engine_receive message]
  exact served

/-- Messages may leave the queue, and ones may join it that are in order with all before. -/
theorem Orderly.requeue (orderly : workload.Orderly early late queued)
    (joins : ∀ leaves later, others leaves later → queued leaves later ∨
      (∀ message ∈ workload.pending.toList, message.Among early →
        later.Trails leaves message.destTime) ∧
      ∀ arrival ∈ workload.engine.arrivals, arrival.Among early →
        arrival.time.rank ≤ (toEngineTime later.destTime).rank) :
    workload.Orderly early late others := by
  constructor
  · intro message member among leaves later waits
    rcases joins leaves later waits with old | ⟨trails, -⟩
    · exact orderly.waiting_queued message member among leaves later old
    · exact trails message member among
  · intro arrival member among leaves later waits
    rcases joins leaves later waits with old | ⟨-, inOrder⟩
    · exact orderly.arrived_queued arrival member among leaves later old
    · exact inOrder arrival member among
  · exact orderly.arrived_waiting
  · exact orderly.sorted

theorem Bounded.later (bounded : workload.Bounded chosen bound) {next : Seconds}
    (instant : bound.IsInstant) (nextInstant : next.IsInstant) (le : bound.rank ≤ next.rank) :
    workload.Bounded chosen next where
  waiting := fun message member among =>
    Int.le_trans (bounded.waiting message member among) le
  arrived := fun arrival member among =>
    Int.le_trans (bounded.arrived arrival member among) (toEngineTime_mono instant nextInstant le)

theorem Served.later (served : workload.Served now) {next : Seconds}
    (le : now.rank ≤ next.rank) : workload.Served next := by
  intro arrival member
  obtain ⟨due, instant, before, time⟩ := served arrival member
  exact ⟨due, instant, Int.lt_of_lt_of_le before le, time⟩

end Kept

end Workload

end CoSimulation
