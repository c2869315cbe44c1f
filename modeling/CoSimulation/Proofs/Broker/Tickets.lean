import CoSimulation.Proofs.Broker
import CoSimulation.Proofs.Simulation
import Mathlib.Data.List.Induction

/-!
# What becomes of queued workloads

Every workload that a broker is given holds a ticket.  It waits, it is rejected, or it is
submitted to a host and to the datacenter that owns the host in that round.  The lists, the
registry and the dispatches of a broker are read off the tickets of all workloads, so that
nothing is lost or counted twice and only submissions leave a trace.
-/

namespace CoSimulation

/-- A workload sent to a host of a datacenter. -/
structure Submission where
  workload : Workload
  host : HostId
  datacenter : DatacenterId

namespace Submission

def entry (submission : Submission) : WorkloadId × HostId :=
  (submission.workload.id, submission.host)

def dispatch (submission : Submission) : Dispatch :=
  { target := submission.datacenter, delay := 0
    event := .submit submission.host submission.workload }

end Submission

/-- What has become of a queued workload. -/
inductive Fate where
  | waiting
  | rejected (fault : Fault)
  | submitted (host : HostId) (datacenter : DatacenterId)

structure Ticket where
  workload : Workload
  fate : Fate

namespace Ticket

def waiting? : Ticket → Option Workload
  | ⟨workload, .waiting⟩ => some workload
  | ⟨_, .rejected _⟩ | ⟨_, .submitted ..⟩ => none

def rejection? : Ticket → Option (WorkloadId × Fault)
  | ⟨workload, .rejected fault⟩ => some (workload.id, fault)
  | ⟨_, .waiting⟩ | ⟨_, .submitted ..⟩ => none

def submission? : Ticket → Option Submission
  | ⟨workload, .submitted host datacenter⟩ => some ⟨workload, host, datacenter⟩
  | ⟨_, .waiting⟩ | ⟨_, .rejected _⟩ => none

variable {workload : Workload} {tickets early late : List Ticket}

theorem waiting?_eq_some {ticket : Ticket} :
    ticket.waiting? = some workload ↔ ticket = ⟨workload, .waiting⟩ := by
  rcases ticket with ⟨other, fate⟩
  cases fate <;> simp [waiting?]

/-- Every ticket is of one kind. -/
theorem length_eq (tickets : List Ticket) :
    tickets.length =
      (tickets.filterMap waiting?).length + (tickets.filterMap submission?).length +
        (tickets.filterMap rejection?).length := by
  induction tickets with
  | nil => rfl
  | cons ticket tickets induction =>
      rcases ticket with ⟨workload, fate⟩
      cases fate <;> simp [List.filterMap_cons, waiting?, submission?, rejection?] <;> omega

theorem split_waiting {before after : List Workload}
    (waiting : tickets.filterMap waiting? = before ++ workload :: after) :
    ∃ early late, tickets = early ++ ⟨workload, .waiting⟩ :: late ∧
      early.filterMap waiting? = before ∧ late.filterMap waiting? = after := by
  obtain ⟨early, middle, rfl, first, second⟩ := List.filterMap_eq_append_iff.1 waiting
  obtain ⟨passed, ticket, late, rfl, idle, found, last⟩ := List.filterMap_eq_cons_iff.1 second
  cases waiting?_eq_some.1 found
  refine ⟨early ++ passed, late, ?_, ?_, last⟩
  · rw [List.append_assoc]
  · rw [List.filterMap_append, first, List.filterMap_eq_nil_iff.2 idle, List.append_nil]

/-- What a list of tickets tells is extended when a workload stops waiting. -/
theorem filterMap_reissue {α : Type} (reading : Ticket → Option α) {fate : Fate} {value : α}
    (silent : reading ⟨workload, .waiting⟩ = none)
    (tells : reading ⟨workload, fate⟩ = some value) :
    ((early ++ ⟨workload, fate⟩ :: late).filterMap reading).Perm
      ((early ++ ⟨workload, .waiting⟩ :: late).filterMap reading ++ [value]) := by
  rw [List.filterMap_append, List.filterMap_cons_some tells, List.filterMap_append,
    List.filterMap_cons_none silent]
  exact List.perm_middle.trans (List.perm_append_singleton value _).symm

theorem filterMap_unchanged {α : Type} (reading : Ticket → Option α) (fate : Fate)
    (same : reading ⟨workload, fate⟩ = reading ⟨workload, .waiting⟩) :
    (early ++ ⟨workload, fate⟩ :: late).filterMap reading =
      (early ++ ⟨workload, .waiting⟩ :: late).filterMap reading := by
  simp only [List.filterMap_append, List.filterMap_cons, same]

end Ticket

namespace Broker

/-! ## A round -/

/-- The tickets and the submissions, in order, of a broker that has yet to consider `rest`. -/
structure Booked (tickets : List Ticket) (submissions : List Submission)
    (rest : List Workload) (broker : Broker) : Prop where
  waiting : tickets.filterMap Ticket.waiting? = broker.pending ++ rest
  rejected : (tickets.filterMap Ticket.rejection?).Perm broker.rejected
  accepted : (tickets.filterMap Ticket.submission?).Perm submissions
  submitted : broker.submitted = submissions.map Submission.entry
  distinct : (broker.submitted.map Prod.fst).Nodup
  pinned : ∀ submission ∈ submissions, ∀ host,
    submission.workload.placement.host = some host → submission.host = host
  placed : ∀ vertex host, broker.registry.hostOf? vertex = some host ↔
    ∃ submission ∈ submissions, submission.host = host ∧
      vertex ∈ submission.workload.placement.vertices.keys

/-- Between two brokers `sent` is dispatched and nothing else submitted, each to the owner of
its host.  No host changes its owner. -/
structure Sends (owns : DatacenterId → HostId → Bool) (broker next : Broker)
    (dispatches : List Dispatch) (sent : List Submission) : Prop where
  dispatched : dispatches = sent.map Submission.dispatch
  submitted : next.submitted = broker.submitted ++ sent.map Submission.entry
  hosts : next.registry.datacenterOfHost = broker.registry.datacenterOfHost
  owned : ∀ submission ∈ sent,
    broker.registry.datacenterOf? submission.host = some submission.datacenter ∧
      owns submission.datacenter submission.host = true

section Rounds

variable {owns : DatacenterId → HostId → Bool} {broker next last : Broker}
variable {tickets : List Ticket} {submissions first second : List Submission}
variable {workload : Workload} {rest : List Workload} {dispatches others : List Dispatch}

theorem Sends.nothing (submitted : next.submitted = broker.submitted)
    (registered : next.registry = broker.registry) : Sends owns broker next [] [] where
  dispatched := rfl
  submitted := submitted.trans (List.append_nil _).symm
  hosts := congrArg Registry.datacenterOfHost registered
  owned := by simp

theorem Sends.trans (sends : Sends owns broker next dispatches first)
    (more : Sends owns next last others second) :
    Sends owns broker last (dispatches ++ others) (first ++ second) where
  dispatched := by rw [sends.dispatched, more.dispatched, List.map_append]
  submitted := by
    rw [more.submitted, sends.submitted, List.append_assoc, List.map_append]
  hosts := more.hosts.trans sends.hosts
  owned submission member := by
    rcases List.mem_append.1 member with early | late
    · exact sends.owned submission early
    · have owned := more.owned submission late
      rw [Registry.datacenterOf?, sends.hosts] at owned
      exact owned

theorem Booked.submit (booked : Booked tickets submissions (workload :: rest) broker)
    (nextHost : Nat) {host : HostId} {datacenter : DatacenterId} {registry : Registry}
    (new : ∀ entry ∈ broker.submitted, entry.1 ≠ workload.id)
    (assigned :
      broker.registry.assignAll workload.placement.vertices.keys host = .ok registry)
    (pinned : ∀ pin, workload.placement.host = some pin → host = pin) :
    ∃ after, after.map Ticket.workload = tickets.map Ticket.workload ∧
      Booked after (submissions ++ [⟨workload, host, datacenter⟩]) rest
        { broker with
          nextHost := nextHost
          registry := registry
          submitted := broker.submitted ++ [(workload.id, host)] } := by
  obtain ⟨early, late, rfl, front, back⟩ := Ticket.split_waiting booked.waiting
  refine ⟨early ++ ⟨workload, .submitted host datacenter⟩ :: late, by simp, ?_⟩
  constructor
  · rw [List.filterMap_append, List.filterMap_cons_none rfl, front, back]
  · rw [Ticket.filterMap_unchanged Ticket.rejection? (.submitted host datacenter) rfl]
    exact booked.rejected
  · exact (Ticket.filterMap_reissue Ticket.submission? rfl rfl).trans
      (booked.accepted.append_right _)
  · simp [booked.submitted, Submission.entry]
  · simp only [List.map_append, List.map_cons, List.map_nil]
    refine List.nodup_append.2 ⟨booked.distinct, List.pairwise_singleton _ _, ?_⟩
    rintro id known other single rfl
    obtain ⟨entry, member, same⟩ := List.mem_map.1 known
    exact new entry member (same.trans (List.mem_singleton.1 single))
  · intro submission member pin wanted
    rcases List.mem_append.1 member with old | added
    · exact booked.pinned submission old pin wanted
    · cases List.mem_singleton.1 added
      exact pinned pin wanted
  · intro vertex place
    change registry.hostOf? vertex = some place ↔ _
    constructor
    · intro located
      rw [(Registry.assignAll_eq_ok assigned).2] at located
      split at located
      · rename_i executed
        exact ⟨_, List.mem_append_right _ List.mem_cons_self, Option.some.inj located, executed⟩
      · obtain ⟨submission, member, placed⟩ := (booked.placed vertex place).1 located
        exact ⟨submission, List.mem_append_left _ member, placed⟩
    · rintro ⟨submission, member, rfl, executed⟩
      rcases List.mem_append.1 member with old | added
      · apply Registry.hostOf?_of_assignAll assigned
        exact (booked.placed vertex _).2 ⟨submission, old, rfl, executed⟩
      · cases List.mem_singleton.1 added
        rw [(Registry.assignAll_eq_ok assigned).2, if_pos executed]

theorem Booked.reject (booked : Booked tickets submissions (workload :: rest) broker)
    (nextHost : Nat) (fault : Fault) :
    ∃ after, after.map Ticket.workload = tickets.map Ticket.workload ∧
      Booked after submissions rest
        ({ broker with nextHost := nextHost }.reject workload.id fault) := by
  obtain ⟨early, late, rfl, front, back⟩ := Ticket.split_waiting booked.waiting
  refine ⟨early ++ ⟨workload, .rejected fault⟩ :: late, by simp, ?_, ?_, ?_, booked.submitted,
    booked.distinct, booked.pinned, booked.placed⟩
  · rw [List.filterMap_append, List.filterMap_cons_none rfl, front, back]
    rfl
  · exact (Ticket.filterMap_reissue Ticket.rejection? rfl rfl).trans
      (booked.rejected.append_right _)
  · rw [Ticket.filterMap_unchanged Ticket.submission? (.rejected fault) rfl]
    exact booked.accepted

theorem Booked.consider (booked : Booked tickets submissions (workload :: rest) broker)
    (considered : Considered owns broker workload next dispatches) :
    ∃ after sent, after.map Ticket.workload = tickets.map Ticket.workload ∧
      Booked after (submissions ++ sent) rest next ∧
      Sends owns broker next dispatches sent := by
  cases considered with
  | rejected nextHost fault =>
      obtain ⟨after, same, rejected⟩ := booked.reject nextHost fault
      rw [← List.append_nil submissions] at rejected
      exact ⟨after, [], same, rejected, Sends.nothing rfl rfl⟩
  | postponed nextHost =>
      refine ⟨tickets, [], rfl, ?_, Sends.nothing rfl rfl⟩
      rw [List.append_nil]
      obtain ⟨waiting, rejected, accepted, submitted, distinct, pinned, placed⟩ := booked
      refine ⟨?_, rejected, accepted, submitted, distinct, pinned, placed⟩
      rw [waiting]
      exact List.append_cons _ _ _
  | accepted nextHost new known owned assigned pinned =>
      obtain ⟨after, same, accepted⟩ := booked.submit nextHost new assigned pinned
      refine ⟨after, _, same, accepted, rfl, rfl, (Registry.assignAll_eq_ok assigned).1, ?_⟩
      intro submission member
      cases List.mem_singleton.1 member
      exact ⟨known, owned⟩

theorem Booked.considerAll (booked : Booked tickets submissions rest broker)
    (owns : DatacenterId → HostId → Bool) :
    ∃ after sent, after.map Ticket.workload = tickets.map Ticket.workload ∧
      Booked after (submissions ++ sent) [] (considerAll owns broker rest).1 ∧
      Sends owns broker (considerAll owns broker rest).1 (considerAll owns broker rest).2
        sent := by
  induction rest generalizing broker tickets submissions with
  | nil =>
      rw [← List.append_nil submissions] at booked
      exact ⟨tickets, [], rfl, booked, Sends.nothing rfl rfl⟩
  | cons workload rest induction =>
      obtain ⟨after, first, same, once, sends⟩ :=
        booked.consider (consider_considered owns broker workload)
      obtain ⟨final, second, still, done, more⟩ := induction once
      rw [List.append_assoc] at done
      exact ⟨final, first ++ second, still.trans same, done, sends.trans more⟩

theorem Booked.submitWhere (booked : Booked tickets submissions [] broker)
    (owns : DatacenterId → HostId → Bool) :
    ∃ after sent, after.map Ticket.workload = tickets.map Ticket.workload ∧
      Booked after (submissions ++ sent) [] (submitWhere owns broker).1 ∧
      Sends owns broker (submitWhere owns broker).1 (submitWhere owns broker).2 sent := by
  have waiting : Booked tickets submissions broker.pending { broker with pending := [] } :=
    ⟨booked.waiting.trans (List.append_nil _), booked.rejected, booked.accepted,
      booked.submitted, booked.distinct, booked.pinned, booked.placed⟩
  obtain ⟨after, sent, same, done, sends⟩ := waiting.considerAll owns
  exact ⟨after, sent, same, done, sends.dispatched, sends.submitted, sends.hosts, sends.owned⟩

end Rounds

/-! ## Requests -/

/-- Something that is asked of a broker. -/
inductive Request where
  | queue (workload : Workload)
  | addHost (host : HostId) (datacenter : DatacenterId)
  /-- A round. -/
  | submit (owns : DatacenterId → HostId → Bool)

/-- The workloads that a request queues. -/
def Request.queued : Request → List Workload
  | queue workload => [workload]
  | addHost .. | submit _ => []

/-- The broker after a request and what it dispatches. -/
def perform (broker : Broker) : Request → Broker × List Dispatch
  | .queue workload => (broker.queue workload, [])
  | .addHost host datacenter => (broker.addHost host datacenter, [])
  | .submit owns => broker.submitWhere owns

def after (broker : Broker) : List Request → Broker
  | [] => broker
  | request :: rest => (broker.perform request).1.after rest

/-- What is dispatched while requests are performed, in order. -/
def sent (broker : Broker) : List Request → List Dispatch
  | [] => []
  | request :: rest => (broker.perform request).2 ++ (broker.perform request).1.sent rest

/-- A submission is sent in a round, to the datacenter that owns its host then. -/
def SentIn (requests : List Request) (submission : Submission) : Prop :=
  ∃ before owns later, requests = before ++ .submit owns :: later ∧
    submission.dispatch ∈ ((empty.after before).submitWhere owns).2 ∧
    (empty.after before).registry.datacenterOf? submission.host = some submission.datacenter ∧
    owns submission.datacenter submission.host = true

/-- The books of a broker that has performed requests. -/
structure Kept (requests : List Request) (tickets : List Ticket)
    (submissions : List Submission) : Prop where
  booked : Booked tickets submissions [] (empty.after requests)
  queued : tickets.map Ticket.workload = requests.flatMap Request.queued
  sent : empty.sent requests = submissions.map Submission.dispatch
  sentIn : ∀ submission ∈ submissions, SentIn requests submission

section Requests

variable {requests : List Request} {tickets : List Ticket} {submissions : List Submission}
variable {broker : Broker} {submission : Submission}

theorem after_append (broker : Broker) (requests more : List Request) :
    broker.after (requests ++ more) = (broker.after requests).after more := by
  induction requests generalizing broker with
  | nil => rfl
  | cons request requests induction => exact induction _

theorem sent_append (broker : Broker) (requests more : List Request) :
    broker.sent (requests ++ more) =
      broker.sent requests ++ (broker.after requests).sent more := by
  induction requests generalizing broker with
  | nil => rfl
  | cons request requests induction =>
      rw [List.cons_append, sent, sent, induction, List.append_assoc]
      rfl

theorem SentIn.append (sentIn : SentIn requests submission) (more : List Request) :
    SentIn (requests ++ more) submission := by
  obtain ⟨before, owns, later, rfl, asked⟩ := sentIn
  exact ⟨before, owns, later ++ more, by simp, asked⟩

theorem Booked.queue (booked : Booked tickets submissions [] broker) (workload : Workload) :
    Booked (tickets ++ [⟨workload, .waiting⟩]) submissions [] (broker.queue workload) := by
  obtain ⟨waiting, rejected, accepted, submitted, distinct, pinned, placed⟩ := booked
  refine ⟨?_, ?_, ?_, submitted, distinct, pinned, placed⟩
  · rw [List.filterMap_append, waiting, List.append_nil, List.append_nil]
    rfl
  · rw [List.filterMap_append]
    exact (List.append_nil _).symm ▸ rejected
  · rw [List.filterMap_append]
    exact (List.append_nil _).symm ▸ accepted

/-- A request issues a ticket to the workload that it queues, and in a round it sends
submissions. -/
theorem Booked.perform (booked : Booked tickets submissions [] broker) (request : Request) :
    ∃ issued sent, issued.map Ticket.workload = tickets.map Ticket.workload ++ request.queued ∧
      Booked issued (submissions ++ sent) [] (broker.perform request).1 ∧
      (broker.perform request).2 = sent.map Submission.dispatch ∧
      ∀ submission ∈ sent, ∃ owns, request = .submit owns ∧
        broker.registry.datacenterOf? submission.host = some submission.datacenter ∧
        owns submission.datacenter submission.host = true := by
  cases request with
  | queue workload =>
      have queued := booked.queue workload
      rw [← List.append_nil submissions] at queued
      exact ⟨_, [], List.map_append, queued, rfl, by simp⟩
  | addHost host datacenter =>
      obtain ⟨waiting, rejected, accepted, submitted, distinct, pinned, placed⟩ := booked
      refine ⟨tickets, [], (List.append_nil _).symm, ?_, rfl, by simp⟩
      rw [List.append_nil]
      exact ⟨waiting, rejected, accepted, submitted, distinct, pinned, placed⟩
  | submit owns =>
      obtain ⟨issued, sent, same, done, sends⟩ := booked.submitWhere owns
      refine ⟨issued, sent, same.trans (List.append_nil _).symm, done, sends.dispatched, ?_⟩
      exact fun submission member => ⟨owns, rfl, sends.owned submission member⟩

/-- A broker keeps its books, whatever is asked of it. -/
theorem exists_kept (requests : List Request) :
    ∃ tickets submissions, Kept requests tickets submissions := by
  induction requests using List.reverseRecOn with
  | nil =>
      have booked : Booked [] [] [] empty :=
        { waiting := rfl
          rejected := .refl _
          accepted := .refl _
          submitted := rfl
          distinct := List.nodup_nil
          pinned := by simp
          placed := by simp [empty, Registry.hostOf?, Registry.empty] }
      exact ⟨[], [], booked, rfl, rfl, by simp⟩
  | append_singleton requests request induction =>
      obtain ⟨tickets, submissions, kept⟩ := induction
      obtain ⟨issued, sent, queued, booked, dispatched, owned⟩ := kept.booked.perform request
      refine ⟨issued, submissions ++ sent, ?_, ?_, ?_, fun submission member => ?_⟩
      · rw [after_append]
        exact booked
      · rw [queued, kept.queued, List.flatMap_append, List.flatMap_singleton]
      · rw [sent_append, kept.sent, List.map_append, ← dispatched]
        exact congrArg _ (List.append_nil _)
      · rcases List.mem_append.1 member with old | added
        · exact (kept.sentIn submission old).append _
        · obtain ⟨owns, rfl, known, accepts⟩ := owned submission added
          refine ⟨requests, owns, [], rfl, ?_, known, accepts⟩
          change submission.dispatch ∈ ((empty.after requests).perform (.submit owns)).2
          rw [dispatched]
          exact List.mem_map_of_mem added

theorem Kept.length_queued (kept : Kept requests tickets submissions) :
    (requests.flatMap Request.queued).length =
      (empty.after requests).pending.length + (empty.after requests).submitted.length +
        (empty.after requests).rejected.length := by
  obtain ⟨⟨waiting, rejected, accepted, submitted, -, -, -⟩, queued, -, -⟩ := kept
  rw [← queued, List.length_map, Ticket.length_eq, waiting, List.append_nil, submitted,
    List.length_map, accepted.length_eq, rejected.length_eq]

/-- Whatever is asked of a new broker, every workload that it was given waits, is submitted or
is rejected, and only what is submitted is dispatched and placed.  A further round tells how
many events it schedules. -/
theorem accounts_for_queued (requests : List Request) :
    let reached := empty.after requests
    (∃ tickets submissions, Kept requests tickets submissions) ∧
      (requests.flatMap Request.queued).length =
        reached.pending.length + reached.submitted.length + reached.rejected.length ∧
      (∀ owns, ∃ sent,
        Sends owns reached (reached.submitWhere owns).1 (reached.submitWhere owns).2 sent) ∧
      ∀ simulation : Simulation,
        let (count, next, broker) := simulation.submit reached
        ∃ sent, Sends simulation.owns reached broker (sent.map Submission.dispatch) sent ∧
          count = sent.length ∧
          next.queue.pending.Perm
            ((sent.map Submission.dispatch).map simulation.queue.entryOf ++
              simulation.queue.pending) := by
  intro reached
  obtain ⟨tickets, submissions, kept⟩ := exists_kept requests
  refine ⟨⟨tickets, submissions, kept⟩, kept.length_queued, fun owns => ?_,
    fun simulation => ?_⟩
  · obtain ⟨-, sent, -, -, sends⟩ := kept.booked.submitWhere owns
    exact ⟨sent, sends⟩
  · obtain ⟨-, sent, -, -, sends⟩ := kept.booked.submitWhere simulation.owns
    have queued := simulation.queue.dispatch_perm (reached.submitWhere simulation.owns).2
    have counted := congrArg List.length sends.dispatched
    rw [List.length_map] at counted
    nth_rewrite 2 [sends.dispatched] at queued
    exact ⟨sent, ⟨rfl, sends.submitted, sends.hosts, sends.owned⟩, counted, queued⟩

end Requests

end Broker

end CoSimulation
