import CoSimulation.Proofs.Host
import CoSimulation.Proofs.Table
import Mathlib.Algebra.Order.Group.Multiset

/-!
# The hosts of a datacenter

A datacenter is lawful if its hosts are and every route leads to a host that serves
the vertex.  A pass lets every host tick; the other operations put a new scheduler
in the place of one host's.  Sums over the hosts follow both.
-/

namespace CoSimulation

/-- A list that is put together from the entries of a table. -/
theorem Table.coe_flatMap_entries {α β : Type} (table : Table α) (items : Nat × α → List β) :
    ((table.entries.flatMap items : List β) : Multiset β) =
      table.sum fun key value => (items (key, value) : Multiset β) := by
  rw [Table.sum]
  induction table.entries with
  | nil => rfl
  | cons entry rest induction =>
      simp only [List.map_cons, List.flatMap_cons, List.sum_cons, ← induction]
      rfl

theorem Table.coe_flatMap_values {α β : Type} (table : Table α) (items : α → List β) :
    ((table.values.flatMap items : List β) : Multiset β) =
      table.sum fun _ value => (items value : Multiset β) := by
  rw [Table.values, List.flatMap_map]
  exact table.coe_flatMap_entries fun entry => items entry.2

theorem Table.map_sum {α β γ : Type} (table : Table α) (items : Nat → α → Multiset β)
    (function : β → γ) :
    (table.sum items).map function =
      table.sum fun key value => (items key value).map function := by
  rw [Table.sum, Table.sum]
  induction table.entries with
  | nil => rfl
  | cons entry rest induction =>
      simp only [List.map_cons, List.sum_cons, Multiset.map_add, induction]

theorem Table.mem_sum {α β : Type} {table : Table α} {items : Nat → α → Multiset β} {item : β} :
    item ∈ table.sum items ↔
      ∃ key value, table.get? key = some value ∧ item ∈ items key value := by
  simp only [← Table.mem_entries, Table.sum]
  induction table.entries with
  | nil => simp
  | cons entry rest induction =>
      simp only [List.map_cons, List.sum_cons, Multiset.mem_add, induction, List.mem_cons]
      constructor
      · rintro (here | ⟨key, value, listed, there⟩)
        · exact ⟨entry.1, entry.2, .inl rfl, here⟩
        · exact ⟨key, value, .inr listed, there⟩
      · rintro ⟨key, value, same | listed, there⟩
        · subst same
          exact .inl there
        · exact .inr ⟨key, value, listed, there⟩

namespace Datacenter

open Binary64

/-- What never changes about a datacenter. -/
structure Layout where
  id : DatacenterId
  hosts : Table Host.Layout
  interval : Seconds
  gap : Seconds

def layout (datacenter : Datacenter) : Layout :=
  { id := datacenter.id
    hosts := datacenter.hosts.map Host.layout
    interval := datacenter.interval
    gap := datacenter.gap }

def total {M : Type} [AddCommMonoid M] (quantity : HostId → Scheduler → M)
    (datacenter : Datacenter) : M :=
  datacenter.hosts.sum fun id host => quantity id host.scheduler

/-- A datacenter as it is found at `now`, between two events. -/
structure Lawful (datacenter : Datacenter) (now : Seconds) : Prop where
  named : ∀ id host, datacenter.host? id = some host → host.id = id
  hosts : ∀ id host, datacenter.host? id = some host → host.Lawful now
  routes : ∀ vertex route, datacenter.route? vertex = some route →
    ∃ host, datacenter.host? route.host = some host ∧ host.Serves vertex route.workload

theorem isSome_host?_of_layout {left right : Datacenter} (same : left.layout = right.layout)
    (host : HostId) : (left.host? host).isSome = (right.host? host).isSome := by
  have hosts : left.hosts.map Host.layout = right.hosts.map Host.layout :=
    congrArg Layout.hosts same
  have found := congrArg (fun table => (table.get? host).isSome) hosts
  simpa [host?] using found

theorem Lawful.later {datacenter : Datacenter} {now later : Seconds}
    (lawful : datacenter.Lawful now) (after : now.rank ≤ later.rank) :
    datacenter.Lawful later :=
  ⟨lawful.named, fun id host found => (lawful.hosts id host found).later after, lawful.routes⟩

/-! ## A pass over the hosts -/

section Pass

variable (datacenter : Datacenter) (network : Network)

def sent : List Dispatch :=
  datacenter.hosts.values.flatMap fun host => (host.tick network network.now).dispatches

def ending : List WorkloadId :=
  datacenter.hosts.values.flatMap fun host =>
    (host.tick network network.now).state.scheduler.completed

theorem pass_hosts :
    (datacenter.pass network).1.hosts =
      datacenter.hosts.map fun host => host.ticked network network.now := by
  apply Table.ext_entries
  simp [pass, updateHosts, arm, Table.map, Host.ticked]

@[simp] theorem pass_interval :
    (datacenter.pass network).1.interval = datacenter.interval := rfl

@[simp] theorem pass_gap : (datacenter.pass network).1.gap = datacenter.gap := rfl

@[simp] theorem pass_id : (datacenter.pass network).1.id = datacenter.id := rfl

theorem pass_completed :
    (datacenter.pass network).1.completed =
      datacenter.completed ++ datacenter.ending network := by
  simp [pass, updateHosts, arm, ending, List.flatMap_map]

theorem pass_dispatches_eq :
    (datacenter.pass network).2.1 = datacenter.sent network ++
      datacenter.nextHousekeeping network.now (datacenter.updateHosts network).2.2.1 := by
  simp only [pass, updateHosts, sent, Table.values_map, List.flatMap_map]
  rfl

/-- A pass dispatches what the hosts send, and housekeeping of the datacenter itself
among which is the one that is due an interval later. -/
theorem pass_dispatches :
    ∃ following, (datacenter.pass network).2.1 = datacenter.sent network ++ following ∧
      datacenter.housekeepingIn datacenter.interval ∈ following ∧
        ∀ dispatch ∈ following,
          dispatch.target = datacenter.id ∧ dispatch.event = .housekeeping := by
  refine ⟨_, datacenter.pass_dispatches_eq network, ?_, ?_⟩
  · simp only [nextHousekeeping]
    split
    · split
      · exact List.mem_cons_of_mem _ List.mem_cons_self
      · exact List.mem_cons_self
    · exact List.mem_cons_self
  · simp only [nextHousekeeping, housekeepingIn]
    intro dispatch member
    split at member
    · split at member
      · rcases List.mem_cons.1 member with same | late
        · exact same ▸ ⟨rfl, rfl⟩
        · exact List.mem_singleton.1 late ▸ ⟨rfl, rfl⟩
      · exact List.mem_singleton.1 member ▸ ⟨rfl, rfl⟩
    · exact List.mem_singleton.1 member ▸ ⟨rfl, rfl⟩

theorem mem_pass_faults {fault : Fault} :
    fault ∈ (datacenter.pass network).2.2 ↔
      ∃ host ∈ datacenter.hosts.values,
        (host.tick network network.now).result = .error fault := by
  simp only [pass, updateHosts, Table.values_map, List.mem_filterMap, List.mem_map]
  constructor
  · rintro ⟨outcome, ⟨host, member, rfl⟩, failed⟩
    refine ⟨host, member, ?_⟩
    split at failed
    · cases failed
    · rename_i refused result
      cases failed
      exact result
  · rintro ⟨host, member, failed⟩
    exact ⟨_, ⟨host, member, rfl⟩, by simp [failed]⟩

variable {datacenter network}

theorem host?_pass {id : HostId} {host : Host} (found : datacenter.host? id = some host) :
    (datacenter.pass network).1.host? id = some (host.ticked network network.now) := by
  rw [host?, pass_hosts, Table.get?_map]
  rw [host?] at found
  rw [found]
  rfl

theorem of_host?_pass {id : HostId} {after : Host}
    (found : (datacenter.pass network).1.host? id = some after) :
    ∃ host, datacenter.host? id = some host ∧ after = host.ticked network network.now := by
  rw [host?, pass_hosts, Table.get?_map] at found
  obtain ⟨host, before, rfl⟩ := Option.map_eq_some_iff.1 found
  exact ⟨host, before, rfl⟩

theorem layout_pass : (datacenter.pass network).1.layout = datacenter.layout := by
  have hosts : (datacenter.pass network).1.hosts.map Host.layout =
      datacenter.hosts.map Host.layout := by
    rw [pass_hosts]
    apply Table.ext_entries
    simp [Table.map]
  simp only [layout, hosts, pass_id, pass_interval, pass_gap]

theorem total_pass {M : Type} [AddCommMonoid M] (quantity : HostId → Scheduler → M) :
    (datacenter.pass network).1.total quantity =
      datacenter.hosts.sum fun id host =>
        quantity id (host.ticked network network.now).scheduler := by
  rw [total, pass_hosts, Table.sum_map]

theorem total_pass_of_eq {M : Type} [AddCommMonoid M] {quantity : HostId → Scheduler → M}
    (same : ∀ id host, datacenter.host? id = some host →
      quantity id (host.ticked network network.now).scheduler = quantity id host.scheduler) :
    (datacenter.pass network).1.total quantity = datacenter.total quantity := by
  rw [total_pass]
  exact Table.sum_congr same

theorem sent_isDelivery :
    ∀ dispatch ∈ datacenter.sent network, dispatch.IsDelivery network.registry := by
  intro dispatch member
  obtain ⟨host, -, sent⟩ := List.mem_flatMap.1 member
  exact Scheduler.tick_isDelivery host.scheduler network network.now host.mips dispatch sent

section Lawful

variable {now : Seconds} (lawful : datacenter.Lawful now)
include lawful

theorem Lawful.pass (clock : network.now.IsInstant) :
    (datacenter.pass network).1.Lawful network.now where
  named := by
    intro id after found
    obtain ⟨host, before, rfl⟩ := of_host?_pass found
    exact lawful.named id host before
  hosts := by
    intro id after found
    obtain ⟨host, before, rfl⟩ := of_host?_pass found
    exact (lawful.hosts id host before).ticked clock
  routes := by
    intro vertex route routed
    obtain ⟨host, before, serves⟩ := lawful.routes vertex route routed
    exact ⟨_, host?_pass before, serves.ticked (lawful.hosts _ host before).formed _⟩

/-- The only fault of a pass is a destination that was never placed. -/
theorem Lawful.pass_fault (clock : network.now.IsInstant)
    (forward : now.rank ≤ network.now.rank) {fault : Fault}
    (failed : fault ∈ (datacenter.pass network).2.2) :
    ∃ vertex, fault = .unresolvedDestination vertex := by
  obtain ⟨host, member, reported⟩ := (mem_pass_faults datacenter network).1 failed
  obtain ⟨id, found⟩ := Table.mem_values.1 member
  have here : host.Lawful network.now := (lawful.hosts id host found).later forward
  exact here.formed.tick_fault (here.monotone clock) reported

end Lawful

end Pass

/-! ## Another scheduler on one host -/

/-- The datacenter with another scheduler on one of its hosts. -/
def reschedule (datacenter : Datacenter) (id : HostId) (host : Host) (next : Scheduler) :
    Datacenter :=
  { datacenter with hosts := datacenter.hosts.insert id { host with scheduler := next } }

section Reschedule

variable {datacenter : Datacenter} {id : HostId} {host : Host} {next : Scheduler}
  (found : datacenter.host? id = some host)

theorem host?_reschedule (other : HostId) :
    (datacenter.reschedule id host next).host? other =
      if other = id then some { host with scheduler := next } else datacenter.host? other :=
  Table.get?_insert _ _ _ _

include found

theorem layout_reschedule (same : next.gap = host.scheduler.gap) :
    (datacenter.reschedule id host next).layout = datacenter.layout := by
  have hosts : (datacenter.reschedule id host next).hosts.map Host.layout =
      datacenter.hosts.map Host.layout :=
    Table.map_insert found (by simp [Host.layout, same])
  simp only [layout, hosts]
  rfl

theorem total_reschedule {M : Type} [AddCommMonoid M] (quantity : HostId → Scheduler → M) :
    (datacenter.reschedule id host next).total quantity + quantity id host.scheduler =
      datacenter.total quantity + quantity id next :=
  Table.sum_insert_of_present found

theorem total_reschedule_of_eq {M : Type} [AddCancelCommMonoid M]
    {quantity : HostId → Scheduler → M}
    (same : quantity id next = quantity id host.scheduler) :
    (datacenter.reschedule id host next).total quantity = datacenter.total quantity := by
  have exchanged : (datacenter.reschedule id host next).total quantity +
      quantity id host.scheduler = datacenter.total quantity + quantity id next :=
    total_reschedule found quantity
  rw [same] at exchanged
  exact add_right_cancel exchanged

theorem Lawful.reschedule {now : Seconds} (lawful : datacenter.Lawful now)
    (here : ({ host with scheduler := next } : Host).Lawful now)
    (kept : ∀ vertex workload, host.Serves vertex workload →
      ({ host with scheduler := next } : Host).Serves vertex workload) :
    (datacenter.reschedule id host next).Lawful now where
  named := by
    intro other after present
    rw [host?_reschedule] at present
    split at present
    · rename_i same
      cases present
      exact (lawful.named id host found).trans same.symm
    · exact lawful.named other after present
  hosts := by
    intro other after present
    rw [host?_reschedule] at present
    split at present
    · cases present
      exact here
    · exact lawful.hosts other after present
  routes := by
    intro vertex route routed
    obtain ⟨serving, present, serves⟩ := lawful.routes vertex route routed
    rw [host?_reschedule]
    split
    · rename_i same
      rw [same, found] at present
      cases present
      exact ⟨_, rfl, kept _ _ serves⟩
    · exact ⟨serving, present, serves⟩

end Reschedule

/-- The first host that knows a workload hands it back. -/
theorem reclaim_eq_ok {datacenter next : Datacenter} {id : WorkloadId} {workload : Workload}
    (reclaimed : datacenter.reclaim id = .ok (workload, next)) :
    ∃ host scheduler,
      datacenter.hosts.values.find? (fun host => host.scheduler.contains id) = some host ∧
        host.scheduler.reclaim id = .ok (workload, scheduler) ∧
        next = datacenter.addHost { host with scheduler := scheduler } := by
  rw [reclaim] at reclaimed
  split at reclaimed
  · cases reclaimed
  · rename_i host first
    cases taken : host.scheduler.reclaim id with
    | error fault =>
        rw [taken] at reclaimed
        cases reclaimed
    | ok result =>
        obtain ⟨returned, scheduler⟩ := result
        rw [taken] at reclaimed
        cases reclaimed
        exact ⟨host, scheduler, first, taken, rfl⟩

theorem Lawful.reclaim_eq_ok {datacenter next : Datacenter} {now : Seconds}
    (lawful : datacenter.Lawful now) {id : WorkloadId} {workload : Workload}
    (reclaimed : datacenter.reclaim id = .ok (workload, next)) :
    ∃ owner host scheduler, datacenter.host? owner = some host ∧
      Scheduler.HandedBack host.scheduler id workload scheduler ∧
        next = datacenter.reschedule owner host scheduler := by
  obtain ⟨host, scheduler, first, taken, rfl⟩ := Datacenter.reclaim_eq_ok reclaimed
  obtain ⟨owner, found⟩ := Table.mem_values.1 (List.mem_of_find?_eq_some first)
  have named : host.id = owner := lawful.named owner host found
  refine ⟨owner, host, scheduler, found, Scheduler.reclaim_eq_ok taken, ?_⟩
  rw [Datacenter.reschedule, ← named]
  rfl

end Datacenter

end CoSimulation
