import CoSimulation.Configuration.Basic
import Mathlib.Data.List.Nodup

/-!
# What validation ensures

A configuration is valid if all its parts are.  Then its times are positive, and its
datacenters and, in all of them together, its hosts have identities of their own.
-/

namespace CoSimulation

/-! ## Checks in sequence -/

theorem Except.bind_eq_ok_iff {ε α β : Type} {first : Except ε α} {next : α → Except ε β}
    {result : β} :
    (first >>= next) = .ok result ↔ ∃ value, first = .ok value ∧ next value = .ok result := by
  cases first <;> simp [bind, Except.bind]

@[simp] theorem Except.bind_unit_eq_ok_iff {ε α : Type} {first : Except ε Unit}
    {second : Except ε α} {result : α} :
    (do first; second) = .ok result ↔ first = .ok () ∧ second = .ok result :=
  bind_eq_ok_iff.trans ⟨fun ⟨_, both⟩ => both, fun both => ⟨(), both⟩⟩

@[simp] theorem Defect.unless_eq_ok_iff {condition : Bool} {defect : Defect} :
    Defect.unless condition defect = .ok () ↔ condition = true := by
  cases condition <;> simp [Defect.unless]

/-! ## The parts of a configuration -/

theorem RunSettings.validate_iff {settings : RunSettings} :
    settings.validate = .ok () ↔
      0 < settings.interval ∧ 0 < settings.gap ∧ 0 ≤ settings.endTime := by
  simp [validate]

theorem WorkloadSettings.validate_iff {settings : WorkloadSettings} :
    settings.validate = .ok () ↔ 0 ≤ settings.tolerance := by
  simp [validate]

theorem NetworkSettings.validate_iff {settings : NetworkSettings} :
    settings.validate = .ok () ↔ 0 ≤ settings.delay := by
  simp [validate]

theorem HostSettings.validate_iff {host : HostSettings} {earlier : List HostId} :
    host.validate earlier = .ok () ↔
      host.id ∉ earlier ∧ (∃ share ∈ host.mips, 0 < share) ∧ ∀ share ∈ host.mips, 0 ≤ share := by
  simp [validate]

theorem HostSettings.validateAll_eq_ok {hosts : List HostSettings} {earlier seen : List HostId}
    (valid : validateAll earlier hosts = .ok seen) (distinct : earlier.Nodup) :
    seen.Nodup ∧ seen.Perm (hosts.map HostSettings.id ++ earlier) := by
  induction hosts generalizing earlier with
  | nil =>
      cases valid
      exact ⟨distinct, List.Perm.refl _⟩
  | cons host hosts induction =>
      obtain ⟨checked, rest⟩ := Except.bind_unit_eq_ok_iff.1 valid
      obtain ⟨new, -⟩ := validate_iff.1 checked
      obtain ⟨nodup, listed⟩ := induction rest (List.nodup_cons.2 ⟨new, distinct⟩)
      exact ⟨nodup, listed.trans List.perm_middle⟩

/-- The hosts of several datacenters with their owners. -/
def DatacenterSettings.owners (datacenters : List DatacenterSettings) :
    List (HostId × DatacenterId) :=
  datacenters.flatMap fun settings => settings.hosts.map fun host => (host.id, settings.id)

theorem DatacenterSettings.validateAll_eq_ok {datacenters : List DatacenterSettings}
    {earlier : List DatacenterId} {hosts : List HostId}
    (valid : validateAll earlier hosts datacenters = .ok ()) (distinct : earlier.Nodup)
    (apart : hosts.Nodup) :
    (datacenters.map DatacenterSettings.id ++ earlier).Nodup ∧
      ((owners datacenters).map Prod.fst ++ hosts).Nodup := by
  induction datacenters generalizing earlier hosts with
  | nil => exact ⟨distinct, apart⟩
  | cons datacenter datacenters induction =>
      obtain ⟨unseen, rest⟩ := Except.bind_unit_eq_ok_iff.1 valid
      obtain ⟨seen, checked, others⟩ := Except.bind_eq_ok_iff.1 rest
      have new : datacenter.id ∉ earlier := by simpa using Defect.unless_eq_ok_iff.1 unseen
      obtain ⟨nodup, listed⟩ := HostSettings.validateAll_eq_ok checked apart
      obtain ⟨first, second⟩ := induction others (List.nodup_cons.2 ⟨new, distinct⟩) nodup
      refine ⟨List.perm_middle.nodup_iff.1 first, ?_⟩
      have arranged : ((owners (datacenter :: datacenters)).map Prod.fst ++ hosts).Perm
          ((owners datacenters).map Prod.fst ++ seen) := by
        have names : (owners (datacenter :: datacenters)).map Prod.fst =
            datacenter.hosts.map HostSettings.id ++ (owners datacenters).map Prod.fst := by
          simp [owners, Function.comp_def]
        rw [names]
        calc
          (datacenter.hosts.map HostSettings.id ++ (owners datacenters).map Prod.fst ++
              hosts).Perm
              ((owners datacenters).map Prod.fst ++
                (datacenter.hosts.map HostSettings.id ++ hosts)) := by
            rw [← List.append_assoc]
            exact List.Perm.append_right _ List.perm_append_comm
          List.Perm _ ((owners datacenters).map Prod.fst ++ seen) :=
            List.Perm.append_left _ listed.symm
      exact arranged.nodup_iff.2 second

namespace Configuration

variable {configuration : Configuration}

theorem validate_iff :
    configuration.validate = .ok () ↔
      configuration.run.validate = .ok () ∧ configuration.workloads.validate = .ok () ∧
        (∀ settings, configuration.network = some settings → settings.validate = .ok ()) ∧
          DatacenterSettings.validateAll [] [] configuration.datacenters = .ok () := by
  rw [validate]
  cases configuration.network <;> simp

theorem validate_eq_ok (valid : configuration.validate = .ok ()) :
    0 < configuration.run.interval ∧ 0 < configuration.run.gap ∧
      (configuration.datacenters.map DatacenterSettings.id).Nodup ∧
      ((DatacenterSettings.owners configuration.datacenters).map Prod.fst).Nodup := by
  obtain ⟨run, -, -, datacenters⟩ := validate_iff.1 valid
  obtain ⟨interval, gap, -⟩ := RunSettings.validate_iff.1 run
  obtain ⟨distinct, apart⟩ :=
    DatacenterSettings.validateAll_eq_ok datacenters List.nodup_nil List.nodup_nil
  rw [List.append_nil] at distinct apart
  exact ⟨interval, gap, distinct, apart⟩

end Configuration

end CoSimulation
