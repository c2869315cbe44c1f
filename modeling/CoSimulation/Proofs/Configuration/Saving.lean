import CoSimulation.Configuration.Load
import CoSimulation.Proofs.Configuration.Validating
import CoSimulation.Proofs.Json.Scaling

/-!
# Saving and loading a configuration

A configuration that is written as JSON is read back with all its parts, and only its numbers
may have changed.  `reread?` is the configuration that comes back, if one does.  An infinite
number leaves nothing behind that could be read where a number has to be; all other numbers
leave the configuration valid.
-/

namespace CoSimulation

open Json Json.Shape

/-! ## What is read back -/

namespace RunSettings

def reread? (settings : RunSettings) : Option RunSettings := do
  let endTime ← Numeral.reread? settings.endTime
  let interval ← Numeral.reread? settings.interval
  let gap ← Numeral.reread? settings.gap
  return { settings with endTime := endTime, interval := interval, gap := gap }

theorem answers (settings : RunSettings) (level : Nat) :
    Answers schema (Writer.spread level settings.document) settings.reread? := by
  refine (answers_fields level _ (.cons ((answers_real _).map _) (.cons ((answers_real _).map _)
    (.cons ((answers_real _).map _) (.cons ((answers_text _).map _) .nil)))) (by decide)
    (by decide)).congr ?_
  simp [reread?, Function.comp_def, Option.bind_map]

end RunSettings

namespace WorkloadSettings

def reread? (settings : WorkloadSettings) : Option WorkloadSettings := do
  let tolerance ← Numeral.reread? settings.tolerance
  return { settings with tolerance := tolerance }

theorem answers (settings : WorkloadSettings) (level : Nat) :
    Answers schema (Writer.spread level settings.document) settings.reread? := by
  refine (answers_fields level _ (.cons ((answers_real _).map _)
    (.cons ((answers_flag _).map _) .nil)) (by decide) (by decide)).congr ?_
  simp [reread?, Function.comp_def, Option.bind_map]

end WorkloadSettings

namespace NetworkSettings

def reread? (settings : NetworkSettings) : Option NetworkSettings :=
  (Numeral.reread? settings.delay).map fun delay => { delay := delay }

theorem answers (settings : NetworkSettings) (level : Nat) :
    Answers schema (Writer.spread level settings.document) settings.reread? := by
  refine (answers_fields level _ (.cons ((answers_real _).map _) .nil) (by decide)
    (by decide)).congr ?_
  simp [reread?, Function.comp_def]

end NetworkSettings

namespace HostSettings

def reread? (host : HostSettings) : Option HostSettings :=
  (host.mips.mapM Numeral.reread?).map fun mips => { host with mips := mips }

theorem answers (host : HostSettings) (fits : host.id < twoTo 32) (level : Nat) :
    Answers schema (Writer.spread level host.document) host.reread? := by
  have id := answers_countBelow fits (by decide : twoTo 32 ≤ twoTo 64)
  have mips := answers_list (level + 1) Document.real host.mips (fun x _ => opens_real x)
    fun x _ => answers_real x
  refine (answers_fields level _ (.cons (id.map _) (.cons (mips.map _) .nil)) (by decide)
    (by decide)).congr ?_
  simp [reread?, Function.comp_def]

end HostSettings

namespace DatacenterSettings

/-- The identities fit into 32 bits. -/
structure Fits (datacenter : DatacenterSettings) : Prop where
  id : datacenter.id < twoTo 32
  hosts : ∀ host ∈ datacenter.hosts, host.id < twoTo 32

def reread? (datacenter : DatacenterSettings) : Option DatacenterSettings :=
  (datacenter.hosts.mapM HostSettings.reread?).map fun hosts => { datacenter with hosts := hosts }

theorem answers (datacenter : DatacenterSettings) (fits : datacenter.Fits) (level : Nat) :
    Answers schema (Writer.spread level datacenter.document) datacenter.reread? := by
  have id := answers_countBelow fits.id (by decide : twoTo 32 ≤ twoTo 64)
  have hosts := answers_list (level + 1) HostSettings.document datacenter.hosts
    (fun host _ => opens_record _ _) fun host member => host.answers (fits.hosts host member) _
  refine (answers_fields level _ (.cons (id.map _) (.cons (hosts.map _) .nil)) (by decide)
    (by decide)).congr ?_
  simp [reread?, Function.comp_def]

end DatacenterSettings

namespace Configuration

/-- The identities of datacenters and hosts fit into 32 bits. -/
def Fits (configuration : Configuration) : Prop :=
  ∀ datacenter ∈ configuration.datacenters, datacenter.Fits

def reread? (configuration : Configuration) : Option Configuration := do
  let run ← configuration.run.reread?
  let workloads ← configuration.workloads.reread?
  let network ← configuration.network.mapM NetworkSettings.reread?
  (configuration.datacenters.mapM DatacenterSettings.reread?).map fun datacenters =>
    { run := run, workloads := workloads, network := network, datacenters := datacenters }

theorem answers_network (network : Option NetworkSettings) (level : Nat) :
    Answers (optional NetworkSettings.schema)
      (Writer.spread level (Document.optional NetworkSettings.document network))
      (network.mapM NetworkSettings.reread?) := by
  cases network with
  | none => exact answers_optional_null _
  | some settings =>
      obtain ⟨others, written⟩ : ∃ others,
          Writer.spread level settings.document = '\x7b' :: others := ⟨_, rfl⟩
      have answers := settings.answers level
      rw [written] at answers
      rw [Document.optional, written, Option.mapM_some]
      exact answers_optional rfl (by decide) answers

theorem answers (configuration : Configuration) (fits : configuration.Fits) (level : Nat) :
    Answers schema (Writer.spread level configuration.document) configuration.reread? := by
  have datacenters := answers_list (level + 1) DatacenterSettings.document
    configuration.datacenters (fun datacenter _ => opens_record _ _)
    fun datacenter member => datacenter.answers (fits datacenter member) _
  refine (answers_fields level _ (.cons ((configuration.run.answers _).map _)
    (.cons ((configuration.workloads.answers _).map _)
      (.cons ((answers_network configuration.network _).map _)
        (.cons (datacenters.map _) .nil)))) (by decide) (by decide)).congr ?_
  simp [reread?, Function.comp_def, Option.bind_map]

/-- What is read back from the saved configuration is checked, if anything is. -/
theorem ofJson_toJson (configuration : Configuration) (fits : configuration.Fits) :
    (∀ loaded, configuration.reread? = some loaded →
        ofJson configuration.toJson = loaded.checked) ∧
      (configuration.reread? = none →
        ∃ problem, ofJson configuration.toJson = .error (.json problem)) := by
  have text : configuration.toJson.toList = Writer.spread 0 configuration.document :=
    String.toList_ofList
  have read := (text ▸ configuration.answers fits 0).read_toOption
  rw [ofJson]
  cases outcome : Reader.read schema configuration.toJson with
  | error problem =>
      rw [outcome] at read
      exact ⟨fun loaded found => absurd (read.trans found) nofun, fun _ => ⟨problem, rfl⟩⟩
  | ok loaded =>
      rw [outcome] at read
      exact ⟨fun other found => by rw [Option.some.inj (read.trans found)],
        fun none => absurd (read.trans none) nofun⟩

end Configuration

/-! ## Which numbers matter -/

/-- Something comes back if these numbers are finite, and it is the same if these numbers come
back as they are. -/
structure Faithful {α : Type} (numbers : List Binary64) (value : α) (outcome : Option α) :
    Prop where
  same : outcome = some value ↔ ∀ x ∈ numbers, Numeral.reread? x = some x
  finite : (∃ other, outcome = some other) ↔ ∀ x ∈ numbers, x.isFinite = true

namespace Faithful

variable {α β : Type} {numbers : List Binary64} {value : α} {outcome : Option α}

theorem number (x : Binary64) : Faithful [x] x (Numeral.reread? x) := by
  constructor
  · simp
  · simp [Numeral.exists_reread?_iff]

theorem map (faithful : Faithful numbers value outcome) (make : α → β)
    (injective : ∀ other, make other = make value → other = value) :
    Faithful numbers (make value) (outcome.map make) := by
  constructor
  · refine Iff.trans ?_ faithful.same
    rw [Option.map_eq_some_iff]
    refine ⟨?_, fun same => ⟨value, same, rfl⟩⟩
    rintro ⟨other, found, made⟩
    rw [found, injective other made]
  · refine Iff.trans ?_ faithful.finite
    cases outcome <;> simp

theorem list (items : List α) {numbersOf : α → List Binary64} {value? : α → Option α}
    (each : ∀ item, Faithful (numbersOf item) item (value? item)) :
    Faithful (items.flatMap numbersOf) items (items.mapM value?) := by
  induction items with
  | nil => constructor <;> simp
  | cons item items induction =>
      constructor
      · rw [List.flatMap_cons, List.forall_mem_append, ← (each item).same, ← induction.same]
        simp [List.mapM_cons, Option.bind_eq_some_iff]
      · rw [List.flatMap_cons, List.forall_mem_append, ← (each item).finite, ← induction.finite]
        simp [List.mapM_cons, Option.bind_eq_some_iff]

end Faithful

namespace RunSettings

def numbers (settings : RunSettings) : List Binary64 :=
  [settings.endTime, settings.interval, settings.gap]

theorem faithful (settings : RunSettings) :
    Faithful settings.numbers settings settings.reread? := by
  constructor
  · obtain ⟨endTime, interval, gap, logLevel⟩ := settings
    simp [reread?, numbers, Option.bind_eq_some_iff]
  · simp [reread?, numbers, Option.bind_eq_some_iff, Numeral.exists_reread?_iff]

end RunSettings

namespace WorkloadSettings

def numbers (settings : WorkloadSettings) : List Binary64 := [settings.tolerance]

theorem faithful (settings : WorkloadSettings) :
    Faithful settings.numbers settings settings.reread? := by
  constructor
  · obtain ⟨tolerance, keepsHistory⟩ := settings
    simp [reread?, numbers, Option.bind_eq_some_iff]
  · simp [reread?, numbers, Option.bind_eq_some_iff, Numeral.exists_reread?_iff]

end WorkloadSettings

namespace NetworkSettings

def numbers (settings : NetworkSettings) : List Binary64 := [settings.delay]

theorem faithful (settings : NetworkSettings) :
    Faithful settings.numbers settings settings.reread? := by
  constructor
  · obtain ⟨delay⟩ := settings
    simp [reread?, numbers]
  · simp [reread?, numbers, Numeral.exists_reread?_iff]

end NetworkSettings

namespace HostSettings

theorem faithful (host : HostSettings) : Faithful host.mips host host.reread? := by
  have shares := (Faithful.list host.mips Faithful.number).map
    (fun mips => { host with mips := mips }) fun _ same => congrArg mips same
  rwa [List.flatMap_singleton'] at shares

end HostSettings

namespace DatacenterSettings

def numbers (datacenter : DatacenterSettings) : List Binary64 :=
  datacenter.hosts.flatMap HostSettings.mips

theorem faithful (datacenter : DatacenterSettings) :
    Faithful datacenter.numbers datacenter datacenter.reread? := by
  have listed := Faithful.list datacenter.hosts HostSettings.faithful
  exact listed.map (fun hosts => ({ datacenter with hosts := hosts } : DatacenterSettings))
    fun _ same => congrArg hosts same

end DatacenterSettings

namespace Configuration

/-- Every number of the configuration. -/
def numbers (configuration : Configuration) : List Binary64 :=
  configuration.run.numbers ++ (configuration.workloads.numbers ++
    (configuration.network.toList.flatMap NetworkSettings.numbers ++
      configuration.datacenters.flatMap DatacenterSettings.numbers))

theorem faithful_network (network : Option NetworkSettings) :
    Faithful (network.toList.flatMap NetworkSettings.numbers) network
      (network.mapM NetworkSettings.reread?) := by
  cases network with
  | none => constructor <;> simp
  | some settings =>
      have back := settings.faithful.map some fun _ same => Option.some.inj same
      simpa using back

theorem faithful (configuration : Configuration) :
    Faithful configuration.numbers configuration configuration.reread? := by
  have run := configuration.run.faithful
  have workloads := configuration.workloads.faithful
  have network := faithful_network configuration.network
  have datacenters := Faithful.list configuration.datacenters DatacenterSettings.faithful
  constructor
  · rw [numbers, List.forall_mem_append, List.forall_mem_append, List.forall_mem_append,
      ← run.same, ← workloads.same, ← network.same, ← datacenters.same]
    obtain ⟨run, workloads, network, datacenters⟩ := configuration
    simp [reread?, Option.bind_eq_some_iff]
  · rw [numbers, List.forall_mem_append, List.forall_mem_append, List.forall_mem_append,
      ← run.finite, ← workloads.finite, ← network.finite, ← datacenters.finite]
    simp [reread?, Option.bind_eq_some_iff]

end Configuration

/-! ## What comes back is valid -/

theorem mapM_forall₂ {α β : Type} {value? : α → Option β} {items : List α} {values : List β}
    (found : items.mapM value? = some values) :
    List.Forall₂ (fun item value => value? item = some value) items values := by
  induction items generalizing values with
  | nil =>
      obtain rfl := Option.some.inj found
      exact .nil
  | cons item items induction =>
      rw [List.mapM_cons] at found
      obtain ⟨value, first, rest⟩ := Option.bind_eq_some_iff.1 found
      obtain ⟨others, later, both⟩ := Option.bind_eq_some_iff.1 rest
      obtain rfl := Option.some.inj both
      exact .cons first (induction later)

namespace RunSettings

theorem valid_of_reread? {settings loaded : RunSettings} (back : settings.reread? = some loaded)
    (valid : settings.validate = .ok ()) : loaded.validate = .ok () := by
  obtain ⟨endTime, first, rest⟩ := Option.bind_eq_some_iff.1 back
  obtain ⟨interval, second, rest⟩ := Option.bind_eq_some_iff.1 rest
  obtain ⟨gap, third, made⟩ := Option.bind_eq_some_iff.1 rest
  obtain rfl := Option.some.inj made
  rw [validate_iff] at valid ⊢
  obtain ⟨positive, apart, nonneg⟩ := valid
  exact ⟨(Numeral.resembles_of_reread? second).pos_iff.2 positive,
    (Numeral.resembles_of_reread? third).pos_iff.2 apart,
    (Numeral.resembles_of_reread? first).nonneg_iff.2 nonneg⟩

end RunSettings

namespace WorkloadSettings

theorem valid_of_reread? {settings loaded : WorkloadSettings}
    (back : settings.reread? = some loaded) (valid : settings.validate = .ok ()) :
    loaded.validate = .ok () := by
  obtain ⟨tolerance, same, made⟩ := Option.bind_eq_some_iff.1 back
  obtain rfl := Option.some.inj made
  rw [validate_iff] at valid ⊢
  exact (Numeral.resembles_of_reread? same).nonneg_iff.2 valid

end WorkloadSettings

namespace NetworkSettings

theorem valid_of_reread? {settings loaded : NetworkSettings}
    (back : settings.reread? = some loaded) (valid : settings.validate = .ok ()) :
    loaded.validate = .ok () := by
  obtain ⟨delay, same, rfl⟩ := Option.map_eq_some_iff.1 back
  rw [validate_iff] at valid ⊢
  exact (Numeral.resembles_of_reread? same).nonneg_iff.2 valid

end NetworkSettings

namespace HostSettings

/-- Shares are read back with their signs, so the same checks pass. -/
theorem shares_of_reread? {mips loaded : List Binary64}
    (back : mips.mapM Numeral.reread? = some loaded) :
    loaded.any (fun share => decide (0 < share)) = mips.any (fun share => decide (0 < share)) ∧
      loaded.all (fun share => decide (0 ≤ share)) =
        mips.all (fun share => decide (0 ≤ share)) := by
  have pairs := mapM_forall₂ back
  clear back
  induction pairs with
  | nil => exact ⟨rfl, rfl⟩
  | cons same _ induction =>
      have resembles := Numeral.resembles_of_reread? same
      rw [List.any_cons, List.any_cons, List.all_cons, List.all_cons]
      simp only [resembles.pos_iff, resembles.nonneg_iff, induction, and_self]

theorem validate_of_reread? {host loaded : HostSettings} (back : host.reread? = some loaded)
    (earlier : List HostId) : loaded.validate earlier = host.validate earlier := by
  obtain ⟨mips, same, rfl⟩ := Option.map_eq_some_iff.1 back
  obtain ⟨some, all⟩ := shares_of_reread? same
  simp only [validate, some, all]

theorem validateAll_of_reread? {hosts loaded : List HostSettings}
    (back : hosts.mapM reread? = some loaded) (earlier : List HostId) :
    validateAll earlier loaded = validateAll earlier hosts := by
  have pairs := mapM_forall₂ back
  clear back
  induction pairs generalizing earlier with
  | nil => rfl
  | @cons host other hosts others same _ induction =>
      have id : other.id = host.id := by
        obtain ⟨mips, -, rfl⟩ := Option.map_eq_some_iff.1 same
        rfl
      rw [validateAll, validateAll, validate_of_reread? same, id, induction]

end HostSettings

theorem DatacenterSettings.validateAll_of_reread? {datacenters loaded : List DatacenterSettings}
    (back : datacenters.mapM reread? = some loaded) (earlier : List DatacenterId)
    (hosts : List HostId) :
    validateAll earlier hosts loaded = validateAll earlier hosts datacenters := by
  have pairs := mapM_forall₂ back
  clear back
  induction pairs generalizing earlier hosts with
  | nil => rfl
  | @cons datacenter other datacenters others same _ induction =>
      obtain ⟨listed, found, rfl⟩ := Option.map_eq_some_iff.1 same
      simp only [validateAll, HostSettings.validateAll_of_reread? found, induction]

namespace Configuration

/-- What is read back from a valid configuration is valid. -/
theorem valid_of_reread? {configuration loaded : Configuration}
    (back : configuration.reread? = some loaded) (valid : configuration.validate = .ok ()) :
    loaded.validate = .ok () := by
  obtain ⟨run, first, rest⟩ := Option.bind_eq_some_iff.1 back
  obtain ⟨workloads, second, rest⟩ := Option.bind_eq_some_iff.1 rest
  obtain ⟨network, third, rest⟩ := Option.bind_eq_some_iff.1 rest
  obtain ⟨datacenters, fourth, rfl⟩ := Option.map_eq_some_iff.1 rest
  rw [validate_iff] at valid ⊢
  obtain ⟨runValid, workloadsValid, networkValid, datacentersValid⟩ := valid
  refine ⟨RunSettings.valid_of_reread? first runValid,
    WorkloadSettings.valid_of_reread? second workloadsValid, ?_,
    (DatacenterSettings.validateAll_of_reread? fourth [] []).trans datacentersValid⟩
  intro settings found
  obtain rfl : network = some settings := found
  cases saved : configuration.network with
  | none =>
      rw [saved] at third
      cases third
  | some original =>
      rw [saved, Option.mapM_some] at third
      obtain ⟨other, same, made⟩ := Option.map_eq_some_iff.1 third
      obtain rfl := Option.some.inj made
      exact NetworkSettings.valid_of_reread? same (networkValid original saved)

theorem checked_of_valid {configuration : Configuration}
    (valid : configuration.validate = .ok ()) : configuration.checked = .ok configuration := by
  unfold checked
  rw [valid]

theorem ofJson_toJson_eq_ok_iff {configuration : Configuration} (fits : configuration.Fits)
    (valid : configuration.validate = .ok ()) (loaded : Configuration) :
    ofJson configuration.toJson = .ok loaded ↔ configuration.reread? = some loaded := by
  obtain ⟨returned, lost⟩ := configuration.ofJson_toJson fits
  cases back : configuration.reread? with
  | none =>
      obtain ⟨problem, refused⟩ := lost back
      simp only [refused, reduceCtorEq]
  | some other =>
      simp only [returned other back, checked_of_valid (valid_of_reread? back valid),
        Except.ok.injEq, Option.some.injEq]

/-- A valid configuration that was saved as JSON can be loaded exactly if it has no infinite
number.  Then only its numbers may have changed, each to what is read where it was written, so
it is the same configuration exactly if every number is read as it was.  Numbers of a few
digits are. -/
theorem loads_saved_iff (configuration : Configuration) (fits : configuration.Fits)
    (valid : configuration.validate = .ok ()) :
    ((∃ loaded, ofJson configuration.toJson = .ok loaded) ↔
        ∀ x ∈ configuration.numbers, x.isFinite = true) ∧
      (∀ loaded, ofJson configuration.toJson = .ok loaded ↔
        configuration.reread? = some loaded) ∧
      (ofJson configuration.toJson = .ok configuration ↔
        ∀ x ∈ configuration.numbers, Numeral.reread? x = some x) ∧
      ((∀ x ∈ configuration.numbers, x.isFinite = true ∧ Numeral.Exact x) →
        ofJson configuration.toJson = .ok configuration) := by
  have back := ofJson_toJson_eq_ok_iff fits valid
  have faithful := configuration.faithful
  have same := (back configuration).trans faithful.same
  refine ⟨(exists_congr back).trans faithful.finite, back, same, fun short => same.2 ?_⟩
  exact fun x member => Numeral.reread?_of_exact (short x member).1 (short x member).2

/-- A run without an end. -/
def endless : Configuration := { run := { endTime := Binary64.infinity } }

/-- A run up to the last odd number of 53 bits, which is written with a zero behind the point
and so is read as an integer of 57 bits. -/
def lastOdd : Configuration := { run := { endTime := Binary64.ofNat (2 ^ 53 - 1) } }

theorem loads_saved_iff_endless :
    (endless.validate = .ok () ∧ ¬ ∃ loaded, ofJson endless.toJson = .ok loaded) ∧
      (lastOdd.validate = .ok () ∧
        (∃ loaded, ofJson lastOdd.toJson = .ok loaded) ∧
          ofJson lastOdd.toJson ≠ .ok lastOdd) ∧
      ofJson ({} : Configuration).toJson = .ok {} := by
  have none : ∀ configuration : Configuration, configuration.datacenters = [] →
      configuration.Fits := by
    intro configuration empty datacenter member
    rw [empty] at member
    exact absurd member List.not_mem_nil
  have endlessValid : endless.validate = .ok () := by decide +kernel
  have lastOddValid : lastOdd.validate = .ok () := by decide +kernel
  have plainValid : ({} : Configuration).validate = .ok () := by decide +kernel
  obtain ⟨infinite, -⟩ := loads_saved_iff endless (none _ rfl) endlessValid
  obtain ⟨finite, -, same, -⟩ := loads_saved_iff lastOdd (none _ rfl) lastOddValid
  obtain ⟨-, -, -, plain⟩ := loads_saved_iff {} (none _ rfl) plainValid
  refine ⟨⟨endlessValid, ?_⟩, ⟨lastOddValid, finite.2 (by decide +kernel), ?_⟩,
    plain (by decide +kernel)⟩
  · rw [infinite]
    decide +kernel
  · rw [Ne, same]
    decide +kernel

end Configuration

end CoSimulation
