import CoSimulation.Fault

/-!
# Which fault is reported

Of several faults the first fatal one is reported, and the first of all if none is fatal.
What is reported of several reports is what would be reported of all their faults at once.
-/

namespace CoSimulation

namespace Fault

theorem foldl_keepWorst_some (kept : Fault) (faults : List Fault) :
    faults.foldl keepWorst (some kept) =
      some (if kept.isFatal then kept else (faults.find? isFatal).getD kept) := by
  induction faults generalizing kept with
  | nil => simp
  | cons later faults induction =>
      rw [List.foldl_cons, keepWorst]
      cases fatal : later.isFatal with
      | false => simp [fatal, induction]
      | true => cases worse : kept.isFatal <;> simp [fatal, worse, induction]

/-- The first fatal fault, or else the first fault. -/
theorem worst?_eq (faults : List Fault) :
    worst? faults = (faults.find? isFatal).or faults.head? := by
  cases faults with
  | nil => rfl
  | cons first faults =>
      rw [worst?, List.foldl_cons, keepWorst, foldl_keepWorst_some]
      cases fatal : first.isFatal with
      | true => simp [fatal]
      | false => cases later : faults.find? isFatal <;> simp [fatal, later]

theorem worst?_eq_none {faults : List Fault} : worst? faults = none ↔ faults = [] := by
  rw [worst?_eq, Option.or_eq_none_iff, List.head?_eq_none_iff]
  constructor
  · exact And.right
  · rintro rfl
    exact ⟨rfl, rfl⟩

theorem find?_isFatal_eq (faults : List Fault) :
    faults.find? isFatal = (worst? faults).filter isFatal := by
  rw [worst?_eq]
  cases fatal : faults.find? isFatal with
  | some fault => simp [Option.filter, List.find?_some fatal]
  | none =>
      cases faults with
      | nil => rfl
      | cons first faults =>
          have mild : first.isFatal = false := by
            simpa using List.find?_eq_none.1 fatal first List.mem_cons_self
          simp [Option.filter, mild]

theorem mem_of_worst? {faults : List Fault} {fault : Fault}
    (reported : worst? faults = some fault) : fault ∈ faults := by
  rw [worst?_eq, Option.or_eq_some_iff] at reported
  rcases reported with fatal | ⟨-, first⟩
  · exact List.mem_of_find?_eq_some fatal
  · exact List.mem_of_mem_head? first

/-- Reporting group by group comes to the same as reporting all faults at once. -/
theorem worst?_filterMap_worst? (groups : List (List Fault)) :
    worst? (groups.filterMap worst?) = worst? groups.flatten := by
  induction groups with
  | nil => rfl
  | cons group groups induction =>
      have fatalFaults :
          (groups.filterMap worst?).find? isFatal = groups.flatten.find? isFatal := by
        rw [find?_isFatal_eq, find?_isFatal_eq, induction]
      rw [List.flatten_cons]
      cases reported : worst? group with
      | none =>
          rw [List.filterMap_cons_none reported, induction, worst?_eq_none.1 reported,
            List.nil_append]
      | some fault =>
          have fatal := find?_isFatal_eq group
          rw [reported] at fatal
          rw [List.filterMap_cons_some reported, worst?_eq, worst?_eq, List.find?_append,
            List.head?_append, fatal, List.find?_cons, fatalFaults]
          rw [worst?_eq] at reported
          cases severe : fault.isFatal with
          | true => simp [Option.filter, severe]
          | false =>
              -- no fault of the group is fatal, so its first one was reported
              have first : group.head? = some fault := by
                rw [fatal] at reported
                simpa [Option.filter, severe] using reported
              simp [Option.filter, severe, first]

end Fault

section Report

variable {α : Type} {faults : List Fault} {value : α}

theorem reportWorst_eq_ok_iff {result : α} :
    reportWorst faults value = .ok result ↔ faults = [] ∧ result = value := by
  rw [reportWorst]
  split
  · rename_i fault reported
    constructor
    · exact fun impossible => by cases impossible
    · rintro ⟨rfl, -⟩
      cases reported
  · rename_i nothing
    rw [Fault.worst?_eq_none] at nothing
    simp [nothing, eq_comm]

theorem reportWorst_eq_error_iff {fault : Fault} :
    reportWorst faults value = .error fault ↔ Fault.worst? faults = some fault := by
  rw [reportWorst]
  split
  · rename_i reported
    simp [reported]
  · rename_i nothing
    simp [nothing]

theorem mem_of_reportWorst {fault : Fault} (failed : reportWorst faults value = .error fault) :
    fault ∈ faults :=
  Fault.mem_of_worst? (reportWorst_eq_error_iff.1 failed)

end Report

end CoSimulation
