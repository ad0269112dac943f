import AiOffice.Application.Coordination.PlanningSnapshot
import AiOffice.Data.Keyed

namespace AiOffice.Application.Coordination

open Data Domain

/-- One consistent planning state: rows have primary keys, and prerequisites are tasks of it. -/
structure PlanningStateRecord.Consistent (state : PlanningStateRecord) : Prop where
  milestones : (state.milestones.map PlanningMilestoneRecord.id).Nodup
  tasks : (state.tasks.map PlanningTaskRecord.id).Nodup
  requirements : (state.requirements.map PlanningRequirementRecord.id).Nodup
  dependencies : ∀ edge ∈ state.dependencies, edge.dependsOnTaskId ∈ state.tasks.map PlanningTaskRecord.id

structure Reordered (state other : PlanningStateRecord) : Prop where
  milestones : state.milestones.Perm other.milestones
  tasks : state.tasks.Perm other.tasks
  dependencies : state.dependencies.Perm other.dependencies
  requirements : state.requirements.Perm other.requirements
  taskRequirementLinks : state.taskRequirementLinks.Perm other.taskRequirementLinks

variable {state other : PlanningStateRecord}

theorem find_reordered {Row Key : Type} [DecidableEq Key] {rows others : List Row} {key : Row → Key} (value : Key)
    (unique : (rows.map key).Nodup) (reordered : rows.Perm others) :
    (rows.find? fun row => key row = value) = others.find? fun row => key row = value := by
  cases found : others.find? fun row => key row = value with
  | none =>
    refine List.find?_eq_none.mpr fun row member => ?_
    exact List.find?_eq_none.mp found row (reordered.mem_iff.mp member)
  | some row =>
    have same : key row = value := by simpa using List.find?_some found
    have member := reordered.mem_iff.mpr (List.mem_of_find?_eq_some found)
    exact find_keyed unique member (by simpa using same) fun also _ selected => by
      rw [same]
      simpa using selected

theorem sortedTasks_reordered (consistent : state.Consistent) (reordered : Reordered state other) :
    state.sortedTasks = other.sortedTasks := by
  refine sortOn_eq_of_keys (fun left here right there same => ?_) reordered.tasks
  exact keyed_eq consistent.tasks there here (codeUnits_injective (Prod.ext_iff.mp (toLex.injective same)).2)

theorem statuses_reordered (consistent : state.Consistent) (reordered : Reordered state other) :
    state.statuses = other.statuses := by
  funext id
  rw [PlanningStateRecord.statuses, PlanningStateRecord.statuses, sortedTasks_reordered consistent reordered]

theorem requirementById_reordered (consistent : state.Consistent) (reordered : Reordered state other) :
    state.requirementById = other.requirementById := by
  funext id
  have unique : (state.requirements.reverse.map PlanningRequirementRecord.id).Nodup := by
    rw [List.map_reverse, List.nodup_reverse]
    exact consistent.requirements
  refine find_reordered id unique ?_
  exact (List.reverse_perm _).trans (reordered.requirements.trans (List.reverse_perm _).symm)

theorem prerequisitesOf_reordered (reordered : Reordered state other) (taskId : String) :
    (state.prerequisitesOf taskId).Perm (other.prerequisitesOf taskId) :=
  (reordered.dependencies.filter _).map _

theorem requirementsOf_reordered (reordered : Reordered state other) (taskId : String) :
    (state.requirementsOf taskId).Perm (other.requirementsOf taskId) :=
  (reordered.taskRequirementLinks.filter _).map _

theorem tasksOfRequirement_reordered (reordered : Reordered state other) (requirementId : String) :
    (state.tasksOfRequirement requirementId).Perm (other.tasksOfRequirement requirementId) :=
  (reordered.taskRequirementLinks.filter _).map _

theorem sortedUnique_reordered {values others : List String} (reordered : values.Perm others) :
    sortedUnique values = sortedUnique others :=
  sortedSet_eq codeUnits_injective fun _ => reordered.mem_iff

theorem milestonesOf_reordered (consistent : state.Consistent) (reordered : Reordered state other) :
    state.milestonesOf = other.milestonesOf := by
  funext taskId
  unfold PlanningStateRecord.milestonesOf
  rw [requirementById_reordered consistent reordered, reordered.tasks.any_eq]
  rw [sortedUnique_reordered ((requirementsOf_reordered reordered taskId).flatMap_right _)]

theorem blockingPrerequisites_eq {statuses : String → Option TaskStatus} {requirement : PrerequisiteRequirement}
    {ids : List String} (known : ∀ id ∈ ids, (statuses id).isSome = true) :
    blockingPrerequisites statuses requirement ids = .ok (ids.filterMap fun id =>
      (statuses id).bind fun status => if requirement.satisfied status then none else some ⟨id, status⟩) := by
  induction ids with
  | nil => rfl
  | cons id ids ih =>
    obtain ⟨first, others⟩ := List.forall_mem_cons.mp known
    obtain ⟨status, found⟩ := Option.isSome_iff_exists.mp first
    simp only [blockingPrerequisites, found, ih others, List.filterMap_cons, Option.bind_some]
    cases requirement.satisfied status <;> rfl

theorem statuses_known (consistent : state.Consistent) (taskId : String) :
    ∀ id ∈ state.prerequisitesOf taskId, (state.statuses id).isSome = true := by
  intro id member
  obtain ⟨edge, selected, rfl⟩ := List.mem_map.mp member
  obtain ⟨task, stored, same⟩ := List.mem_map.mp (consistent.dependencies edge (List.mem_filter.mp selected).1)
  rw [PlanningStateRecord.statuses, Option.isSome_map, List.find?_isSome]
  exact ⟨task, by simpa [PlanningStateRecord.sortedTasks] using stored, by simpa using same⟩

theorem unmet_reordered (consistent : state.Consistent) (reordered : Reordered state other) :
    state.unmet = other.unmet := by
  funext requirement taskId
  have prerequisites := prerequisitesOf_reordered reordered taskId
  have known := statuses_known consistent taskId
  have also : ∀ id ∈ other.prerequisitesOf taskId, (state.statuses id).isSome = true :=
    fun id member => known id (prerequisites.mem_iff.mpr member)
  rw [PlanningStateRecord.unmet, PlanningStateRecord.unmet, ← statuses_reordered consistent reordered,
    blockingPrerequisites_eq known, blockingPrerequisites_eq also]
  exact congrArg Except.ok (sortOn_eq codeUnits_injective ((prerequisites.filterMap _).map _))

theorem inScopeTask_reordered (consistent : state.Consistent) (reordered : Reordered state other) :
    state.inScopeTask = other.inScopeTask := by
  funext scope taskId
  rw [PlanningStateRecord.inScopeTask, PlanningStateRecord.inScopeTask, milestonesOf_reordered consistent reordered]

theorem scopedMilestones_reordered (consistent : state.Consistent) (reordered : Reordered state other) :
    state.scopedMilestones = other.scopedMilestones := by
  funext scope
  refine sortOn_eq_of_keys (fun left here right there same => ?_) (reordered.milestones.filter _)
  exact keyed_eq consistent.milestones (List.mem_filter.mp there).1 (List.mem_filter.mp here).1
    (codeUnits_injective (Prod.ext_iff.mp (toLex.injective same)).2)

theorem scopedRequirements_reordered (consistent : state.Consistent) (reordered : Reordered state other) :
    state.scopedRequirements = other.scopedRequirements := by
  funext scope
  refine sortOn_eq_of_keys (fun left here right there same => ?_) (reordered.requirements.filter _)
  exact keyed_eq consistent.requirements (List.mem_filter.mp there).1 (List.mem_filter.mp here).1
    (codeUnits_injective (Prod.ext_iff.mp (toLex.injective same)).2)

theorem dependenciesOf_reordered (consistent : state.Consistent) (reordered : Reordered state other) :
    state.dependenciesOf = other.dependenciesOf := by
  funext scope
  unfold PlanningStateRecord.dependenciesOf
  rw [inScopeTask_reordered consistent reordered]
  refine sortOn_eq (fun left right same => ?_) (reordered.dependencies.filter _)
  obtain ⟨task, prerequisite⟩ := Prod.ext_iff.mp (toLex.injective same)
  exact TaskDependencyEdge.mk.injEq .. ▸ ⟨codeUnits_injective task, codeUnits_injective prerequisite⟩

theorem contradicting_reordered (consistent : state.Consistent) (reordered : Reordered state other) :
    state.contradicting = other.contradicting := by
  funext task
  unfold PlanningStateRecord.contradicting
  rw [requirementById_reordered consistent reordered,
    sortedUnique_reordered (requirementsOf_reordered reordered task.id)]

theorem taskInconsistencies_reordered (consistent : state.Consistent) (reordered : Reordered state other) :
    state.taskInconsistencies = other.taskInconsistencies := by
  funext task
  unfold PlanningStateRecord.taskInconsistencies PlanningStateRecord.completedEarly
  rw [contradicting_reordered consistent reordered, unmet_reordered consistent reordered]

theorem milestoneInconsistencies_reordered (consistent : state.Consistent) (reordered : Reordered state other) :
    state.milestoneInconsistencies = other.milestoneInconsistencies := by
  funext milestone
  unfold PlanningStateRecord.milestoneInconsistencies
  rw [sortedTasks_reordered consistent reordered, milestonesOf_reordered consistent reordered]

theorem plannedTask_reordered (consistent : state.Consistent) (reordered : Reordered state other) :
    state.plannedTask = other.plannedTask := by
  funext withTitles task
  unfold PlanningStateRecord.plannedTask
  rw [milestonesOf_reordered consistent reordered, sortedUnique_reordered (requirementsOf_reordered reordered task.id),
    sortedUnique_reordered (prerequisitesOf_reordered reordered task.id)]

theorem plannedRequirement_reordered (reordered : Reordered state other) :
    state.plannedRequirement = other.plannedRequirement := by
  funext withTitles requirement
  unfold PlanningStateRecord.plannedRequirement
  rw [sortedUnique_reordered (tasksOfRequirement_reordered reordered requirement.id)]

theorem snapshotBody_reordered (consistent : state.Consistent) (reordered : Reordered state other)
    (scope : PlanningSnapshotScope) (classes : List PlanningDataClass) :
    snapshotBody state scope classes = snapshotBody other scope classes := by
  unfold snapshotBody
  rw [sortedTasks_reordered consistent reordered, unmet_reordered consistent reordered,
    inScopeTask_reordered consistent reordered, scopedMilestones_reordered consistent reordered,
    scopedRequirements_reordered consistent reordered, dependenciesOf_reordered consistent reordered,
    taskInconsistencies_reordered consistent reordered, milestoneInconsistencies_reordered consistent reordered,
    plannedTask_reordered consistent reordered, plannedRequirement_reordered reordered]

def consecutiveWindows (offset : Nat) : List Nat → List (Nat × Nat)
  | [] => []
  | limit :: limits => (offset, limit) :: consecutiveWindows (offset + limit) limits

/-- Windows from the start of a collection to its end, of which none but the first starts at the end. -/
structure CoversCollection (total : Nat) (limits : List Nat) : Prop where
  started : ∀ index < limits.length, 0 < index → (limits.take index).sum < total
  ended : total ≤ limits.sum

theorem consecutiveWindows_items {Item : Type} (all : List Item) (limits : List Nat) (offset : Nat) :
    ((consecutiveWindows offset limits).flatMap fun window => (all.drop window.1).take window.2) =
      (all.drop offset).take limits.sum := by
  induction limits generalizing offset with
  | nil => simp [consecutiveWindows]
  | cons limit limits ih =>
    rw [consecutiveWindows, List.flatMap_cons, ih, List.sum_cons, List.take_add, List.drop_drop]

theorem consecutiveWindows_get {limits : List Nat} {offset index : Nat} {window : Nat × Nat}
    (found : (consecutiveWindows offset limits)[index]? = some window) :
    window.1 = offset + (limits.take index).sum ∧ limits[index]? = some window.2 := by
  induction limits generalizing offset index with
  | nil => simp [consecutiveWindows] at found
  | cons limit limits ih =>
    cases index with
    | zero =>
      obtain rfl : (offset, limit) = window := by simpa [consecutiveWindows] using found
      simp
    | succ index =>
      obtain ⟨start, stored⟩ := ih (by simpa [consecutiveWindows] using found)
      refine ⟨?_, by simpa using stored⟩
      rw [start, List.take_succ_cons, List.sum_cons, Nat.add_assoc]

theorem consecutiveWindows_length (offset : Nat) (limits : List Nat) :
    (consecutiveWindows offset limits).length = limits.length := by
  induction limits generalizing offset with
  | nil => rfl
  | cons limit limits ih => rw [consecutiveWindows, List.length_cons, List.length_cons, ih]

section Pages

variable (sha256 : Value → String) (snapshot : PlanningSnapshot) (collection : PlanningSnapshotCollection)

def windowPages (limits : List Nat) : List PlanningSnapshotPage :=
  (consecutiveWindows 0 limits).map fun window => planningSnapshotPage sha256 snapshot collection window.1 window.2

theorem windowPages_items {limits : List Nat}
    (covers : CoversCollection (collectionItems snapshot collection).length limits) :
    (windowPages sha256 snapshot collection limits).flatMap PlanningSnapshotPage.items =
      collectionItems snapshot collection := by
  rw [windowPages, List.flatMap_map]
  have tiles := consecutiveWindows_items (collectionItems snapshot collection) limits 0
  rw [List.drop_zero, List.take_of_length_le covers.ended] at tiles
  exact tiles

theorem page_truncated (offset limit : Nat) :
    (planningSnapshotPage sha256 snapshot collection offset limit).page.truncated = false ↔
      (collectionItems snapshot collection).length ≤ offset + limit := by
  simp only [planningSnapshotPage, decide_eq_false_iff_not, List.length_take, List.length_drop]
  omega

theorem windowPages_truncated {limits : List Nat}
    (covers : CoversCollection (collectionItems snapshot collection).length limits) {index : Nat}
    {page : PlanningSnapshotPage} (found : (windowPages sha256 snapshot collection limits)[index]? = some page) :
    page.page.truncated = false ↔ index + 1 = (windowPages sha256 snapshot collection limits).length := by
  rw [windowPages, List.getElem?_map, Option.map_eq_some_iff] at found
  obtain ⟨window, stored, rfl⟩ := found
  obtain ⟨start, limited⟩ := consecutiveWindows_get stored
  obtain ⟨within, limitEq⟩ := List.getElem?_eq_some_iff.mp limited
  have reach : window.1 + window.2 = (limits.take (index + 1)).sum := by
    rw [start, Nat.zero_add, ← limitEq, List.take_succ_eq_append_getElem within, List.sum_append, List.sum_singleton]
  rw [page_truncated, reach, windowPages, List.length_map, consecutiveWindows_length]
  constructor
  · intro reached
    by_contra more
    have early := covers.started (index + 1) (by omega) (Nat.succ_pos index)
    omega
  · intro last
    rw [last, List.take_length]
    exact covers.ended

end Pages

def dependentTasks : PlanningStateRecord where
  projectId := "p"
  milestones := []
  tasks := [⟨"a", "First", .pending, 0⟩, ⟨"b", "Second", .pending, 0⟩]
  dependencies := [⟨"b", "a"⟩]
  requirements := []
  taskRequirementLinks := []

def dependentSnapshot : PlanningSnapshot where
  scope := ⟨"p", none⟩
  classes := [.P]
  authoritative := ⟨[], [], [], []⟩
  derived := ⟨[⟨"a", .pending, 0⟩], [], [⟨"b", .pending, [.unmetPrerequisites], ["a"]⟩], [], []⟩
  snapshotId := "snapshot:sha256:"

end AiOffice.Application.Coordination
