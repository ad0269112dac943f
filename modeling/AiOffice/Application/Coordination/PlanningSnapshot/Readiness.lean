import AiOffice.Application.Coordination.PlanningSnapshot.Determinism
import AiOffice.Application.ManageTaskDependencies

namespace AiOffice.Application.Coordination

open Data Outcome Domain Storage.Office

structure MilestoneRow where
  id : String
  projectId : String
  title : String
  status : MilestoneStatus
  archived : Bool
  createdAt : Date

structure RequirementRow where
  id : String
  projectId : String
  milestoneId : Option String
  key : String
  title : String
  status : RequirementStatus

/-- The rows that a planning state is read from, in one transaction. -/
structure PlanningTables where
  work : DependencyTables
  milestones : List MilestoneRow
  requirements : List RequirementRow
  links : List TaskRequirementLink

def readMilestone (row : MilestoneRow) : PlanningMilestoneRecord where
  id := row.id
  title := row.title
  status := if row.archived then .archived else row.status
  createdAt := row.createdAt

def readRequirement (row : RequirementRow) : PlanningRequirementRecord where
  id := row.id
  key := row.key
  title := row.title
  status := row.status
  milestoneId := row.milestoneId

def readTask (row : TaskProps) : PlanningTaskRecord where
  id := row.id
  title := row.title
  status := row.status
  priority := row.priority

/-- The planning state of a project. SQLite orders texts by their characters. -/
def planningState (tables : PlanningTables) (projectId : String) : PlanningStateRecord where
  projectId := projectId
  milestones := (sortOn (fun row => toLex (row.createdAt, row.id))
    (tables.milestones.filter fun row => row.projectId = projectId)).map readMilestone
  tasks := (sortOn TaskProps.id (tables.work.office.tasks.filter fun row => row.projectId = projectId)).map readTask
  dependencies := tables.work.projectEdges projectId
  requirements := (sortOn (fun row => toLex (row.key, row.id))
    (tables.requirements.filter fun row => row.projectId = projectId)).map readRequirement
  taskRequirementLinks := sortOn (fun link => toLex (link.taskId, link.requirementId))
    (tables.links.filter fun link =>
      tables.work.office.tasks.any (fun row => row.id = link.taskId && row.projectId = projectId) &&
        tables.requirements.any fun row => row.id = link.requirementId && row.projectId = projectId)

def readPlanningState (tables : PlanningTables) (projectId : String) : Option PlanningStateRecord :=
  if projectId ∉ tables.work.office.projects then none else some (planningState tables projectId)

/-- The keys of the tables, with what they maintain about dependencies. -/
structure PlanningTables.Keyed (tables : PlanningTables) : Prop where
  milestones : (tables.milestones.map MilestoneRow.id).Nodup
  requirements : (tables.requirements.map RequirementRow.id).Nodup
  work : DependenciesWellFormed tables.work

variable {tables : PlanningTables} {projectId taskId : String} {state : PlanningStateRecord}

theorem readPlanningState_some (read : readPlanningState tables projectId = some state) :
    projectId ∈ tables.work.office.projects ∧ state = planningState tables projectId := by
  unfold readPlanningState at read
  split at read
  · cases read
  · next known => exact ⟨not_not.mp known, (Option.some.inj read).symm⟩

theorem mem_planningTasks {task : PlanningTaskRecord} : task ∈ (planningState tables projectId).tasks ↔
    ∃ row ∈ tables.work.office.tasks, row.projectId = projectId ∧ readTask row = task := by
  simp only [planningState, List.mem_map, mem_sortOn, List.mem_filter, decide_eq_true_eq, and_assoc]

private theorem sorted_keys {Row Key Order : Type} [LinearOrder Order] {rows : List Row} {key : Row → Key}
    (order : Row → Order) (selected : Row → Bool) (unique : (rows.map key).Nodup) :
    ((sortOn order (rows.filter selected)).map key).Nodup :=
  ((sortOn_perm order (rows.filter selected)).map key).nodup_iff.mpr (unique.sublist (List.filter_sublist.map key))

theorem planningState_consistent (projectId : String) (keyed : tables.Keyed) :
    (planningState tables projectId).Consistent where
  milestones := by
    rw [planningState, List.map_map]
    exact sorted_keys _ _ keyed.milestones
  tasks := by
    rw [planningState, List.map_map]
    exact sorted_keys _ _ keyed.work.keyed
  requirements := by
    rw [planningState, List.map_map]
    exact sorted_keys _ _ keyed.requirements
  dependencies := by
    intro edge member
    obtain ⟨row, stored, rfl, rfl⟩ := mem_projectEdges.mp member
    obtain ⟨-, prerequisite⟩ := owned_iff.mp (keyed.work.owned row stored)
    obtain ⟨task, inTasks, same, owner⟩ := inProject_iff.mp prerequisite
    exact List.mem_map.mpr ⟨readTask task, mem_planningTasks.mpr ⟨task, inTasks, owner, rfl⟩, same⟩

theorem Consistent.statuses_iff {id : String} {status : TaskStatus} (consistent : state.Consistent) :
    state.statuses id = some status ↔ ∃ task ∈ state.tasks, task.id = id ∧ task.status = status := by
  have unique : (state.sortedTasks.reverse.map PlanningTaskRecord.id).Nodup := by
    rw [List.map_reverse, List.nodup_reverse]
    exact ((sortOn_perm _ _).map _).nodup_iff.mpr consistent.tasks
  have member (task : PlanningTaskRecord) : task ∈ state.sortedTasks.reverse ↔ task ∈ state.tasks := by
    rw [List.mem_reverse, PlanningStateRecord.sortedTasks, mem_sortOn]
  rw [PlanningStateRecord.statuses, Option.map_eq_some_iff]
  constructor
  · rintro ⟨task, found, rfl⟩
    exact ⟨task, (member task).mp (List.mem_of_find?_eq_some found), by simpa using List.find?_some found, rfl⟩
  · rintro ⟨task, stored, rfl, rfl⟩
    exact ⟨task, find_keyed unique ((member task).mpr stored) (decide_eq_true rfl) fun _ _ same =>
      of_decide_eq_true same, rfl⟩

theorem statuses_iff {id : String} {status : TaskStatus} (keyed : tables.Keyed) :
    tables.work.office.statuses projectId id = some status ↔
      ∃ row ∈ tables.work.office.tasks, row.id = id ∧ row.projectId = projectId ∧ row.status = status := by
  rw [OfficeTables.statuses, Option.map_eq_some_iff]
  constructor
  · rintro ⟨row, found, rfl⟩
    have selected := List.find?_some found
    simp only [Bool.and_eq_true, decide_eq_true_eq] at selected
    exact ⟨row, List.mem_of_find?_eq_some found, selected.2, selected.1, rfl⟩
  · rintro ⟨row, stored, rfl, rfl, rfl⟩
    refine ⟨row, find_keyed keyed.work.keyed stored (by simp) fun other _ same => ?_, rfl⟩
    simp only [Bool.and_eq_true, decide_eq_true_eq] at same
    exact same.2

theorem planningState_statuses (keyed : tables.Keyed) :
    (planningState tables projectId).statuses = tables.work.office.statuses projectId := by
  funext id
  refine Option.ext fun status => ?_
  rw [Consistent.statuses_iff (planningState_consistent projectId keyed), statuses_iff keyed]
  constructor
  · rintro ⟨task, member, sameId, sameStatus⟩
    obtain ⟨row, stored, owner, rfl⟩ := mem_planningTasks.mp member
    exact ⟨row, stored, sameId, owner, sameStatus⟩
  · rintro ⟨row, stored, sameId, owner, sameStatus⟩
    exact ⟨readTask row, mem_planningTasks.mpr ⟨row, stored, owner, rfl⟩, sameId, sameStatus⟩

theorem mem_prerequisitesOf {id : String} : id ∈ (planningState tables projectId).prerequisitesOf taskId ↔
    id ∈ tables.work.office.prerequisites projectId taskId := by
  simp only [PlanningStateRecord.prerequisitesOf, OfficeTables.prerequisites, planningState, List.mem_map,
    List.mem_filter, mem_projectEdges, decide_eq_true_eq, Bool.and_eq_true]
  constructor
  · rintro ⟨edge, ⟨⟨row, stored, owner, rfl⟩, dependent⟩, rfl⟩
    exact ⟨row, ⟨stored, owner, dependent⟩, rfl⟩
  · rintro ⟨row, ⟨stored, owner, dependent⟩, rfl⟩
    exact ⟨row.edge, ⟨⟨row, stored, owner, rfl⟩, dependent⟩, rfl⟩

def AdmitsStart (tables : PlanningTables) (projectId taskId : String) : Prop :=
  blockingPrerequisites (tables.work.office.statuses projectId) .start
    (tables.work.office.prerequisites projectId taskId) = .ok []

theorem admitsStart_iff : AdmitsStart tables projectId taskId ↔
    ∀ id ∈ tables.work.office.prerequisites projectId taskId, ∃ status,
      tables.work.office.statuses projectId id = some status ∧
        PrerequisiteRequirement.start.satisfied status = true := blockingPrerequisites_none_iff

theorem planningState_unmet (keyed : tables.Keyed) (projectId : String) (requirement : PrerequisiteRequirement)
    (taskId : String) :
    ∃ ids, (planningState tables projectId).unmet requirement taskId = .ok ids ∧
      (requirement = .start → (ids.length = 0 ↔ AdmitsStart tables projectId taskId)) := by
  have known := statuses_known (planningState_consistent projectId keyed) taskId
  obtain ⟨blocked, returned⟩ : ∃ blocked, blockingPrerequisites _ requirement _ = .ok blocked :=
    blockingPrerequisites_known known
  refine ⟨sort (blocked.map BlockingPrerequisite.taskId), by rw [PlanningStateRecord.unmet, returned]; rfl, ?_⟩
  rintro rfl
  have empty : (sort (blocked.map BlockingPrerequisite.taskId)).length = 0 ↔ blocked = [] := by
    rw [List.length_eq_zero_iff, sort, sortOn_eq_nil, List.map_eq_nil_iff]
  have none : blockingPrerequisites (planningState tables projectId).statuses .start
      ((planningState tables projectId).prerequisitesOf taskId) = .ok [] ↔ _ := blockingPrerequisites_none_iff
  rw [returned, Except.ok.injEq] at none
  rw [empty, none, admitsStart_iff, planningState_statuses keyed]
  exact forall_congr' fun id => by rw [mem_prerequisitesOf]

theorem notStarted_iff (status : TaskStatus) : notStarted status = true ↔ .running ∈ taskTransitions status := by
  cases status <;> decide

def startRequest (projectId taskId : String) : TaskLifecycleRequest := ⟨projectId, taskId, .start, none⟩

theorem start_accepted {now : Date} {after : OfficeTables}
    (performed : ManageTaskLifecycle.perform (startRequest projectId taskId) now tables.work.office = .ok after) :
    ∃ row ∈ tables.work.office.tasks, row.id = taskId ∧ row.projectId = projectId ∧
      notStarted row.status = true ∧ AdmitsStart tables projectId taskId := by
  obtain ⟨-, -, performed⟩ := bind_ok performed
  obtain ⟨row, required, performed⟩ := bind_ok performed
  obtain ⟨_, admitted, performed⟩ := bind_ok performed
  obtain ⟨value, moved, _⟩ := bind_ok performed
  obtain ⟨found, owner⟩ := requireTask_ok required
  obtain ⟨stored, same⟩ := findTask_found found
  rw [lifecycleMutations_eq] at moved
  obtain ⟨allowed, -⟩ := Task.transition_ok moved
  obtain ⟨blocked, returned, passed⟩ := bind_ok admitted
  obtain ⟨none, -⟩ := guard_ok passed
  rw [not_not.mp none] at returned
  exact ⟨row, stored, same, owner, (notStarted_iff row.status).mpr allowed, returned⟩

theorem start_not_refused (keyed : tables.Keyed) {row : TaskProps} (owner : row.projectId = projectId)
    (admits : AdmitsStart tables projectId row.id) (now : Date) :
    taskUpdateRefused tables.work.office row { row with status := .running, updatedAt := now } = false := by
  have satisfied : tables.work.office.unsatisfied .start row.projectId row.id = false := by
    rw [OfficeTables.unsatisfied, List.any_eq_false]
    intro id prerequisite
    rw [Bool.not_eq_true, List.any_eq_false]
    intro other stored
    rw [owner] at prerequisite
    obtain ⟨status, known, admitted⟩ := admitsStart_iff.mp admits id prerequisite
    obtain ⟨standing, also, sameId, -, rfl⟩ := (statuses_iff keyed).mp known
    simp only [Bool.and_eq_true, decide_eq_true_eq, not_and, Bool.not_eq_true', Bool.not_eq_false]
    intro same
    rwa [keyed_eq keyed.work.keyed also stored (same.trans sameId.symm)]
  simp [taskUpdateRefused, satisfied]

theorem start_performs (keyed : tables.Keyed) (known : projectId ∈ tables.work.office.projects) {row : TaskProps}
    (stored : row ∈ tables.work.office.tasks) (owner : row.projectId = projectId)
    (ready : notStarted row.status = true) (admits : AdmitsStart tables projectId row.id) (now : Date) :
    ∃ after, ManageTaskLifecycle.perform (startRequest projectId row.id) now tables.work.office = .ok after := by
  have found : tables.work.office.findTask row.id = some row :=
    find_keyed keyed.work.keyed stored (decide_eq_true rfl) fun _ _ same => of_decide_eq_true same
  have resolved : ManageTaskLifecycle.resolveReason (startRequest projectId row.id).operation
      (startRequest projectId row.id).reason = .ok none := rfl
  have required : requireTask (startRequest projectId row.id).projectId (startRequest projectId row.id).taskId
      tables.work.office = .ok row := by
    change requireTask projectId row.id tables.work.office = .ok row
    rw [requireTask, if_neg (not_not.mpr known), found]
    exact if_neg (not_not.mpr owner)
  have admitted : ManageTaskLifecycle.assertAdmitted (startRequest projectId row.id) tables.work.office = .ok () := by
    change assertTaskPrerequisitesComplete projectId row.id .start tables.work.office = .ok ()
    rw [assertTaskPrerequisitesComplete, bind_returns admits]
    rfl
  have moves : lifecycleMutations (startRequest projectId row.id).operation row now =
      .ok { row with status := .running, updatedAt := now } := by
    rw [lifecycleMutations_eq, Task.transition]
    exact if_neg (not_not.mpr ((notStarted_iff row.status).mp ready))
  have passed := start_not_refused keyed owner admits now
  refine ⟨tables.work.office.replaceTask { row with status := .running, updatedAt := now }, ?_⟩
  unfold ManageTaskLifecycle.perform
  rw [bind_returns resolved, bind_returns required, bind_returns admitted,
    bind_returns moves, saveTask]
  simp only [found, passed, Bool.false_eq_true, if_false]

theorem start_accepted_iff (keyed : tables.Keyed) (known : projectId ∈ tables.work.office.projects) (now : Date) :
    (∃ after, ManageTaskLifecycle.perform (startRequest projectId taskId) now tables.work.office = .ok after) ↔
      ∃ row ∈ tables.work.office.tasks, row.id = taskId ∧ row.projectId = projectId ∧
        notStarted row.status = true ∧ AdmitsStart tables projectId taskId := by
  constructor
  · rintro ⟨after, performed⟩
    exact start_accepted performed
  · rintro ⟨row, stored, rfl, owner, ready, admits⟩
    exact start_performs keyed known stored owner ready admits now

/-- What the projection of a consistent state reads of the tasks of its scope. -/
structure Reads (tables : PlanningTables) (scope : PlanningSnapshotScope) (reads : List ReadTask) : Prop where
  member : ∀ read ∈ reads, read.task ∈ (planningState tables scope.projectId).tasks ∧
    (planningState tables scope.projectId).inScopeTask scope read.task.id = true ∧
    (read.unmetStart.length = 0 ↔ AdmitsStart tables scope.projectId read.task.id)
  covers : ∀ task ∈ (planningState tables scope.projectId).tasks,
    (planningState tables scope.projectId).inScopeTask scope task.id = true → ∃ read ∈ reads, read.task = task

theorem snapshotBody_returns (keyed : tables.Keyed) (scope : PlanningSnapshotScope)
    (classes : List PlanningDataClass) :
    ∃ body reads, snapshotBody (planningState tables scope.projectId) scope classes = .ok body ∧
      Reads tables scope reads ∧ body.derived.runnable = runnableOf reads ∧
      body.derived.active = activeOf reads ∧ body.derived.blockers = blockersOf reads := by
  have readable : ∀ task ∈ (planningState tables scope.projectId).sortedTasks, ∃ read,
      ((planningState tables scope.projectId).unmet .start task.id).map (ReadTask.mk task) = .ok read := by
    intro task _
    obtain ⟨ids, returned, -⟩ := planningState_unmet keyed scope.projectId .start task.id
    exact ⟨⟨task, ids⟩, by rw [returned]; rfl⟩
  have inspectable (tasks : List PlanningTaskRecord) : ∀ task ∈ tasks, ∃ found,
      (planningState tables scope.projectId).taskInconsistencies task = .ok found := by
    intro task _
    obtain ⟨ids, returned, -⟩ := planningState_unmet keyed scope.projectId .completion task.id
    unfold PlanningStateRecord.taskInconsistencies PlanningStateRecord.completedEarly
    split
    · exact ⟨_, by rw [returned]; rfl⟩
    · exact ⟨_, rfl⟩
  obtain ⟨all, read⟩ := Outcome.mapM_total readable
  obtain ⟨found, inspected⟩ := Outcome.mapM_total (inspectable ((all.filter fun read =>
    (planningState tables scope.projectId).inScopeTask scope read.task.id).map ReadTask.task))
  refine ⟨_, _, by unfold snapshotBody; rw [bind_returns read, bind_returns inspected]; rfl, ?_,
    rfl, rfl, rfl⟩
  constructor
  · intro item selected
    obtain ⟨inAll, inScope⟩ := List.mem_filter.mp selected
    obtain ⟨task, inTasks, returned⟩ := Outcome.mapM_mem read inAll
    obtain ⟨ids, unmet, rfl⟩ := map_ok returned
    obtain ⟨again, same, exact_⟩ := planningState_unmet keyed scope.projectId .start task.id
    obtain rfl := Except.ok.inj (unmet.symm.trans same)
    exact ⟨mem_sortOn.mp inTasks, inScope, exact_ rfl⟩
  · intro task inTasks inScope
    obtain ⟨item, inAll, returned⟩ := Outcome.mapM_covers read (mem_sortOn.mpr inTasks)
    obtain ⟨ids, -, rfl⟩ := map_ok returned
    exact ⟨_, List.mem_filter.mpr ⟨inAll, inScope⟩, rfl⟩

variable {tables : PlanningTables} {scope : PlanningSnapshotScope} {reads : List ReadTask} {taskId : String}

theorem mem_runnableOf : (∃ item ∈ runnableOf reads, item.taskId = taskId) ↔
    ∃ read ∈ reads, read.task.id = taskId ∧ notStarted read.task.status = true ∧ read.unmetStart.length = 0 := by
  simp only [runnableOf, List.mem_map, List.mem_filter, Bool.and_eq_true, decide_eq_true_eq]
  constructor
  · rintro ⟨-, ⟨read, ⟨member, ready, free⟩, rfl⟩, same⟩
    exact ⟨read, member, same, ready, free⟩
  · rintro ⟨read, member, same, ready, free⟩
    exact ⟨_, ⟨read, ⟨member, ready, free⟩, rfl⟩, same⟩

theorem mem_activeOf : (∃ item ∈ activeOf reads, item.taskId = taskId) ↔
    ∃ read ∈ reads, read.task.id = taskId ∧ (read.task.status = .running ∨ read.task.status = .waitingReview) := by
  simp only [activeOf, List.mem_map, List.mem_filter, Bool.or_eq_true, decide_eq_true_eq]
  constructor
  · rintro ⟨-, ⟨read, ⟨member, working⟩, rfl⟩, same⟩
    exact ⟨read, member, same, working⟩
  · rintro ⟨read, member, same, working⟩
    exact ⟨_, ⟨read, ⟨member, working⟩, rfl⟩, same⟩

theorem blockerReasons_iff {read : ReadTask} :
    blockerReasons read ≠ [] ↔ 0 < read.unmetStart.length ∨ read.task.status = .blocked := by
  unfold blockerReasons
  by_cases unmet : 0 < read.unmetStart.length <;> by_cases blocked : read.task.status = .blocked <;> simp [unmet, blocked]

theorem mem_blockersOf : (∃ item ∈ blockersOf reads, item.taskId = taskId) ↔
    ∃ read ∈ reads, read.task.id = taskId ∧ isTerminalTaskStatus read.task.status = false ∧
      (0 < read.unmetStart.length ∨ read.task.status = .blocked) := by
  simp only [blockersOf, List.mem_flatMap]
  constructor
  · rintro ⟨item, ⟨read, member, listed⟩, same⟩
    split at listed
    · exact absurd listed List.not_mem_nil
    · next going =>
        split at listed
        · exact absurd listed List.not_mem_nil
        · next reasons =>
            obtain rfl := List.mem_singleton.mp listed
            exact ⟨read, member, same, by simpa using going, blockerReasons_iff.mp reasons⟩
  · rintro ⟨read, member, same, going, reasons⟩
    refine ⟨⟨read.task.id, read.task.status, blockerReasons read, read.unmetStart⟩, ⟨read, member, ?_⟩, same⟩
    rw [if_neg (by simp [going]), if_neg (blockerReasons_iff.mpr reasons)]
    exact List.mem_singleton_self _

theorem standing (status : TaskStatus) (going : isTerminalTaskStatus status = false) :
    notStarted status = true ∨ (status = .running ∨ status = .waitingReview) ∨ status = .blocked := by
  cases status <;> revert going <;> decide

/-- A snapshot lists as runnable exactly the tasks in scope that the lifecycle lets start; every task in scope
that is not terminal is runnable, active or blocked; and what is runnable is neither active nor blocked. -/
theorem readiness_agrees_with_lifecycle (sha256 : Value → String) (now : Date) {state : PlanningStateRecord}
    (classes : List PlanningDataClass) (keyed : tables.Keyed)
    (read : readPlanningState tables scope.projectId = some state) :
    ∃ snapshot, projectPlanningSnapshot sha256 state scope classes = .ok snapshot ∧
      (∀ taskId, (∃ item ∈ snapshot.derived.runnable, item.taskId = taskId) ↔
        state.inScopeTask scope taskId = true ∧
          ∃ after, ManageTaskLifecycle.perform (startRequest scope.projectId taskId) now tables.work.office = .ok after) ∧
      (∀ task ∈ state.tasks, state.inScopeTask scope task.id = true → isTerminalTaskStatus task.status = false →
        (∃ item ∈ snapshot.derived.runnable, item.taskId = task.id) ∨
          (∃ item ∈ snapshot.derived.active, item.taskId = task.id) ∨
          ∃ item ∈ snapshot.derived.blockers, item.taskId = task.id) ∧
      ∀ item ∈ snapshot.derived.runnable,
        (∀ other ∈ snapshot.derived.active, other.taskId ≠ item.taskId) ∧
          ∀ other ∈ snapshot.derived.blockers, other.taskId ≠ item.taskId := by
  obtain ⟨known, rfl⟩ := readPlanningState_some read
  have consistent := planningState_consistent scope.projectId keyed
  obtain ⟨body, reads, returned, listed, runnable, active, blockers⟩ := snapshotBody_returns keyed scope classes
  have one (first second : ReadTask) (here : first ∈ reads) (there : second ∈ reads)
      (same : first.task.id = second.task.id) : first.task = second.task :=
    keyed_eq consistent.tasks (listed.member second there).1 (listed.member first here).1 same
  refine ⟨_, by rw [projectPlanningSnapshot, returned]; rfl, fun taskId => ?_, fun task member inScope going => ?_,
    fun item member => ?_⟩
  · dsimp only
    rw [runnable, mem_runnableOf, start_accepted_iff keyed known now]
    constructor
    · rintro ⟨read, member, rfl, ready, free⟩
      obtain ⟨inTasks, inScope, admits⟩ := listed.member read member
      obtain ⟨row, stored, owner, same⟩ := mem_planningTasks.mp inTasks
      refine ⟨inScope, row, stored, ?_, owner, ?_, admits.mp free⟩
      · rw [← same]
        rfl
      · rw [← same] at ready
        exact ready
    · rintro ⟨inScope, row, stored, rfl, owner, ready, admits⟩
      obtain ⟨read, member, same⟩ :=
        listed.covers (readTask row) (mem_planningTasks.mpr ⟨row, stored, owner, rfl⟩) inScope
      have sameId : read.task.id = row.id := by rw [same]; rfl
      refine ⟨read, member, sameId, by rw [same]; exact ready, (listed.member read member).2.2.mpr ?_⟩
      rw [sameId]
      exact admits
  · dsimp only
    rw [runnable, active, blockers, mem_runnableOf, mem_activeOf, mem_blockersOf]
    obtain ⟨read, inReads, rfl⟩ := listed.covers task member inScope
    rcases standing read.task.status going with ready | working | blocked
    · rcases Nat.eq_zero_or_pos read.unmetStart.length with free | unmet
      · exact .inl ⟨read, inReads, rfl, ready, free⟩
      · exact .inr (.inr ⟨read, inReads, rfl, going, .inl unmet⟩)
    · exact .inr (.inl ⟨read, inReads, rfl, working⟩)
    · exact .inr (.inr ⟨read, inReads, rfl, going, .inr blocked⟩)
  · dsimp only at member ⊢
    rw [runnable] at member
    rw [active, blockers]
    obtain ⟨first, here, sameFirst, ready, free⟩ := mem_runnableOf.mp ⟨item, member, rfl⟩
    refine ⟨fun other also same => ?_, fun other also same => ?_⟩
    · obtain ⟨second, there, sameSecond, working⟩ := mem_activeOf.mp ⟨other, also, same⟩
      rw [one first second here there (sameFirst.trans sameSecond.symm)] at ready
      rcases working with running | reviewed
      · rw [running] at ready
        exact absurd ready (by decide)
      · rw [reviewed] at ready
        exact absurd ready (by decide)
    · obtain ⟨second, there, sameSecond, -, reasons⟩ := mem_blockersOf.mp ⟨other, also, same⟩
      have equal := one first second here there (sameFirst.trans sameSecond.symm)
      rcases reasons with unmet | blocked
      · have admits := (listed.member first here).2.2.mp free
        rw [equal] at admits
        exact absurd ((listed.member second there).2.2.mpr admits) (Nat.ne_of_gt unmet)
      · rw [equal, blocked] at ready
        exact absurd ready (by decide)

def readyTables : PlanningTables := ⟨twoTasks, [], [], []⟩

theorem readyTables_keyed : readyTables.Keyed := ⟨by decide, by decide, twoTasks_none.wellFormed⟩

theorem ready_tasks_agree : ∃ snapshot,
    projectPlanningSnapshot (fun _ => "") (planningState readyTables "p") ⟨"p", none⟩ [.P] = .ok snapshot ∧
      ((∃ item ∈ snapshot.derived.runnable, item.taskId = "a") ↔
        (planningState readyTables "p").inScopeTask ⟨"p", none⟩ "a" = true ∧
          ∃ after, ManageTaskLifecycle.perform (startRequest "p" "a") 5 readyTables.work.office = .ok after) := by
  have read : readPlanningState readyTables "p" = some (planningState readyTables "p") := if_neg (by decide)
  obtain ⟨snapshot, returned, runnable, -⟩ :=
    @readiness_agrees_with_lifecycle readyTables ⟨"p", none⟩ (fun _ => "") 5 _ [.P] readyTables_keyed read
  exact ⟨snapshot, returned, runnable "a"⟩

end AiOffice.Application.Coordination
