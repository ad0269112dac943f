import AiOffice.Application.ReconcileTasks.Findings

namespace AiOffice.Application.ReconcileTasks

open Data Outcome Domain Storage.Office

variable {tables : ReconciliationTables} {office : OfficeTables} {projectId : String} {task : TaskProps}
  {issues : List TaskReconciliationIssue}

/-- An edge of the project names a prerequisite of the task that is no task of the project. -/
def Dangling (office : OfficeTables) (projectId : String) (task : TaskProps) : Prop :=
  ∃ edge ∈ office.dependencies, edge.projectId = projectId ∧ edge.taskId = task.id ∧
    ∀ other ∈ office.tasks, other.projectId = projectId → other.id ≠ edge.dependsOnTaskId

def missingPrerequisiteIssue (task : TaskProps) : TaskReconciliationIssue :=
  reported task .invalidTaskDependency .inconsistent "a prerequisite task reference is missing"
    "planning reference requires operator inspection"

/-- Where no pipeline of an open task was completed, its prerequisites are read once, and what that throws is caught. -/
def ReadOnce (office : OfficeTables) (projectId : String) (task : TaskProps) : Prop :=
  isTerminalTaskStatus task.status = true ∨
    ∀ run ∈ office.pipelines, run.projectId = projectId → run.taskId = task.id → run.status ≠ .completed

theorem statuses_none {id : String} : office.statuses projectId id = none ↔
    ∀ other ∈ office.tasks, other.projectId = projectId → other.id ≠ id := by
  simp [OfficeTables.statuses, List.find?_eq_none]

theorem dangling_iff : Dangling office projectId task ↔
    ∃ id ∈ prerequisiteIds office projectId task.id, office.statuses projectId id = none := by
  simp only [Dangling, mem_prerequisiteIds, OfficeTables.prerequisites, List.mem_map, List.mem_filter,
    Bool.and_eq_true, decide_eq_true_eq, statuses_none]
  constructor
  · rintro ⟨edge, stored, project, about, missing⟩
    exact ⟨edge.dependsOnTaskId, ⟨edge, ⟨stored, project, about⟩, rfl⟩, missing⟩
  · rintro ⟨_, ⟨edge, ⟨stored, project, about⟩, rfl⟩, missing⟩
    exact ⟨edge, stored, project, about, missing⟩

theorem blockingPrerequisites_returns_iff {statuses : String → Option TaskStatus}
    {requirement : PrerequisiteRequirement} {ids : List String} :
    (∃ blocked, blockingPrerequisites statuses requirement ids = .ok blocked) ↔ ∀ id ∈ ids, statuses id ≠ none := by
  constructor
  · rintro ⟨blocked, computed⟩ id member none
    have known := blockingPrerequisites_isSome computed id member
    rw [none] at known
    cases known
  · intro known
    induction ids with
    | nil => exact ⟨[], rfl⟩
    | cons id ids ih =>
      obtain ⟨here, later⟩ := List.forall_mem_cons.mp known
      obtain ⟨rest, computed⟩ := ih later
      obtain ⟨status, found⟩ := Option.ne_none_iff_exists'.mp here
      rw [blockingPrerequisites, found]
      exact ⟨_, bind_returns computed⟩

theorem prerequisites_read_iff {requirement : PrerequisiteRequirement} :
    (∃ blocked, blockingPrerequisites (office.statuses projectId) requirement
      (prerequisiteIds office projectId task.id) = .ok blocked) ↔ ¬ Dangling office projectId task := by
  rw [blockingPrerequisites_returns_iff, dangling_iff]
  simp only [not_exists, not_and, ne_eq]

theorem dependencyIssues_dangling (dangling : Dangling office projectId task) :
    dependencyIssues office projectId task = [missingPrerequisiteIssue task] := by
  unfold dependencyIssues
  split
  · rfl
  · case h_2 blocked computed => exact absurd dangling (prerequisites_read_iff.mp ⟨blocked, computed⟩)

theorem completed_target {terminal : List PipelineRunProps} :
    pipelineTarget terminal = .completed ↔ ∃ run ∈ terminal, run.status = .completed := by
  unfold pipelineTarget
  simp only [List.any_eq_true, decide_eq_true_eq]
  split <;> simp_all

theorem terminalPipelineIssue_returns_iff {terminal : List PipelineRunProps} {hasActive : Bool} :
    (∃ issue, terminalPipelineIssue office projectId task terminal hasActive issues = .ok issue) ↔
      (pipelineTarget terminal = .completed → ¬ Dangling office projectId task) := by
  constructor
  · rintro ⟨issue, returned⟩ completed
    obtain ⟨blocked, computed, -⟩ := bind_ok returned
    rw [if_pos completed, openPrerequisites, if_pos rfl] at computed
    exact prerequisites_read_iff.mp ⟨blocked, computed⟩
  · intro reads
    have returned : ∃ blocked, openPrerequisites office projectId task.id
        (if pipelineTarget terminal = .completed then .complete else .cancel) = .ok blocked := by
      by_cases completed : pipelineTarget terminal = .completed
      · rw [if_pos completed, openPrerequisites, if_pos rfl]
        exact prerequisites_read_iff.mpr (reads completed)
      · rw [if_neg completed]
        exact ⟨[], rfl⟩
    obtain ⟨blocked, computed⟩ := returned
    exact ⟨_, bind_returns computed⟩

theorem followingIssues_returns_iff {terminal : List PipelineRunProps} {hasActive : Bool} :
    (∃ followed, followingIssues office projectId task terminal hasActive issues = .ok followed) ↔
      (Dangling office projectId task →
        isTerminalTaskStatus task.status = true ∨ ∀ run ∈ terminal, run.status ≠ .completed) := by
  have uncompleted : (∀ run ∈ terminal, run.status ≠ .completed) ↔ pipelineTarget terminal ≠ .completed := by
    rw [ne_eq, completed_target]
    simp
  rw [uncompleted]
  unfold followingIssues
  split
  case isTrue follows =>
      have opened : isTerminalTaskStatus task.status = false := by simpa using follows.2
      rw [opened]
      constructor
      · rintro ⟨followed, returned⟩ dangling
        obtain ⟨issue, computed, -⟩ := map_ok returned
        exact .inr fun completed => terminalPipelineIssue_returns_iff.mp ⟨issue, computed⟩ completed dangling
      · intro once
        have reads : pipelineTarget terminal = .completed → ¬ Dangling office projectId task :=
          fun completed dangling => (once dangling).elim Bool.false_ne_true fun other => other completed
        obtain ⟨issue, computed⟩ :=
          (@terminalPipelineIssue_returns_iff office projectId task issues terminal hasActive).mpr reads
        exact ⟨[issue], by rw [computed]; rfl⟩
  case isFalse settled =>
      refine ⟨fun _ _ => ?_, fun _ => ⟨[], rfl⟩⟩
      by_cases empty : terminal = []
      · exact .inr (by rw [empty]; decide)
      · left
        simpa [empty] using settled

theorem inspectTask_returns_iff : (∃ after, inspectTask tables projectId issues task = .ok after) ↔
    (Dangling tables.office projectId task → ReadOnce tables.office projectId task) := by
  have completed : (∀ run ∈ (pipelinesOf tables.office projectId task.id).filter (·.status ≠ .active),
      run.status ≠ .completed) ↔
        ∀ run ∈ tables.office.pipelines, run.projectId = projectId → run.taskId = task.id → run.status ≠ .completed := by
    simp only [pipelinesOf, List.mem_filter, mem_sortOn, Bool.and_eq_true, decide_eq_true_eq]
    constructor
    · intro none run stored project about same
      exact none run ⟨⟨stored, project, about⟩, by rw [same]; decide⟩ same
    · rintro none run ⟨⟨stored, project, about⟩, -⟩
      exact none run stored project about
  rw [ReadOnce, ← completed, ← followingIssues_returns_iff]
  constructor
  · rintro ⟨after, inspected⟩
    obtain ⟨followed, following, -⟩ := bind_ok inspected
    exact ⟨followed, following⟩
  · rintro ⟨followed, following⟩
    exact ⟨_, bind_returns following⟩

theorem inspectTasks_returns_iff {tasks : List TaskProps} :
    (∃ after, tasks.foldlM (inspectTask tables projectId) issues = .ok after) ↔
      ∀ task ∈ tasks, Dangling tables.office projectId task → ReadOnce tables.office projectId task := by
  induction tasks generalizing issues with
  | nil => simp [pure, Except.pure]
  | cons task tasks ih =>
    rw [List.forall_mem_cons, List.foldlM_cons]
    constructor
    · rintro ⟨after, inspected⟩
      obtain ⟨middle, first, later⟩ := bind_ok inspected
      exact ⟨inspectTask_returns_iff.mp ⟨middle, first⟩, ih.mp ⟨after, later⟩⟩
    · rintro ⟨here, others⟩
      obtain ⟨middle, first⟩ := inspectTask_returns_iff.mpr here
      rw [bind_returns first]
      exact ih.mpr others

theorem inspectTasks_covers {tasks : List TaskProps} {after : List TaskReconciliationIssue}
    (inspected : tasks.foldlM (inspectTask tables projectId) issues = .ok after) :
    (∀ issue ∈ issues, issue ∈ after) ∧
      ∀ task ∈ tasks, ∀ issue ∈ dependencyIssues tables.office projectId task, issue ∈ after := by
  induction tasks generalizing issues with
  | nil =>
    cases inspected
    exact ⟨fun _ member => member, fun task member => absurd member List.not_mem_nil⟩
  | cons task tasks ih =>
    rw [List.foldlM_cons] at inspected
    obtain ⟨middle, first, later⟩ := bind_ok inspected
    obtain ⟨kept, covered⟩ := ih later
    obtain ⟨followed, -, first⟩ := bind_ok first
    cases first
    refine ⟨fun issue member => kept issue (by simp [member]), List.forall_mem_cons.mpr ⟨fun issue member => ?_, covered⟩⟩
    exact kept issue (by simp [member])

theorem findIssues_reports {task : TaskProps} (found : findIssues projectId tables = .ok issues)
    (member : task ∈ tables.office.tasks) (inProject : task.projectId = projectId)
    (dangling : Dangling tables.office projectId task) : missingPrerequisiteIssue task ∈ issues := by
  obtain ⟨inspected, computed, found⟩ := bind_ok found
  cases found
  have reported : missingPrerequisiteIssue task ∈ inspected := by
    refine (inspectTasks_covers computed).2 task (mem_tasksOf.mpr ⟨member, inProject⟩) _ ?_
    rw [dependencyIssues_dangling dangling]
    exact List.mem_singleton_self _
  exact List.mem_map.mpr ⟨_, List.mem_append_left _ reported, rfl⟩

/-- An inspection returns, and reports every missing prerequisite, as long as no open task with one has a completed
pipeline. -/
theorem inspection_reports_missing {planHash : PlanHash} {now : Date} (known : projectId ∈ tables.office.projects) :
    (∃ report, inspect planHash projectId now tables = .ok report ∧
      ∀ task ∈ tables.office.tasks, task.projectId = projectId → Dangling tables.office projectId task →
        missingPrerequisiteIssue task ∈ report.issues) ↔
    ∀ task ∈ tables.office.tasks, task.projectId = projectId → Dangling tables.office projectId task →
      ReadOnce tables.office projectId task := by
  have everyTask : (∀ task ∈ tasksOf tables.office projectId,
      Dangling tables.office projectId task → ReadOnce tables.office projectId task) ↔
        ∀ task ∈ tables.office.tasks, task.projectId = projectId → Dangling tables.office projectId task →
          ReadOnce tables.office projectId task := by
    simp only [mem_tasksOf, and_imp]
  rw [← everyTask, ← @inspectTasks_returns_iff tables projectId []]
  unfold inspect
  rw [if_neg (not_not.mpr known)]
  constructor
  · rintro ⟨report, inspected, -⟩
    obtain ⟨issues, found, -⟩ := bind_ok inspected
    obtain ⟨after, computed, -⟩ := bind_ok found
    exact ⟨after, computed⟩
  · rintro ⟨after, computed⟩
    have found : findIssues projectId tables = .ok _ := bind_returns computed
    exact ⟨_, bind_returns found, fun task => findIssues_reports found⟩

def strandedTask : TaskProps := ⟨"dependent", "project", "Dependent", none, .running, 0, 1, 2⟩

def endedRun (status : PipelineRunStatus) : PipelineRunProps where
  id := "run"
  projectId := "project"
  taskId := "dependent"
  manifestRevisionId := "revision"
  manifestRevision := 1
  definition := ⟨"pipeline", "Pipeline", "Pipeline", [], none, []⟩
  status
  currentStageIndex := 0
  stages := []
  startedBy := "operator"
  version := 1
  createdAt := 1
  updatedAt := 2
  completedAt := some 2
  cancelledAt := none
  configurationPin := none

def strandedTables (status : PipelineRunStatus) : ReconciliationTables where
  office := {
    projects := ["project"]
    tasks := [strandedTask]
    dependencies := [⟨"project", "dependent", "prerequisite"⟩]
    manifests := []
    pipelines := [endedRun status]
    overrides := []
    agents := []
    roles := []
    agentRuns := []
    outbox := [] }
  requirements := []
  milestones := []
  links := []

theorem inspection_reports_missing_cancelled :
    ∃ report, inspect (fun _ _ => "digest") "project" 4 (strandedTables .cancelled) = .ok report ∧
      ∀ task ∈ (strandedTables .cancelled).office.tasks, task.projectId = "project" →
        Dangling (strandedTables .cancelled).office "project" task → missingPrerequisiteIssue task ∈ report.issues :=
  (@inspection_reports_missing (strandedTables .cancelled) "project" (fun _ _ => "digest") 4 (by decide)).mpr
    (by
      intro task _ _ _
      right
      intro run member _ _
      rw [List.mem_singleton.mp member]
      decide)

/-- The inspection of an open task with a completed pipeline throws when its prerequisite is gone. -/
theorem inspection_throws :
    Dangling (strandedTables .completed).office "project" strandedTask ∧
      inspect (fun _ _ => "digest") "project" 4 (strandedTables .completed) =
        .error (missingPrerequisite "prerequisite") :=
  ⟨⟨⟨"project", "dependent", "prerequisite"⟩, by decide, rfl, rfl, by decide⟩, by decide⟩

end AiOffice.Application.ReconcileTasks
