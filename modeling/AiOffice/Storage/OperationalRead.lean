import AiOffice.Application.ReadModels.OperationalProjection

namespace AiOffice.Storage.OperationalRead

open Domain Domain.IsoDate Application.ReadModels

structure ProjectRow where
  id : String
  name : String

structure TaskLockRow where
  taskId : String
  runId : String
  acquiredAt : Date
  expiresAt : Date

/-- The tables that the operational reads select from. A time stands for its text in the column. -/
structure OperationalTables where
  projects : List ProjectRow
  tasks : List TaskProps
  agentRuns : List OperationalAgentRunRecord
  taskLocks : List TaskLockRow
  reviews : List OperationalReviewRecord
  pipelineRuns : List PipelineRunProps

structure CountRecord where
  projectId : String
  count : Nat

def groupedCounts (rows : List String) : List CountRecord :=
  rows.dedup.map fun projectId => ⟨projectId, rows.count projectId⟩

def countOf (records : List CountRecord) (projectId : String) : Nat :=
  ((records.find? fun record => record.projectId = projectId).map CountRecord.count).getD 0

section Order

variable {Row : Type} (since id : Row → String)

/-- `ORDER BY since DESC, id`, in the order of the texts. -/
def NewerFirst (row other : Row) : Prop := since other < since row ∨ since row = since other ∧ id row ≤ id other

instance : DecidableRel (NewerFirst since id) := fun _ _ => inferInstanceAs (Decidable (_ ∨ _))

def newestFirst (rows : List Row) : List Row := rows.insertionSort (NewerFirst since id)

/-- `ORDER BY since, id`. -/
def oldestFirst (rows : List Row) : List Row :=
  rows.insertionSort fun row other => since row < since other ∨ since row = since other ∧ id row ≤ id other

end Order

section Reads

variable (tables : OperationalTables)

def listProjects : List ProjectRow := oldestFirst ProjectRow.name ProjectRow.id tables.projects

structure StatusCountRecord where
  projectId : String
  status : TaskStatus
  count : Nat

def countTasksByStatus (projectIds : List String) : List StatusCountRecord :=
  let rows := (tables.tasks.filter fun task => task.projectId ∈ projectIds).map fun task => (task.projectId, task.status)
  rows.dedup.map fun key => ⟨key.1, key.2, rows.countP (· = key)⟩

def agentRunRows (projectIds : List String) (statuses : List AgentRunStatus) : List OperationalAgentRunRecord :=
  tables.agentRuns.filter fun run => run.projectId ∈ projectIds ∧ run.status ∈ statuses

def countAgentRuns (projectIds : List String) (statuses : List AgentRunStatus) : List CountRecord :=
  groupedCounts ((agentRunRows tables projectIds statuses).map OperationalAgentRunRecord.projectId)

def rankedAgentRuns (projectIds : List String) (statuses : List AgentRunStatus) : List OperationalAgentRunRecord :=
  newestFirst (fun run => toISOString run.updatedAt) OperationalAgentRunRecord.id
    (agentRunRows tables projectIds statuses)

def listAgentRuns (projectIds : List String) (statuses : List AgentRunStatus) (limit : Nat) :
    List OperationalAgentRunRecord :=
  (rankedAgentRuns tables projectIds statuses).take limit

def reviewRows (projectIds : List String) (statuses : List ReviewStatus) : List OperationalReviewRecord :=
  tables.reviews.filter fun review => review.projectId ∈ projectIds ∧ review.status ∈ statuses

def countReviews (projectIds : List String) (statuses : List ReviewStatus) : List CountRecord :=
  groupedCounts ((reviewRows tables projectIds statuses).map OperationalReviewRecord.projectId)

def rankedReviews (projectIds : List String) (statuses : List ReviewStatus) : List OperationalReviewRecord :=
  newestFirst (fun review => toISOString review.createdAt) OperationalReviewRecord.id
    (reviewRows tables projectIds statuses)

def listReviews (projectIds : List String) (statuses : List ReviewStatus) (limit : Nat) :
    List OperationalReviewRecord :=
  (rankedReviews tables projectIds statuses).take limit

def attentionTaskRows (projectIds : List String) : List OperationalAttentionTaskRecord :=
  (tables.tasks.filter fun task => task.projectId ∈ projectIds ∧ task.status ∈ [TaskStatus.blocked, .failed]).map
    fun task => ⟨task.projectId, task.id, task.title, task.status, task.updatedAt⟩

def rankedAttentionTasks (projectIds : List String) : List OperationalAttentionTaskRecord :=
  newestFirst (fun task => toISOString task.updatedAt) OperationalAttentionTaskRecord.taskId
    (attentionTaskRows tables projectIds)

def listAttentionTasks (projectIds : List String) (limit : Nat) : List OperationalAttentionTaskRecord :=
  (rankedAttentionTasks tables projectIds).take limit

/-- An active pipeline run joined with its current stage, when the stage asks for attention. -/
def attentionStage (run : PipelineRunProps) : Option OperationalActivePipelineStageRecord :=
  match run.stages.find? fun stage => stage.stageIndex = run.currentStageIndex with
  | none => none
  | some stage =>
    if run.status = .active ∧
        (stage.status = .awaitingApproval ∨ stage.status = .active ∧ stage.assignedAgentId = none) then
      some {
        projectId := run.projectId
        pipelineRunId := run.id
        stageName := (run.definition.stages[stage.stageIndex]?.map OfficePipelineStage.name).getD stage.stageId
        stageStatus := stage.status
        assignedAgentId := stage.assignedAgentId
        stageCompletedAt := stage.completedAt
        updatedAt := run.updatedAt }
    else none

def attentionStageRows (projectIds : List String) : List OperationalActivePipelineStageRecord :=
  (tables.pipelineRuns.filterMap attentionStage).filter fun stage => stage.projectId ∈ projectIds

def countAttentionStages (projectIds : List String) : List CountRecord :=
  groupedCounts ((attentionStageRows tables projectIds).map OperationalActivePipelineStageRecord.projectId)

def rankedAttentionStages (projectIds : List String) : List OperationalActivePipelineStageRecord :=
  newestFirst (fun stage => toISOString stage.updatedAt) OperationalActivePipelineStageRecord.pipelineRunId
    (attentionStageRows tables projectIds)

def listActivePipelineStages (projectIds : List String) (limit : Nat) : List OperationalActivePipelineStageRecord :=
  (rankedAttentionStages tables projectIds).take limit

def findLock (taskId : String) : Option TaskLockRow := tables.taskLocks.find? fun lock => lock.taskId = taskId

def findTask (taskId : String) : Option TaskProps := tables.tasks.find? fun task => task.id = taskId

def findAgentRun (runId : String) : Option OperationalAgentRunRecord :=
  tables.agentRuns.find? fun run => run.id = runId

section Leases

variable (now : Date)

/-- The expiry of a lease as SQL compares it: the texts, character by character. -/
def expiredText (lock : TaskLockRow) : Bool := toISOString lock.expiresAt ≤ toISOString now

/-- A run lacks authority unless it owns a lease row that has not expired. -/
def invalidLease (run : OperationalAgentRunRecord) : Bool :=
  match findLock tables run.taskId with
  | none => true
  | some lock => lock.runId ≠ run.id || expiredText now lock

def unleasedRuns (projectIds : List String) : List OperationalAgentRunRecord :=
  (agentRunRows tables projectIds activeAgentRunStatuses).filter (invalidLease tables now)

def unleasedKeys (projectIds : List String) : List (String × String) :=
  (unleasedRuns tables now projectIds).map fun run => (run.projectId, run.taskId)

def countTasksWithoutValidRunLease (projectIds : List String) : List CountRecord :=
  groupedCounts ((unleasedKeys tables now projectIds).dedup.map Prod.fst)

def leaseAnomalySince (taskId : String) : String :=
  match findLock tables taskId with
  | none => ((findTask tables taskId).map fun task => toISOString task.updatedAt).getD ""
  | some lock => if expiredText now lock then toISOString lock.expiresAt else toISOString lock.acquiredAt

def taskLeaseAnomaly (projectId taskId : String) (runs : Nat) : TaskLeaseAnomalyRecord :=
  let task := findTask tables taskId
  { projectId, taskId
    taskTitle := task.map TaskProps.title
    runsWithoutValidLease := runs
    lease := (findLock tables taskId).map fun lock => ⟨lock.acquiredAt, lock.expiresAt, expiredText now lock⟩
    taskUpdatedAt := (task.map TaskProps.updatedAt).getD 0 }

def leaseAnomalies (projectIds : List String) : List TaskLeaseAnomalyRecord :=
  let keys := unleasedKeys tables now projectIds
  keys.dedup.map fun key => taskLeaseAnomaly tables now key.1 key.2 (keys.count key)

def rankedLeaseAnomalies (projectIds : List String) : List TaskLeaseAnomalyRecord :=
  newestFirst (fun row => leaseAnomalySince tables now row.taskId) TaskLeaseAnomalyRecord.taskId
    (leaseAnomalies tables now projectIds)

def listTasksWithoutValidRunLease (projectIds : List String) (limit : Nat) : List TaskLeaseAnomalyRecord :=
  (rankedLeaseAnomalies tables now projectIds).take limit

end Leases

section TaskFacts

variable (projectId : String)

def activeRunsOfTask (taskId : String) : List OperationalAgentRunRecord :=
  tables.agentRuns.filter fun run =>
    run.projectId = projectId ∧ run.taskId = taskId ∧ isActiveAgentRunStatus run.status

def latestRunOfTask (taskId : String) : Option OperationalAgentRunRecord :=
  (oldestFirst (fun run => toISOString run.updatedAt) OperationalAgentRunRecord.id
    (tables.agentRuns.filter fun run => run.projectId = projectId ∧ run.taskId = taskId)).getLast?

def taskLease (taskId : String) : Option TaskLeaseRecord :=
  if tables.tasks.any fun task => task.id = taskId ∧ task.projectId = projectId then
    (findLock tables taskId).map fun lock =>
      ⟨lock.taskId, lock.runId, lock.acquiredAt, lock.expiresAt, (findAgentRun tables lock.runId).map (·.status)⟩
  else none

def activePipelineRunOfTask (taskId : String) : Option PipelineRunProps :=
  (oldestFirst (fun run => toISOString run.createdAt) PipelineRunProps.id
    (tables.pipelineRuns.filter fun run =>
      run.projectId = projectId ∧ run.status = .active ∧ run.taskId = taskId)).head?

def pendingReviewsOfTask (taskId : String) : List OperationalReviewRecord :=
  oldestFirst (fun review => toISOString review.createdAt) OperationalReviewRecord.id
    (tables.reviews.filter fun review =>
      review.projectId = projectId ∧ review.subjectType = .task ∧ review.status = .pending ∧ review.subjectId = taskId)

def taskFacts (task : TaskProps) : TaskFacts :=
  { task
    activeRunCount := (activeRunsOfTask tables projectId task.id).length
    executingRunCount :=
      (activeRunsOfTask tables projectId task.id).countP fun run => run.status ∈ executingAgentRunStatuses
    latestRun := latestRunOfTask tables projectId task.id
    lease := taskLease tables projectId task.id
    pipelineRun := activePipelineRunOfTask tables projectId task.id
    pendingReviewCount := (pendingReviewsOfTask tables projectId task.id).length
    earliestPendingReview := (pendingReviewsOfTask tables projectId task.id).head? }

def projectTasks (tasks : List TaskProps) (now : Date) : List TaskOperationalState :=
  tasks.map fun task => projectTaskOperationalState (taskFacts tables projectId task) now

end TaskFacts

end Reads

structure OperationalTables.Consistent (tables : OperationalTables) : Prop where
  projectKeys : (tables.projects.map ProjectRow.id).Nodup
  taskKeys : (tables.tasks.map TaskProps.id).Nodup
  runKeys : (tables.agentRuns.map OperationalAgentRunRecord.id).Nodup
  lockKeys : (tables.taskLocks.map TaskLockRow.taskId).Nodup
  runTasks : ∀ run ∈ tables.agentRuns, ∃ task ∈ tables.tasks, task.id = run.taskId ∧ task.projectId = run.projectId
  lockRuns : ∀ lock ∈ tables.taskLocks, ∃ run ∈ tables.agentRuns, run.id = lock.runId

theorem newestFirst_perm {Row : Type} (since id : Row → String) (rows : List Row) :
    (newestFirst since id rows).Perm rows := List.perm_insertionSort _ rows

section Counts

variable {rows : List String} {projectId : String}

theorem countOf_groupedCounts : countOf (groupedCounts rows) projectId = rows.count projectId := by
  have found : (groupedCounts rows).find? (fun record => record.projectId = projectId) =
      if projectId ∈ rows then some ⟨projectId, rows.count projectId⟩ else none := by
    rw [groupedCounts, List.find?_map]
    split
    · next member =>
        have first : rows.dedup.find? (fun other => decide (other = projectId)) = some projectId := by
          have some : (rows.dedup.find? fun other => decide (other = projectId)).isSome :=
            List.find?_isSome.mpr ⟨projectId, List.mem_dedup.mpr member, by simp⟩
          obtain ⟨other, found⟩ := Option.isSome_iff_exists.mp some
          have same := List.find?_some found
          rw [found, of_decide_eq_true same]
        simp only [Function.comp_def, first, Option.map_some]
    · next missing =>
        simp only [Function.comp_def, Option.map_eq_none_iff, List.find?_eq_none, List.mem_dedup, decide_eq_true_eq]
        intro other member same
        exact missing (same ▸ member)
  rw [countOf, found]
  split
  · rfl
  · next missing => simp [List.count_eq_zero_of_not_mem missing]

end Counts

end AiOffice.Storage.OperationalRead
