import AiOffice.Domain.Agent
import AiOffice.Domain.AgentRun
import AiOffice.Domain.PipelineRun
import AiOffice.Domain.TaskDependency

namespace AiOffice.Storage.Office

open Domain

structure OfficeManifestRevision where
  id : String
  projectId : String
  revision : Nat
  pipelines : List OfficePipeline
  deriving DecidableEq

structure AgentRunBinding where
  id : String
  projectId : String
  taskId : String
  agentId : String
  pipelineRunId : Option String
  pipelineStageRunId : Option String
  status : AgentRunStatus
  deriving DecidableEq

/-- A job to orchestrate a stage, by the key that it is appended under once. -/
structure OutboxJob where
  projectId : String
  pipelineRunId : String
  pipelineStageRunId : String
  version : Nat
  deriving DecidableEq

structure OfficeTables where
  projects : List String
  tasks : List TaskProps
  dependencies : List TaskDependency
  manifests : List OfficeManifestRevision
  pipelines : List PipelineRunProps
  overrides : List PipelineOverrideRecord
  agents : List Agent
  roles : List Role
  agentRuns : List AgentRunBinding
  outbox : List OutboxJob
  deriving DecidableEq

def abort (message : String) : Thrown := ⟨.storageError, message⟩

def incompletePrerequisites : Thrown := abort "task has incomplete prerequisites"

namespace OfficeTables

variable (tables : OfficeTables)

def findTask (id : String) : Option TaskProps := tables.tasks.find? fun task => task.id = id

def statuses (projectId id : String) : Option TaskStatus :=
  (tables.tasks.find? fun task => task.projectId = projectId && task.id = id).map TaskProps.status

def prerequisites (projectId taskId : String) : List String :=
  (tables.dependencies.filter fun edge => edge.projectId = projectId && edge.taskId = taskId).map
    TaskDependency.dependsOnTaskId

/-- Whether a prerequisite, as the triggers join it, is in a status that does not satisfy. -/
def unsatisfied (requirement : PrerequisiteRequirement) (projectId taskId : String) : Bool :=
  (tables.prerequisites projectId taskId).any fun id =>
    tables.tasks.any fun task => task.id = id && !requirement.satisfied task.status

def findLatestManifest (projectId : String) : Option OfficeManifestRevision :=
  (tables.manifests.filter fun revision => revision.projectId = projectId).foldl (fun latest revision =>
    if latest.any fun earlier => revision.revision ≤ earlier.revision then latest else some revision) none

def findPipelineRun (id projectId : String) : Option PipelineRunProps :=
  tables.pipelines.find? fun run => run.id = id && run.projectId = projectId

def findActiveByTask (taskId projectId : String) : Option PipelineRunProps :=
  tables.pipelines.find? fun run => run.taskId = taskId && run.projectId = projectId && run.status = .active

def findAgent (id : String) : Option Agent := tables.agents.find? fun agent => agent.id = id

def findRole (id projectId : String) : Option Role :=
  tables.roles.find? fun role => role.id = id && role.projectId = projectId

def findAgentRun (id : String) : Option AgentRunBinding := tables.agentRuns.find? fun run => run.id = id

end OfficeTables

def overwriteTask (row value : TaskProps) : TaskProps :=
  { row with
    title := value.title
    description := value.description
    status := value.status
    priority := value.priority
    updatedAt := value.updatedAt }

/-- The triggers on the status of a task: work is admitted, and finished, only with its prerequisites. -/
def taskUpdateRefused (tables : OfficeTables) (row value : TaskProps) : Bool :=
  (value.status = .running && row.status ≠ .running && tables.unsatisfied .start row.projectId row.id) ||
    (value.status = .completed && row.status ∈ [TaskStatus.running, .waitingReview] &&
      tables.unsatisfied .completion row.projectId row.id)

def OfficeTables.replaceTask (tables : OfficeTables) (value : TaskProps) : OfficeTables :=
  { tables with
    tasks := tables.tasks.map fun task => if task.id = value.id then overwriteTask task value else task }

def saveTask (value : TaskProps) (tables : OfficeTables) : Except Thrown OfficeTables :=
  match tables.findTask value.id with
  | none => .ok { tables with tasks := tables.tasks ++ [value] }
  | some row =>
    if taskUpdateRefused tables row value then .error incompletePrerequisites
    else .ok (tables.replaceTask value)

/-- SQLite trims spaces only, and counts the characters before the first NUL. -/
def notBlank (value : String) : Bool :=
  (value.toList.dropWhile fun char => char = ' ').head?.any fun char => char ≠ Char.ofNat 0

def stageRowValid (stage : PipelineStageRunProps) : Bool :=
  notBlank stage.stageId && notBlank stage.roleId &&
    (stage.assignedAgentId.isSome = stage.assignedAt.isSome) && (stage.approvedBy.isSome = stage.approvedAt.isSome) &&
    (stage.approvedBy.isSome = stage.approvalDecision.isSome) &&
    (stage.approvalRationale.isNone || stage.approvedBy.isSome) &&
    (stage.status = .completed) = (stage.completedAt.isSome = true)

def runRowValid (run : PipelineRunProps) : Bool :=
  0 < run.manifestRevision && 0 < run.version && notBlank run.startedBy &&
    match run.status with
    | .active => run.completedAt.isNone && run.cancelledAt.isNone
    | .completed => run.completedAt.isSome && run.cancelledAt.isNone
    | .cancelled => run.completedAt.isNone && run.cancelledAt.isSome

def stageStatusMoves (before after : PipelineStageRunStatus) : Bool :=
  before = after || match before with
    | .pending => after ∈ [PipelineStageRunStatus.active, .cancelled]
    | .active => after ∈ [PipelineStageRunStatus.awaitingApproval, .completed, .cancelled]
    | .awaitingApproval => after ∈ [PipelineStageRunStatus.completed, .cancelled]
    | .completed | .cancelled => false

def assignmentKept (before after : PipelineStageRunProps) : Bool :=
  (after.assignedAgentId = before.assignedAgentId && after.assignedAt = before.assignedAt) ||
    (before.assignedAgentId.isNone && after.assignedAgentId.isSome && before.status = .active)

def approvalKept (before after : PipelineStageRunProps) : Bool :=
  (after.approvedBy = before.approvedBy && after.approvalDecision = before.approvalDecision &&
      after.approvalRationale = before.approvalRationale && after.approvedAt = before.approvedAt) ||
    (before.approvedBy.isNone && after.approvedBy.isSome && before.status = .awaitingApproval)

/-- A newly assigned agent is one of the project. A key that is not written anew still has its row. -/
def assigneeKnown (tables : OfficeTables) (projectId : String) (before after : PipelineStageRunProps) : Bool :=
  after.assignedAgentId = before.assignedAgentId || after.assignedAgentId.all fun id =>
    tables.agents.any fun agent => agent.id = id && agent.projectId = projectId

def atWork (stage : PipelineStageRunProps) : Bool := stage.status = .active || stage.status = .awaitingApproval

def oneAtWork (stages : List PipelineStageRunProps) : Bool := stages.countP atWork ≤ 1

def runUpdateRefusal (before after : PipelineRunProps) : Option String :=
  if after.version ≠ before.version + 1 ∨ after.updatedAt < before.updatedAt then
    some "invalid pipeline run version transition"
  else if after.status ≠ before.status ∧ before.status ≠ .active then some "invalid pipeline run status transition"
  else if !runRowValid after then some "CHECK constraint failed: pipeline_run"
  else none

def stageUpdateRefusal (tables : OfficeTables) (projectId : String) (before after : PipelineStageRunProps) :
    Option String :=
  if !stageStatusMoves before.status after.status then some "invalid pipeline stage status transition"
  else if !assignmentKept before after then some "pipeline stage assignment is immutable"
  else if !approvalKept before after then some "pipeline stage approval is immutable"
  else if !stageRowValid after then some "CHECK constraint failed: pipeline_stage_run"
  else if !assigneeKnown tables projectId before after then some "FOREIGN KEY constraint failed"
  else none

def stagesUpdateRefusal (tables : OfficeTables) (before after : PipelineRunProps) : Option String :=
  if !oneAtWork after.stages then some "UNIQUE constraint failed: pipeline_stage_run.pipeline_run_id"
  else (before.stages.zip after.stages).findSome? fun stages =>
    stageUpdateRefusal tables before.projectId stages.1 stages.2

def overwriteRun (row value : PipelineRunProps) : PipelineRunProps :=
  { row with
    status := value.status
    currentStageIndex := value.currentStageIndex
    stages := value.stages
    version := value.version
    updatedAt := value.updatedAt
    completedAt := value.completedAt
    cancelledAt := value.cancelledAt }

def hasVersion (value : PipelineRunProps) (version : Nat) (run : PipelineRunProps) : Bool :=
  run.id = value.id && run.projectId = value.projectId && run.version = version

def OfficeTables.replacePipelineRun (tables : OfficeTables) (value : PipelineRunProps) (version : Nat) :
    OfficeTables :=
  { tables with
    pipelines := tables.pipelines.map fun run =>
      if hasVersion value version run then overwriteRun run value else run }

def savePipelineRun (value : PipelineRunProps) (expectedVersion : Nat) (tables : OfficeTables) :
    Except Thrown (Bool × OfficeTables) :=
  match tables.pipelines.find? (hasVersion value expectedVersion) with
  | none => .ok (false, tables)
  | some row =>
    match (runUpdateRefusal row value).or (stagesUpdateRefusal tables row value) with
    | some message => .error (abort message)
    | none => .ok (true, tables.replacePipelineRun value expectedVersion)

def insertPipelineRun (value : PipelineRunProps) (tables : OfficeTables) : Except Thrown OfficeTables :=
  if !tables.manifests.any fun revision => revision.id = value.manifestRevisionId &&
      revision.projectId = value.projectId && revision.revision = value.manifestRevision then
    .error (abort "pipeline run manifest revision tuple is invalid")
  else if value.projectId ∉ tables.projects ∨ (tables.findTask value.taskId).isNone then
    .error (abort "FOREIGN KEY constraint failed")
  else if tables.pipelines.any fun run => run.id = value.id then .error (abort "UNIQUE constraint failed: pipeline_run.id")
  else if value.status = .active ∧ (tables.findActiveByTask value.taskId value.projectId).isSome then
    .error (abort "UNIQUE constraint failed: pipeline_run.project_id, pipeline_run.task_id")
  else if !runRowValid value then .error (abort "CHECK constraint failed: pipeline_run")
  else if tables.unsatisfied .start value.projectId value.taskId then .error incompletePrerequisites
  else if !value.stages.all stageRowValid || !oneAtWork value.stages then
    .error (abort "CHECK constraint failed: pipeline_stage_run")
  else if ¬(value.stages.map PipelineStageRunProps.id).Nodup ∨
      ¬(value.stages.map PipelineStageRunProps.stageId).Nodup ∨
      (tables.pipelines.any fun run => run.stages.any fun stage =>
        stage.id ∈ value.stages.map PipelineStageRunProps.id) then
    .error (abort "UNIQUE constraint failed: pipeline_stage_run")
  else .ok { tables with pipelines := tables.pipelines ++ [value] }

def appendOverride (record : PipelineOverrideRecord) (tables : OfficeTables) : Except Thrown OfficeTables :=
  if tables.overrides.any fun stored => stored.id = record.id then
    .error (abort "UNIQUE constraint failed: pipeline_override.id")
  else .ok { tables with overrides := tables.overrides ++ [record] }

def jsonStringBytes (value : String) : Nat :=
  2 + (value.toList.map fun char =>
    if char = '"' ∨ char = '\\' ∨ char.val ∈ ([0x08, 0x09, 0x0A, 0x0C, 0x0D] : List UInt32) then 2
    else if char.val < 0x20 then 6 else char.utf8Size).sum

/-- The bytes of the payload of a job: the three ids, and 53 for the keys and punctuation around them. -/
def payloadBytes (job : OutboxJob) : Nat :=
  53 + jsonStringBytes job.projectId + jsonStringBytes job.pipelineRunId + jsonStringBytes job.pipelineStageRunId

def maximumPayloadBytes : Nat := 4096

def appendJob (job : OutboxJob) (tables : OfficeTables) : Except Thrown OfficeTables :=
  if maximumPayloadBytes < payloadBytes job then
    .error ⟨.domainValidationError, "Job outbox payload is too large"⟩
  else if job ∈ tables.outbox then .ok tables
  else .ok { tables with outbox := tables.outbox ++ [job] }

end AiOffice.Storage.Office

namespace AiOffice.Storage.Office

open Data Domain

variable {tables after : OfficeTables}

theorem findTask_found {id : String} {task : TaskProps} (found : tables.findTask id = some task) :
    task ∈ tables.tasks ∧ task.id = id :=
  ⟨List.mem_of_find?_eq_some found, by simpa using List.find?_some found⟩

@[simp] theorem overwriteTask_id (row value : TaskProps) : (overwriteTask row value).id = row.id := rfl

@[simp] theorem overwriteTask_projectId (row value : TaskProps) :
    (overwriteTask row value).projectId = row.projectId := rfl

@[simp] theorem overwriteTask_status (row value : TaskProps) : (overwriteTask row value).status = value.status := rfl

theorem replaceTask_findTask (value : TaskProps) (id : String) :
    (tables.replaceTask value).findTask id =
      (tables.findTask id).map fun task => if task.id = value.id then overwriteTask task value else task := by
  unfold OfficeTables.replaceTask OfficeTables.findTask
  rw [List.find?_map]
  have sameKey : ((fun task : TaskProps => decide (task.id = id)) ∘
      fun task => if task.id = value.id then overwriteTask task value else task) = fun task => decide (task.id = id) := by
    funext task
    by_cases overwritten : task.id = value.id <;> simp [overwritten]
  rw [sameKey]

theorem saveTask_overwrites {value row : TaskProps} (found : tables.findTask value.id = some row)
    (saved : saveTask value tables = .ok after) :
    taskUpdateRefused tables row value = false ∧ after = tables.replaceTask value := by
  unfold saveTask at saved
  simp only [found] at saved
  split at saved
  · cases saved
  · next passed => exact ⟨by simpa using passed, (Except.ok.inj saved).symm⟩

theorem saveTask_cases {value : TaskProps} (saved : saveTask value tables = .ok after) :
    (tables.findTask value.id = none ∧ after = { tables with tasks := tables.tasks ++ [value] }) ∨
      after = tables.replaceTask value := by
  cases found : tables.findTask value.id with
  | none =>
    simp only [saveTask, found] at saved
    exact .inl ⟨rfl, (Except.ok.inj saved).symm⟩
  | some row => exact .inr (saveTask_overwrites found saved).2

theorem saveTask_tasks {value : TaskProps} (saved : saveTask value tables = .ok after) :
    after = { tables with tasks := after.tasks } := by
  unfold saveTask at saved
  split at saved
  · cases saved
    rfl
  · split at saved
    · cases saved
    · cases saved
      rfl

theorem saveTask_findTask {value row : TaskProps} {id : String} (saved : saveTask value tables = .ok after)
    (found : tables.findTask id = some row) :
    after.findTask id = some (if row.id = value.id then overwriteTask row value else row) := by
  cases stored : tables.findTask value.id with
  | some held =>
    obtain ⟨-, rfl⟩ := saveTask_overwrites stored saved
    rw [replaceTask_findTask, found]
    rfl
  | none =>
    have other : row.id ≠ value.id := by
      intro same
      rw [← same, (findTask_found found).2, found] at stored
      cases stored
    simp only [saveTask, stored] at saved
    cases saved
    unfold OfficeTables.findTask at found ⊢
    rw [List.find?_append, found, if_neg other]
    rfl

theorem findPipelineRun_found {id projectId : String} {run : PipelineRunProps}
    (found : tables.findPipelineRun id projectId = some run) :
    run ∈ tables.pipelines ∧ run.id = id ∧ run.projectId = projectId := by
  have matched := List.find?_some found
  simp only [Bool.and_eq_true, decide_eq_true_eq] at matched
  exact ⟨List.mem_of_find?_eq_some found, matched⟩

theorem insertPipelineRun_ok {value : PipelineRunProps} (inserted : insertPipelineRun value tables = .ok after) :
    after = { tables with pipelines := tables.pipelines ++ [value] } ∧
      (∀ run ∈ tables.pipelines, run.id ≠ value.id) ∧
      (value.status = .active → tables.findActiveByTask value.taskId value.projectId = none) ∧
      (tables.findTask value.taskId).isSome = true ∧
      runRowValid value = true ∧ value.stages.all stageRowValid = true := by
  obtain ⟨-, inserted⟩ := Outcome.guard_ok inserted
  obtain ⟨known, inserted⟩ := Outcome.guard_ok inserted
  obtain ⟨fresh, inserted⟩ := Outcome.guard_ok inserted
  obtain ⟨noneActive, inserted⟩ := Outcome.guard_ok inserted
  obtain ⟨rowValid, inserted⟩ := Outcome.guard_ok inserted
  obtain ⟨-, inserted⟩ := Outcome.guard_ok inserted
  obtain ⟨stagesValid, inserted⟩ := Outcome.guard_ok inserted
  obtain ⟨-, inserted⟩ := Outcome.guard_ok inserted
  simp only [Bool.not_eq_true, Bool.not_eq_false', Bool.or_eq_false_iff, not_and, Option.isSome_eq_false_iff,
    Option.isNone_iff_eq_none] at noneActive rowValid stagesValid
  have taskKnown : (tables.findTask value.taskId).isSome = true :=
    Option.isSome_iff_ne_none.mpr (by simpa using (not_or.mp known).2)
  refine ⟨(Except.ok.inj inserted).symm, ?_, noneActive, taskKnown, rowValid, stagesValid.1⟩
  intro run stored same
  exact fresh (List.any_eq_true.mpr ⟨run, stored, by simpa using same⟩)

theorem appendJob_ok {job : OutboxJob} (appended : appendJob job tables = .ok after) :
    after = { tables with outbox := after.outbox } := by
  obtain ⟨-, appended⟩ := Outcome.guard_ok appended
  split at appended <;> cases appended <;> rfl

theorem appendOverride_ok {record : PipelineOverrideRecord} (appended : appendOverride record tables = .ok after) :
    after = { tables with overrides := after.overrides } := by
  obtain ⟨-, appended⟩ := Outcome.guard_ok appended
  cases appended
  rfl

end AiOffice.Storage.Office
