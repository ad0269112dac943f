import AiOffice.Domain.Agent
import AiOffice.Domain.AgentRun
import AiOffice.Domain.PipelineRun
import AiOffice.Domain.Task

namespace AiOffice.Storage.AgentRuntime

open Domain

def canPersistAgentRunTransition (previous next : AgentRunStatus) : Bool :=
  previous = next || match previous with
    | .queued => next ∈ [AgentRunStatus.preparing, .running, .reviewing, .completed, .failed, .cancelled]
    | .preparing => next ∈ [AgentRunStatus.running, .reviewing, .completed, .failed, .cancelled]
    | .running => next ∈ [AgentRunStatus.reviewing, .completed, .failed, .cancelled]
    | .reviewing => next ∈ [AgentRunStatus.completed, .failed, .cancelled]
    | .completed | .failed | .cancelled => false

structure TaskLock where
  taskId : String
  runId : String
  expiresAt : Date
  deriving DecidableEq

structure AuthorityTables where
  tasks : List TaskProps
  agents : List Agent
  roles : List Role
  locks : List TaskLock
  pipelines : List PipelineRunProps

/-- What scheduling and execution both recorded about the agent that may run a task. -/
structure AgentAuthority where
  taskStatus : TaskStatus
  taskUpdatedAt : Date
  agentRoleId : String
  agentUpdatedAt : Date
  roleId : String
  roleKey : String
  roleVersion : Int
  roleLimits : RoleLimits
  roleUpdatedAt : Date

structure RunAuthority extends AgentAuthority where
  pipelineId : Option String
  pipelineStageRunId : Option String
  pipelineVersion : Option Nat

structure RunAdmission where
  runId : String
  ownerId : Option String
  now : Date
  authority : Option RunAuthority

structure PipelineFence where
  id : String
  version : Nat
  currentStageIndex : Nat
  stageId : String
  stageRunId : String
  stageRoleId : String
  assignedAgentId : String

structure WorkerAuthorityFence (Json : Type) extends AgentAuthority where
  runId : String
  projectId : String
  taskId : String
  agentId : String
  execution : Json
  pipeline : Option PipelineFence

structure AgentRunEvent (Json : Type) where
  runId : String
  status : AgentRunStatus
  hasResult : Bool
  hasError : Bool
  execution : Option Json
  modelRouting : Option Json
  ownerId : Option String
  occurredAt : Date
  deriving DecidableEq

/-- The row of one agent run, and its events in the order of their insertion. The key of an event is the
run with the status. -/
structure RunTables (Json : Type) where
  row : Option (AgentRunState Json)
  events : List (AgentRunEvent Json)

variable {Json : Type}

/-- Whether task, agent, role and lock are still as they were recorded, for a stage with `stageAllows`. -/
def agentAuthorized (tables : AuthorityTables) (run : AgentRunState Json) (authority : AgentAuthority)
    (now : Date) (stageAllows : Role → Bool) : Bool :=
  tables.tasks.any fun task =>
    task.id = run.taskId && task.projectId = run.projectId && task.status = authority.taskStatus &&
    task.updatedAt = authority.taskUpdatedAt &&
    tables.agents.any fun agent =>
      agent.id = run.agentId && agent.projectId = run.projectId && agent.enabled &&
      agent.roleId = authority.agentRoleId && agent.updatedAt = authority.agentUpdatedAt &&
      tables.roles.any fun role =>
        role.id = agent.roleId && role.projectId = agent.projectId && role.id = authority.roleId &&
        role.key = authority.roleKey && role.version = authority.roleVersion &&
        role.limits = authority.roleLimits && role.updatedAt = authority.roleUpdatedAt &&
        (tables.locks.any fun lock =>
          lock.runId = run.id && lock.taskId = run.taskId && now < lock.expiresAt) &&
        stageAllows role

def admissible (tables : AuthorityTables) (run : AgentRunState Json) (authority : RunAuthority) (now : Date) :
    Bool :=
  agentAuthorized tables run authority.toAgentAuthority now fun role =>
    (authority.pipelineId.isNone && run.pipelineRunId.isNone && run.pipelineStageRunId.isNone &&
      !(tables.pipelines.any fun pipeline => pipeline.taskId = run.taskId && pipeline.status = .active)) ||
    tables.pipelines.any fun pipeline =>
      some pipeline.id = authority.pipelineId && some pipeline.id = run.pipelineRunId &&
      pipeline.taskId = run.taskId && pipeline.projectId = run.projectId &&
      some pipeline.version = authority.pipelineVersion && pipeline.status = .active &&
      pipeline.stages.any fun stage =>
        some stage.id = run.pipelineStageRunId && stage.stageIndex = pipeline.currentStageIndex &&
        some stage.id = authority.pipelineStageRunId && stage.status = .active &&
        stage.assignedAgentId = some run.agentId && stage.roleId = role.key

def fenced (tables : AuthorityTables) (run : AgentRunState Json) (fence : WorkerAuthorityFence Json)
    (now : Date) : Bool :=
  agentAuthorized tables run fence.toAgentAuthority now fun _ =>
    match fence.pipeline with
    | none => !(tables.pipelines.any fun pipeline =>
      pipeline.taskId = run.taskId && pipeline.projectId = run.projectId && pipeline.status = .active)
    | some expected => tables.pipelines.any fun pipeline =>
      pipeline.id = expected.id && pipeline.projectId = run.projectId && pipeline.taskId = run.taskId &&
      pipeline.status = .active && pipeline.version = expected.version &&
      pipeline.currentStageIndex = expected.currentStageIndex &&
      pipeline.stages.any fun stage =>
        stage.stageIndex = pipeline.currentStageIndex && stage.stageId = expected.stageId &&
        stage.id = expected.stageRunId && run.pipelineStageRunId = some stage.id &&
        stage.roleId = expected.stageRoleId && stage.status = .active &&
        stage.assignedAgentId = some expected.assignedAgentId

def load (codec : AgentRunCodec Json) (row : AgentRunState Json) : Except Thrown (AgentRunProps Json) :=
  AgentRun.restore codec { row with persistenceToken := some ⟨row.status, row.updatedAt⟩ }

def conflict (runId : String) : Thrown :=
  ⟨.agentRunPersistenceConflictError,
    s!"Agent run {runId} changed concurrently or has an invalid transition"⟩

def appendRunEvent (events : List (AgentRunEvent Json)) (value : AgentRunState Json)
    (previousStatus : Option AgentRunStatus) : List (AgentRunEvent Json) :=
  if events.any fun event => event.status = value.status then events
  else events ++ [{
    runId := value.id
    status := value.status
    hasResult := value.result.isSome
    hasError := value.error.isSome
    execution := value.execution
    modelRouting := if previousStatus.isNone then value.modelRouting else none
    ownerId := none
    occurredAt := value.updatedAt }]

def insertRunEvent (events : List (AgentRunEvent Json)) (event : AgentRunEvent Json) :
    Except Thrown (List (AgentRunEvent Json)) :=
  if events.any fun stored => stored.status = event.status then
    .error ⟨.storageError, "UNIQUE constraint failed: agent_run_event.id"⟩
  else .ok (events ++ [event])

variable [DecidableEq Json]

def sameValue (codec : AgentRunCodec Json) (left right : Option Json) : Bool :=
  left.getD codec.null = right.getD codec.null

def sameIdentity (codec : AgentRunCodec Json) (current value : AgentRunState Json) : Bool :=
  current.projectId = value.projectId && current.taskId = value.taskId && current.agentId = value.agentId &&
    current.pipelineRunId = value.pipelineRunId &&
    current.pipelineStageRunId = value.pipelineStageRunId &&
    sameValue codec current.actionIntent value.actionIntent &&
    sameValue codec current.modelRouting value.modelRouting &&
    sameValue codec current.roleGuidance value.roleGuidance && current.createdAt = value.createdAt

def sameMutableState (codec : AgentRunCodec Json) (current value : AgentRunState Json) : Bool :=
  current.worktreePath = value.worktreePath && sameValue codec current.result value.result &&
    sameValue codec current.error value.error && current.startedAt = value.startedAt &&
    current.completedAt = value.completedAt && sameValue codec current.execution value.execution &&
    current.updatedAt = value.updatedAt

def overwrite (row value : AgentRunState Json) : AgentRunState Json :=
  { row with
    status := value.status
    worktreePath := value.worktreePath
    result := value.result
    error := value.error
    startedAt := value.startedAt
    completedAt := value.completedAt
    updatedAt := value.updatedAt
    execution := value.execution }

/-- Insert the run, or move its row on. The object is returned as persisted. -/
def saveRun (codec : AgentRunCodec Json) (value : AgentRunProps Json) (tables : RunTables Json) :
    Except Thrown (AgentRunProps Json × RunTables Json) :=
  match tables.row with
  | none =>
    .ok (AgentRun.markPersisted value,
      ⟨some value.toAgentRunState, appendRunEvent tables.events value.toAgentRunState none⟩)
  | some row => do
    let current ← load codec row
    if !sameIdentity codec current.toAgentRunState value.toAgentRunState then .error (conflict value.id)
    else if current.status = value.status then
      if sameMutableState codec current.toAgentRunState value.toAgentRunState then
        return (AgentRun.markPersisted value, tables)
      else .error (conflict value.id)
    else if value.persistenceToken ≠ some ⟨current.status, current.updatedAt⟩ then
      .error (conflict value.id)
    else if !canPersistAgentRunTransition current.status value.status ∨
        value.updatedAt < current.updatedAt then
      .error (conflict value.id)
    else
      return (AgentRun.markPersisted value,
        ⟨some (overwrite row value.toAgentRunState),
          appendRunEvent tables.events value.toAgentRunState (some current.status)⟩)

structure AdmissionErrors (Json : Type) where
  runNotEligible : Json

def admitQueuedRun (codec : AgentRunCodec Json) (errors : AdmissionErrors Json) (authorities : AuthorityTables)
    (input : RunAdmission) (tables : RunTables Json) :
    Except Thrown (Option (AgentRunProps Json) × RunTables Json × List TaskLock) :=
  match tables.row with
  | none => .ok (none, tables, authorities.locks)
  | some row =>
    if row.id ≠ input.runId ∨ row.status ≠ .queued then .ok (none, tables, authorities.locks)
    else do
      let accepted := input.authority.any fun authority => admissible authorities row authority input.now
      let value ← load codec row
      let moved ← AgentRun.transition codec value (if accepted then .preparing else .cancelled) input.now
        { error := if accepted then none else some errors.runNotEligible }
      let updated := { row with
        status := moved.status
        updatedAt := input.now
        completedAt := moved.completedAt
        error := moved.error }
      let events ← insertRunEvent tables.events {
        runId := input.runId
        status := moved.status
        hasResult := false
        hasError := !accepted
        execution := none
        modelRouting := none
        ownerId := input.ownerId
        occurredAt := input.now }
      return (some (AgentRun.markPersisted moved), ⟨some updated, events⟩,
        if accepted then authorities.locks
        else authorities.locks.filter fun lock => lock.runId ≠ input.runId)

def fencedRow (row : AgentRunState Json) (fence : WorkerAuthorityFence Json) (updatedAt : Date) : Bool :=
  row.id = fence.runId && row.projectId = fence.projectId && row.taskId = fence.taskId &&
    row.agentId = fence.agentId && row.status = .running && row.updatedAt = updatedAt &&
    row.execution = some fence.execution

def acceptWorkerResult (authorities : AuthorityTables) (fence : WorkerAuthorityFence Json)
    (run : AgentRunProps Json) (result : Json) (acceptedAt : Date) (tables : RunTables Json) :
    Except Thrown (Bool × RunTables Json) :=
  match tables.row with
  | none => .ok (false, tables)
  | some row =>
    if !fencedRow row fence run.updatedAt ∨ !fenced authorities row fence acceptedAt then .ok (false, tables)
    else do
      let events ← insertRunEvent tables.events {
        runId := fence.runId
        status := .reviewing
        hasResult := true
        hasError := false
        execution := none
        modelRouting := none
        ownerId := none
        occurredAt := acceptedAt }
      return (true, ⟨some { row with status := .reviewing, result := some result, updatedAt := acceptedAt },
        events⟩)

end AiOffice.Storage.AgentRuntime
