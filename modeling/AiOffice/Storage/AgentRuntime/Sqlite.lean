import AiOffice.Storage.AgentRuntime.Repository

namespace AiOffice.Storage.AgentRuntime

open Data Domain

structure SqliteStore (Json : Type) where
  roles : List RoleRow
  agents : List Agent
  runtime : RuntimeTables Json
  deriving DecidableEq

def sqliteRoleChecks (row : RoleRow) : Bool :=
  0 < row.version && row.guidanceText.length ≤ 65536 && 0 < row.guidanceVersion

variable {Json : Type}

def sqliteBinds (around : Surroundings) (row : AgentRunState Json) : Bool :=
  row.pipelineRunId.all fun pipelineRunId =>
    around.pipelines.any fun pipeline =>
      pipeline.id = pipelineRunId && pipeline.projectId = row.projectId && pipeline.taskId = row.taskId &&
      pipeline.status = .active && pipeline.stages.any fun stage =>
        some stage.id = row.pipelineStageRunId && stage.stageIndex = pipeline.currentStageIndex &&
        stage.status = .active && stage.assignedAgentId = some row.agentId

def sqliteStageKnown (around : Surroundings) (row : AgentRunState Json) : Bool :=
  row.pipelineStageRunId.all fun id => around.pipelines.any fun pipeline => pipeline.stages.any fun stage => stage.id = id

def sqliteUnsatisfied (around : Surroundings) (projectId taskId : String) : Bool :=
  around.dependencies.any fun edge =>
    edge.projectId = projectId && edge.taskId = taskId && around.tasks.any fun task =>
      task.id = edge.dependsOnTaskId && task.status ∉ [TaskStatus.completed, .waitingReview]

def sqliteRole (row : RoleRow) : Except Thrown RoleRecord :=
  if !limitsValid row.limits then .error ⟨.domainValidationError, "Stored role limits are invalid"⟩
  else .ok { row.role with
    capabilities := row.capabilities
    tools := row.tools
    modelPolicy := row.modelPolicy
    sourcePath := row.sourcePath }

namespace SqliteStore

variable (around : Surroundings) (store : SqliteStore Json)

def authorities : AuthorityTables :=
  ⟨around.tasks, store.agents, store.roles.map RoleRow.role, store.runtime.locks, around.pipelines⟩

def saveRole (value : RoleRecord) : Except Thrown (SqliteStore Json) :=
  if !sqliteRoleChecks (roleRow value) then .error (checkFailed "role")
  else do
    let roles ← upsertRole store.roles (roleRow value)
    if value.projectId ∉ around.projects then .error foreignKeyFailed
    else return { store with roles }

def findRole (roleId projectId : String) : Except Thrown (Option RoleRecord) :=
  (store.roles.find? fun row => row.id = roleId && row.projectId = projectId).mapM sqliteRole

def listRoles (projectId : String) : Except Thrown (List RoleRecord) :=
  (sortOn (fun row => toLex (row.roleKey, row.id))
    (store.roles.filter fun row => row.projectId = projectId)).mapM sqliteRole

def saveAgent (value : Agent) : Except Thrown (SqliteStore Json) :=
  if !store.roles.any fun role => role.id = value.roleId && role.projectId = value.projectId then
    .error ⟨.storageError, "agent role must belong to the same project"⟩
  else do
    let agents ← upsertAgent store.agents value
    if value.projectId ∉ around.projects then .error foreignKeyFailed
    else return { store with agents }

def findAgent (agentId : String) : Option Agent := store.agents.find? fun row => row.id = agentId

def listAgents (projectId : String) : List Agent :=
  sortOn (fun row => toLex (row.name, row.id)) (store.agents.filter fun row => row.projectId = projectId)

variable (codec : AgentRunCodec Json)

def listQueuedRuns (projectId : String) (limit : Int) : Except Thrown (List (AgentRunProps Json)) :=
  let queued := sortOn (fun row => toLex (row.createdAt, row.id))
    (store.runtime.runs.filter fun row => row.projectId = projectId && row.status = .queued)
  -- SQLite takes a negative limit for none.
  (if limit < 0 then queued else queued.take limit.toNat).mapM (load codec)

def listRecoverableRuns (projectId : String) : Except Thrown (List (AgentRunProps Json)) :=
  (sortOn (fun row => toLex (row.updatedAt, row.id))
    (store.runtime.runs.filter fun row => row.projectId = projectId && isRecoverable row.status)).mapM (load codec)

def listRunEvents (runId : String) : List (AgentRunEvent Json) :=
  store.runtime.events.filter fun event => event.runId = runId

variable [DecidableEq Json]

def saveRun (checks : AgentRunState Json → Bool) (value : AgentRunProps Json) :
    Except Thrown (AgentRunProps Json × SqliteStore Json) :=
  if !around.owns store.agents value.toAgentRunState then
    .error ⟨.storageError, "agent run references must belong to the same project"⟩
  else if !sqliteBinds around value.toAgentRunState then
    .error ⟨.storageError, "agent run pipeline stage binding is not currently assigned"⟩
  else if !checks value.toAgentRunState then .error (checkFailed "agent_run")
  else
    match store.runtime.findRow value.id with
    | none =>
      if !sqliteStageKnown around value.toAgentRunState then .error foreignKeyFailed
      else if isUnfinished value.status && sqliteUnsatisfied around value.projectId value.taskId then
        .error incompletePrerequisites
      else do
        let saved ← store.runtime.saveRun codec value
        return (saved.1, { store with runtime := saved.2 })
    | some row => do
      let saved ← store.runtime.saveRun codec value
      if row.status ≠ value.status ∧ row.execution.isSome ∧ value.execution ≠ row.execution then
        .error provenanceImmutable
      else if claims row.status value.status && sqliteUnsatisfied around row.projectId row.taskId then
        .error incompletePrerequisites
      else return (saved.1, { store with runtime := saved.2 })

def admitQueuedRun (errors : AdmissionErrors Json) (input : RunAdmission) :
    Except Thrown (Option (AgentRunProps Json) × SqliteStore Json) := do
  let admitted ← store.runtime.admitQueuedRun codec errors (store.authorities around) input
  if admitted.1.any fun run =>
      claims .queued run.status && sqliteUnsatisfied around run.projectId run.taskId then
    .error incompletePrerequisites
  else return (admitted.1, { store with runtime := admitted.2 })

def acceptWorkerResult (fence : WorkerAuthorityFence Json) (run : AgentRunProps Json) (result : Json)
    (acceptedAt : Date) : Except Thrown (Bool × SqliteStore Json) := do
  let accepted ← store.runtime.acceptWorkerResult (store.authorities around) fence run result acceptedAt
  return (accepted.1, { store with runtime := accepted.2 })

end SqliteStore

/-- The repository in SQLite, with the checks of the structured columns of a run. -/
def sqlite [DecidableEq Json] (codec : AgentRunCodec Json) (errors : AdmissionErrors Json)
    (checks : AgentRunState Json → Bool) : Machine (SqliteStore Json) (Surroundings × Operation Json) (Answer Json) Thrown :=
  fun store (around, operation) =>
    match operation with
    | .saveRole role => do return (.done, ← store.saveRole around role)
    | .findRole roleId projectId => do return (.role (← store.findRole roleId projectId), store)
    | .listRoles projectId => do return (.roles (← store.listRoles projectId), store)
    | .saveAgent agent => do return (.done, ← store.saveAgent around agent)
    | .findAgent agentId => .ok (.agent (store.findAgent agentId), store)
    | .listAgents projectId => .ok (.agents (store.listAgents projectId), store)
    | .saveRun run => do
      let saved ← store.saveRun around codec checks run
      return (.run (some saved.1), saved.2)
    | .findRun runId => do return (.run (← store.runtime.findRun codec runId), store)
    | .listRuns projectId => do return (.runs (← store.runtime.listRuns codec projectId), store)
    | .listQueuedRuns projectId limit => do return (.runs (← store.listQueuedRuns codec projectId limit), store)
    | .listRecoverableRuns projectId => do return (.runs (← store.listRecoverableRuns codec projectId), store)
    | .listRunEvents runId => .ok (.events (store.listRunEvents runId), store)
    | .executionOwner runId => .ok (.owner (store.runtime.executionOwner runId), store)
    | .admitQueuedRun input => do
      let admitted ← store.admitQueuedRun around codec errors input
      return (.run admitted.1, admitted.2)
    | .acceptWorkerResult fence run result acceptedAt => do
      let accepted ← store.acceptWorkerResult around fence run result acceptedAt
      return (.flag accepted.1, accepted.2)
    | .findTaskLock taskId =>
      .ok (.lock ((store.runtime.findTaskLock taskId).map fun lock => (lock.runId, lock.expiresAt)), store)
    | .acquireTaskLock taskId runId acquiredAt expiresAt =>
      let acquired := store.runtime.acquireTaskLock taskId runId acquiredAt expiresAt
      .ok (.flag acquired.1, { store with runtime := acquired.2 })
    | .renewTaskLock runId now newExpiresAt =>
      let renewed := store.runtime.renewTaskLock runId now newExpiresAt
      .ok (.flag renewed.1, { store with runtime := renewed.2 })
    | .releaseTaskLock runId =>
      .ok (.flag (decide (store.runtime.locks.countP (fun lock => lock.runId = runId) = 1)),
        { store with runtime := store.runtime.releaseTaskLock runId })

end AiOffice.Storage.AgentRuntime
