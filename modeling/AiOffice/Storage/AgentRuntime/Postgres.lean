import AiOffice.Storage.AgentRuntime.Repository

namespace AiOffice.Storage.AgentRuntime

open Data Domain

/-- The order of the texts of a database. It is total, since a deterministic collation breaks its ties bytewise. -/
structure Collation where
  le : String → String → Bool
  total : ∀ left right, le left right = true ∨ le right left = true
  trans : ∀ left middle right, le left middle = true → le middle right = true → le left right = true
  antisymm : ∀ left right, le left right = true → le right left = true → left = right

/-- A database: the order of its texts, how its driver passes structured columns, and their checks. -/
structure Database (Json : Type) where
  collation : Collation
  /-- Whether `jsonb` can hold a value: there is no U+0000 in its texts. -/
  holds : Json → Bool
  /-- The text that a value is, if it is one. -/
  text : Json → Option String
  parse : String → Except Thrown Json
  checks : AgentRunState Json → Bool

structure PostgresTaskLock extends TaskLock where
  projectId : String

structure PostgresRunEvent (Json : Type) extends AgentRunEvent Json where
  projectId : String

structure PostgresStore (Json : Type) where
  roles : List RoleRow
  agents : List Agent
  runs : List (AgentRunState Json)
  events : List (PostgresRunEvent Json)
  locks : List PostgresTaskLock

def tenantScope (entity id : String) : Thrown :=
  ⟨.storageError, s!"{entity} {id} is outside the tenant"⟩

def postgresRoleChecks (row : RoleRow) : Bool :=
  (row.name.toList.any fun char => char ≠ ' ') && isPositiveInteger row.version && isPositiveInteger row.guidanceVersion &&
    row.guidanceText.utf8ByteSize ≤ 65536 && limitsValid row.limits

def postgresAgentChecks (agent : Agent) : Bool := agent.name.toList.any fun char => char ≠ ' '

def postgresRole (row : RoleRow) : Except Thrown RoleRecord :=
  if !isSafeInteger row.version ∨ !isSafeInteger row.guidanceVersion then
    .error ⟨.storageError, "Stored role version is invalid"⟩
  else if !limitsValid row.limits then .error ⟨.storageError, "Stored role limits are invalid"⟩
  else .ok { row.role with
    capabilities := row.capabilities
    tools := row.tools
    modelPolicy := row.modelPolicy
    sourcePath := row.sourcePath }

variable {Json : Type}

def postgresUnsatisfied (around : Surroundings) (projectId taskId : String) : Bool :=
  around.dependencies.any fun edge =>
    edge.projectId = projectId && edge.taskId = taskId && around.tasks.any fun task =>
      task.id = edge.dependsOnTaskId && task.projectId = edge.projectId &&
      task.status ∉ [TaskStatus.completed, .waitingReview]

/-- Whether a run is bound to the stage that its agent works on, in the role of the agent. -/
def postgresBinds (around : Surroundings) (agents : List Agent) (roles : List RoleRow) (row : AgentRunState Json) : Bool :=
  (row.pipelineRunId.isNone && row.pipelineStageRunId.isNone) ||
    around.pipelines.any fun pipeline =>
      some pipeline.id = row.pipelineRunId && pipeline.projectId = row.projectId && pipeline.taskId = row.taskId &&
      pipeline.status = .active && pipeline.stages.any fun stage =>
        some stage.id = row.pipelineStageRunId && stage.stageIndex = pipeline.currentStageIndex &&
        stage.status = .active && stage.assignedAgentId = some row.agentId &&
        agents.any fun agent =>
          agent.id = row.agentId && agent.projectId = row.projectId && roles.any fun role =>
            role.id = agent.roleId && role.projectId = agent.projectId && stage.roleId = role.roleKey

def Operation.texts : Operation Json → List String
  | .saveRole role =>
    [role.id, role.projectId, role.key, role.name, role.modelPolicy, role.sourcePath, role.guidanceText.getD ""] ++
      role.capabilities ++ role.tools
  | .findRole roleId projectId => [roleId, projectId]
  | .listRoles projectId | .listAgents projectId | .listRuns projectId | .listQueuedRuns projectId _
  | .listRecoverableRuns projectId => [projectId]
  | .saveAgent agent => [agent.id, agent.projectId, agent.roleId, agent.name]
  | .findAgent agentId => [agentId]
  | .saveRun run =>
    [run.id, run.projectId, run.taskId, run.agentId] ++ run.pipelineRunId.toList ++ run.pipelineStageRunId.toList ++
      run.worktreePath.toList
  | .findRun runId | .listRunEvents runId | .executionOwner runId | .renewTaskLock runId _ _ | .releaseTaskLock runId =>
    [runId]
  | .admitQueuedRun input =>
    [input.runId] ++ input.ownerId.toList ++ (input.authority.elim [] fun authority =>
      [authority.agentRoleId, authority.roleId, authority.roleKey] ++ authority.pipelineId.toList ++
        authority.pipelineStageRunId.toList)
  | .acceptWorkerResult fence _ _ _ =>
    [fence.runId, fence.projectId, fence.taskId, fence.agentId, fence.agentRoleId, fence.roleId, fence.roleKey] ++
      fence.pipeline.elim [] fun pipeline =>
        [pipeline.id, pipeline.stageId, pipeline.stageRunId, pipeline.stageRoleId, pipeline.assignedAgentId]
  | .findTaskLock taskId => [taskId]
  | .acquireTaskLock taskId runId _ _ => [taskId, runId]

def storable (text : String) : Bool := !text.toList.contains (Char.ofNat 0)

def Collation.byTime (collation : Collation) (time : AgentRunState Json → Date) (left right : AgentRunState Json) : Bool :=
  time left < time right || (time left = time right && collation.le left.id right.id)

namespace PostgresStore

variable (around : Surroundings) (store : PostgresStore Json)

def saveRole (value : RoleRecord) : Except Thrown (PostgresStore Json) :=
  if value.projectId ∉ around.projects then .error (tenantScope "Role" value.id)
  else if !postgresRoleChecks (roleRow value) then .error (checkFailed "role")
  else do
    let roles ← upsertRole store.roles (roleRow value)
    return { store with roles }

def findRole (roleId projectId : String) : Except Thrown (Option RoleRecord) :=
  (store.roles.find? fun row =>
    row.id = roleId && row.projectId = projectId && row.projectId ∈ around.projects).mapM postgresRole

def listRoles (projectId : String) : Except Thrown (List RoleRecord) :=
  -- The key is compared under the collation "C", and it is different for the roles of a project.
  (sortOn (fun row => toLex (row.roleKey, row.id)) (store.roles.filter fun row =>
    row.projectId = projectId && row.projectId ∈ around.projects)).mapM postgresRole

def saveAgent (value : Agent) : Except Thrown (PostgresStore Json) :=
  if value.projectId ∉ around.projects ∨
      !store.roles.any fun role => role.id = value.roleId && role.projectId = value.projectId then
    .error (tenantScope "Agent" value.id)
  else if !postgresAgentChecks value then .error (checkFailed "agent")
  else do
    let agents ← upsertAgent store.agents value
    return { store with agents }

def findAgent (agentId : String) : Option Agent :=
  store.agents.find? fun row => row.id = agentId && row.projectId ∈ around.projects

variable (database : Database Json)

def listAgents (projectId : String) : List Agent :=
  (store.agents.filter fun row => row.projectId = projectId && row.projectId ∈ around.projects).insertionSort
    fun left right => if left.name = right.name then database.collation.le left.id right.id
      else database.collation.le left.name right.name

def jsonValue (value : Json) : Except Thrown Json :=
  match database.text value with
  | some text => database.parse text
  | none => .ok value

def readColumns (row : AgentRunState Json) : Except Thrown (AgentRunState Json) := do
  let execution ← row.execution.mapM (jsonValue database)
  let modelRouting ← row.modelRouting.mapM (jsonValue database)
  let roleGuidance ← row.roleGuidance.mapM (jsonValue database)
  let actionIntent ← row.actionIntent.mapM (jsonValue database)
  let result ← row.result.mapM (jsonValue database)
  let error ← row.error.mapM (jsonValue database)
  return { row with execution, modelRouting, roleGuidance, actionIntent, result, error }

variable (codec : AgentRunCodec Json)

def restoreRun (row : AgentRunState Json) : Except Thrown (AgentRunProps Json) := do
  let columns ← readColumns database row
  load codec columns

def findRun (runId : String) : Except Thrown (Option (AgentRunProps Json)) :=
  (store.runs.find? fun row => row.id = runId && row.projectId ∈ around.projects).mapM (restoreRun database codec)

def runsBy (time : AgentRunState Json → Date) (projectId : String) (selects : AgentRunStatus → Bool) :
    List (AgentRunState Json) :=
  (store.runs.filter fun row =>
    row.projectId = projectId && selects row.status && row.projectId ∈ around.projects).insertionSort fun left right =>
      database.collation.byTime time left right

def listRuns (projectId : String) : Except Thrown (List (AgentRunProps Json)) :=
  (store.runsBy around database (·.createdAt) projectId fun _ => true).mapM (restoreRun database codec)

def listQueuedRuns (projectId : String) (limit : Int) : Except Thrown (List (AgentRunProps Json)) :=
  if limit < 0 then .error ⟨.storageError, "LIMIT must not be negative"⟩
  else ((store.runsBy around database (·.createdAt) projectId fun status => status = .queued).take
    limit.toNat).mapM (restoreRun database codec)

def listRecoverableRuns (projectId : String) : Except Thrown (List (AgentRunProps Json)) :=
  (store.runsBy around database (·.updatedAt) projectId isRecoverable).mapM (restoreRun database codec)

def listRunEvents (runId : String) : List (AgentRunEvent Json) :=
  (store.events.filter fun event => event.runId = runId && event.projectId ∈ around.projects &&
    store.runs.any fun row => row.id = event.runId && row.projectId = event.projectId).map
      PostgresRunEvent.toAgentRunEvent

def executionOwner (runId : String) : Option String :=
  (store.events.find? fun event =>
    event.runId = runId && event.status = .preparing && event.projectId ∈ around.projects).bind fun event => event.ownerId

def findTaskLock (taskId : String) : Option (String × Date) :=
  (store.locks.find? fun lock => lock.taskId = taskId && lock.projectId ∈ around.projects).map fun lock =>
    (lock.runId, lock.expiresAt)

def acquireTaskLock (taskId runId : String) (acquiredAt expiresAt : Date) : Bool × PostgresStore Json :=
  match store.runs.find? fun row =>
      row.id = runId && row.taskId = taskId && isUnfinished row.status && row.projectId ∈ around.projects with
  | none => (false, store)
  | some row =>
    if (store.locks.find? fun lock => lock.taskId = taskId).all fun lock => lock.expiresAt ≤ acquiredAt then
      (true, { store with
        locks := (store.locks.filter fun lock => lock.taskId ≠ taskId) ++
          [⟨⟨taskId, runId, expiresAt⟩, row.projectId⟩] })
    else (false, store)

/-- Whether a lock is that of a run, which the query joins by its project. -/
def holdsLock (runId : String) (selects : AgentRunStatus → Bool) (lock : PostgresTaskLock) : Bool :=
  lock.runId = runId && store.runs.any fun row =>
    row.id = runId && row.projectId = lock.projectId && selects row.status && row.projectId ∈ around.projects

def renewTaskLock (runId : String) (now newExpiresAt : Date) : Bool × PostgresStore Json :=
  let renews (lock : PostgresTaskLock) :=
    store.holdsLock around runId isUnfinished lock && now < lock.expiresAt && now < newExpiresAt
  (store.locks.any renews, { store with
    locks := store.locks.map fun lock => if renews lock then { lock with expiresAt := newExpiresAt } else lock })

def releaseTaskLock (runId : String) : Bool × PostgresStore Json :=
  (store.locks.any (store.holdsLock around runId fun _ => true), { store with
    locks := store.locks.filter fun lock => !store.holdsLock around runId (fun _ => true) lock })

/-- Whether task, agent, role and lock are still as they were recorded, for a stage with `stageAllows`. -/
def authorized (row : AgentRunState Json) (authority : AgentAuthority) (now : Date) (lockAllows : PostgresTaskLock → Bool)
    (stageAllows : RoleRow → Bool) : Bool :=
  row.projectId ∈ around.projects && around.tasks.any fun task =>
    task.id = row.taskId && task.projectId = row.projectId && task.status = authority.taskStatus &&
    task.updatedAt = authority.taskUpdatedAt &&
    store.agents.any fun agent =>
      agent.id = row.agentId && agent.projectId = row.projectId && agent.enabled &&
      agent.roleId = authority.agentRoleId && agent.updatedAt = authority.agentUpdatedAt &&
      store.roles.any fun role =>
        role.id = agent.roleId && role.projectId = agent.projectId && role.id = authority.roleId &&
        role.roleKey = authority.roleKey && role.version = authority.roleVersion &&
        role.limits = authority.roleLimits && role.updatedAt = authority.roleUpdatedAt &&
        (store.locks.any fun lock => lockAllows lock && now < lock.expiresAt) && stageAllows role

def unbound (row : AgentRunState Json) : Bool :=
  row.pipelineRunId.isNone && row.pipelineStageRunId.isNone &&
    !(around.pipelines.any fun pipeline =>
      pipeline.projectId = row.projectId && pipeline.taskId = row.taskId && pipeline.status = .active)

def admissible (row : AgentRunState Json) (authority : RunAuthority) (now : Date) : Bool :=
  store.authorized around row authority.toAgentAuthority now
    (fun lock => lock.runId = row.id && lock.projectId = row.projectId) fun role =>
      (authority.pipelineId.isNone && unbound around row) ||
      around.pipelines.any fun pipeline =>
        some pipeline.id = authority.pipelineId && pipeline.projectId = row.projectId &&
        pipeline.taskId = row.taskId && pipeline.status = .active &&
        some pipeline.version = authority.pipelineVersion && some pipeline.id = row.pipelineRunId &&
        pipeline.stages.any fun stage =>
          some stage.id = row.pipelineStageRunId && stage.stageIndex = pipeline.currentStageIndex &&
          some stage.id = authority.pipelineStageRunId && stage.status = .active &&
          stage.assignedAgentId = some row.agentId && stage.roleId = role.roleKey

def fenced (row : AgentRunState Json) (fence : WorkerAuthorityFence Json) (now : Date) : Bool :=
  store.authorized around row fence.toAgentAuthority now
    (fun lock => lock.taskId = row.taskId && lock.runId = row.id && lock.projectId = row.projectId) fun _ =>
      match fence.pipeline with
      | none => unbound around row
      | some expected => around.pipelines.any fun pipeline =>
        pipeline.id = expected.id && pipeline.projectId = row.projectId && pipeline.taskId = row.taskId &&
        pipeline.status = .active && pipeline.version = expected.version &&
        pipeline.currentStageIndex = expected.currentStageIndex &&
        pipeline.stages.any fun stage =>
          stage.stageIndex = pipeline.currentStageIndex && stage.stageId = expected.stageId &&
          stage.id = expected.stageRunId && row.pipelineStageRunId = some stage.id &&
          stage.roleId = expected.stageRoleId && stage.status = .active &&
          stage.assignedAgentId = some expected.assignedAgentId && some row.agentId = stage.assignedAgentId

variable [DecidableEq Json]

/-- A structured parameter: the value `null` is passed as none. -/
def jsonParameter (value : Option Json) : Except Thrown (Option Json) :=
  match value with
  | none => .ok none
  | some json =>
    if json = codec.null then .ok none
    else if !database.holds json then .error ⟨.storageError, "unsupported Unicode escape sequence"⟩
    else .ok (some json)

def writeColumns (value : AgentRunState Json) : Except Thrown (AgentRunState Json) := do
  let actionIntent ← jsonParameter database codec value.actionIntent
  let result ← jsonParameter database codec value.result
  let error ← jsonParameter database codec value.error
  let execution ← jsonParameter database codec value.execution
  let modelRouting ← jsonParameter database codec value.modelRouting
  let roleGuidance ← jsonParameter database codec value.roleGuidance
  return { value with actionIntent, result, error, execution, modelRouting, roleGuidance }

def appendRunEvent (events : List (PostgresRunEvent Json)) (value : AgentRunState Json)
    (previousStatus : Option AgentRunStatus) : List (PostgresRunEvent Json) :=
  if events.any fun event => event.runId = value.id && event.status = value.status then events
  else events ++ [{
    runId := value.id
    status := value.status
    hasResult := value.result.isSome
    hasError := value.error.isSome
    execution := value.execution
    modelRouting := if previousStatus.isNone then value.modelRouting else none
    ownerId := none
    occurredAt := value.updatedAt
    projectId := value.projectId }]

def insertRunEvent (events : List (PostgresRunEvent Json)) (event : PostgresRunEvent Json) :
    Except Thrown (List (PostgresRunEvent Json)) :=
  if events.any fun stored => stored.runId = event.runId && stored.status = event.status then
    .error ⟨.storageError, "duplicate key value violates unique constraint"⟩
  else .ok (events ++ [event])

/-- Insert the run, or move its row on. The object is returned as persisted. -/
def saveRun (value : AgentRunProps Json) : Except Thrown (AgentRunProps Json × PostgresStore Json) := do
  let row ← writeColumns database codec value.toAgentRunState
  let selected := value.projectId ∈ around.projects ∧ around.owns store.agents value.toAgentRunState = true
  -- The trigger before an insert fires also for a run that has a row.
  if selected ∧ !postgresBinds around store.agents store.roles value.toAgentRunState then
    .error ⟨.storageError, "agent run pipeline binding is not currently assigned"⟩
  else if selected ∧ !database.checks row then .error (checkFailed "agent_run")
  else
    match store.runs.find? fun stored => stored.id = value.id with
    | none =>
      if ¬selected then .error (tenantScope "AgentRun" value.id)
      else if isUnfinished value.status && postgresUnsatisfied around value.projectId value.taskId then
        .error incompletePrerequisites
      else return (AgentRun.markPersisted value, { store with
        runs := store.runs ++ [row]
        events := appendRunEvent store.events value.toAgentRunState none })
    | some stored => do
      let current ← readColumns database stored
      if current.projectId ∉ around.projects then .error (tenantScope "AgentRun" value.id)
      else if !sameIdentity codec current value.toAgentRunState then .error (conflict value.id)
      else if current.status = value.status then
        if sameMutableState codec current value.toAgentRunState then return (AgentRun.markPersisted value, store)
        else .error (conflict value.id)
      else if value.persistenceToken ≠ some ⟨current.status, current.updatedAt⟩ then .error (conflict value.id)
      else if !canPersistAgentRunTransition current.status value.status ∨ value.updatedAt < current.updatedAt then
        .error (conflict value.id)
      else if stored.execution.isSome ∧ row.execution ≠ stored.execution then .error provenanceImmutable
      else if claims stored.status value.status && postgresUnsatisfied around stored.projectId stored.taskId then
        .error incompletePrerequisites
      else return (AgentRun.markPersisted value, { store with
        runs := store.runs.map fun other => if other.id = value.id then overwrite stored row else other
        events := appendRunEvent store.events value.toAgentRunState (some current.status) })

def admitQueuedRun (errors : AdmissionErrors Json) (input : RunAdmission) :
    Except Thrown (Option (AgentRunProps Json) × PostgresStore Json) :=
  match store.runs.find? fun row => row.id = input.runId && row.status = .queued && row.projectId ∈ around.projects with
  | none => .ok (none, store)
  | some row =>
    let accepted := input.authority.any fun authority => store.admissible around row authority input.now
    let status : AgentRunStatus := if accepted then .preparing else .cancelled
    let updated := { row with
      status
      updatedAt := input.now
      completedAt := if accepted then none else some input.now
      error := if accepted then none else some errors.runNotEligible }
    if claims row.status status && postgresUnsatisfied around row.projectId row.taskId then
      .error incompletePrerequisites
    else do
      let events ← insertRunEvent store.events {
        runId := input.runId
        status
        hasResult := false
        hasError := !accepted
        execution := none
        modelRouting := none
        ownerId := input.ownerId
        occurredAt := input.now
        projectId := row.projectId }
      let restored ← restoreRun database codec updated
      return (some restored, { store with
        runs := store.runs.map fun other => if other.id = input.runId then updated else other
        events
        locks := if accepted then store.locks
          else store.locks.filter fun lock => !(lock.runId = input.runId && lock.projectId = row.projectId) })

def acceptWorkerResult (fence : WorkerAuthorityFence Json) (run : AgentRunProps Json) (result : Json)
    (acceptedAt : Date) : Except Thrown (Bool × PostgresStore Json) := do
  let written ← jsonParameter database codec (some result)
  match store.runs.find? fun row => row.id = fence.runId with
  | none => return (false, store)
  | some row =>
    if !fencedRow row fence run.updatedAt ∨ !store.fenced around row fence acceptedAt then return (false, store)
    else do
      let events ← insertRunEvent store.events {
        runId := fence.runId
        status := .reviewing
        hasResult := true
        hasError := false
        execution := none
        modelRouting := none
        ownerId := none
        occurredAt := acceptedAt
        projectId := fence.projectId }
      let updated := { row with status := .reviewing, result := written, updatedAt := acceptedAt }
      return (true, { store with
        runs := store.runs.map fun other => if other.id = fence.runId then updated else other
        events })

end PostgresStore

def postgres [DecidableEq Json] (database : Database Json) (codec : AgentRunCodec Json) (errors : AdmissionErrors Json) :
    Machine (PostgresStore Json) (Surroundings × Operation Json) (Answer Json) Thrown :=
  fun store (around, operation) =>
    if !operation.texts.all storable then .error ⟨.storageError, "invalid byte sequence for encoding \"UTF8\": 0x00"⟩
    else
      match operation with
      | .saveRole role => do return (.done, ← store.saveRole around role)
      | .findRole roleId projectId => do return (.role (← store.findRole around roleId projectId), store)
      | .listRoles projectId => do return (.roles (← store.listRoles around projectId), store)
      | .saveAgent agent => do return (.done, ← store.saveAgent around agent)
      | .findAgent agentId => .ok (.agent (store.findAgent around agentId), store)
      | .listAgents projectId => .ok (.agents (store.listAgents around database projectId), store)
      | .saveRun run => do
        let saved ← store.saveRun around database codec run
        return (.run (some saved.1), saved.2)
      | .findRun runId => do return (.run (← store.findRun around database codec runId), store)
      | .listRuns projectId => do return (.runs (← store.listRuns around database codec projectId), store)
      | .listQueuedRuns projectId limit => do
        return (.runs (← store.listQueuedRuns around database codec projectId limit), store)
      | .listRecoverableRuns projectId => do
        return (.runs (← store.listRecoverableRuns around database codec projectId), store)
      | .listRunEvents runId => .ok (.events (store.listRunEvents around runId), store)
      | .executionOwner runId => .ok (.owner (store.executionOwner around runId), store)
      | .admitQueuedRun input => do
        let admitted ← store.admitQueuedRun around database codec errors input
        return (.run admitted.1, admitted.2)
      | .acceptWorkerResult fence run result acceptedAt => do
        let accepted ← store.acceptWorkerResult around database codec fence run result acceptedAt
        return (.flag accepted.1, accepted.2)
      | .findTaskLock taskId => .ok (.lock (store.findTaskLock around taskId), store)
      | .acquireTaskLock taskId runId acquiredAt expiresAt =>
        let acquired := store.acquireTaskLock around taskId runId acquiredAt expiresAt
        .ok (.flag acquired.1, acquired.2)
      | .renewTaskLock runId now newExpiresAt =>
        let renewed := store.renewTaskLock around runId now newExpiresAt
        .ok (.flag renewed.1, renewed.2)
      | .releaseTaskLock runId =>
        let released := store.releaseTaskLock around runId
        .ok (.flag released.1, released.2)

end AiOffice.Storage.AgentRuntime
