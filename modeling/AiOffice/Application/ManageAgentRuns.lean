import AiOffice.Domain.Capability.ActionRecords
import AiOffice.Storage.AgentRuntime.Tables

namespace AiOffice.Application

open Data Domain Domain.Capability Storage.AgentRuntime

/-- An action that a run requested, with the status of its execution. -/
structure ControlledAction where
  id : String
  projectId : String
  agentRunId : String
  status : ActionStatus
  payloadHash : String
  executionStatus : Option ActionExecutionStatus

structure ExecutionHandle where
  runId : String
  aborted : Bool

/-- What the management of agent runs works on: the stored runs, their actions, and the executions of this host. -/
structure RuntimeHost (Json : Type) where
  tables : RuntimeTables Json
  actions : List ControlledAction
  live : List ExecutionHandle

namespace RuntimeHost

variable {Json : Type} (host : RuntimeHost Json)

def has (runId : String) : Bool := host.live.any fun handle => handle.runId = runId

def cancellationRequested (runId : String) : Bool :=
  host.live.any fun handle => handle.runId = runId && handle.aborted

def stop (runId : String) : RuntimeHost Json :=
  { host with live := host.live.map fun handle =>
      if handle.runId = runId then { handle with aborted := true } else handle }

end RuntimeHost

inductive RunClassification
  | ambiguous
  | live
  | terminalCleanup
  | terminal
  | queued
  | orphaned
  deriving DecidableEq

structure RunRecoveryEvidence where
  projectId : String
  runId : String
  taskId : String
  recordedStatus : AgentRunStatus
  updatedAt : Date
  ownerId : Option String
  classification : RunClassification
  cancellationRequested : Bool
  externalWorkerUnobserved : Bool
  actions : List ControlledAction
  lock : Option TaskLock
  reason : String
  available : Bool
  resultingStatus : AgentRunStatus

/-- The digest of recovery evidence, the order of ids, which executions are those of a worker, and the errors that
are recorded. -/
structure RunRecovery (Json : Type) where
  codec : AgentRunCodec Json
  planHash : RunRecoveryEvidence → String
  localeCompare : String → String → Int
  isWorker : Json → Bool
  operatorCancelled : Json
  interruptedRunResolved : Json

structure RunCommand where
  projectId : String
  runId : String
  reason : String

inductive CancellationStatus
  | alreadyTerminal
  | cancellationRequested
  | cancelled
  deriving DecidableEq

namespace ManageAgentRuns

variable {Json : Type} (recovery : RunRecovery Json)

def isAmbiguous (action : ControlledAction) : Bool :=
  action.status ∈ [ActionStatus.executing, .executionUnknown] ||
    action.executionStatus.any fun status => status ∈ [ActionExecutionStatus.executing, .executionUnknown]

def actionsOf (host : RuntimeHost Json) (projectId runId : String) : List ControlledAction :=
  (host.actions.filter fun action => action.projectId = projectId && action.agentRunId = runId).insertionSort
    fun left right => recovery.localeCompare left.id right.id ≤ 0

def requireRun (host : RuntimeHost Json) (projectId runId : String) : Except Thrown (AgentRunProps Json) := do
  match ← host.tables.findRun recovery.codec runId with
  | none => .error ⟨.domainValidationError, "Agent run not found in project"⟩
  | some run =>
    if run.projectId ≠ projectId then .error ⟨.domainValidationError, "Agent run not found in project"⟩ else .ok run

def classify (host : RuntimeHost Json) (run : AgentRunProps Json) : RunClassification :=
  if (actionsOf recovery host run.projectId run.id).any isAmbiguous then .ambiguous
  else if host.has run.id then .live
  else if AgentRun.isTerminal run.status then
    if (host.tables.findTaskLock run.taskId).any fun lock => lock.runId = run.id then .terminalCleanup else .terminal
  else if run.status = .queued then .queued
  else .orphaned

def evidence (host : RuntimeHost Json) (run : AgentRunProps Json) (reason : String) : RunRecoveryEvidence :=
  let classification := classify recovery host run
  { projectId := run.projectId
    runId := run.id
    taskId := run.taskId
    recordedStatus := run.status
    updatedAt := run.updatedAt
    ownerId := host.tables.executionOwner run.id
    classification
    cancellationRequested := host.cancellationRequested run.id
    externalWorkerUnobserved :=
      run.execution.any recovery.isWorker && !host.has run.id && !AgentRun.isTerminal run.status
    actions := actionsOf recovery host run.projectId run.id
    lock := host.tables.findTaskLock run.taskId
    reason
    available := classification = .orphaned || classification = .terminalCleanup
    resultingStatus := if AgentRun.isTerminal run.status then run.status else .cancelled }

def inspect (input : RunCommand) (host : RuntimeHost Json) : Except Thrown RunRecoveryEvidence := do
  let run ← requireRun recovery host input.projectId input.runId
  let reason ← normalizeTaskReason input.reason "Recovery reason"
  return evidence recovery host run reason

def ambiguousEffect : Thrown :=
  ⟨.domainValidationError, "Run has an ambiguous controlled effect; inspect its action before recovery"⟩

def requiresReconcile : Thrown :=
  ⟨.domainValidationError, "Interrupted run requires run:reconcile with an approved plan"⟩

def stalePlan : Thrown := ⟨.domainValidationError, "Run recovery plan is stale or unavailable"⟩

variable [DecidableEq Json]

def resolve (run : AgentRunProps Json) (now : Date) (error : Json) (tables : RuntimeTables Json) :
    Except Thrown (RuntimeTables Json) := do
  let cancelled ← AgentRun.transition recovery.codec run .cancelled now { error := some error }
  let saved ← tables.saveRun recovery.codec cancelled
  return saved.2.releaseTaskLock run.id

def cancelQueued (projectId runId : String) (now : Date) (host : RuntimeHost Json) :
    Except Thrown (RuntimeTables Json) := do
  let current ← requireRun recovery host projectId runId
  if current.status ≠ .queued ∨ host.has runId = true then
    .error ⟨.domainValidationError, "Run changed; inspect before cancelling"⟩
  else resolve recovery current now recovery.operatorCancelled host.tables

def cancel (input : RunCommand) (now : Date) (host : RuntimeHost Json) :
    Except Thrown (CancellationStatus × RuntimeHost Json) := do
  let reason ← normalizeTaskReason input.reason "Cancellation reason"
  let report ← inspect recovery { input with reason } host
  match report.classification with
  | .terminal => return (.alreadyTerminal, host)
  | .ambiguous => .error ambiguousEffect
  | .live => return (.cancellationRequested, host.stop input.runId)
  | .queued => do
    let tables ← cancelQueued recovery input.projectId input.runId now host
    return (.cancelled, { host with tables })
  | .orphaned | .terminalCleanup => .error requiresReconcile

/-- The transaction that resolves an interrupted run under an approved plan. -/
def reconcile (input : RunCommand) (approve : String) (now : Date) (host : RuntimeHost Json) :
    Except Thrown (RuntimeTables Json) := do
  let fresh ← inspect recovery input host
  if !fresh.available ∨ recovery.planHash fresh ≠ approve ∨ host.has input.runId = true then .error stalePlan
  else
    let run ← requireRun recovery host input.projectId input.runId
    if fresh.classification ≠ .terminalCleanup then
      resolve recovery run now recovery.interruptedRunResolved host.tables
    else return host.tables.releaseTaskLock run.id

def isCancelled (host : RuntimeHost Json) (taskId : String) (run : AgentRunProps Json) : Bool :=
  run.taskId = taskId && !AgentRun.isTerminal run.status && (run.status = .queued || host.has run.id)

/-- Cancel one run after the other, up to the first that is refused. What was cancelled stays so. -/
def cancelEach (projectId taskId reason : String) (now : String → Date) :
    List (AgentRunProps Json) → RuntimeHost Json → Except Thrown Unit × RuntimeHost Json
  | [], host => (.ok ⟨⟩, host)
  | run :: runs, host =>
    if isCancelled host taskId run then
      match cancel recovery ⟨projectId, run.id, reason⟩ (now run.id) host with
      | .ok (_, after) => cancelEach projectId taskId reason now runs after
      | .error thrown => (.error thrown, host)
    else cancelEach projectId taskId reason now runs host

def cancelTaskRuns (projectId taskId reason : String) (now : String → Date) (host : RuntimeHost Json) :
    Except Thrown Unit × RuntimeHost Json :=
  match host.tables.listRuns recovery.codec projectId with
  | .error thrown => (.error thrown, host)
  | .ok runs => cancelEach recovery projectId taskId reason now runs host

end ManageAgentRuns

end AiOffice.Application
