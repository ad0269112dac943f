import AiOffice.Application.ScheduleAgentRun

namespace AiOffice.Application.WorkerAgentExecutor

open Data Domain Storage.AgentRuntime Storage.Office

structure WorkerTask where
  id : String
  title : String
  description : Option String
  updatedAt : Date

structure WorkerAgent where
  id : String
  name : String
  roleId : String
  roleKey : String
  roleVersion : Int

structure WorkerStage where
  pipelineRunId : String
  manifestRevision : Nat
  stageId : String
  objective : String
  checks : List String

structure WorkerContext (Json : Type) where
  runId : String
  projectId : String
  task : WorkerTask
  agent : WorkerAgent
  roleGuidance : Option Json
  model : Option Json
  stage : Option WorkerStage
  memory : Json
  projectMemory : Option Json

def contextInvalid : Thrown :=
  ⟨.workerRuntimeError, "The task or agent context is unavailable or exceeds the worker limit."⟩

def budgetExhausted : Thrown :=
  ⟨.workerRuntimeError, "The role has no budget available for worker execution."⟩

def modelRequired : Thrown :=
  ⟨.workerRuntimeError, "The selected worker executes only runs with an assigned model; this run has none."⟩

def leaseLost : Thrown :=
  ⟨.workerRuntimeError, "Worker execution authority was lost; the worker was stopped."⟩

/-- The worker adapter, and how the structured fields of a run are read and its context is measured and hashed. -/
structure WorkerServices (Json : Type) where
  guidance : Json → Int × String
  selection : Json → Option Json
  supportsModel : Json → Except Thrown Unit
  requiresModelSelection : Bool
  contextBytes : WorkerContext Json → Nat
  /-- The provenance of an execution: the adapter with its version, and the hash of the context. -/
  provenance : String → WorkerContext Json → Json

/-- The rows that a context is built from. A pipeline comes with its current stage. -/
structure AuthorityReads where
  task : TaskProps
  agent : Agent
  role : Role
  pipeline : Option (PipelineRunProps × PipelineStageRunProps)

def maxContextBytes : Nat := 128 * 1024

def maxTimeoutMs : Int := 2147483647

variable {Json : Type} [DecidableEq Json] (services : WorkerServices Json) (run : AgentRunProps Json)

def checkAgent (task : Option TaskProps) (agent : Option Agent) : Except Thrown (TaskProps × Agent) :=
  match task, agent with
  | some task, some agent =>
    if task.projectId ≠ run.projectId ∨ !isTaskRunnable task.status ∨ agent.projectId ≠ run.projectId ∨
        !agent.enabled then
      .error contextInvalid
    else .ok (task, agent)
  | _, _ => .error contextInvalid

def checkRole (role : Option Role) : Except Thrown Role :=
  match role with
  | none => .error contextInvalid
  | some role =>
    if run.roleGuidance.any fun pinned =>
        role.guidanceVersion ≠ some (services.guidance pinned).1 ∨
          role.guidanceText ≠ some (services.guidance pinned).2 then
      .error contextInvalid
    else if role.limits.maxCostMicros = 0 then .error budgetExhausted
    else .ok role

def selectionOf : Option Json := run.modelRouting.bind services.selection

def checkModel : Except Thrown Unit :=
  match selectionOf services run with
  | some selection => services.supportsModel selection
  | none => if services.requiresModelSelection then .error modelRequired else .ok ⟨⟩

def checkPipeline (agent : Agent) (role : Role) (pipeline : Option PipelineRunProps) :
    Except Thrown (Option (PipelineRunProps × PipelineStageRunProps)) :=
  match pipeline with
  | none =>
    if run.pipelineRunId ≠ none ∨ run.pipelineStageRunId ≠ none then .error contextInvalid else .ok none
  | some pipeline => do
    match ← (Method.call PipelineRun.currentStage pipeline).1 with
    | none => .error contextInvalid
    | some stage =>
      if run.pipelineRunId ≠ some pipeline.id ∨ run.pipelineStageRunId ≠ some stage.id ∨
          stage.status ≠ .active ∨ stage.assignedAgentId ≠ some agent.id ∨ stage.roleId ≠ role.key then
        .error contextInvalid
      else return some (pipeline, stage)

/-- The part of a context about the stage of a pipeline, if the definition has it. -/
def workerStage (pipeline : PipelineRunProps) (stage : PipelineStageRunProps) : Option WorkerStage :=
  (pipeline.definition.stages[stage.stageIndex]?).map fun definition =>
    ⟨pipeline.id, pipeline.manifestRevision, stage.stageId, definition.objective, definition.checks⟩

def buildContext (reads : AuthorityReads) (memory : Json) (projectMemory : Option Json) : WorkerContext Json where
  runId := run.id
  projectId := run.projectId
  task := ⟨reads.task.id, reads.task.title, reads.task.description, reads.task.updatedAt⟩
  agent := ⟨reads.agent.id, reads.agent.name, reads.role.id, reads.role.key, reads.role.version⟩
  roleGuidance := run.roleGuidance
  model := selectionOf services run
  stage := reads.pipeline.bind fun bound => workerStage bound.1 bound.2
  memory := memory
  projectMemory := projectMemory

/-- A prepared execution: what its context, its limits and its fence are made of. -/
structure PreparedExecution (Json : Type) where
  reads : AuthorityReads
  memory : Json
  projectMemory : Option Json
  version : String

def PreparedExecution.context (prepared : PreparedExecution Json) : WorkerContext Json :=
  buildContext services run prepared.reads prepared.memory prepared.projectMemory

def pipelineFence (pipeline : PipelineRunProps) (stage : PipelineStageRunProps) : PipelineFence where
  id := pipeline.id
  version := pipeline.version
  currentStageIndex := pipeline.currentStageIndex
  stageId := stage.stageId
  stageRunId := stage.id
  stageRoleId := stage.roleId
  assignedAgentId := stage.assignedAgentId.getD ""

def PreparedExecution.fence (prepared : PreparedExecution Json) : WorkerAuthorityFence Json where
  taskStatus := prepared.reads.task.status
  taskUpdatedAt := prepared.reads.task.updatedAt
  agentRoleId := prepared.reads.agent.roleId
  agentUpdatedAt := prepared.reads.agent.updatedAt
  roleId := prepared.reads.role.id
  roleKey := prepared.reads.role.key
  roleVersion := prepared.reads.role.version
  roleLimits := prepared.reads.role.limits
  roleUpdatedAt := prepared.reads.role.updatedAt
  runId := run.id
  projectId := run.projectId
  taskId := run.taskId
  agentId := run.agentId
  execution := services.provenance prepared.version (prepared.context services run)
  pipeline := prepared.reads.pipeline.map fun bound => pipelineFence bound.1 bound.2

def checkContext (reads : AuthorityReads) (memory : Json) (projectMemory : Option Json) : Except Thrown Unit :=
  if maxContextBytes < services.contextBytes (buildContext services run reads memory projectMemory) then
    .error contextInvalid
  else .ok ⟨⟩

def checkLimits (role : Role) : Except Thrown Unit :=
  if !isSafeInteger (role.limits.timeoutSeconds * 1000) ∨ maxTimeoutMs < role.limits.timeoutSeconds * 1000 then
    .error contextInvalid
  else .ok ⟨⟩

def renewable (reads : AuthorityReads) (task : Option TaskProps) (agent : Option Agent) (role : Option Role)
    (pipeline : Option PipelineRunProps) : Bool :=
  (task.any fun task => isTaskRunnable task.status && task.updatedAt = reads.task.updatedAt) &&
    (agent.any fun agent => agent.enabled && agent.roleId = reads.agent.roleId &&
      agent.updatedAt = reads.agent.updatedAt) &&
    (role.any fun role => role.version = reads.role.version && role.updatedAt = reads.role.updatedAt &&
      role.limits = reads.role.limits) &&
    pipeline.map PipelineRunProps.id = reads.pipeline.map (fun bound => bound.1.id) &&
    pipeline.map PipelineRunProps.version = reads.pipeline.map (fun bound => bound.1.version)

end AiOffice.Application.WorkerAgentExecutor
