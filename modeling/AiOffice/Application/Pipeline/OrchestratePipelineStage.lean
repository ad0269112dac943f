import AiOffice.Application.ScheduleAgentRun

namespace AiOffice.Application.Pipeline

open Data Domain Domain.PipelineRun Storage.AgentRuntime Storage.Office
  ManagePipelineRuns

structure PipelineStageIntent where
  projectId : String
  pipelineRunId : String
  pipelineStageRunId : String

def orchestrationError (message : String) : Thrown := ⟨.pipelineStageOrchestrationError, message⟩

/-- What a delivery of an intent does next. The pipeline and the stage are those that it read first. -/
inductive OrchestrationPhase
  | pipeline
  | runs (pipeline : PipelineRunProps) (stage : PipelineStageRunProps)
  | completed (pipeline : PipelineRunProps) (agentRunId : String)
  | completion (principal : AgentExecutionPrincipal)
  | agents (pipeline : PipelineRunProps) (stage : PipelineStageRunProps)
  | candidate (pipeline : PipelineRunProps) (agentId : String)
  | assignment (pipeline : PipelineRunProps) (agentId roleKey : String)
  | task (pipeline : PipelineRunProps) (agentId : String)
  | schedule
  | returned (runId : Option String)
  | failed (thrown : Thrown)
  deriving DecidableEq

namespace ManagePipelineRuns

/-- The part of an assignment before its transaction: the key of the role of the agent. -/
def assignable (input : AssignStage) (tables : OfficeTables) : Except Thrown String := do
  requireOperator input.principal
  let agent ← requireAgent input.agentId input.projectId tables
  let role ← requireAgentRole agent input.projectId tables
  return role.key

def commitAssignment (input : AssignStage) (roleKey : String) (now : Date) (tables : OfficeTables) :
    Except Thrown (PipelineRunProps × OfficeTables) := do
  let run ← requireRun input.pipelineRunId input.projectId tables
  let changed ← performAndPersist (.assign input.agentId roleKey now) run tables
  return (changed.1.run, changed.2)

def commitCompletion (projectId : String) (principal : AgentExecutionPrincipal) (now synced : Date)
    (tables : OfficeTables) : Except Thrown (PipelineRunProps × OfficeTables) := do
  let run ← requireRun principal.pipelineRunId projectId tables
  authorizeStage principal projectId run tables
  let changed ← performAndPersist (.completeStage principal.agentId now) run tables
  let tables ← syncTaskTerminal changed.1.run synced changed.2
  let tables ← enqueueNext run changed.1.run tables
  return (changed.1.run, tables)

theorem assign_parts (input : AssignStage) (now : Date) (tables : OfficeTables) :
    assign input now tables = assignable input tables >>= fun roleKey => commitAssignment input roleKey now tables := by
  simp only [assign, assignable, bind_assoc, pure_bind]
  rfl

theorem completeStage_parts (input : CompleteStageFromAgentRun) (now synced : Date) (tables : OfficeTables) :
    completeStageFromAgentRun input now synced tables = agentPrincipal input tables >>= fun principal =>
      commitCompletion input.projectId principal now synced tables := rfl

end ManagePipelineRuns

namespace OrchestratePipelineStage

/-- The pipeline and its current stage, if it is the stage of the intent that is active. -/
def readPipeline (intent : PipelineStageIntent) (office : OfficeTables) :
    Except Thrown (Option (PipelineRunProps × PipelineStageRunProps)) :=
  match office.findPipelineRun intent.pipelineRunId intent.projectId with
  | none => .error (orchestrationError "Pipeline run not found")
  | some pipeline => do
    match ← (Method.call currentStage pipeline).1 with
    | none => return none
    | some stage =>
      if pipeline.status ≠ .active ∨ stage.status ≠ .active ∨ stage.id ≠ intent.pipelineStageRunId then
        return none
      else return some (pipeline, stage)

section

variable {Json : Type} (codec : AgentRunCodec Json)

def isBound (pipeline : PipelineRunProps) (stage : PipelineStageRunProps) (run : AgentRunProps Json) : Bool :=
  run.pipelineRunId = some pipeline.id && run.pipelineStageRunId = some stage.id

/-- What follows from the runs that are bound to the stage: one is at work, one has completed, one has failed or was
cancelled, or there is none. -/
def afterRuns (pipeline : PipelineRunProps) (stage : PipelineStageRunProps) (boundRuns : List (AgentRunProps Json)) :
    OrchestrationPhase :=
  match boundRuns.find? fun run => run.status ∈ [AgentRunStatus.queued, .preparing, .running, .reviewing] with
  | some existing => .returned (some existing.id)
  | none =>
    match boundRuns.find? fun run => run.status = .completed with
    | some completed =>
      if stage.assignedAgentId ≠ some completed.agentId then
        .failed (orchestrationError "Completed AgentRun cannot reconcile the assigned pipeline stage")
      else .completed pipeline completed.id
    | none =>
      if boundRuns.any fun run => run.status ∈ [AgentRunStatus.failed, .cancelled] then .returned none
      else
        match stage.assignedAgentId with
        | some agentId => .task pipeline agentId
        | none => .agents pipeline stage

def readRuns (intent : PipelineStageIntent) (pipeline : PipelineRunProps) (stage : PipelineStageRunProps)
    (tables : RuntimeTables Json) : Except Thrown OrchestrationPhase :=
  (tables.listRuns codec intent.projectId).map fun runs =>
    afterRuns pipeline stage (runs.filter (isBound pipeline stage))

end

/-- The agents of a stage that its pipeline already assigned to a stage from which it is separated. -/
def isSeparated (pipeline : PipelineRunProps) (stage : PipelineStageRunProps) (agent : Agent) : Bool :=
  let separatedFrom := (pipeline.definition.stages[stage.stageIndex]?.map OfficePipelineStage.separatedFrom).getD []
  separatedFrom.any fun predecessorId => assignedTo pipeline.stages predecessorId = some agent.id

def isCandidate (projectId : String) (pipeline : PipelineRunProps) (stage : PipelineStageRunProps)
    (office : OfficeTables) (agent : Agent) : Bool :=
  agent.projectId = projectId && agent.enabled &&
    (office.findRole agent.roleId projectId).map Role.key = some stage.roleId && !isSeparated pipeline stage agent

def chooseAgent (localeCompare : String → String → Int) (projectId : String) (pipeline : PipelineRunProps)
    (stage : PipelineStageRunProps) (office : OfficeTables) : Except Thrown String :=
  let candidates := (office.agents.filter (isCandidate projectId pipeline stage office)).insertionSort
    fun left right => localeCompare left.id right.id ≤ 0
  match candidates with
  | [] =>
    let role := stage.roleId
    .error (orchestrationError s!"No enabled agent is eligible for role {role}")
  | first :: _ => .ok first.id

def assignment (intent : PipelineStageIntent) (pipeline : PipelineRunProps) (agentId : String) : AssignStage :=
  ⟨intent.projectId, pipeline.id, agentId, localOperatorPrincipal⟩

def completion (intent : PipelineStageIntent) (pipeline : PipelineRunProps) (agentRunId : String) :
    CompleteStageFromAgentRun := ⟨intent.projectId, agentRunId, some pipeline.id⟩

/-- Another trigger may have completed the stage, or it still waits for its prerequisites. -/
def isReplayed (thrown : Thrown) : Bool :=
  isPrerequisiteRefusal thrown ||
    thrown.name ∈ [ErrorName.concurrentPipelineTransitionError, .pipelineActorUnauthorizedError]

def replayed (thrown : Thrown) : OrchestrationPhase := if isReplayed thrown then .returned none else .failed thrown

def proceed {Result : Type} (outcome : Except Thrown Result) (next : Result → OrchestrationPhase) : OrchestrationPhase :=
  match outcome with
  | .ok result => next result
  | .error thrown => .failed thrown

def readTask (intent : PipelineStageIntent) (pipeline : PipelineRunProps) (office : OfficeTables) : Except Thrown Unit :=
  match office.findTask pipeline.taskId with
  | none => .error (orchestrationError "Pipeline task is unavailable")
  | some task =>
    if task.projectId ≠ intent.projectId then .error (orchestrationError "Pipeline task is unavailable") else .ok ()

def scheduled (Json : Type) (intent : PipelineStageIntent) (pipeline : PipelineRunProps) (agentId : String) :
    ScheduleInput Json := ⟨intent.projectId, pipeline.taskId, agentId, none⟩

def read {Json : Type} (codec : AgentRunCodec Json) (localeCompare : String → String → Int)
    (intent : PipelineStageIntent) (office : OfficeTables) (tables : RuntimeTables Json) :
    OrchestrationPhase → Option OrchestrationPhase
  | .runs pipeline stage => some (proceed (readRuns codec intent pipeline stage tables) id)
  | .completed pipeline agentRunId => some <|
      match agentPrincipal (completion intent pipeline agentRunId) office with
      | .ok principal => .completion principal
      | .error thrown => replayed thrown
  | .agents pipeline stage =>
    some (proceed (chooseAgent localeCompare intent.projectId pipeline stage office) (.candidate pipeline))
  | .candidate pipeline agentId =>
    some (proceed (assignable (assignment intent pipeline agentId) office) (.assignment pipeline agentId))
  | _ => none

end OrchestratePipelineStage

end AiOffice.Application.Pipeline
