import AiOffice.Data.Outcome
import AiOffice.Domain.Text

namespace AiOffice.Domain

inductive AgentRunStatus
  | queued
  | preparing
  | running
  | reviewing
  | completed
  | failed
  | cancelled
  deriving DecidableEq

def AgentRunStatus.text : AgentRunStatus → String
  | .queued => "queued"
  | .preparing => "preparing"
  | .running => "running"
  | .reviewing => "reviewing"
  | .completed => "completed"
  | .failed => "failed"
  | .cancelled => "cancelled"

structure AgentRunPersistenceToken where
  status : AgentRunStatus
  updatedAt : Date
  deriving DecidableEq

structure AgentRunState (Json : Type) where
  id : String
  projectId : String
  taskId : String
  agentId : String
  pipelineRunId : Option String
  pipelineStageRunId : Option String
  actionIntent : Option Json
  roleGuidance : Option Json
  execution : Option Json
  modelRouting : Option Json
  status : AgentRunStatus
  worktreePath : Option String
  result : Option Json
  error : Option Json
  createdAt : Date
  startedAt : Option Date
  completedAt : Option Date
  updatedAt : Date
  deriving DecidableEq

structure AgentRunProps (Json : Type) extends AgentRunState Json where
  persistenceToken : Option AgentRunPersistenceToken
  deriving DecidableEq

/-- The validation of the structured fields, and the JSON value `null`. -/
structure AgentRunCodec (Json : Type) where
  null : Json
  parseAgentExecution : Json → Except Thrown Json
  parseAgentRunModelRouting : Json → Except Thrown Json
  normalizeRoleGuidance : Json → Except Thrown Json
  normalizeActionIntent : Json → Except Thrown Json

structure AgentRunDetails (Json : Type) where
  worktreePath : Option String := none
  result : Option Json := none
  error : Option Json := none
  execution : Option Json := none

namespace AgentRun

variable {Json : Type}

def transitions : AgentRunStatus → List AgentRunStatus
  | .queued => [.preparing, .cancelled]
  | .preparing => [.running, .failed, .cancelled]
  | .running => [.reviewing, .completed, .failed, .cancelled]
  | .reviewing => [.completed, .failed, .cancelled]
  | .completed | .failed | .cancelled => []

def isTerminal (status : AgentRunStatus) : Bool := transitions status = []

structure Creation (Json : Type) where
  id : String
  projectId : String
  taskId : String
  agentId : String
  pipelineRunId : Option String
  pipelineStageRunId : Option String
  actionIntent : Option Json
  roleGuidance : Option Json
  modelRouting : Option Json
  now : Date

def create (codec : AgentRunCodec Json) (input : Creation Json) : Except Thrown (AgentRunProps Json) :=
  if "" ∈ [input.id, input.projectId, input.taskId, input.agentId].map trim then
    .error ⟨.domainValidationError, "Agent run identifiers cannot be empty"⟩
  else do
    let actionIntent ← input.actionIntent.mapM codec.normalizeActionIntent
    let roleGuidance ← input.roleGuidance.mapM codec.normalizeRoleGuidance
    let modelRouting ← input.modelRouting.mapM codec.parseAgentRunModelRouting
    return {
      id := input.id
      projectId := input.projectId
      taskId := input.taskId
      agentId := input.agentId
      pipelineRunId := input.pipelineRunId
      pipelineStageRunId := input.pipelineStageRunId
      actionIntent
      roleGuidance
      execution := none
      modelRouting
      status := .queued
      worktreePath := none
      result := none
      error := none
      createdAt := input.now
      startedAt := none
      completedAt := none
      updatedAt := input.now
      persistenceToken := none }

theorem create_ok {codec : AgentRunCodec Json} {input : Creation Json} {run : AgentRunProps Json}
    (created : create codec input = .ok run) :
    run.id = input.id ∧ run.taskId = input.taskId ∧ run.status = .queued := by
  obtain ⟨-, created⟩ := Data.Outcome.guard_ok created
  obtain ⟨actionIntent, -, created⟩ := Data.Outcome.bind_ok created
  obtain ⟨roleGuidance, -, created⟩ := Data.Outcome.bind_ok created
  obtain ⟨modelRouting, -, created⟩ := Data.Outcome.bind_ok created
  obtain rfl := Except.ok.inj created
  exact ⟨rfl, rfl, rfl⟩

theorem create_bound {codec : AgentRunCodec Json} {input : Creation Json} {run : AgentRunProps Json}
    (created : create codec input = .ok run) :
    run.projectId = input.projectId ∧ run.pipelineRunId = input.pipelineRunId ∧
      run.pipelineStageRunId = input.pipelineStageRunId := by
  obtain ⟨-, created⟩ := Data.Outcome.guard_ok created
  obtain ⟨actionIntent, -, created⟩ := Data.Outcome.bind_ok created
  obtain ⟨roleGuidance, -, created⟩ := Data.Outcome.bind_ok created
  obtain ⟨modelRouting, -, created⟩ := Data.Outcome.bind_ok created
  obtain rfl := Except.ok.inj created
  exact ⟨rfl, rfl, rfl⟩

def restore (codec : AgentRunCodec Json) (props : AgentRunProps Json) : Except Thrown (AgentRunProps Json) := do
  let execution ← props.execution.mapM codec.parseAgentExecution
  let actionIntent ← props.actionIntent.mapM codec.normalizeActionIntent
  let roleGuidance ← props.roleGuidance.mapM codec.normalizeRoleGuidance
  let modelRouting ← props.modelRouting.mapM codec.parseAgentRunModelRouting
  return { props with execution, actionIntent, roleGuidance, modelRouting }

def markPersisted (props : AgentRunProps Json) : AgentRunProps Json :=
  { props with persistenceToken := some ⟨props.status, props.updatedAt⟩ }

variable [DecidableEq Json]

def transition (codec : AgentRunCodec Json) (props : AgentRunProps Json) (status : AgentRunStatus) (now : Date)
    (details : AgentRunDetails Json) : Except Thrown (AgentRunProps Json) :=
  if status ∉ transitions props.status then
    .error ⟨.domainValidationError,
      s!"Cannot transition agent run from {props.status.text} to {status.text}"⟩
  else do
    let given ← details.execution.mapM codec.parseAgentExecution
    let execution := given <|> props.execution
    if props.execution.isSome ∧ execution ≠ props.execution then
      .error ⟨.domainValidationError, "Run execution provenance is immutable"⟩
    else
      return { props with
        worktreePath := details.worktreePath <|> props.worktreePath
        result := details.result <|> props.result
        error := details.error <|> props.error
        execution
        status
        startedAt := if status = .running then props.startedAt <|> some now else props.startedAt
        completedAt := if isTerminal status then some now else props.completedAt
        updatedAt := now }

theorem transition_ok {codec : AgentRunCodec Json} {props after : AgentRunProps Json} {status : AgentRunStatus}
    {now : Date} {details : AgentRunDetails Json}
    (moved : transition codec props status now details = .ok after) :
    status ∈ transitions props.status ∧ after.status = status ∧ after.updatedAt = now := by
  obtain ⟨allowed, moved⟩ := Data.Outcome.guard_ok moved
  obtain ⟨given, -, moved⟩ := Data.Outcome.bind_ok moved
  obtain ⟨-, moved⟩ := Data.Outcome.guard_ok moved
  obtain rfl := Except.ok.inj moved
  exact ⟨not_not.mp allowed, rfl, rfl⟩

theorem transition_id {codec : AgentRunCodec Json} {props after : AgentRunProps Json} {status : AgentRunStatus}
    {now : Date} {details : AgentRunDetails Json}
    (moved : transition codec props status now details = .ok after) : after.id = props.id := by
  obtain ⟨-, moved⟩ := Data.Outcome.guard_ok moved
  obtain ⟨given, -, moved⟩ := Data.Outcome.bind_ok moved
  obtain ⟨-, moved⟩ := Data.Outcome.guard_ok moved
  obtain rfl := Except.ok.inj moved
  rfl

theorem transition_returns (codec : AgentRunCodec Json) {props : AgentRunProps Json} {status : AgentRunStatus}
    (allowed : status ∈ transitions props.status) (now : Date) {details : AgentRunDetails Json}
    (unnamed : details.execution = none) : ∃ after, transition codec props status now details = .ok after := by
  unfold transition
  rw [if_neg (not_not.mpr allowed), unnamed]
  exact ⟨_, if_neg fun changed => changed.2 rfl⟩

end AgentRun
end AiOffice.Domain
