import AiOffice.Data.Method
import AiOffice.Domain.Text
import AiOffice.Domain.OfficeManifest

namespace AiOffice.Domain

open Data

inductive PipelineRunStatus
  | active
  | completed
  | cancelled
  deriving DecidableEq

inductive PipelineStageRunStatus
  | pending
  | active
  | awaitingApproval
  | completed
  | cancelled
  deriving DecidableEq

def PipelineStageRunStatus.text : PipelineStageRunStatus → String
  | .pending => "pending"
  | .active => "active"
  | .awaitingApproval => "awaiting_approval"
  | .completed => "completed"
  | .cancelled => "cancelled"

def PipelineStageRunStatus.isOpen : PipelineStageRunStatus → Bool
  | .pending | .active | .awaitingApproval => true
  | .completed | .cancelled => false

inductive ApprovalDecision
  | approved
  | rejected
  deriving DecidableEq

structure PipelineRunConfigurationPackIdentity where
  id : String
  version : String
  manifestDigest : String
  deriving DecidableEq

structure PipelineRunConfigurationPin where
  configurationDigest : String
  coreContractVersion : Nat
  bindingRevision : Nat
  definitionRevision : Nat
  selectedPacks : List PipelineRunConfigurationPackIdentity
  resolvedPacks : List PipelineRunConfigurationPackIdentity
  deriving DecidableEq

structure PipelineStageRunProps where
  id : String
  stageId : String
  stageIndex : Nat
  roleId : String
  status : PipelineStageRunStatus
  assignedAgentId : Option String
  assignedAt : Option Date
  completedAt : Option Date
  approvedBy : Option String
  approvalDecision : Option ApprovalDecision
  approvalRationale : Option String
  approvedAt : Option Date
  deriving DecidableEq

structure PipelineRunProps where
  id : String
  projectId : String
  taskId : String
  manifestRevisionId : String
  manifestRevision : Nat
  definition : OfficePipeline
  status : PipelineRunStatus
  currentStageIndex : Nat
  stages : List PipelineStageRunProps
  startedBy : String
  version : Nat
  createdAt : Date
  updatedAt : Date
  completedAt : Option Date
  cancelledAt : Option Date
  configurationPin : Option PipelineRunConfigurationPin
  deriving DecidableEq

structure PipelineOverrideRecord where
  id : String
  projectId : String
  pipelineRunId : String
  stageRunId : String
  actorId : String
  reason : String
  previousRule : String
  resultingAuthorization : String
  createdAt : Date
  deriving DecidableEq

def pipelineTransitionError (message : String) : Thrown :=
  ⟨.pipelineTransitionError, message⟩

/-- Reading a property of `undefined`. -/
def undefinedValue : Thrown :=
  ⟨.typeError, "undefined is not an object"⟩

def requiredConfigurationPin (value : PipelineRunConfigurationPin) :
    Except Thrown PipelineRunConfigurationPin := do
  let configurationDigest ← required value.configurationDigest "Configuration digest"
  return { value with configurationDigest }

structure CreatePipelineRun where
  id : String
  projectId : String
  taskId : String
  manifestRevisionId : String
  manifestRevision : Nat
  definition : OfficePipeline
  startedBy : String
  stageRunIds : List String
  configurationPin : Option PipelineRunConfigurationPin
  now : Date

/-- The stage runs of a new pipeline run, from `index` on. -/
def createStages (index : Nat) : List OfficePipelineStage → List String →
    Except Thrown (List PipelineStageRunProps)
  | [], _ => .ok []
  | _ :: _, [] => .error undefinedValue
  | stage :: rest, stageRunId :: stageRunIds => do
    let id ← required stageRunId "Stage-run ID"
    let later ← createStages (index + 1) rest stageRunIds
    return {
      id
      stageId := stage.id
      stageIndex := index
      roleId := stage.roleId
      status := if index = 0 then .active else .pending
      assignedAgentId := none
      assignedAt := none
      completedAt := none
      approvedBy := none
      approvalDecision := none
      approvalRationale := none
      approvedAt := none } :: later

namespace PipelineRun

def create (input : CreatePipelineRun) : Except Thrown PipelineRunProps :=
  if input.definition.enforcement ≠ some .enforced then
    .error ⟨.domainValidationError, "Only an enforced pipeline can be started"⟩
  else if input.definition.stages.length = 0 then
    .error ⟨.domainValidationError, "An enforced pipeline must contain a stage"⟩
  else if input.stageRunIds.length ≠ input.definition.stages.length then
    .error ⟨.domainValidationError, "Every pipeline stage requires a stage-run ID"⟩
  else do
    let stages ← createStages 0 input.definition.stages input.stageRunIds
    let id ← required input.id "Pipeline-run ID"
    let projectId ← required input.projectId "Project ID"
    let taskId ← required input.taskId "Task ID"
    let manifestRevisionId ← required input.manifestRevisionId "Manifest revision ID"
    let startedBy ← required input.startedBy "Pipeline actor"
    let configurationPin ← input.configurationPin.mapM requiredConfigurationPin
    return {
      id
      projectId
      taskId
      manifestRevisionId
      manifestRevision := input.manifestRevision
      definition := input.definition
      status := .active
      currentStageIndex := 0
      stages
      startedBy
      version := 1
      createdAt := input.now
      updatedAt := input.now
      completedAt := none
      cancelledAt := none
      configurationPin }

abbrev Operation := Method PipelineRunProps Thrown

def currentStage : Operation (Option PipelineStageRunProps) := do
  let props ← get
  if props.status ≠ .active then
    return none
  else
    match props.stages[props.currentStageIndex]? with
    | some stage => return some stage
    | none => throw undefinedValue

def requireCurrent (status : PipelineStageRunStatus) : Operation PipelineStageRunProps := do
  match ← currentStage with
  | none => throw (pipelineTransitionError s!"Current stage must be {status.text}")
  | some stage =>
    if stage.status ≠ status then
      throw (pipelineTransitionError s!"Current stage must be {status.text}")
    else
      return stage

def stageDefinition (index : Nat) : Operation OfficePipelineStage := do
  let props ← get
  match props.definition.stages[index]? with
  | some definition => return definition
  | none => throw undefinedValue

def replaceStage (index : Nat) (value : PipelineStageRunProps) : Operation PUnit :=
  modify fun props => { props with
    stages := props.stages.mapIdx fun candidate stage => if candidate = index then value else stage }

def changed (now : Date) : Operation PUnit :=
  modify fun props => { props with version := props.version + 1, updatedAt := now }

def finishCurrent (now : Date) : Operation PUnit := do
  match ← currentStage with
  | none => throw (pipelineTransitionError "Pipeline is not active")
  | some stage =>
    replaceStage stage.stageIndex { stage with status := .completed, completedAt := some now }
    let nextIndex := stage.stageIndex + 1
    let props ← get
    match props.stages[nextIndex]? with
    | none =>
      modify fun props => { props with
        status := .completed
        version := props.version + 1
        updatedAt := now
        completedAt := some now }
    | some next =>
      replaceStage nextIndex { next with status := .active }
      modify fun props => { props with
        currentStageIndex := nextIndex
        version := props.version + 1
        updatedAt := now }

def assignedTo (stages : List PipelineStageRunProps) (stageId : String) : Option String :=
  (stages.find? fun stage => stage.stageId = stageId).bind (·.assignedAgentId)

def assign (agentId agentRoleId : String) (now : Date) : Operation PUnit := do
  let stage ← requireCurrent .active
  if stage.assignedAgentId ≠ none then
    throw (pipelineTransitionError "The active stage is already assigned")
  else if agentRoleId ≠ stage.roleId then
    throw (pipelineTransitionError s!"Stage {stage.stageId} requires role {stage.roleId}")
  else
    let definition ← stageDefinition stage.stageIndex
    let props ← get
    match definition.separatedFrom.find? fun predecessorId =>
        assignedTo props.stages predecessorId = some agentId with
    | some predecessorId =>
      throw (pipelineTransitionError
        s!"Agent separation is required between {predecessorId} and {stage.stageId}")
    | none =>
      let assignedAgentId ← Method.lift (required agentId "Agent ID")
      replaceStage stage.stageIndex
        { stage with assignedAgentId := some assignedAgentId, assignedAt := some now }
      changed now

def completeStage (agentId : String) (now : Date) : Operation PUnit := do
  let stage ← requireCurrent .active
  if stage.assignedAgentId = none then
    throw (pipelineTransitionError "The active stage has no assigned agent")
  else if stage.assignedAgentId ≠ some agentId then
    throw (pipelineTransitionError "Only the assigned agent can complete the stage")
  else
    let definition ← stageDefinition stage.stageIndex
    if definition.requiresApproval then
      replaceStage stage.stageIndex { stage with status := .awaitingApproval }
      changed now
    else
      finishCurrent now

def approveStage (actorId : String) (rationale : Option String) (now : Date) : Operation PUnit := do
  let stage ← requireCurrent .awaitingApproval
  let actor ← Method.lift (required actorId "Approval actor")
  let definition ← stageDefinition stage.stageIndex
  if definition.requiresIndependentApproval = some true ∧ stage.assignedAgentId = some actor then
    throw (pipelineTransitionError "An assigned agent cannot approve its own stage")
  else
    let approvalRationale ← Method.lift
      (rationale.mapM fun rationale => required rationale "Approval rationale")
    replaceStage stage.stageIndex { stage with
      approvedBy := some actor
      approvalDecision := some .approved
      approvalRationale := approvalRationale <|> stage.approvalRationale
      approvedAt := some now }
    finishCurrent now

def rejectStage (actorId rationale : String) (now : Date) : Operation PUnit := do
  let stage ← requireCurrent .awaitingApproval
  let actor ← Method.lift (required actorId "Approval actor")
  let definition ← stageDefinition stage.stageIndex
  if definition.requiresIndependentApproval = some true ∧ stage.assignedAgentId = some actor then
    throw (pipelineTransitionError "An assigned agent cannot reject its own stage")
  else
    let approvalRationale ← Method.lift (required rationale "Rejection rationale")
    replaceStage stage.stageIndex { stage with
      status := .cancelled
      approvedBy := some actor
      approvalDecision := some .rejected
      approvalRationale := some approvalRationale
      approvedAt := some now }
    modify fun props => { props with
      status := .cancelled
      stages := props.stages.map fun value =>
        if value.status = .pending then { value with status := .cancelled } else value
      version := props.version + 1
      updatedAt := now
      cancelledAt := some now }

def previousRule (stage : PipelineStageRunProps) : String :=
  if stage.status = .awaitingApproval then "pipeline_approval_required"
  else if stage.assignedAgentId = none then "pipeline_agent_not_assigned"
  else "pipeline_stage_incomplete"

structure Override where
  id : String
  actorId : String
  reason : String
  now : Date

def overrideCurrent (input : Override) : Operation PipelineOverrideRecord := do
  match ← currentStage with
  | none => throw (pipelineTransitionError "Pipeline is not active")
  | some stage =>
    let props ← get
    let id ← Method.lift (required input.id "Override ID")
    let actorId ← Method.lift (required input.actorId "Override actor")
    let reason ← Method.lift (required input.reason "Override reason")
    finishCurrent input.now
    return {
      id
      projectId := props.projectId
      pipelineRunId := props.id
      stageRunId := stage.id
      actorId
      reason
      previousRule := previousRule stage
      resultingAuthorization := "stage_completed"
      createdAt := input.now }

def cancel (actorId : String) (now : Date) : Operation PUnit := do
  let _ ← Method.lift (required actorId "Cancellation actor")
  let props ← get
  if props.status ≠ .active then
    throw (pipelineTransitionError "Only an active pipeline can be cancelled")
  else
    modify fun props => { props with
      status := .cancelled
      stages := props.stages.map fun stage =>
        if stage.status.isOpen then { stage with status := .cancelled } else stage
      version := props.version + 1
      updatedAt := now
      cancelledAt := some now }

end PipelineRun
end AiOffice.Domain
