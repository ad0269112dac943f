import AiOffice.Data.Outcome
import AiOffice.Domain.Text

namespace AiOffice.Domain.Capability

inductive PolicyDecisionKind
  | allow
  | deny
  | allowWithApproval
  | allowSimulationOnly
  deriving DecidableEq

inductive RiskLevel
  | low
  | medium
  | high
  | critical
  deriving DecidableEq

inductive ActionStatus
  | requested
  | authorized
  | denied
  | simulating
  | simulated
  | approvalPending
  | rejected
  | executing
  | completed
  | failed
  | executionUnknown
  | cancelled
  | expired
  deriving DecidableEq

def ActionStatus.text : ActionStatus → String
  | .requested => "requested"
  | .authorized => "authorized"
  | .denied => "denied"
  | .simulating => "simulating"
  | .simulated => "simulated"
  | .approvalPending => "approval_pending"
  | .rejected => "rejected"
  | .executing => "executing"
  | .completed => "completed"
  | .failed => "failed"
  | .executionUnknown => "execution_unknown"
  | .cancelled => "cancelled"
  | .expired => "expired"

inductive ActionOperationMode
  | read
  | mutation
  deriving DecidableEq

structure CanonicalActionPayload (Json : Type) where
  projectId : String
  agentId : String
  resourceId : String
  connector : String
  connectorVersion : String
  operation : String
  normalizedArguments : Json
  effectiveConstraints : Json
  agentRunId : Option String
  pipelineRunId : Option String
  pipelineStageRunId : Option String

structure ActionRequestProps (Json : Type) where
  id : String
  projectId : String
  agentId : String
  resourceId : String
  connector : String
  connectorVersion : String
  operation : String
  normalizedArguments : Json
  effectiveConstraints : Json
  agentRunId : Option String
  payloadHash : String
  decision : PolicyDecisionKind
  riskLevel : RiskLevel
  matchedGrantIds : List String
  reasons : List String
  pipelineRunId : Option String
  pipelineStageRunId : Option String
  status : ActionStatus
  createdAt : Date
  updatedAt : Date

namespace ActionRequest

def transitions : ActionStatus → List ActionStatus
  | .requested => [.authorized, .denied]
  | .authorized => [.simulating, .executing]
  | .simulating => [.simulated, .failed]
  | .simulated => [.approvalPending]
  | .approvalPending => [.executing, .rejected]
  | .executing => [.completed, .failed, .executionUnknown]
  | .denied | .rejected | .completed | .failed | .executionUnknown | .cancelled | .expired => []

def isDecisionStatusCompatible (decision : PolicyDecisionKind) (status : ActionStatus) : Bool :=
  if decision = .deny then status = .requested || status = .denied
  else if status = .denied then false
  else if status = .failed then true
  else if status = .executing ∨ status = .completed ∨ status = .executionUnknown then
    decision = .allow || decision = .allowWithApproval
  else if status = .simulating ∨ status = .simulated then
    decision = .allowSimulationOnly || decision = .allowWithApproval
  else if status = .approvalPending then decision = .allowWithApproval
  else true

variable {Json : Type}

def invalidTransition (before after : ActionStatus) : Thrown :=
  ⟨.invalidActionTransitionError, s!"Cannot transition action request from {before.text} to {after.text}"⟩

/-- Whether an authorized request may take the lease that leads to `status`. -/
def validAuthorizedLease (decision : PolicyDecisionKind) (status : ActionStatus)
    (operationMode : Option ActionOperationMode) (requiresApproval : Bool) : Bool :=
  (status = .executing && operationMode = some .read && !requiresApproval && decision = .allow) ||
  (status = .simulating && operationMode = some .mutation &&
    (if requiresApproval then decision = .allowWithApproval else decision = .allowSimulationOnly))

/-- Whether a request that waits for its approval may move to `status`. -/
def validApprovalOutcome (decision : PolicyDecisionKind) (status : ActionStatus)
    (operationMode : Option ActionOperationMode) (requiresApproval : Bool) : Bool :=
  (status = .executing || status = .rejected) && operationMode = some .mutation && requiresApproval &&
    decision = .allowWithApproval

def restore (props : ActionRequestProps Json) : Except Thrown (ActionRequestProps Json) :=
  if isDecisionStatusCompatible props.decision props.status then .ok props
  else .error (invalidTransition .requested props.status)

def transition (props : ActionRequestProps Json) (status : ActionStatus) (now : Date)
    (operationMode : Option ActionOperationMode) (requiresApproval : Bool) :
    Except Thrown (ActionRequestProps Json) :=
  let refused := invalidTransition props.status status
  if status ∉ transitions props.status then .error refused
  else if !isDecisionStatusCompatible props.decision status then .error refused
  else if props.status = .authorized ∧
      !validAuthorizedLease props.decision status operationMode requiresApproval then .error refused
  else if props.status = .simulated ∧ status = .approvalPending ∧
      (props.decision ≠ .allowWithApproval ∨ !requiresApproval) then .error refused
  else if props.status = .approvalPending ∧
      !validApprovalOutcome props.decision status operationMode requiresApproval then .error refused
  else if now < props.updatedAt then
    .error ⟨.invalidActionTimestampError, "Action request transition time must be valid and monotonic"⟩
  else .ok { props with status, updatedAt := now }

theorem transition_ok {props after : ActionRequestProps Json} {status : ActionStatus} {now : Date}
    {operationMode : Option ActionOperationMode} {requiresApproval : Bool}
    (moved : transition props status now operationMode requiresApproval = .ok after) :
    status ∈ transitions props.status ∧ props.updatedAt ≤ now ∧
      after = { props with status, updatedAt := now } := by
  unfold transition at moved
  obtain ⟨allowed, moved⟩ := Data.Outcome.guard_ok moved
  obtain ⟨-, moved⟩ := Data.Outcome.guard_ok moved
  obtain ⟨-, moved⟩ := Data.Outcome.guard_ok moved
  obtain ⟨-, moved⟩ := Data.Outcome.guard_ok moved
  obtain ⟨-, moved⟩ := Data.Outcome.guard_ok moved
  obtain ⟨monotonic, moved⟩ := Data.Outcome.guard_ok moved
  exact ⟨not_not.mp allowed, Int.not_lt.mp monotonic, (Except.ok.inj moved).symm⟩

def canonicalPayload (props : ActionRequestProps Json) : CanonicalActionPayload Json where
  projectId := props.projectId
  agentId := props.agentId
  resourceId := props.resourceId
  connector := props.connector
  connectorVersion := props.connectorVersion
  operation := props.operation
  normalizedArguments := props.normalizedArguments
  effectiveConstraints := props.effectiveConstraints
  agentRunId := props.agentRunId
  pipelineRunId := props.pipelineRunId
  pipelineStageRunId := props.pipelineStageRunId

end ActionRequest
end AiOffice.Domain.Capability
