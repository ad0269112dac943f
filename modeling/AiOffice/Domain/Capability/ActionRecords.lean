import AiOffice.Domain.Agent
import AiOffice.Domain.Capability.ActionRequest

namespace AiOffice.Domain.Capability

open Data Outcome

def capabilityValidation (message : String) : Thrown := ⟨.capabilityValidationError, message⟩

def isCanonicalIdentifier (value : String) : Bool := trim value ≠ "" && trim value = value

inductive FilePrecondition
  | absent (path : String)
  | file (path sha256 : String) (size : Int)

def FilePrecondition.path : FilePrecondition → String
  | .absent path => path
  | .file path _ _ => path

def normalizeFilePreconditions (identities : List String) :
    List FilePrecondition → Except Thrown (List FilePrecondition)
  | [] => .ok []
  | candidate :: candidates =>
    let malformed := match candidate with
      | .absent _ => false
      | .file _ sha256 size => !validHash sha256 || !isSafeInteger size || size < 0
    if candidate.path = "" then
      .error (capabilityValidation "Action simulation precondition is invalid")
    else if malformed then
      .error (capabilityValidation "Action simulation file precondition is invalid")
    else if candidate.path ∈ identities then
      .error (capabilityValidation "Action simulation preconditions contradict for the same path")
    else do
      let later ← normalizeFilePreconditions (candidate.path :: identities) candidates
      return candidate :: later

structure ActionSimulationProps where
  id : String
  projectId : String
  actionRequestId : String
  authorizationPayloadHash : String
  connector : String
  connectorVersion : String
  operation : String
  preconditions : List FilePrecondition
  diff : String
  diffSha256 : String
  artifactSha256 : String
  createdAt : Date

def ActionSimulation.create (props : ActionSimulationProps) : Except Thrown ActionSimulationProps :=
  if "" ∈ [props.id, props.projectId, props.actionRequestId, props.connector, props.connectorVersion,
      props.operation].map trim then
    .error (capabilityValidation "Action simulation identifiers cannot be empty")
  else if !([props.authorizationPayloadHash, props.diffSha256, props.artifactSha256].all validHash) then
    .error (capabilityValidation "Action simulation hash is invalid")
  else do
    let preconditions ← normalizeFilePreconditions [] props.preconditions
    return { props with preconditions }

inductive ActionApprovalStatus
  | pending
  | approved
  | rejected
  deriving DecidableEq

structure ActionApprovalProps where
  id : String
  projectId : String
  actionRequestId : String
  simulationId : String
  actionPayloadHash : String
  simulationArtifactHash : String
  connector : String
  connectorVersion : String
  operation : String
  status : ActionApprovalStatus
  requestedAt : Date
  decidedAt : Option Date
  actor : Option String

namespace ActionApproval

def normalize (props : ActionApprovalProps) : Except Thrown ActionApprovalProps :=
  if !([props.id, props.projectId, props.actionRequestId, props.simulationId, props.connector,
      props.connectorVersion, props.operation].all isCanonicalIdentifier) then
    .error (capabilityValidation "Action approval identifiers must be canonical and non-empty")
  else if !validHash props.actionPayloadHash ∨ !validHash props.simulationArtifactHash then
    .error (capabilityValidation "Action approval hash is invalid")
  else if props.status = .pending then
    if props.decidedAt.isSome ∨ props.actor.isSome then
      .error (capabilityValidation "Pending action approval cannot have a decision")
    else .ok props
  else
    if props.decidedAt.all (· < props.requestedAt) ∨ props.actor.all (trim · = "") then
      .error (capabilityValidation "Decided action approval requires actor and monotonic timestamp")
    else .ok props

theorem normalize_ok {props after : ActionApprovalProps} (normalized : normalize props = .ok after) :
    after = props := by
  unfold normalize at normalized
  obtain ⟨-, normalized⟩ := guard_ok normalized
  obtain ⟨-, normalized⟩ := guard_ok normalized
  split at normalized
  all_goals
    obtain ⟨-, normalized⟩ := guard_ok normalized
    exact (Except.ok.inj normalized).symm

def request (props : ActionApprovalProps) (now : Date) : Except Thrown ActionApprovalProps :=
  normalize { props with status := .pending, requestedAt := now, decidedAt := none, actor := none }

def decide (props : ActionApprovalProps) (status : ActionApprovalStatus) (actor : String) (now : Date) :
    Except Thrown ActionApprovalProps :=
  if props.status ≠ .pending then
    .error (capabilityValidation "Action approval is already decided")
  else normalize { props with status, decidedAt := some now, actor := some actor }

end ActionApproval

inductive ActionExecutionStatus
  | executing
  | completed
  | failed
  | executionUnknown
  deriving DecidableEq

/-- The status of the action request that goes with the status of its execution. -/
def ActionExecutionStatus.action : ActionExecutionStatus → ActionStatus
  | .executing => .executing
  | .completed => .completed
  | .failed => .failed
  | .executionUnknown => .executionUnknown

structure ActionExecutionProps where
  id : String
  projectId : String
  actionRequestId : String
  simulationId : String
  approvalId : String
  status : ActionExecutionStatus
  startedAt : Date
  completedAt : Option Date
  failureCode : Option String
  resultHash : Option String

namespace ActionExecution

def normalize (props : ActionExecutionProps) : Except Thrown ActionExecutionProps :=
  if !([props.id, props.projectId, props.actionRequestId, props.simulationId,
      props.approvalId].all isCanonicalIdentifier) then
    .error (capabilityValidation "Action execution identifiers must be canonical and non-empty")
  else if props.status = .executing then
    if props.completedAt.isSome ∨ props.failureCode.isSome ∨ props.resultHash.isSome then
      .error (capabilityValidation "Executing action cannot have a terminal outcome")
    else .ok props
  else if props.completedAt.all (· < props.startedAt) then
    .error (capabilityValidation "Terminal action execution requires a monotonic timestamp")
  else if props.status = .completed ∧ props.failureCode.isSome then
    .error (capabilityValidation "Completed action execution cannot have a failure code")
  else if props.status ≠ .completed ∧ props.failureCode.all (trim · = "") then
    .error (capabilityValidation "Failed or unknown execution requires a failure code")
  else if !props.resultHash.all validHash then
    .error (capabilityValidation "Action execution result hash is invalid")
  else .ok props

theorem normalize_ok {props after : ActionExecutionProps} (normalized : normalize props = .ok after) :
    after = props := by
  unfold normalize at normalized
  obtain ⟨-, normalized⟩ := guard_ok normalized
  split at normalized
  · obtain ⟨-, normalized⟩ := guard_ok normalized
    exact (Except.ok.inj normalized).symm
  · obtain ⟨-, normalized⟩ := guard_ok normalized
    obtain ⟨-, normalized⟩ := guard_ok normalized
    obtain ⟨-, normalized⟩ := guard_ok normalized
    obtain ⟨-, normalized⟩ := guard_ok normalized
    exact (Except.ok.inj normalized).symm

def start (id projectId actionRequestId simulationId approvalId : String) (now : Date) :
    Except Thrown ActionExecutionProps :=
  normalize {
    id, projectId, actionRequestId, simulationId, approvalId
    status := .executing
    startedAt := now
    completedAt := none
    failureCode := none
    resultHash := none }

def finish (props : ActionExecutionProps) (status : ActionExecutionStatus) (now : Date)
    (failureCode resultHash : Option String) : Except Thrown ActionExecutionProps :=
  if props.status ≠ .executing then
    .error (capabilityValidation "Action execution is already terminal")
  else normalize { props with
    status
    completedAt := some now
    failureCode := failureCode <|> props.failureCode
    resultHash := resultHash <|> props.resultHash }

end ActionExecution
end AiOffice.Domain.Capability
