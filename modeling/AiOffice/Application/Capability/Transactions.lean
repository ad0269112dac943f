import AiOffice.Application.Capability.Binding

namespace AiOffice.Application.Capability

open Data Domain Domain.Capability

/-- The rows of one action request. The tables allow at most one simulation, one approval and one
execution for it. Their triggers and keys only refuse more; a refused transaction is one that fails. -/
structure Rows (Json : Type) where
  request : ActionRequestProps Json
  simulation : Option ActionSimulationProps
  approval : Option ActionApprovalProps
  execution : Option ActionExecutionProps

variable {Json : Type}

def findActionRequest (rows : Rows Json) (id : String) : Except Thrown (ActionRequestProps Json) :=
  if rows.request.id ≠ id then
    .error ⟨.actionRequestNotFoundError, s!"Action request not found: {id}"⟩
  else ActionRequest.restore rows.request

def transitionActionRequest (rows : Rows Json) (expectedStatus status : ActionStatus) (updatedAt : Date) :
    Except Thrown (Rows Json) :=
  if rows.request.status ≠ expectedStatus then
    .error ⟨.concurrentActionTransitionError,
      s!"Action request {rows.request.id} no longer has expected status {expectedStatus.text}; cannot transition to {status.text}"⟩
  else .ok { rows with request := { rows.request with status, updatedAt } }

def executionConflict (id : String) : Thrown :=
  ⟨.actionExecutionConflictError, s!"Action request already has an execution attempt: {id}"⟩

def insertExecution (rows : Rows Json) (execution : ActionExecutionProps) : Except Thrown (Rows Json) :=
  if rows.execution.isSome then .error (executionConflict rows.request.id)
  else .ok { rows with execution := some execution }

/-- Record the outcome of the execution with this id if it is still executing. -/
def transitionExecution (rows : Rows Json) (outcome : ActionExecutionProps) : Except Thrown (Rows Json) :=
  if rows.execution.all fun stored => stored.id ≠ outcome.id || stored.status ≠ .executing then
    .error ⟨.invalidActionExecutionStateError, "Execution outcome changed concurrently"⟩
  else .ok { rows with execution := rows.execution.map fun stored => { stored with
      status := outcome.status
      completedAt := outcome.completedAt
      failureCode := outcome.failureCode
      resultHash := outcome.resultHash } }

structure ActionInput where
  projectId : String
  actionRequestId : String

def requireAction (rows : Rows Json) (input : ActionInput) : Except Thrown (ActionRequestProps Json) := do
  let action ← findActionRequest rows input.actionRequestId
  if action.projectId ≠ input.projectId then
    .error ⟨.capabilityProjectMismatchError, "Capability reference belongs to a different project"⟩
  else return action

def requireSome {Value : Type} (found : Option Value) (thrown : Thrown) : Except Thrown Value :=
  match found with
  | some value => .ok value
  | none => .error thrown

def notExecutable : Thrown := ⟨.invalidActionExecutionStateError, "Action request is not executable"⟩

/-- The execution lease: what the connector call and the recording of its outcome work with. -/
structure ExecutionLease (Json : Type) where
  request : ActionRequestProps Json
  simulation : ActionSimulationProps
  execution : ActionExecutionProps
  resource : Resource

/-- Everything that the lease transaction reads outside the rows of the action. -/
structure LeaseReads (Json : Type) where
  authorization : AuthorizationReads Json
  /-- Present when a hook runs between the authorization and the lease. -/
  afterHook : Option (AuthorizationReads Json)
  startedAt : Date
  executionId : String
  resource : Option Resource

namespace ExecuteControlledAction

def requireFreshAuthorization (hashes : Hashes Json) (action : ActionRequestProps Json)
    (definition : ConnectorDefinition) (operation : ConnectorOperationDescriptor)
    (reads : AuthorizationReads Json) : Except Thrown Unit :=
  if !agentRunBound action reads.agentRun then .error staleAuthorization
  else do
    let current ← reads.policy
    if !authorizationCurrent hashes action definition current ∨ operation.operation ≠ action.operation ∨
        current.decision ≠ .allowWithApproval then
      .error staleAuthorization
    else return ⟨⟩

def acquireLease (hashes : Hashes Json) (registry : ConnectorRegistry) (input : ActionInput)
    (reads : LeaseReads Json) (rows : Rows Json) : Except Thrown (ExecutionLease Json × Rows Json) := do
  let action ← requireAction rows input
  if action.status ≠ .approvalPending then .error notExecutable
  else
    let definition ← requireDefinition registry action.connector
    let operation ← requireOperation registry action.connector action.operation
    if definition.version ≠ action.connectorVersion ∨ action.connector ≠ "filesystem" ∨
        action.connectorVersion ≠ "2" ∨ operation.mode ≠ .mutation ∨ !operation.supportsExecution ∨
        !operation.requiresApproval ∨ !definition.hasExecuteMutation then
      .error ⟨.connectorExecutionUnavailableError,
        s!"Connector has no executable boundary: {action.connector}"⟩
    else
      let simulation ← requireSome rows.simulation
        ⟨.invalidActionExecutionStateError, "Action simulation is unavailable"⟩
      let approval ← requireSome rows.approval
        ⟨.actionApprovalNotFoundError, s!"Action approval not found for action: {action.id}"⟩
      assertApprovalBinding hashes action simulation approval
      if approval.status ≠ .approved then
        .error ⟨.invalidActionApprovalStateError, "Action is not approved"⟩
      else
        requireFreshAuthorization hashes action definition operation reads.authorization
        reads.afterHook.forM (requireFreshAuthorization hashes action definition operation)
        if rows.execution.isSome then .error (executionConflict action.id)
        else
          let execution ← ActionExecution.start reads.executionId action.projectId action.id simulation.id
            approval.id reads.startedAt
          let inserted ← insertExecution rows execution
          let request ← ActionRequest.transition action .executing reads.startedAt (some .mutation) true
          let leased ← transitionActionRequest inserted .approvalPending .executing reads.startedAt
          let resource ← requireSome reads.resource notExecutable
          return (⟨request, simulation, execution, resource⟩, leased)

/-- Record the outcome of the connector call, from what the lease remembers. -/
def finish (lease : ExecutionLease Json) (status : ActionExecutionStatus)
    (failureCode resultHash : Option String) (finishedAt : Date) (rows : Rows Json) :
    Except Thrown (Rows Json) := do
  let restored ← ActionExecution.normalize lease.execution
  let request ← ActionRequest.restore lease.request
  let execution ← ActionExecution.finish restored status finishedAt failureCode resultHash
  let _ ← ActionRequest.transition request status.action finishedAt (some .mutation) true
  let recorded ← transitionExecution rows execution
  transitionActionRequest recorded .executing status.action finishedAt

def outcomePersistenceFailureCode : String := "OutcomePersistenceFailed"

def persistOutcomeFailureAsUnknown (lease : ExecutionLease Json) (finishedAt : Date) (rows : Rows Json) :
    Except Thrown (Rows Json) := do
  let unrecoverable : Thrown :=
    ⟨.invalidActionExecutionStateError, "Execution outcome cannot be recovered"⟩
  let action ← findActionRequest rows lease.request.id
  let execution ← requireSome rows.execution unrecoverable
  if action.projectId ≠ lease.request.projectId ∨ action.status ≠ .executing ∨
      execution.status ≠ .executing then
    .error unrecoverable
  else
    let outcome ← ActionExecution.finish execution .executionUnknown finishedAt
      (some outcomePersistenceFailureCode) none
    let _ ← ActionRequest.transition action .executionUnknown finishedAt (some .mutation) true
    let recorded ← transitionExecution rows outcome
    transitionActionRequest recorded .executing .executionUnknown finishedAt

end ExecuteControlledAction

namespace DecideControlledAction

inductive Decision
  | approved
  | rejected
  deriving DecidableEq

def Decision.approval : Decision → ActionApprovalStatus
  | .approved => .approved
  | .rejected => .rejected

def requiredText (value label : String) : Except Thrown String :=
  if trim value = "" then .error (capabilityValidation s!"{label} cannot be empty") else .ok (trim value)

def decide (hashes : Hashes Json) (input : ActionInput) (actor : String) (decision : Decision)
    (decidedAt : Date) (rows : Rows Json) : Except Thrown (Rows Json) := do
  let actor ← requiredText actor "approval actor"
  let action ← requireAction rows input
  if action.status ≠ .approvalPending then .error invalidApprovalState
  else
    let approval ← requireSome rows.approval
      ⟨.actionApprovalNotFoundError, s!"Action approval not found for action: {input.actionRequestId}"⟩
    let simulation ← requireSome rows.simulation invalidApprovalState
    assertApprovalBinding hashes action simulation approval
    if approval.status ≠ .pending then
      .error ⟨.invalidActionApprovalStateError, "Action approval is already decided"⟩
    else
      let decided ← ActionApproval.decide approval decision.approval actor decidedAt
      let recorded : Rows Json := { rows with approval := some decided }
      match decision with
      | .approved => return recorded
      | .rejected =>
        let _ ← ActionRequest.transition action .rejected decidedAt (some .mutation) true
        transitionActionRequest recorded .approvalPending .rejected decidedAt

end DecideControlledAction

namespace InvokeControlledConnectorAction

/-- The lease of an authorized action: its request as the lease left it, and its operation. -/
structure AuthorizationLease (Json : Type) where
  request : ActionRequestProps Json
  operation : ConnectorOperationDescriptor

def requireFreshAuthorization (hashes : Hashes Json) (registry : ConnectorRegistry)
    (action : ActionRequestProps Json) (reads : AuthorizationReads Json) :
    Except Thrown (ConnectorDefinition × ConnectorOperationDescriptor × EvaluatedActionPolicy Json) :=
  if !agentRunBound action reads.agentRun then .error staleAuthorization
  else if action.status ≠ .authorized then
    .error ⟨.invalidConnectorInvocationStateError,
      s!"Action request must be authorized before invocation: {action.status.text}"⟩
  else do
    let definition ← requireDefinition registry action.connector
    let operation ← requireOperation registry action.connector action.operation
    if definition.version ≠ action.connectorVersion then .error staleAuthorization
    else
      let current ← reads.policy
      if !authorizationCurrent hashes action definition current ∨ current.decision = .deny then
        .error staleAuthorization
      else return (definition, operation, current)

def recheckAuthorization (hashes : Hashes Json) (registry : ConnectorRegistry)
    (action : ActionRequestProps Json)
    (first : ConnectorDefinition × ConnectorOperationDescriptor × EvaluatedActionPolicy Json) :
    Option (AuthorizationReads Json) →
      Except Thrown (ConnectorDefinition × ConnectorOperationDescriptor × EvaluatedActionPolicy Json)
  | none => .ok first
  | some reads => requireFreshAuthorization hashes registry action reads

def targetStatus : ActionOperationMode → ActionStatus
  | .read => .executing
  | .mutation => .simulating

def acquireAuthorizationLease (hashes : Hashes Json) (registry : ConnectorRegistry) (input : ActionInput)
    (reads : AuthorizationReads Json) (afterHook : Option (AuthorizationReads Json)) (leaseAt : Date)
    (rows : Rows Json) : Except Thrown (AuthorizationLease Json × Rows Json) := do
  let action ← requireAction rows input
  let (definition, operation, current) ← requireFreshAuthorization hashes registry action reads
  if !definition.hasInvoke then
    .error ⟨.connectorExecutionUnavailableError,
      s!"Connector has no executable boundary: {action.connector}"⟩
  else if (operation.mode = .read ∧ (!operation.supportsExecution ∨ current.decision ≠ .allow)) ∨
      (operation.mode = .mutation ∧ !operation.supportsSimulation) then
    .error ⟨.invalidConnectorInvocationStateError,
      "Action is not invocable in its current policy state"⟩
  else
    let fresh ← recheckAuthorization hashes registry action (definition, operation, current) afterHook
    let operation := fresh.2.1
    let target := targetStatus operation.mode
    let request ← ActionRequest.transition action target leaseAt (some operation.mode)
      operation.requiresApproval
    let leased ← transitionActionRequest rows .authorized target leaseAt
    return (⟨request, operation⟩, leased)

structure SimulationResult where
  preconditions : List FilePrecondition
  diff : String

def createSimulation (hashes : Hashes Json) (action : ActionRequestProps Json) (result : SimulationResult)
    (simulationId : String) (createdAt : Date) : Except Thrown ActionSimulationProps :=
  let diffSha256 := hashes.sha256Text result.diff
  ActionSimulation.create {
    id := simulationId
    projectId := action.projectId
    actionRequestId := action.id
    authorizationPayloadHash := action.payloadHash
    connector := action.connector
    connectorVersion := action.connectorVersion
    operation := action.operation
    preconditions := result.preconditions
    diff := result.diff
    diffSha256
    artifactSha256 :=
      hashes.hashActionSimulationArtifact (simulationPayload action result.preconditions diffSha256)
    createdAt }

/-- The identifiers and clock readings that recording a simulation uses. -/
structure SimulationReads where
  simulationId : String
  createdAt : Date
  simulatedAt : Date
  approvalId : String
  approvalPendingAt : Date

def requestApproval (action : ActionRequestProps Json) (simulation : ActionSimulationProps)
    (approvalId : String) (now : Date) : Except Thrown ActionApprovalProps :=
  ActionApproval.request {
    id := approvalId
    projectId := action.projectId
    actionRequestId := action.id
    simulationId := simulation.id
    actionPayloadHash := action.payloadHash
    simulationArtifactHash := simulation.artifactSha256
    connector := action.connector
    connectorVersion := action.connectorVersion
    operation := action.operation
    status := .pending
    requestedAt := now
    decidedAt := none
    actor := none } now

/-- Record the simulation of a leased action and, where the operation requires it, ask for approval. -/
def recordSimulation (hashes : Hashes Json) (lease : AuthorizationLease Json) (result : SimulationResult)
    (reads : SimulationReads) (rows : Rows Json) : Except Thrown (Rows Json) := do
  let simulation ← createSimulation hashes lease.request result reads.simulationId reads.createdAt
  if !lease.operation.requiresApproval then
    if rows.simulation.isSome then
      .error ⟨.actionSimulationConflictError,
        s!"Action request already has a simulation: {lease.request.id}"⟩
    else
      transitionActionRequest { rows with simulation := some simulation } .simulating .simulated
        reads.simulatedAt
  else
    let approval ← requestApproval lease.request simulation reads.approvalId reads.approvalPendingAt
    if rows.simulation.isSome then
      .error ⟨.actionSimulationConflictError,
        s!"Action request already has a simulation: {lease.request.id}"⟩
    else
      let simulated ← transitionActionRequest { rows with simulation := some simulation } .simulating
        .simulated reads.simulatedAt
      if rows.approval.isSome then
        .error ⟨.actionApprovalConflictError,
          s!"Action request already has an approval record: {lease.request.id}"⟩
      else
        transitionActionRequest { simulated with approval := some approval } .simulated .approvalPending
          reads.approvalPendingAt

/-- Fail an action whose simulation went wrong, if it is still simulating. -/
def failSimulation (updatedAt : Date) (rows : Rows Json) : Except Thrown (Rows Json) :=
  transitionActionRequest rows .simulating .failed updatedAt

/-- End a leased read: it completed, or the connector or the recording failed. -/
def finishRead (completed : Bool) (updatedAt : Date) (rows : Rows Json) : Except Thrown (Rows Json) :=
  transitionActionRequest rows .executing (if completed then .completed else .failed) updatedAt

end InvokeControlledConnectorAction
end AiOffice.Application.Capability
