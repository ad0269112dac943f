import AiOffice.Domain.Capability.ActionRecords

namespace AiOffice.Application.Capability

open Data Outcome Domain Domain.Capability

structure CanonicalActionSimulationPayload where
  actionRequestId : String
  authorizationPayloadHash : String
  connector : String
  connectorVersion : String
  operation : String
  preconditions : List FilePrecondition
  diffSha256 : String

/-- SHA-256 of texts and of canonical JSON. Nothing is assumed about collisions. -/
structure Hashes (Json : Type) where
  sha256Text : String → String
  hashCanonicalActionPayload : CanonicalActionPayload Json → String
  hashActionSimulationArtifact : CanonicalActionSimulationPayload → String

variable {Json : Type}

def simulationPayload (action : ActionRequestProps Json) (preconditions : List FilePrecondition)
    (diffSha256 : String) : CanonicalActionSimulationPayload where
  actionRequestId := action.id
  authorizationPayloadHash := action.payloadHash
  connector := action.connector
  connectorVersion := action.connectorVersion
  operation := action.operation
  preconditions
  diffSha256

def assertSimulationIntegrity (hashes : Hashes Json) (action : ActionRequestProps Json)
    (artifact : ActionSimulationProps) : Except Thrown Unit :=
  let diffSha256 := hashes.sha256Text artifact.diff
  let artifactSha256 :=
    hashes.hashActionSimulationArtifact (simulationPayload action artifact.preconditions diffSha256)
  if artifact.projectId ≠ action.projectId ∨ artifact.actionRequestId ≠ action.id ∨
      artifact.authorizationPayloadHash ≠ action.payloadHash ∨ artifact.connector ≠ action.connector ∨
      artifact.connectorVersion ≠ action.connectorVersion ∨ artifact.operation ≠ action.operation ∨
      artifact.diffSha256 ≠ diffSha256 ∨ artifact.artifactSha256 ≠ artifactSha256 then
    .error ⟨.staleActionSimulationError, "Action simulation is no longer valid"⟩
  else .ok ⟨⟩

def invalidApprovalState : Thrown :=
  ⟨.invalidActionApprovalStateError, "Action approval is not valid for this operation"⟩

def assertApprovalBinding (hashes : Hashes Json) (action : ActionRequestProps Json)
    (artifact : ActionSimulationProps) (binding : ActionApprovalProps) : Except Thrown Unit := do
  assertSimulationIntegrity hashes action artifact
  if binding.projectId ≠ action.projectId ∨ binding.actionRequestId ≠ action.id ∨
      binding.simulationId ≠ artifact.id ∨ binding.actionPayloadHash ≠ action.payloadHash ∨
      binding.simulationArtifactHash ≠ artifact.artifactSha256 ∨ binding.connector ≠ action.connector ∨
      binding.connectorVersion ≠ action.connectorVersion ∨ binding.operation ≠ action.operation then
    .error invalidApprovalState
  else .ok ⟨⟩

theorem assertSimulationIntegrity_ok {hashes : Hashes Json} {action : ActionRequestProps Json}
    {artifact : ActionSimulationProps} (intact : assertSimulationIntegrity hashes action artifact = .ok ⟨⟩) :
    artifact.artifactSha256 = hashes.hashActionSimulationArtifact
      (simulationPayload action artifact.preconditions (hashes.sha256Text artifact.diff)) := by
  obtain ⟨equal, -⟩ := guard_ok intact
  simp only [not_or, not_not] at equal
  exact equal.2.2.2.2.2.2.2

theorem assertApprovalBinding_ok {hashes : Hashes Json} {action : ActionRequestProps Json}
    {artifact : ActionSimulationProps} {binding : ActionApprovalProps}
    (bound : assertApprovalBinding hashes action artifact binding = .ok ⟨⟩) :
    assertSimulationIntegrity hashes action artifact = .ok ⟨⟩ ∧
      binding.actionPayloadHash = action.payloadHash ∧
      binding.simulationArtifactHash = artifact.artifactSha256 := by
  obtain ⟨⟨⟩, intact, bound⟩ := bind_ok bound
  obtain ⟨equal, -⟩ := guard_ok bound
  simp only [not_or, not_not] at equal
  exact ⟨intact, equal.2.2.2.1, equal.2.2.2.2.1⟩

structure ConnectorOperationDescriptor where
  operation : String
  mode : ActionOperationMode
  riskLevel : RiskLevel
  supportsSimulation : Bool
  supportsExecution : Bool
  requiresApproval : Bool

/-- A registered connector: its descriptor, and which entry points it has. -/
structure ConnectorDefinition where
  id : String
  version : String
  supportedResourceTypes : List String
  operations : List ConnectorOperationDescriptor
  hasInvoke : Bool
  hasExecuteMutation : Bool

abbrev ConnectorRegistry := List ConnectorDefinition

def requireDefinition (registry : ConnectorRegistry) (provider : String) : Except Thrown ConnectorDefinition :=
  match registry.find? fun definition => definition.id = provider with
  | some definition => .ok definition
  | none => .error ⟨.unsupportedConnectorError, s!"Unsupported connector provider: {provider}"⟩

def requireOperation (registry : ConnectorRegistry) (provider operation : String) :
    Except Thrown ConnectorOperationDescriptor := do
  let definition ← requireDefinition registry provider
  match definition.operations.find? fun candidate => candidate.operation = operation with
  | some descriptor => return descriptor
  | none =>
    .error ⟨.unsupportedConnectorOperationError,
      s!"Unsupported operation for connector {provider}: {operation}"⟩

structure Resource where
  id : String
  projectId : String
  type : String
  provider : String
  externalRef : Option String
  active : Bool

structure EvaluatedActionPolicy (Json : Type) where
  decision : PolicyDecisionKind
  riskLevel : RiskLevel
  matchedGrantIds : List String
  effectiveConstraints : Json
  normalizedArguments : Json
  resource : Resource
  connector : String
  connectorVersion : String
  pipelineRunId : Option String
  pipelineStageRunId : Option String

structure AgentRunBinding where
  projectId : String
  agentId : String
  pipelineRunId : Option String

/-- What the reads of a fresh authorization see: the agent run of the action, and the policy. -/
structure AuthorizationReads (Json : Type) where
  agentRun : Option AgentRunBinding
  policy : Except Thrown (EvaluatedActionPolicy Json)

def staleAuthorization : Thrown :=
  ⟨.staleActionAuthorizationError, "Action authorization is no longer current"⟩

def agentRunBound (action : ActionRequestProps Json) (agentRun : Option AgentRunBinding) : Bool :=
  action.agentRunId.isNone || agentRun.any fun run =>
    run.projectId = action.projectId && run.agentId = action.agentId &&
      run.pipelineRunId = action.pipelineRunId

def currentPayload (action : ActionRequestProps Json) (current : EvaluatedActionPolicy Json) :
    CanonicalActionPayload Json where
  projectId := action.projectId
  agentId := action.agentId
  resourceId := current.resource.id
  connector := current.connector
  connectorVersion := current.connectorVersion
  operation := action.operation
  normalizedArguments := current.normalizedArguments
  effectiveConstraints := current.effectiveConstraints
  agentRunId := action.agentRunId
  pipelineRunId := current.pipelineRunId
  pipelineStageRunId := current.pipelineStageRunId

/-- Whether the policy still authorizes the action as it did when it was requested. -/
def authorizationCurrent (hashes : Hashes Json) (action : ActionRequestProps Json)
    (definition : ConnectorDefinition) (current : EvaluatedActionPolicy Json) : Bool :=
  current.resource.active && current.resource.projectId = action.projectId &&
    current.resource.provider = definition.id &&
    definition.supportedResourceTypes.contains current.resource.type &&
    current.connector = action.connector && current.connectorVersion = action.connectorVersion &&
    current.decision = action.decision && current.riskLevel = action.riskLevel &&
    current.pipelineRunId = action.pipelineRunId && current.pipelineStageRunId = action.pipelineStageRunId &&
    current.matchedGrantIds = action.matchedGrantIds &&
    hashes.hashCanonicalActionPayload (currentPayload action current) = action.payloadHash &&
    hashes.hashCanonicalActionPayload (ActionRequest.canonicalPayload action) = action.payloadHash

theorem authorizationCurrent_payload {hashes : Hashes Json} {action : ActionRequestProps Json}
    {definition : ConnectorDefinition} {current : EvaluatedActionPolicy Json}
    (fresh : authorizationCurrent hashes action definition current = true) :
    hashes.hashCanonicalActionPayload (ActionRequest.canonicalPayload action) = action.payloadHash := by
  simp only [authorizationCurrent, Bool.and_eq_true, decide_eq_true_eq] at fresh
  exact fresh.2

end AiOffice.Application.Capability
