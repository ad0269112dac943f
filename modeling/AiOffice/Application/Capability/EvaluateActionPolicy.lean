import AiOffice.Application.Capability.Binding
import AiOffice.Connector.FilesystemConstraints.Combination

namespace AiOffice.Application.Capability

open Data Domain Domain.Capability Connector

structure PipelineAuthorizationDecision where
  allowed : Bool
  reasons : List String
  pipelineRunId : Option String
  pipelineStageRunId : Option String

structure PolicyAgent where
  id : String
  projectId : String
  roleId : String
  enabled : Bool

/-- What an evaluation of the policy reads: rows, the connectors, the arguments as the connector of the resource
normalizes them, and the decision of the pipeline. -/
structure PolicyReads where
  resource : Option PolicyEngine.Resource
  agent : Option PolicyAgent
  roleId : Option String
  connectors : PolicyEngine.ConnectorPolicyRegistry
  normalizedArguments : Except Thrown Record
  grants : List PolicyEngine.CapabilityGrant
  pipeline : Except Thrown PipelineAuthorizationDecision
  now : DateValue

structure PolicyQuestion where
  projectId : String
  agentId : String
  resourceId : String
  operation : String
  evaluatedAt : Option DateValue

namespace EvaluateActionPolicy

def principalNotFound (type id : String) : Thrown :=
  ⟨.capabilityPrincipalNotFoundError, s!"Capability principal not found in project: {type}:{id}"⟩

def requiredText (value field : String) : Except Thrown String :=
  if trim value = "" then .error ⟨.capabilityValidationError, s!"{field} cannot be empty"⟩ else .ok (trim value)

def loadResource (input : PolicyQuestion) (reads : PolicyReads) : Except Thrown PolicyEngine.Resource :=
  match reads.resource with
  | none => .error ⟨.resourceNotFoundError, s!"Resource not found: {input.resourceId}"⟩
  | some resource =>
    if resource.projectId ≠ input.projectId then
      .error ⟨.capabilityProjectMismatchError, "Capability reference belongs to a different project"⟩
    else .ok resource

def loadAgent (input : PolicyQuestion) (reads : PolicyReads) : Except Thrown PolicyAgent :=
  match reads.agent with
  | none => .error (principalNotFound "agent" input.agentId)
  | some agent =>
    if agent.projectId ≠ input.projectId ∨ !agent.enabled then .error (principalNotFound "agent" input.agentId)
    else .ok agent

def underPipeline (base : PolicyEngine.PolicyDecision) (pipeline : PipelineAuthorizationDecision) :
    PolicyEngine.PolicyDecision :=
  if pipeline.allowed then base
  else { base with decision := .deny, reasons := base.reasons ++ pipeline.reasons }

def evaluated (decision : PolicyEngine.PolicyDecision) (pipeline : PipelineAuthorizationDecision)
    (resource : PolicyEngine.Resource) (normalizedArguments : Record)
    (connector : PolicyEngine.PolicyConnectorDescriptor) : EvaluatedActionPolicy Value where
  decision := decision.decision
  riskLevel := decision.riskLevel
  matchedGrantIds := decision.matchedGrantIds
  effectiveConstraints := decision.effectiveConstraints
  normalizedArguments := .object normalizedArguments
  resource := {
    id := resource.id
    projectId := resource.projectId
    type := resource.type.text
    provider := resource.provider
    externalRef := resource.externalRef
    active := resource.status = .active }
  connector := connector.id
  connectorVersion := connector.version
  pipelineRunId := pipeline.pipelineRunId
  pipelineStageRunId := pipeline.pipelineStageRunId

def execute (input : PolicyQuestion) (reads : PolicyReads) : Except Thrown (EvaluatedActionPolicy Value) := do
  let resource ← loadResource input reads
  let agent ← loadAgent input reads
  match reads.roleId with
  | none => .error (principalNotFound "role" agent.roleId)
  | some roleId =>
    match reads.connectors resource.provider with
    | none => .error ⟨.unsupportedConnectorError, s!"Unsupported connector provider: {resource.provider}"⟩
    | some definition =>
      let operation ← requiredText input.operation "operation"
      let normalizedArguments ← reads.normalizedArguments
      let baseDecision := PolicyEngine.evaluate reads.connectors
        { projectId := input.projectId
          agentId := agent.id
          roleIds := [roleId]
          resource
          operation
          arguments := normalizedArguments
          grants := reads.grants }
        (input.evaluatedAt.getD reads.now)
      let pipeline ← reads.pipeline
      return evaluated (underPipeline baseDecision pipeline) pipeline resource normalizedArguments
        definition.descriptor

theorem underPipeline_agrees {first second : PolicyEngine.PolicyDecision} (agrees : PolicyEngine.Agrees first second)
    (pipeline : PipelineAuthorizationDecision) :
    PolicyEngine.Agrees (underPipeline first pipeline) (underPipeline second pipeline) := by
  unfold underPipeline
  split
  · exact agrees
  · exact { agrees with decision := rfl }

theorem evaluated_eq {first second : PolicyEngine.PolicyDecision} (agrees : PolicyEngine.Agrees first second)
    (pipeline : PipelineAuthorizationDecision) (resource : PolicyEngine.Resource) (normalizedArguments : Record)
    (connector : PolicyEngine.PolicyConnectorDescriptor) :
    evaluated first pipeline resource normalizedArguments connector =
      evaluated second pipeline resource normalizedArguments connector := by
  simp only [evaluated, agrees.decision, agrees.riskLevel, agrees.matchedGrantIds, agrees.effectiveConstraints]

/-- Every provider that has a policy definition has the filesystem constraint handler. -/
def FilesystemHandled (registry : PolicyEngine.ConnectorPolicyRegistry) : Prop :=
  ∀ provider definition, registry provider = some definition →
    definition.combineAndValidate = Filesystem.combineAndValidate

theorem FilesystemHandled.agrees {registry : PolicyEngine.ConnectorPolicyRegistry} (handled : FilesystemHandled registry)
    {grants : List PolicyEngine.CapabilityGrant} (input : PolicyEngine.PolicyInput)
    (reordered : input.grants.Perm grants) (evaluatedAt : DateValue) :
    PolicyEngine.Agrees (PolicyEngine.evaluate registry input evaluatedAt)
      (PolicyEngine.evaluate registry { input with grants } evaluatedAt) := by
  refine PolicyEngine.evaluate_perm (fun definition found => ?_) reordered evaluatedAt
  rw [handled _ definition found]
  exact Filesystem.combineAndValidate_orderFree

theorem execute_perm {input : PolicyQuestion} {reads : PolicyReads} {grants : List PolicyEngine.CapabilityGrant}
    (handled : FilesystemHandled reads.connectors) (reordered : reads.grants.Perm grants) :
    execute input reads = execute input { reads with grants } := by
  simp only [execute]
  refine congrArg (Bind.bind _) (funext fun resource => congrArg (Bind.bind _) (funext fun agent => ?_))
  cases reads.roleId with
  | none => rfl
  | some roleId =>
    cases reads.connectors resource.provider with
    | none => rfl
    | some definition =>
      refine congrArg (Bind.bind _) (funext fun operation => congrArg (Bind.bind _) (funext fun normalized => ?_))
      refine congrArg (Bind.bind _) (funext fun pipeline => ?_)
      have agrees := handled.agrees
        { projectId := input.projectId, agentId := agent.id, roleIds := [roleId], resource, operation,
          arguments := normalized, grants := reads.grants }
        reordered (input.evaluatedAt.getD reads.now)
      exact congrArg Except.ok (evaluated_eq (underPipeline_agrees agrees pipeline) pipeline _ _ _)

end EvaluateActionPolicy

open EvaluateActionPolicy in
/-- The policy decides, and a fresh authorization computes the hash of the payload, without regard to the order
of the grants. -/
theorem policy_ignores_grant_order {registry : PolicyEngine.ConnectorPolicyRegistry}
    (handled : FilesystemHandled registry) :
    (∀ (input : PolicyEngine.PolicyInput) (grants : List PolicyEngine.CapabilityGrant) (evaluatedAt : DateValue),
      input.grants.Perm grants →
        PolicyEngine.Agrees (PolicyEngine.evaluate registry input evaluatedAt)
          (PolicyEngine.evaluate registry { input with grants } evaluatedAt)) ∧
    ∀ (question : PolicyQuestion) (reads : PolicyReads) (grants : List PolicyEngine.CapabilityGrant)
        (hashes : Hashes Value) (action : ActionRequestProps Value) (definition : ConnectorDefinition),
      reads.connectors = registry → reads.grants.Perm grants →
        (execute question reads).map (fun current =>
            (hashes.hashCanonicalActionPayload (currentPayload action current),
              authorizationCurrent hashes action definition current)) =
          (execute question { reads with grants }).map fun current =>
            (hashes.hashCanonicalActionPayload (currentPayload action current),
              authorizationCurrent hashes action definition current) := by
  constructor
  · intro input grants evaluatedAt reordered
    exact handled.agrees input reordered evaluatedAt
  · intro question reads grants hashes action definition same reordered
    rw [execute_perm (same ▸ handled) reordered]

def readRegistry : PolicyEngine.ConnectorPolicyRegistry := fun provider =>
  if provider = "filesystem" then
    some {
      descriptor := {
        id := "filesystem"
        version := "2"
        supportedResourceTypes := [.filesystemScope]
        operations := [⟨"filesystem.read", .read, .low, false, false, false⟩] }
      combineAndValidate := Filesystem.combineAndValidate }
  else none

def readGrant (id folder : String) : PolicyEngine.CapabilityGrant where
  id
  projectId := "project"
  principalType := .agent
  principalId := "agent"
  resourceId := "resource"
  actions := ["filesystem.*"]
  constraints := [("allowedPathPrefixes", .array [.string folder])]
  validFrom := some 0
  expiresAt := none
  revokedAt := none

def readQuestion : PolicyEngine.PolicyInput where
  projectId := "project"
  agentId := "agent"
  roleIds := ["role"]
  resource := ⟨"resource", "project", .filesystemScope, "filesystem", none, [], .active⟩
  operation := "filesystem.read"
  arguments := [("path", .string "src/app/main.ts")]
  grants := [readGrant "wide" "src", readGrant "narrow" "src/app"]

theorem policy_ignores_grant_order_read :
    PolicyEngine.Agrees (PolicyEngine.evaluate readRegistry readQuestion (some 1))
      (PolicyEngine.evaluate readRegistry
        { readQuestion with grants := [readGrant "narrow" "src/app", readGrant "wide" "src"] } (some 1)) ∧
    (PolicyEngine.evaluate readRegistry readQuestion (some 1)).decision = .allow := by
  refine ⟨(policy_ignores_grant_order ?_).1 readQuestion _ (some 1) (.swap _ _ _), by rfl⟩
  intro provider definition found
  simp only [readRegistry] at found
  split at found
  · cases found; rfl
  · cases found

end AiOffice.Application.Capability
