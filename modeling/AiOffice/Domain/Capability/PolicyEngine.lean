import AiOffice.Domain.CanonicalJson
import AiOffice.Domain.Capability.ActionRequest

namespace AiOffice.Domain.Capability

open Data

def RiskLevel.text : RiskLevel → String
  | .low => "low"
  | .medium => "medium"
  | .high => "high"
  | .critical => "critical"

/-- A date as it is compared: `none` is the invalid date. -/
abbrev DateValue := Option Date

namespace PolicyEngine

inductive ResourceType
  | filesystemScope
  | githubRepository
  | sqliteDatabase
  | shellEnvironment
  deriving DecidableEq

def ResourceType.text : ResourceType → String
  | .filesystemScope => "filesystem_scope"
  | .githubRepository => "github_repository"
  | .sqliteDatabase => "sqlite_database"
  | .shellEnvironment => "shell_environment"

inductive ResourceStatus
  | active
  | disabled
  deriving DecidableEq

structure Resource where
  id : String
  projectId : String
  type : ResourceType
  provider : String
  externalRef : Option String
  configuration : Record
  status : ResourceStatus

inductive CapabilityPrincipalType
  | user
  | agent
  | role
  | workflow
  | application
  deriving DecidableEq

structure CapabilityGrant where
  id : String
  projectId : String
  principalType : CapabilityPrincipalType
  principalId : String
  resourceId : String
  actions : List String
  constraints : Record
  validFrom : DateValue
  expiresAt : Option DateValue
  revokedAt : Option DateValue

structure PolicyInput where
  projectId : String
  agentId : String
  roleIds : List String
  resource : Resource
  operation : String
  arguments : Record
  grants : List CapabilityGrant

structure PolicyDecision where
  decision : PolicyDecisionKind
  riskLevel : RiskLevel
  matchedGrantIds : List String
  effectiveConstraints : Value
  reasons : List String

structure ConnectorConstraintResult where
  ok : Bool
  effectiveConstraints : Value
  reasons : List String

/-- Combines the constraints of grants for an operation on a resource, and checks its arguments. -/
abbrev ConnectorConstraintEvaluator := String → Record → List Record → Record → ConnectorConstraintResult

structure PolicyOperationDescriptor where
  operation : String
  mode : ActionOperationMode
  riskLevel : RiskLevel
  supportsSimulation : Bool
  supportsExecution : Bool
  requiresApproval : Bool

structure PolicyConnectorDescriptor where
  id : String
  version : String
  supportedResourceTypes : List ResourceType
  operations : List PolicyOperationDescriptor

structure ConnectorPolicyDefinition where
  descriptor : PolicyConnectorDescriptor
  combineAndValidate : ConnectorConstraintEvaluator

abbrev ConnectorPolicyRegistry := String → Option ConnectorPolicyDefinition

def denied (reason : String) (riskLevel : RiskLevel := .critical) : PolicyDecision where
  decision := .deny
  riskLevel
  matchedGrantIds := []
  effectiveConstraints := .object []
  reasons := [reason]

def isPrincipalMatch (grant : CapabilityGrant) (input : PolicyInput) : Bool :=
  if grant.principalType = .agent then grant.principalId = input.agentId
  else grant.principalType = .role && input.roleIds.contains grant.principalId

def actionMatches (action operation : String) (risk : RiskLevel) : Bool :=
  let pattern := action.toList
  let requested := operation.toList
  if action = operation then true
  else if risk = .critical then false
  else if !(".*".toList.isSuffixOf pattern) || pattern.idxOf '*' ≠ pattern.length - 1 then false
  else pattern.dropLast.isPrefixOf requested && decide (requested.length > pattern.length - 1)

def finite (date : Option DateValue) : Bool := date.all Option.isSome

def grantMatches (input : PolicyInput) (riskLevel : RiskLevel) (evaluatedAt : Date) (grant : CapabilityGrant) : Bool :=
  if grant.projectId ≠ input.projectId ∨ grant.resourceId ≠ input.resource.id then false
  else if !isPrincipalMatch grant input then false
  else if !finite (some grant.validFrom) || !finite grant.expiresAt then false
  else if grant.revokedAt.isSome || grant.validFrom.any fun validFrom => evaluatedAt < validFrom then false
  else if grant.expiresAt.join.any fun expiresAt => expiresAt ≤ evaluatedAt then false
  else grant.actions.any fun action => actionMatches action input.operation riskLevel

def decideMatching (input : PolicyInput) (definition : ConnectorPolicyDefinition)
    (descriptor : PolicyOperationDescriptor) (matching : List CapabilityGrant) : PolicyDecision :=
  let riskLevel := descriptor.riskLevel
  if matching.isEmpty then denied "no valid grant permits the operation" riskLevel
  else
    let constraintResult := definition.combineAndValidate input.operation input.arguments
      (matching.map (·.constraints)) input.resource.configuration
    let matchedGrantIds := sort (matching.map (·.id))
    if !constraintResult.ok then
      { decision := .deny
        riskLevel
        matchedGrantIds
        effectiveConstraints := constraintResult.effectiveConstraints
        reasons := constraintResult.reasons }
    else
      let decision : PolicyDecisionKind :=
        if descriptor.requiresApproval then .allowWithApproval
        else if descriptor.supportsSimulation && descriptor.mode = .mutation then .allowSimulationOnly
        else .allow
      { decision
        riskLevel
        matchedGrantIds
        effectiveConstraints := constraintResult.effectiveConstraints
        reasons := [s!"operation risk is {riskLevel.text}"] ++
          (if decision = .allowSimulationOnly then ["simulation is required"] else []) ++
          (if decision = .allowWithApproval then ["approval is required"] else []) }

def evaluate (registry : ConnectorPolicyRegistry) (input : PolicyInput) (evaluatedAt : DateValue) : PolicyDecision :=
  if input.projectId ≠ input.resource.projectId then denied "resource belongs to a different project"
  else if input.resource.status = .disabled then denied "resource is disabled"
  else match registry input.resource.provider with
  | none => denied s!"unsupported connector: {input.resource.provider}"
  | some definition =>
    let connector := definition.descriptor
    if input.resource.type ∉ connector.supportedResourceTypes then
      let type := input.resource.type.text
      denied s!"resource type {type} is not supported by connector {connector.id}"
    else match connector.operations.find? fun candidate => candidate.operation = input.operation with
    | none => denied s!"unsupported operation: {input.operation}"
    | some descriptor =>
      match evaluatedAt with
      | none => denied "policy evaluation time is invalid" descriptor.riskLevel
      | some evaluatedAt =>
        match normalizeCanonicalJson (.object input.arguments) with
        | .error _ => denied "action arguments are not canonically serializable" descriptor.riskLevel
        | .ok _ =>
          decideMatching input definition descriptor
            (input.grants.filter (grantMatches input descriptor.riskLevel evaluatedAt))

/-- What a decision binds a request to: all of it but the texts that explain it. -/
structure Agrees (first second : PolicyDecision) : Prop where
  decision : first.decision = second.decision
  riskLevel : first.riskLevel = second.riskLevel
  matchedGrantIds : first.matchedGrantIds = second.matchedGrantIds
  effectiveConstraints : first.effectiveConstraints = second.effectiveConstraints

theorem Agrees.refl (decision : PolicyDecision) : Agrees decision decision := ⟨rfl, rfl, rfl, rfl⟩

/-- A constraint handler that gives the same constraints, and as much permission, in every order of the grants. -/
def OrderFree (handler : ConnectorConstraintEvaluator) : Prop :=
  ∀ (operation : String) (arguments_ : Record) {values others : List Record} (configuration : Record), values.Perm others →
    (handler operation arguments_ values configuration).ok = (handler operation arguments_ others configuration).ok ∧
      (handler operation arguments_ values configuration).effectiveConstraints =
        (handler operation arguments_ others configuration).effectiveConstraints

variable {input : PolicyInput} {definition : ConnectorPolicyDefinition} {descriptor : PolicyOperationDescriptor}
  {registry : ConnectorPolicyRegistry} {grants matching others : List CapabilityGrant} {riskLevel : RiskLevel}

theorem decideMatching_perm (free : OrderFree definition.combineAndValidate) (reordered : matching.Perm others) :
    Agrees (decideMatching input definition descriptor matching) (decideMatching input definition descriptor others) := by
  obtain ⟨sameOk, sameConstraints⟩ :=
    free input.operation input.arguments input.resource.configuration (reordered.map (·.constraints))
  have sameIds : sort (matching.map (·.id)) = sort (others.map (·.id)) :=
    sortOn_eq codeUnits_injective (reordered.map (·.id))
  have sameEmpty : matching.isEmpty = others.isEmpty := by
    rw [Bool.eq_iff_iff, List.isEmpty_iff, List.isEmpty_iff]
    exact ⟨fun empty => List.nil_perm.mp (empty ▸ reordered), fun empty => List.perm_nil.mp (empty ▸ reordered)⟩
  simp only [decideMatching, sameEmpty, sameOk, sameIds, sameConstraints]
  split
  · exact .refl _
  · split <;> exact ⟨rfl, rfl, rfl, rfl⟩

theorem evaluate_perm
    (free : ∀ definition, registry input.resource.provider = some definition →
      OrderFree definition.combineAndValidate)
    (reordered : input.grants.Perm grants) (evaluatedAt : DateValue) :
    Agrees (evaluate registry input evaluatedAt) (evaluate registry { input with grants } evaluatedAt) := by
  simp only [evaluate]
  split
  · exact .refl _
  split
  · exact .refl _
  cases found : registry input.resource.provider with
  | none => exact .refl _
  | some definition =>
    dsimp only
    split
    · exact .refl _
    cases definition.descriptor.operations.find? fun candidate => candidate.operation = input.operation with
    | none => exact .refl _
    | some descriptor =>
      cases evaluatedAt with
      | none => exact .refl _
      | some evaluatedAt =>
        cases normalizeCanonicalJson (.object input.arguments) with
        | error thrown => exact .refl _
        | ok normalized => exact decideMatching_perm (free definition found) (reordered.filter _)

end PolicyEngine

end AiOffice.Domain.Capability
