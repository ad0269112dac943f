import AiOffice.Application.DomainPack.ResolveProjectConfiguration

namespace AiOffice.Application.DomainPack

open Data Domain DomainPackContracts

structure ResolvedStage where
  id : String
  roleId : StableId
  title : Option String
  objective : Option String
  checks : Option (List String)

structure ResolvedWorkflow where
  workflowId : StableId
  effectiveId : EffectiveId
  title : Option String
  description : Option String
  taskTypeId : StableId
  additionalTaskTypeIds : List StableId
  stages : List ResolvedStage
  customization : Option OverrideOperation

structure ResolvedWorkflowReferences where
  workflowId : EffectiveId
  taskTypeId : EffectiveId
  additionalTaskTypeIds : List EffectiveId
  stages : List (String × EffectiveId)

structure ResolvedPolicy extends PolicyClauses where
  policyId : StableId
  effectiveId : EffectiveId
  title : Option String
  description : Option String
  workflowId : StableId
  active : Bool

structure ResolvedKnowledge where
  knowledgeId : StableId
  effectiveId : EffectiveId
  title : Option String
  description : Option String
  guidance : KnowledgeGuidance
  customization : Option OverrideOperation

/-- An artifact type, an evidence type or a validator of a pack. A validator with an adapter reports that its
registration is unchecked. -/
structure ResolvedEvidenceDefinition where
  kind : ContributionKind
  definitionId : StableId
  effectiveId : EffectiveId
  title : Option String
  description : Option String
  typedMembers : List (String × String)
  unchecked : Bool

structure ResolvedRole where
  roleId : StableId
  effectiveId : EffectiveId
  title : Option String
  description : Option String
  responsibilities : Option (List String)
  capabilities : List StableId
  customization : Option OverrideOperation

structure ResolvedAgent where
  agentId : StableId
  effectiveId : EffectiveId
  title : Option String
  description : Option String
  roleId : Option StableId
  prompts : List StableId
  knowledge : List StableId
  capabilities : List StableId
  customization : Option OverrideOperation

/-- The identity of a definition in the namespace of another: of its exact pack, or of the project. -/
def inNamespace (referrer : EffectiveId) (kind : ContributionKind) (localId : String) : EffectiveId :=
  match referrer with
  | .pack pack _ _ => .pack pack kind localId
  | .project _ _ => .project kind localId

inductive Referrer
  | workflow
  | agent
  deriving DecidableEq

def Referrer.noun : Referrer → String
  | workflow => "workflow"
  | agent => "agent"

def resolveReference (source : List ResolvedDefinition) (referrer : ResolvedDefinition) (kind : ContributionKind)
    (localId : String) (from_ : Referrer) : Resolved ResolvedDefinition :=
  let kindName := kind.name
  let noun := from_.noun
  let name := referrer.effectiveId.text
  match findDefinition source (inNamespace referrer.effectiveId kind localId) with
  | none =>
    if 1 < bareCount source kind localId then
      failure .ambiguousReference s!"Bare {kindName}/{localId} crosses pack namespaces in {noun} {name}"
    else
      failure (if from_ = .agent then .missingAgentReference else .missingWorkflowReference)
        s!"Missing {kindName}/{localId} in {noun} {name}"
  | some target =>
    if target.enabled then .ok target
    else failure .disabledRequiredDefinition s!"Disabled {kindName}/{localId} in {noun} {name}"

/-- The views of the enabled definitions of a kind, and the identities of the disabled ones. -/
def viewsOf {View : Type} (noun : String) (view : ResolvedDefinition → Resolved View) :
    List StableId → List ResolvedDefinition → Resolved (List View × List StableId)
  | _, [] => .ok ([], [])
  | seen, definition :: rest => do
    let stable := definition.stableId
    let name := stable.text
    refuseIf (seen.contains stable) .configurationInvariant s!"Duplicate {noun} identity {name}"
    if definition.enabled then
      let first ← view definition
      let others ← viewsOf noun view (stable :: seen) rest
      return (first :: others.1, others.2)
    else
      let others ← viewsOf noun view (stable :: seen) rest
      return (others.1, stable :: others.2)

/-- A workflow with its references. A workflow always names a task type and has stages. -/
def workflowView (source : List ResolvedDefinition) (workflow : ResolvedDefinition) :
    Resolved (ResolvedWorkflowReferences × ResolvedWorkflow) := do
  let payload := workflow.payload
  let taskType ← resolveReference source workflow .taskTypes (payload.taskType.getD "") .workflow
  let additionalTaskTypes ← (payload.additionalTaskTypes.getD []).mapM fun localId =>
    resolveReference source workflow .taskTypes localId .workflow
  let stages ← (payload.stages.getD []).mapM fun stage =>
    (resolveReference source workflow .roles stage.role .workflow).map fun role => (stage, role)
  return (
    { workflowId := workflow.effectiveId
      taskTypeId := taskType.effectiveId
      additionalTaskTypeIds := additionalTaskTypes.map ResolvedDefinition.effectiveId
      stages := stages.map fun stage => (stage.1.id, stage.2.effectiveId) },
    { workflowId := workflow.stableId
      effectiveId := workflow.effectiveId
      title := payload.title
      description := payload.description
      taskTypeId := taskType.stableId
      additionalTaskTypeIds := additionalTaskTypes.map ResolvedDefinition.stableId
      stages := stages.map fun stage =>
        ⟨stage.1.id, stage.2.stableId, stage.1.title, stage.1.objective, stage.1.checks⟩
      customization := workflow.customization })

def stageIdsOf (workflow : ResolvedDefinition) : List String :=
  (workflow.payload.stages.getD []).map WorkflowStageDefinition.id

def violationText (policy workflow : EffectiveId) : PolicyTargetViolation → String
  | .stageMissing stage =>
    let policyName := policy.text
    let workflowName := workflow.text
    s!"Policy {policyName} governs stage {stage}, which workflow {workflowName} does not declare"
  | .separationOrder stage predecessor =>
    let policyName := policy.text
    let workflowName := workflow.text
    s!"Policy {policyName} requires stage {predecessor} before stage {stage} in workflow {workflowName}"

/-- The policy of a workflow of the same pack. The clauses are those of the pack. -/
def policyView (source : List ResolvedDefinition) (definition : ResolvedDefinition) : Resolved ResolvedPolicy :=
  let policyName := definition.effectiveId.text
  let untyped := failure .unsupportedSecurityComposition s!"Policy {policyName} has no typed pack clauses"
  match definition.effectiveId, definition.payload.workflow with
  | .pack pack _ _, some workflow =>
    match findDefinition source (.pack pack .workflows workflow) with
    | none =>
      failure .policyTargetMissing
        s!"Policy {policyName} targets workflows/{workflow}, which its pack does not declare"
    | some target =>
      let view : ResolvedPolicy :=
        { policyClauses definition.payload with
          policyId := definition.stableId
          effectiveId := definition.effectiveId
          title := definition.payload.title
          description := definition.payload.description
          workflowId := target.stableId
          active := target.enabled }
      match target.enabled, policyTargetViolations definition.payload (stageIdsOf target) with
      | true, violation :: _ =>
        failure .policyTargetMissing (violationText definition.effectiveId target.effectiveId violation)
      | _, _ => .ok view
  | _, _ => untyped

def knowledgeView (definition : ResolvedDefinition) : ResolvedKnowledge where
  knowledgeId := definition.stableId
  effectiveId := definition.effectiveId
  title := definition.payload.title
  description := definition.payload.description
  guidance := if definition.isPackOwned then definition.payload.guidance else noGuidance
  customization := definition.customization

def evidenceView (definition : ResolvedDefinition) : ResolvedEvidenceDefinition where
  kind := definition.kind
  definitionId := definition.stableId
  effectiveId := definition.effectiveId
  title := definition.payload.title
  description := definition.payload.description
  typedMembers := definition.payload.typedMembers
  unchecked := definition.kind = .validators && definition.payload.typedMembers.any fun member => member.1 = "adapter"

def roleView (definition : ResolvedDefinition) : ResolvedRole where
  roleId := definition.stableId
  effectiveId := definition.effectiveId
  title := definition.payload.title
  description := definition.payload.description
  responsibilities := definition.payload.responsibilities
  capabilities :=
    match definition.effectiveId with
    | .pack pack _ _ => (definition.payload.capabilities.getD []).map fun capability => .pack pack.id .capabilities capability
    | .project _ _ => []
  customization := definition.customization

def roleOf (source : List ResolvedDefinition) (agent : ResolvedDefinition) : Resolved (Option ResolvedDefinition) :=
  match agent.payload.role with
  | none => .ok none
  | some localId => (resolveReference source agent .roles localId .agent).map some

def requestedCapability (source : List ResolvedDefinition) (agent : ResolvedDefinition)
    (role : Option ResolvedDefinition) (capability : String) : Resolved StableId := do
  let target ← resolveReference source agent .capabilities capability .agent
  let declared := (role.bind fun role => role.payload.capabilities).getD []
  let name := agent.effectiveId.text
  let roleName := match role with
    | none => "(none)"
    | some role =>
      let localId := role.localId
      s!"roles/{localId}"
  refuseIf (!declared.contains capability) .agentCapabilityExceedsRole
    s!"Agent {name} requests capabilities/{capability} outside the declared set of its role {roleName}"
  return target.stableId

def agentReferences (source : List ResolvedDefinition) (agent : ResolvedDefinition) (kind : ContributionKind)
    (references : Option (List String)) : Resolved (List StableId) :=
  (references.getD []).mapM fun localId =>
    (resolveReference source agent kind localId .agent).map ResolvedDefinition.stableId

def agentView (source : List ResolvedDefinition) (agent : ResolvedDefinition) : Resolved ResolvedAgent := do
  let payload := agent.payload
  let role ← roleOf source agent
  let prompts ← agentReferences source agent .prompts payload.prompts
  let knowledge ← agentReferences source agent .knowledge payload.knowledge
  let capabilities ← (payload.capabilities.getD []).mapM (requestedCapability source agent role)
  return {
    agentId := agent.stableId
    effectiveId := agent.effectiveId
    title := payload.title
    description := payload.description
    roleId := role.map ResolvedDefinition.stableId
    prompts, knowledge, capabilities
    customization := agent.customization }

structure AppliedOverride where
  effectiveId : EffectiveId
  operation : OverrideOperation
  revision : Int

structure ConfigurationMaterial where
  coreContractVersion : Int
  bindingRevision : Int
  definitionRevision : Int
  selectedPacks : List PackIdentity
  resolvedPacks : List PackIdentity
  projectOwnedDefinitions : List ResolvedDefinition
  appliedOverrides : List AppliedOverride
  effectiveDefinitions : List (ContributionKind × List ResolvedDefinition)
  origins : List (EffectiveId × DefinitionProvenance)
  disabledDefinitions : List EffectiveId
  resolvedWorkflowReferences : List ResolvedWorkflowReferences

structure ResolvedProjectConfiguration extends ConfigurationMaterial where
  configurationDigest : String
  roles : List ResolvedRole
  omittedRoles : List StableId
  agents : List ResolvedAgent
  disabledAgents : List StableId
  workflows : List ResolvedWorkflow
  disabledWorkflows : List StableId
  capabilities : List ResolvedCapability
  policies : List ResolvedPolicy
  knowledge : List ResolvedKnowledge
  artifactTypes : List ResolvedEvidenceDefinition
  evidenceTypes : List ResolvedEvidenceDefinition
  validators : List ResolvedEvidenceDefinition

structure ConfigurationInput where
  projectId : String
  binding : ProjectPackBinding
  definitions : ProjectDefinitionState
  catalog : InstalledPackCatalog
  coreContractVersion : Int
  providers : OperationProviderCatalog
  bindProviders : Bool

def bindingIssue (issue : CapabilityBindingIssue) : ConfigurationIssue :=
  ⟨match issue.code with
    | .missingRequiredCapabilityProvider => .missingRequiredCapabilityProvider
    | .capabilityProviderMismatch => .capabilityProviderMismatch
    | .configurationInvariant => .configurationInvariant, issue.message⟩

def boundCapabilities (input : ConfigurationInput) (closure : List DomainPackManifest) :
    Resolved (List ResolvedCapability) :=
  if !input.bindProviders then .ok []
  else
    match bindCapabilityContracts closure input.providers with
    | .ok capabilities => .ok capabilities
    | .error (issue :: _) => .error (bindingIssue issue)
    | .error [] => .ok []

/-- The definitions of the packs, those of the project, and the overrides on them, each in one order. -/
structure EffectiveSource where
  closure : List DomainPackManifest
  selected : List PackIdentity
  resolved : List PackIdentity
  owned : List CheckedDefinition
  overrides : List CheckedOverride
  definitions : List ResolvedDefinition

def checkedOrder (entry : CheckedDefinition) : List (List Nat) := [codeUnits entry.kind.name, codeUnits entry.id]

def checkInput (input : ConfigurationInput) : Resolved Unit := do
  refuseIf (input.binding.projectId ≠ input.projectId || input.definitions.projectId ≠ input.projectId ||
      input.coreContractVersion ≠ input.catalog.coreContractVersion)
    .configurationInvariant "Configuration input ownership or core contract mismatch"
  validateRevision input.binding.configurationRevision 0
  validateRevision input.definitions.revision 0

def effectiveSource (input : ConfigurationInput) : Resolved EffectiveSource := do
  checkInput input
  let closure ← (resolveInstalledPackManifests input.catalog input.binding.packs).mapError packFailure
  let selected := sortedPacks input.binding.packs
  let resolved := sortedPacks (closure.map DomainPackManifest.identity)
  refuseIf (!decide input.binding.packs.Nodup) .configurationInvariant "Duplicate selected pack tuple"
  let ofPacks ← resolved.foldlM (addPack closure) []
  let checkedOwned ← input.definitions.owned.mapM storedOwnedDefinition
  let owned := sortOn checkedOrder checkedOwned
  let withOwned ← owned.foldlM addOwned ofPacks
  let checkedOverrides ← input.definitions.overrides.mapM storedOverride
  let overrides := sortOn (fun entry => sourceOrder entry.source) checkedOverrides
  let definitions ← overrides.foldlM (applyOverride selected) withOwned
  return { closure, selected, resolved, owned, overrides, definitions }

def EffectiveSource.sorted (source : EffectiveSource) : List ResolvedDefinition :=
  sortOn (fun definition => effectiveOrder definition.effectiveId) source.definitions

def EffectiveSource.ofKind (source : EffectiveSource) (kind : ContributionKind) : List ResolvedDefinition :=
  source.sorted.filter fun definition => definition.kind = kind

def EffectiveSource.evidence (source : EffectiveSource) (kind : ContributionKind) : List ResolvedEvidenceDefinition :=
  ((source.ofKind kind).filter ResolvedDefinition.isPackOwned).map evidenceView

def EffectiveSource.material (source : EffectiveSource) (input : ConfigurationInput)
    (references : List ResolvedWorkflowReferences) : ConfigurationMaterial where
  coreContractVersion := input.coreContractVersion
  bindingRevision := input.binding.configurationRevision
  definitionRevision := input.definitions.revision
  selectedPacks := source.selected
  resolvedPacks := source.resolved
  projectOwnedDefinitions := source.owned.map CheckedDefinition.resolved
  appliedOverrides := source.overrides.map fun entry =>
    ⟨.pack entry.source.toDomainPackDependency entry.source.kind entry.source.localId, entry.operation, entry.revision⟩
  effectiveDefinitions := contributionKinds.map fun kind => (kind, source.ofKind kind)
  origins := source.sorted.map fun definition => (definition.effectiveId, definition.provenance)
  disabledDefinitions :=
    (source.sorted.filter fun definition => !definition.enabled).map ResolvedDefinition.effectiveId
  resolvedWorkflowReferences := references

/-- The configuration that the packs, the definitions and the overrides of a project come to. -/
def resolveProjectConfiguration (digest : ConfigurationMaterial → Option String) (input : ConfigurationInput) :
    Resolved ResolvedProjectConfiguration := do
  let source ← effectiveSource input
  let workflows ← viewsOf "workflow" (workflowView source.definitions) [] (source.ofKind .workflows)
  let policies ← (source.ofKind .policies).mapM (policyView source.definitions)
  let roles ← viewsOf "role" (fun definition => .ok (roleView definition)) [] (source.ofKind .roles)
  let agents ← viewsOf "agent" (agentView source.definitions) [] (source.ofKind .agents)
  let capabilities ← boundCapabilities input source.closure
  let material := source.material input (workflows.1.map Prod.fst)
  match digest material with
  | none => invariant "Configuration digest could not be computed"
  | some configurationDigest => return {
      material with
      configurationDigest
      roles := roles.1
      omittedRoles := roles.2
      agents := agents.1
      disabledAgents := agents.2
      workflows := workflows.1.map Prod.snd
      disabledWorkflows := workflows.2
      capabilities, policies
      knowledge := (source.ofKind .knowledge).map knowledgeView
      artifactTypes := source.evidence .artifactTypes
      evidenceTypes := source.evidence .evidenceTypes
      validators := source.evidence .validators }

end AiOffice.Application.DomainPack
