import AiOffice.Application.DomainPack.ManageProjectDefinitions
import AiOffice.Application.DomainPack.PolicyClauses
import AiOffice.Application.DomainPack.ResolveInstalledPacks

namespace AiOffice.Application.DomainPack

open Data Domain DomainPackContracts

structure OperationProvider where
  id : String
  version : String
  operations : List CapabilityOperation

abbrev OperationProviderCatalog := Option (List OperationProvider)

def noOperationProviders : OperationProviderCatalog := some []

inductive CapabilityBindingIssueCode
  | missingRequiredCapabilityProvider
  | capabilityProviderMismatch
  | configurationInvariant
  deriving DecidableEq

structure CapabilityBindingIssue where
  code : CapabilityBindingIssueCode
  message : String

/-- An operation with the id and the version of the provider that it is bound to. -/
structure ResolvedCapabilityOperation extends CapabilityOperation where
  provider : Option (String × String)

structure ResolvedCapability where
  capabilityId : StableId
  requirement : Option CapabilityRequirement
  operations : List ResolvedCapabilityOperation

structure Offer where
  operation : String
  provider : String × String
  mode : OperationMode

def unreadableProviders : CapabilityBindingIssue :=
  ⟨.configurationInvariant, "Operation provider catalog could not be read"⟩

def repeatedOperation : CapabilityBindingIssue :=
  ⟨.configurationInvariant, "Operation provider catalog lists an operation more than once"⟩

def offers : OperationProviderCatalog → Except CapabilityBindingIssue (List Offer)
  | none => .error unreadableProviders
  | some providers =>
    let listed := providers.flatMap fun provider => provider.operations.map fun entry =>
      { operation := entry.operation, provider := (provider.id, provider.version), mode := entry.mode : Offer }
    if (listed.map Offer.operation).Nodup then .ok listed else .error repeatedOperation

def declaredCapabilities (closure : List DomainPackManifest) : List (PackIdentity × Contribution) :=
  sortOn (fun item => ([codeUnits item.1.id, codeUnits item.2.localId] : List (List Nat)))
    (closure.flatMap fun manifest => (manifest.contributions .capabilities).map fun item => (manifest.identity, item))

def bindOperation (available : List Offer) (pack : PackIdentity) (capability : Contribution)
    (entry : CapabilityOperation) : ResolvedCapabilityOperation × List CapabilityBindingIssue :=
  let packId := pack.id
  let version := pack.version
  let localId := capability.localId
  let operation := entry.operation
  let subject := s!"Pack {packId}@{version} capability capabilities/{localId}"
  match available.find? fun offer => offer.operation = entry.operation with
  | some offer =>
    if offer.mode = entry.mode then (⟨entry, some offer.provider⟩, [])
    else (⟨entry, none⟩, [⟨.capabilityProviderMismatch,
      s!"{subject} declares operation {operation} in a mode that differs from its registered provider"⟩])
  | none =>
    if capability.requirement ≠ some .optional then (⟨entry, none⟩, [⟨.missingRequiredCapabilityProvider,
      s!"{subject} requires operation {operation}, which no registered provider offers"⟩])
    else (⟨entry, none⟩, [])

/-- Every capability of a closure with its operations bound, or the issues of those that cannot be. -/
def bindCapabilityContracts (closure : List DomainPackManifest) (providers : OperationProviderCatalog) :
    Except (List CapabilityBindingIssue) (List ResolvedCapability) :=
  let declared := declaredCapabilities closure
  let available := if declared.any fun item => item.2.operations.isSome then offers providers else .ok []
  match available with
  | .error issue => .error [issue]
  | .ok available =>
    let bound := declared.map fun item =>
      (item, (item.2.operations.getD []).map (bindOperation available item.1 item.2))
    let issues := bound.flatMap fun item => item.2.flatMap Prod.snd
    if issues.isEmpty then .ok (bound.map fun item =>
      ⟨.pack item.1.1.id .capabilities item.1.2.localId, item.1.2.requirement, item.2.map Prod.fst⟩)
    else .error issues

end AiOffice.Application.DomainPack

namespace AiOffice.Application.DomainPack

open Data Domain DomainPackContracts

inductive ConfigurationIssueCode
  | packUnavailable
  | packDependencyFailure
  | bindingSourceMismatch
  | unresolvedOverride
  | duplicateEffectiveDefinition
  | missingWorkflowReference
  | missingAgentReference
  | ambiguousReference
  | disabledRequiredDefinition
  | agentCapabilityExceedsRole
  | unsupportedSecurityComposition
  | policyTargetMissing
  | missingRequiredCapabilityProvider
  | capabilityProviderMismatch
  | configurationInvariant
  | staleResolution
  deriving DecidableEq

structure ConfigurationIssue where
  code : ConfigurationIssueCode
  message : String

/-- What the resolution of a configuration returns, or the issue that it throws. -/
abbrev Resolved (Result : Type) := Except ConfigurationIssue Result

def failure {Result : Type} (code : ConfigurationIssueCode) (message : String) : Resolved Result :=
  .error ⟨code, message⟩

def invariant {Result : Type} (message : String) : Resolved Result := failure .configurationInvariant message

def refuseIf (condition : Bool) (code : ConfigurationIssueCode) (message : String) : Resolved Unit :=
  if condition then failure code message else .ok ()

structure ProjectPackBinding where
  projectId : String
  configurationRevision : Int
  packs : List PackIdentity

/-- Where a definition comes from. Its identity says of which pack it is. -/
inductive DefinitionProvenance
  | packOwned (override : Option (OverrideOperation × Int))
  | projectOwned (revision : Int)

def DefinitionProvenance.operation : DefinitionProvenance → Option OverrideOperation
  | packOwned override => override.map Prod.fst
  | projectOwned _ => none

/-- A definition of the configuration. Its identity holds its kind and its local id. -/
structure ResolvedDefinition where
  effectiveId : EffectiveId
  enabled : Bool
  payload : Definition
  provenance : DefinitionProvenance

namespace ResolvedDefinition

variable (definition : ResolvedDefinition)

def kind : ContributionKind := definition.effectiveId.kind

def localId : String := definition.effectiveId.localId

def stableId : StableId := definition.effectiveId.stable

def customization : Option OverrideOperation := definition.provenance.operation.filter fun operation => operation ≠ .disable

def isPackOwned : Bool :=
  match definition.provenance with
  | .packOwned _ => true
  | .projectOwned _ => false

end ResolvedDefinition

def isPackFailureOfDependency (code : CatalogErrorCode) : Bool :=
  [CatalogErrorCode.missingDependency, .dependencyDigestMismatch, .dependencyCycle, .duplicateConflict, .versionConflict,
    .malformedDependencyGraph].contains code

def packFailure (thrown : CatalogError) : ConfigurationIssue :=
  let code := thrown.code.name
  ⟨if isPackFailureOfDependency thrown.code then .packDependencyFailure else .packUnavailable,
    s!"Exact pack resolution failed: {code}"⟩

def validateRevision (value minimum : Int) : Resolved Unit :=
  refuseIf (!isSafeInteger value || value < minimum) .configurationInvariant "Invalid source revision"

def DefinitionIssueCode.name : DefinitionIssueCode → String
  | malformedOriginReference => "malformed_origin_reference"
  | conflictingOwnershipMetadata => "conflicting_ownership_metadata"
  | duplicateProjectDefinition => "duplicate_project_definition"
  | duplicateOverrideTarget => "duplicate_override_target"
  | packDefinitionCollision => "pack_definition_collision"
  | sourcePackNotSelected => "source_pack_not_selected"
  | sourceDefinitionMissing => "source_definition_missing"
  | sourceDigestMismatch => "source_digest_mismatch"
  | sourceUntrusted => "source_untrusted"
  | sourceIncompatibleCore => "source_incompatible_core"
  | sourceIncompatibleContract => "source_incompatible_contract"
  | sourceDependencyUnavailable => "source_dependency_unavailable"
  | sourceDependencyConflict => "source_dependency_conflict"
  | unsupportedOverrideOperation => "unsupported_override_operation"
  | protectedSecurityInvariant => "protected_security_invariant"
  | agentCapabilityExceedsRole => "agent_capability_exceeds_role"
  | policyTargetMissing => "policy_target_missing"
  | sourceUnavailable => "source_unavailable"

/-- A stored definition of the project once it was checked again. -/
structure CheckedDefinition where
  kind : ContributionKind
  id : String
  enabled : Bool
  payload : DefinitionPayload
  revision : Int

structure CheckedOverride where
  source : ExactPackDefinitionSource
  operation : OverrideOperation
  payload : Option DefinitionPayload
  revision : Int

def storedOwnedDefinition (entry : ProjectOwnedDefinition) : Resolved CheckedDefinition := do
  let kindName := entry.kind.name
  refuseIf (!projectOwnedKinds.contains entry.kind) .unsupportedSecurityComposition
    s!"Project definition kind {kindName} has no schema-1 ownership contract"
  validateRevision entry.revision 1
  match parseDefinitionMutation (mutationValue (.putOwned entry.kind entry.id entry.payload entry.enabled none)) with
  | .ok (.putOwned kind id payload enabled _) => return ⟨kind, id, enabled, payload, entry.revision⟩
  | .ok _ => invariant "unreachable"
  | .error thrown =>
    let code := thrown.code.name
    invariant s!"Stored project definition violates the definition contract: {code}"

def storedOverride (entry : ProjectDefinitionOverride) : Resolved CheckedOverride :=
  match parseDefinitionMutation (mutationValue (.putOverride entry.source entry.operation entry.payload none)) with
  | .ok (.putOverride source operation payload _) => do
    validateRevision entry.revision 1
    return ⟨source, operation, payload, entry.revision⟩
  | .ok _ => invariant "unreachable"
  | .error thrown =>
    let code := thrown.code.name
    let message := thrown.message
    failure .unresolvedOverride s!"Stored override violates the override contract: {code}: {message}"

def findDefinition (source : List ResolvedDefinition) (effectiveId : EffectiveId) : Option ResolvedDefinition :=
  source.find? fun definition => definition.effectiveId = effectiveId

def bareCount (source : List ResolvedDefinition) (kind : ContributionKind) (localId : String) : Nat :=
  source.countP fun definition => definition.kind = kind && definition.localId = localId

def addDefinition (source : List ResolvedDefinition) (definition : ResolvedDefinition) :
    Resolved (List ResolvedDefinition) :=
  let name := definition.effectiveId.text
  if (findDefinition source definition.effectiveId).isSome then
    failure .duplicateEffectiveDefinition s!"Duplicate effective definition {name}"
  else .ok (source ++ [definition])

def packDefinitions (pack : PackIdentity) (manifest : DomainPackManifest) : List ResolvedDefinition :=
  contributionKinds.flatMap fun kind => (manifest.contributions kind).map fun item =>
    ⟨.pack pack kind item.localId, true, item.toDefinition, .packOwned none⟩

def manifestOf (closure : List DomainPackManifest) (pack : PackIdentity) : Option DomainPackManifest :=
  closure.reverse.find? fun manifest => manifest.identity = pack

def addPack (closure : List DomainPackManifest) (source : List ResolvedDefinition) (pack : PackIdentity) :
    Resolved (List ResolvedDefinition) :=
  match manifestOf closure pack with
  | none => invariant "Verified pack artifact was not captured"
  | some manifest => do
    let id := pack.id
    let version := pack.version
    refuseIf ((manifest.contributions .policies).any fun policy => policy.workflow.isNone)
      .unsupportedSecurityComposition s!"Pack {id}@{version} has schema-1 policy declarations without typed clauses"
    (packDefinitions pack manifest).foldlM addDefinition source

def CheckedDefinition.resolved (entry : CheckedDefinition) : ResolvedDefinition :=
  ⟨.project entry.kind entry.id, entry.enabled, entry.payload.definition, .projectOwned entry.revision⟩

def addOwned (source : List ResolvedDefinition) (entry : CheckedDefinition) : Resolved (List ResolvedDefinition) := do
  let kindName := entry.kind.name
  let id := entry.id
  refuseIf (findDefinition source (.project entry.kind entry.id)).isSome .duplicateEffectiveDefinition
    s!"Duplicate project definition {kindName}/{id}"
  refuseIf (bareCount source entry.kind entry.id ≠ 0) .duplicateEffectiveDefinition
    s!"Project definition {kindName}/{id} collides with the resolved pack closure"
  addDefinition source entry.resolved

/-- A replacement has the keys of its payload. The capabilities of a role, the guidance of knowledge and the typed
members of artifact and evidence types stay those of the pack. -/
def replaceDefinition (kind : ContributionKind) (current : Definition) (payload : DefinitionPayload) : Definition :=
  { payload.definition with
    capabilities := if kind = .roles then current.capabilities.or payload.capabilities else payload.capabilities
    guidance := if kind = .knowledge then current.guidance else noGuidance
    typedMembers := if kind = .artifactTypes ∨ kind = .evidenceTypes then current.typedMembers else [] }

/-- An extension has the keys of its payload over those of the definition. -/
def extendDefinition (current : Definition) (payload : DefinitionPayload) : Definition :=
  { current with
    id := payload.id.or current.id
    title := payload.title.or current.title
    description := payload.description.or current.description
    responsibilities := payload.responsibilities.or current.responsibilities
    text := payload.text.or current.text
    role := payload.role.or current.role
    prompts := payload.prompts.or current.prompts
    knowledge := payload.knowledge.or current.knowledge
    capabilities := payload.capabilities.or current.capabilities
    taskType := payload.taskType.or current.taskType
    additionalTaskTypes := payload.additionalTaskTypes.or current.additionalTaskTypes
    stages := payload.stages.or current.stages }

def overrideDefinition (current : ResolvedDefinition) (operation : OverrideOperation)
    (payload : Option DefinitionPayload) : Resolved ResolvedDefinition :=
  let name := current.effectiveId.text
  let unsupported := failure .unresolvedOverride s!"Unsupported override operation for {name}"
  match operation, payload with
  | .disable, _ => .ok { current with enabled := false }
  | .replace, some payload => .ok { current with payload := replaceDefinition current.kind current.payload payload }
  | .extend, some payload =>
    if (payload.title.isNone || current.payload.title.isNone) &&
        (payload.description.isNone || current.payload.description.isNone) then
      .ok { current with payload := extendDefinition current.payload payload }
    else unsupported
  | _, none => unsupported

def replaceIn (source : List ResolvedDefinition) (next : ResolvedDefinition) : List ResolvedDefinition :=
  source.map fun definition => if definition.effectiveId = next.effectiveId then next else definition

def selectedById (selected : List PackIdentity) (id : String) : Option PackIdentity :=
  selected.reverse.find? fun pack => pack.id = id

def applyOverride (selected : List PackIdentity) (source : List ResolvedDefinition) (entry : CheckedOverride) :
    Resolved (List ResolvedDefinition) :=
  let packId := entry.source.id
  let version := entry.source.version
  let kindName := entry.source.kind.name
  let localId := entry.source.localId
  let effectiveId := .pack entry.source.toDomainPackDependency entry.source.kind entry.source.localId
  let name := effectiveId.text
  if selectedById selected entry.source.id ≠ some entry.source.toDomainPackDependency then
    failure .unresolvedOverride s!"Override source pack {packId}@{version} is not an exact selected pack"
  else
    match findDefinition source effectiveId with
    | none => failure .unresolvedOverride s!"Override source {kindName}/{localId} is missing"
    | some current => do
      refuseIf current.provenance.operation.isSome .duplicateEffectiveDefinition s!"Duplicate override for {name}"
      let next ← overrideDefinition current entry.operation entry.payload
      return replaceIn source { next with provenance := .packOwned (some (entry.operation, entry.revision)) }

/-- The one order of definitions: those of packs by their exact source, then those of the project. -/
def effectiveOrder : EffectiveId → List (List Nat)
  | .pack pack kind localId => [0] :: sourceOrder ⟨pack, kind, localId⟩
  | .project kind localId => [[1], codeUnits kind.name, codeUnits localId]

end AiOffice.Application.DomainPack
