import AiOffice.Application.DomainPack.ManageProjectPackBinding
import AiOffice.Application.DomainPack.ResolveProjectConfiguration.Views

namespace AiOffice.Application.DomainPack

open Data Domain DomainPackContracts Storage.ProjectConfiguration

inductive OverrideResolutionAction
  | retainAsProjectOwned
  | removeOverride
  | convertToReplace
  deriving DecidableEq

def OverrideResolutionAction.name : OverrideResolutionAction → String
  | retainAsProjectOwned => "retain_as_project_owned"
  | removeOverride => "remove_override"
  | convertToReplace => "convert_to_replace"

def resolutionActions : List OverrideResolutionAction := [.retainAsProjectOwned, .removeOverride, .convertToReplace]

structure OverrideResolution where
  source : ExactPackDefinitionSource
  action : OverrideResolutionAction

inductive OverrideConflictCode
  | sourcePackRemoved
  | sourceDefinitionRemoved
  | extendConflict
  | targetOverrideExists
  deriving DecidableEq

def OverrideConflictCode.name : OverrideConflictCode → String
  | sourcePackRemoved => "source_pack_removed"
  | sourceDefinitionRemoved => "source_definition_removed"
  | extendConflict => "extend_conflict"
  | targetOverrideExists => "target_override_exists"

inductive OverrideOutcome
  | unchanged
  | retargeted
  | retainedAsProjectOwned
  | convertedToReplace
  | removed
  | conflict
  deriving DecidableEq

inductive UpstreamChange
  | unchanged
  | changed
  | removed
  | unknown
  deriving DecidableEq

structure OverrideReconciliation where
  source : ExactPackDefinitionSource
  operation : OverrideOperation
  outcome : OverrideOutcome
  upstream : UpstreamChange
  target : Option ExactPackDefinitionSource
  retainedAs : Option (ContributionKind × String)
  conflict : Option OverrideConflictCode

structure TemplateChange where
  packId : String
  kind : ContributionKind
  localId : String
  change : ChangeKind
  customized : Bool

inductive PackUpgradeIssueCode
  | targetClosureUnresolved
  | unresolvedOverrideConflict
  | invalidResolution
  | prospectiveConfigurationInvalid
  deriving DecidableEq

structure PackUpgradeIssue where
  code : PackUpgradeIssueCode
  detail : String
  message : String

/-- The differences of the packs of an upgrade. A flag says that an override of the project names the definition. -/
structure PackUpgradeReport where
  templates : Availability TemplateChange
  roleCapabilityChanges : Availability (RoleCapabilityDifference × Bool)
  targetRoleCapabilities : List (StableId × List String)
  capabilityContractChanges : Availability CapabilityContractDifference
  policyChanges : Availability (DeclarationDifference WorkflowPolicy × Bool)
  targetPolicies : List (StableId × WorkflowPolicy)
  knowledgeChanges : Availability (DeclarationDifference KnowledgeGuidance × Bool)
  targetKnowledge : List (StableId × KnowledgeGuidance)
  evidenceContractChanges : Availability (DeclarationDifference (List (String × String)))
  targetEvidenceContracts : List (StableId × List (String × String))

structure PackUpgradeContent extends PackUpgradeReport where
  projectId : String
  bindingRevision : Int
  definitionRevision : Int
  currentPacks : List PackIdentity
  proposedPacks : List PackIdentity
  added : List PackIdentity
  removed : List PackIdentity
  changed : List (PackIdentity × PackIdentity)
  overrides : List OverrideReconciliation
  ignoredResolutions : List OverrideResolution
  prospectiveConfigurationDigest : Option String
  issues : List PackUpgradeIssue
  noop : Bool

structure PackUpgradePlan extends PackUpgradeContent where
  planDigest : String

/-- What a reconciliation or its `apply` throws. -/
inductive PackUpgradeError
  | projectNotFound (projectId : String)
  | catalog (thrown : CatalogError)
  | malformedRequest (message : String)
  | upgradeBlocked (issues : List PackUpgradeIssue)
  | planNotApproved
  | unconverted
  | store (thrown : StoreError)
  | audit

def parseAction : Value → Except PackUpgradeError OverrideResolutionAction
  | .string name =>
    match resolutionActions.find? fun action => action.name = name with
    | some action => .ok action
    | none => .error (.malformedRequest "Unknown override resolution action")
  | _ => .error (.malformedRequest "Unknown override resolution action")

def parseResolution : Value → Except PackUpgradeError OverrideResolution
  | .object entries =>
    if joined (keysOf entries) ≠ "action,source" then
      .error (.malformedRequest "Each resolution needs only source and action")
    else do
      let action ← parseAction (Record.get entries "action")
      let source ← (parseExactSource (Record.get entries "source")).mapError fun thrown => .malformedRequest thrown.message
      return { source, action }
  | _ => .error (.malformedRequest "Each resolution needs only source and action")

def resolutionsAfter : List ExactPackDefinitionSource → List Value → Except PackUpgradeError (List OverrideResolution)
  | _, [] => .ok []
  | seen, item :: items => do
    let resolution ← parseResolution item
    if seen.contains resolution.source then
      .error (.malformedRequest "An override has more than one resolution")
    else do
      let others ← resolutionsAfter (resolution.source :: seen) items
      return resolution :: others

def parseResolutions : Value → Except PackUpgradeError (List OverrideResolution)
  | .array items => (resolutionsAfter [] items).map (sortOn fun item => sourceOrder item.source)
  | _ => .error (.malformedRequest "Expected an array of override resolutions")

def manifestsOfId (closure : List DomainPackManifest) (packId : String) : Option DomainPackManifest :=
  closure.reverse.find? fun manifest => manifest.id = packId

def templateChange (old next : Option DomainPackManifest) (kind : ContributionKind) (localId : String) :
    Option ChangeKind :=
  match old.bind fun manifest => manifest.find kind localId, next.bind fun manifest => manifest.find kind localId with
  | none, _ => some .added
  | some _, none => some .removed
  | some before, some after_ => if before = after_ then none else some .changed

def localIdsOf (manifest : Option DomainPackManifest) (kind : ContributionKind) : List String :=
  (manifest.map fun found => (found.contributions kind).map Contribution.localId).getD []

def isCustomized (overrides : List ProjectDefinitionOverride) (packId : String) (kind : ContributionKind)
    (localId : String) : Bool :=
  overrides.any fun entry => entry.source.id = packId && entry.source.kind = kind && entry.source.localId = localId

def packTemplateChanges (before after_ : List DomainPackManifest) (overrides : List ProjectDefinitionOverride)
    (packId : String) : List TemplateChange :=
  let old := manifestsOfId before packId
  let next := manifestsOfId after_ packId
  if old.isSome && old.map DomainPackManifest.identity = next.map DomainPackManifest.identity then []
  else contributionKinds.flatMap fun kind => ((localIdsOf old kind ++ localIdsOf next kind).dedup).filterMap fun localId =>
    (templateChange old next kind localId).map fun change =>
      { packId, kind, localId, change, customized := isCustomized overrides packId kind localId }

def templateChanges (before after_ : List DomainPackManifest) (overrides : List ProjectDefinitionOverride) :
    List TemplateChange :=
  sortOn (fun item => ([codeUnits item.packId, codeUnits item.kind.name, codeUnits item.localId] : List (List Nat)))
    (((before ++ after_).map fun manifest => manifest.id).dedup.flatMap (packTemplateChanges before after_ overrides))

def isNamed (overrides : List ProjectDefinitionOverride) (kind : ContributionKind) (id : StableId) : Bool :=
  overrides.any fun entry => entry.source.kind = kind && .pack entry.source.id kind entry.source.localId = id

/-- What the reconciliation of one override knows: the definitions of the project, the proposed packs with their
closure, and the closure of the current ones. -/
structure Reconciling where
  definitions : ProjectDefinitionState
  proposed : List PackIdentity
  resolutions : List OverrideResolution
  catalog : InstalledPackCatalog
  selectionChanged : Bool
  target : Option (List DomainPackManifest)
  previousClosure : Option (List DomainPackManifest)

/-- What becomes of one override, with the issue that it raises and the payload that it is converted to. -/
structure Disposition where
  item : OverrideReconciliation
  issue : Option PackUpgradeIssue
  used : Bool
  conversion : Option DefinitionPayload

/-- The replacement that an extension becomes: the fields of the project, and those of the template for the rest. -/
def replacementPayload (source : ExactPackDefinitionSource) (payload : DefinitionPayload) (template : Contribution) :
    DefinitionPayload :=
  let agent := source.kind = .agents
  let workflow := source.kind = .workflows
  { id := some source.localId
    title := payload.title.or template.title
    description := payload.description.or template.description
    responsibilities := if source.kind = .roles then template.responsibilities else none
    text := if source.kind = .prompts then template.text else none
    role := if agent then template.role else none
    prompts := if agent then template.prompts else none
    knowledge := if agent then template.knowledge else none
    capabilities := if agent then template.capabilities else none
    taskType := if workflow then template.taskType else none
    additionalTaskTypes := if workflow then template.additionalTaskTypes else none
    stages := if workflow then template.stages else none }

def payloadHasReferences (payload : DefinitionPayload) : Bool :=
  payload.role.isSome || payload.prompts.isSome || payload.knowledge.isSome || payload.capabilities.isSome

namespace Reconciling

variable (context : Reconciling) (source : ExactPackDefinitionSource) (entry : ProjectDefinitionOverride)

def onSelected : Bool := context.proposed.contains source.toDomainPackDependency

def nextPack : Option PackIdentity := selectedById context.proposed source.id

def nextManifest : Option DomainPackManifest := (context.nextPack source).bind (manifestOf (context.target.getD []))

def nextEntry : Option Contribution :=
  (context.nextManifest source).bind fun manifest => manifest.find source.kind source.localId

def retarget : Option ExactPackDefinitionSource :=
  (context.nextPack source).bind fun next =>
    (context.nextEntry source).map fun _ => ⟨next, source.kind, source.localId⟩

/-- The manifest that an override was made against. No partial catalog stands in for a closure that cannot be read. -/
def previousManifest (pack : PackIdentity) : Option DomainPackManifest :=
  if context.previousClosure.isNone && context.selectionChanged then none
  else (manifestOf (context.previousClosure.getD []) pack).or
    ((resolveInstalledPackManifests context.catalog [pack]).toOption.bind fun closure =>
      closure.find? fun manifest => manifest.identity = pack)

def upstream : UpstreamChange :=
  if context.previousClosure.isNone && context.selectionChanged then .unknown
  else
    match context.nextEntry source, (context.previousManifest source.toDomainPackDependency).bind fun manifest =>
        manifest.find source.kind source.localId with
    | none, _ => .removed
    | some _, none => .unknown
    | some next, some previous => if previous = next then .unchanged else .changed

def resolutionOf : Option OverrideResolution := context.resolutions.reverse.find? fun item => item.source = source

def removes : Bool := (context.resolutionOf source).any fun item => item.action = .removeOverride

def claims (target : ExactPackDefinitionSource) : Bool :=
  !context.onSelected entry.source && context.retarget entry.source = some target

def claimants (target : ExactPackDefinitionSource) : Nat :=
  context.definitions.overrides.countP fun entry => context.claims entry target

def standing (target : ExactPackDefinitionSource) : Nat :=
  context.definitions.overrides.countP fun entry => context.claims entry target && !context.removes entry.source

def hasOverride (target : ExactPackDefinitionSource) : Bool :=
  context.definitions.overrides.any fun entry => entry.source = target

/-- Whether an extension sets a text that the template of the proposed version sets too. -/
def extendsSetField : Bool :=
  entry.operation = .extend && entry.payload.any fun payload => (context.nextEntry entry.source).any fun template =>
    payload.title.isSome && template.title.isSome || payload.description.isSome && template.description.isSome

def conflictOf : Option OverrideConflictCode :=
  if (context.nextPack entry.source).isNone then some .sourcePackRemoved
  else
    match context.retarget entry.source with
    | none => some .sourceDefinitionRemoved
    | some target =>
      if context.hasOverride target || (1 < context.claimants target &&
          (context.standing target ≠ 1 || context.removes entry.source)) then some .targetOverrideExists
      else if context.extendsSetField entry then some .extendConflict
      else none

def retainRefusal (ownedKeys : List (ContributionKind × String)) : Option String :=
  if entry.operation ≠ .replace || entry.payload.isNone then some "only a replace override carries a complete definition"
  else if (context.nextEntry entry.source).isSome then some "the pack still provides this definition"
  else if ownedKeys.contains (entry.source.kind, entry.source.localId) then
    some "a project-owned definition already uses this identity"
  else if entry.source.kind = .agents && entry.payload.any payloadHasReferences then
    some "the agent references pack definitions, which a project-owned agent cannot name"
  else if entry.source.kind = .workflows then
    some "the workflow references pack definitions, which would silently re-resolve in the project namespace"
  else none

def reconciliation (outcome : OverrideOutcome) (conflict : Option OverrideConflictCode) : OverrideReconciliation where
  source := entry.source
  operation := entry.operation
  outcome := outcome
  upstream := context.upstream entry.source
  target := none
  retainedAs := none
  conflict := conflict

def overrideName : String :=
  let id := source.id
  let version := source.version
  let kindName := source.kind.name
  let localId := source.localId
  s!"Override of {id}@{version} {kindName}/{localId}"

def invalidResolution (code : OverrideConflictCode) (reason : String) : Disposition :=
  let name := overrideName entry.source
  { item := context.reconciliation entry .conflict (some code)
    issue := some ⟨.invalidResolution, code.name, s!"{name} cannot be {reason}"⟩
    used := true
    conversion := none }

def resolve (ownedKeys : List (ContributionKind × String)) (code : OverrideConflictCode) :
    OverrideResolutionAction → Disposition
  | .removeOverride => ⟨context.reconciliation entry .removed (some code), none, true, none⟩
  | .convertToReplace =>
    match code, context.retarget entry.source, context.nextEntry entry.source, entry.payload with
    | .extendConflict, some target, some template, some payload =>
      { item := { context.reconciliation entry .convertedToReplace (some code) with target := some target }
        issue := none
        used := true
        conversion := some (replacementPayload entry.source payload template) }
    | _, _, _, _ =>
      context.invalidResolution entry code "converted to a replacement: only an extension conflict can"
  | .retainAsProjectOwned =>
    match context.retainRefusal entry ownedKeys with
    | some reason => context.invalidResolution entry code s!"retained as project-owned: {reason}"
    | none =>
      { item := { context.reconciliation entry .retainedAsProjectOwned (some code) with
          retainedAs := some (entry.source.kind, entry.source.localId) }
        issue := none
        used := true
        conversion := none }

def disposeConflict (ownedKeys : List (ContributionKind × String)) (code : OverrideConflictCode) : Disposition :=
  let name := overrideName entry.source
  match context.resolutionOf entry.source with
  | none =>
    { item := context.reconciliation entry .conflict (some code)
      issue := some ⟨.unresolvedOverrideConflict, code.name, s!"{name} needs an explicit resolution"⟩
      used := false
      conversion := none }
  | some resolution => context.resolve entry ownedKeys code resolution.action

/-- What becomes of one override, after those that took some identities of the project. -/
def dispose (ownedKeys : List (ContributionKind × String)) : Disposition :=
  let unchanged (upstream : UpstreamChange) : Disposition :=
    ⟨{ context.reconciliation entry .unchanged none with upstream }, none, false, none⟩
  if context.onSelected entry.source then unchanged .unchanged
  else if (context.nextPack entry.source).isSome && (context.nextManifest entry.source).isNone then unchanged .unknown
  else
    match context.conflictOf entry, context.retarget entry.source with
    | none, some target =>
      ⟨{ context.reconciliation entry .retargeted none with target := some target }, none, false, none⟩
    | conflict, _ => context.disposeConflict entry ownedKeys (conflict.getD .sourceDefinitionRemoved)

def disposeAll (ownedKeys : List (ContributionKind × String)) : List ProjectDefinitionOverride → List Disposition
  | [] => []
  | entry :: entries =>
    let first := context.dispose entry ownedKeys
    first :: disposeAll (first.item.retainedAs.toList ++ ownedKeys) entries

def dispositions : List Disposition :=
  context.disposeAll (context.definitions.owned.map fun item => (item.kind, item.id))
    (sortOn (fun entry => sourceOrder entry.source) context.definitions.overrides)

end Reconciling

/-- The replacement payloads of converted extensions, by the source that each had. -/
abbrev Conversions := List (ExactPackDefinitionSource × DefinitionPayload)

def outcomeOf (overrides : List OverrideReconciliation) (source : ExactPackDefinitionSource) :
    Option OverrideReconciliation :=
  overrides.reverse.find? fun item => item.source = source

def conversionOf (conversions : Conversions) (source : ExactPackDefinitionSource) : Option DefinitionPayload :=
  (conversions.reverse.find? fun conversion => conversion.1 = source).map Prod.snd

/-- What is kept of an override. A converted one whose payload is missing is an error. -/
def keptOverride (conversions : Conversions) (actorId changedAt : String) (outcome : Option OverrideReconciliation)
    (entry : ProjectDefinitionOverride) : Except PackUpgradeError (Option ProjectDefinitionOverride) :=
  match outcome with
  | none => .ok (some entry)
  | some item =>
    match item.outcome, item.target with
    | .unchanged, _ => .ok (some entry)
    | .retargeted, some target => .ok (some { entry with source := target })
    | .convertedToReplace, some target =>
      match conversionOf conversions entry.source with
      | none => .error .unconverted
      | some payload => .ok (some ⟨target, .replace, entry.revision + 1, some payload, actorId, changedAt⟩)
    | .conflict, _ => .ok (some entry)
    | _, _ => .ok none

def retainedDefinition (actorId changedAt : String) (outcome : Option OverrideReconciliation)
    (entry : ProjectDefinitionOverride) : Option ProjectOwnedDefinition :=
  match outcome.map OverrideReconciliation.outcome, entry.payload with
  | some .retainedAsProjectOwned, some payload =>
    some ⟨entry.source.kind, entry.source.localId, 1, true, { payload with id := some entry.source.localId }, actorId,
      changedAt⟩
  | _, _ => none

def reconciledDefinitions (current : ProjectDefinitionState) (overrides : List OverrideReconciliation)
    (conversions : Conversions) (actorId changedAt : String) : Except PackUpgradeError ProjectDefinitionState := do
  let kept ← current.overrides.mapM fun entry =>
    keptOverride conversions actorId changedAt (outcomeOf overrides entry.source) entry
  let retained := current.overrides.filterMap fun entry =>
    retainedDefinition actorId changedAt (outcomeOf overrides entry.source) entry
  return { current with
    owned := sortOn ownedOrder (current.owned ++ retained)
    overrides := sortOn (fun entry => sourceOrder entry.source) (kept.filterMap id) }

structure ReconcileInput where
  binding : ProjectPackBinding
  definitions : ProjectDefinitionState
  desired : List PackIdentity
  resolutions : List OverrideResolution
  catalog : InstalledPackCatalog
  providers : OperationProviderCatalog

structure UpgradeReconciliation where
  plan : PackUpgradePlan
  conversions : Conversions

namespace ReconcileInput

variable (input : ReconcileInput)

def selectionChanged : Bool :=
  input.binding.packs.length ≠ input.desired.length || input.binding.packs.any fun pack => !input.desired.contains pack

/-- Whether there is nothing to reconcile: the same selection, with every override on a selected pack. -/
def isNoop : Bool :=
  !input.selectionChanged && input.definitions.overrides.all fun entry =>
    input.desired.contains entry.source.toDomainPackDependency

def target : Except CatalogError (List DomainPackManifest) := resolveInstalledPackManifests input.catalog input.desired

/-- The closure of the current packs, read only for a change of the selection that can be resolved. -/
def previous : Option (Except CatalogError (List DomainPackManifest)) :=
  if input.target.toOption.isSome && input.selectionChanged then
    some (resolveInstalledPackManifests input.catalog input.binding.packs)
  else none

def reconciling : Reconciling where
  definitions := input.definitions
  proposed := input.desired
  resolutions := input.resolutions
  catalog := input.catalog
  selectionChanged := input.selectionChanged
  target := input.target.toOption
  previousClosure := input.previous.bind Except.toOption

def compared {Change : Type} (changes : List DomainPackManifest → List DomainPackManifest → List Change) :
    Availability Change :=
  match input.previous, input.target with
  | some (.error thrown), _ => .unavailable .previousClosureUnresolved thrown.code.name
  | some (.ok previous), .ok target => .available (changes previous target)
  | _, _ => .available []

def report : PackUpgradeReport :=
  let overrides := input.definitions.overrides
  let target := input.target.toOption.getD []
  { templates := input.compared fun before after_ => templateChanges before after_ overrides
    roleCapabilityChanges := input.compared fun before after_ =>
      (roleCapabilityDifferences before after_).map fun item => (item, isNamed overrides .roles item.roleId)
    targetRoleCapabilities := roleCapabilitySets target
    capabilityContractChanges := input.compared capabilityContractDifferences
    policyChanges := input.compared fun before after_ =>
      (workflowPolicyDifferences before after_).map fun item => (item, isNamed overrides .workflows item.id)
    targetPolicies := closureWorkflowPolicies target
    knowledgeChanges := input.compared fun before after_ =>
      (knowledgeGuidanceDifferences before after_).map fun item => (item, isNamed overrides .knowledge item.id)
    targetKnowledge := closureKnowledgeGuidance target
    evidenceContractChanges := input.compared evidenceContractDifferences
    targetEvidenceContracts := closureEvidenceContracts target }

def emptyReport : PackUpgradeReport :=
  ⟨.available [], .available [], [], .available [], .available [], [], .available [], [], .available [], []⟩

def targetIssues : List PackUpgradeIssue :=
  match input.target with
  | .ok _ => []
  | .error thrown =>
    [⟨.targetClosureUnresolved, thrown.code.name, "The proposed pack selection cannot be resolved on this host"⟩]

/-- The configuration that the project would have after the upgrade, over some definitions. -/
def prospective (definitions : ProjectDefinitionState) : ConfigurationInput where
  projectId := input.binding.projectId
  binding := ⟨input.binding.projectId, input.binding.configurationRevision + (if input.selectionChanged then 1 else 0),
    input.desired⟩
  definitions := { definitions with revision := input.definitions.revision + 1 }
  catalog := input.catalog
  coreContractVersion := input.catalog.coreContractVersion
  providers := input.providers
  bindProviders := true

end ReconcileInput

def ConfigurationIssueCode.name : ConfigurationIssueCode → String
  | packUnavailable => "pack_unavailable"
  | packDependencyFailure => "pack_dependency_failure"
  | bindingSourceMismatch => "binding_source_mismatch"
  | unresolvedOverride => "unresolved_override"
  | duplicateEffectiveDefinition => "duplicate_effective_definition"
  | missingWorkflowReference => "missing_workflow_reference"
  | missingAgentReference => "missing_agent_reference"
  | ambiguousReference => "ambiguous_reference"
  | disabledRequiredDefinition => "disabled_required_definition"
  | agentCapabilityExceedsRole => "agent_capability_exceeds_role"
  | unsupportedSecurityComposition => "unsupported_security_composition"
  | policyTargetMissing => "policy_target_missing"
  | missingRequiredCapabilityProvider => "missing_required_capability_provider"
  | capabilityProviderMismatch => "capability_provider_mismatch"
  | configurationInvariant => "configuration_invariant"
  | staleResolution => "stale_resolution"

structure Digests where
  configuration : ConfigurationMaterial → Option String
  plan : PackUpgradeContent → String

section Reconciliation

variable (digests : Digests) (input : ReconcileInput)

def finishPlan (report : PackUpgradeReport) (overrides : List OverrideReconciliation)
    (ignoredResolutions : List OverrideResolution) (prospectiveConfigurationDigest : Option String)
    (issues : List PackUpgradeIssue) (noop : Bool) : PackUpgradePlan :=
  let content : PackUpgradeContent := {
    report with
    projectId := input.binding.projectId
    bindingRevision := input.binding.configurationRevision
    definitionRevision := input.definitions.revision
    currentPacks := input.binding.packs
    proposedPacks := input.desired
    added := addedPacks input.binding.packs input.desired
    removed := addedPacks input.desired input.binding.packs
    changed := changedPacks input.binding.packs input.desired
    overrides, ignoredResolutions, prospectiveConfigurationDigest, issues, noop }
  { content with planDigest := digests.plan content }

def noopOverride (entry : ProjectDefinitionOverride) : OverrideReconciliation :=
  ⟨entry.source, entry.operation, .unchanged, .unchanged, none, none, none⟩

/-- The digest of the configuration after the upgrade, or the issue that it does not resolve. -/
def prospectiveDigest (overrides : List OverrideReconciliation) (conversions : Conversions) :
    Except PackUpgradeError (Option String × List PackUpgradeIssue) := do
  let definitions ← reconciledDefinitions input.definitions overrides conversions "preview" "1970-01-01T00:00:00.000Z"
  match resolveProjectConfiguration digests.configuration (input.prospective definitions) with
  | .ok configuration => return (some configuration.configurationDigest, [])
  | .error issue =>
    let message := issue.message
    return (none, [⟨.prospectiveConfigurationInvalid, issue.code.name,
      s!"The reconciled project configuration would not resolve: {message}"⟩])

/-- The plan of an upgrade over one state of the project. It writes nothing. -/
def reconcileProjectPackUpgrade : Except PackUpgradeError UpgradeReconciliation :=
  if input.isNoop then
    .ok ⟨finishPlan digests input ReconcileInput.emptyReport (input.definitions.overrides.map noopOverride)
      input.resolutions none [] true, []⟩
  else do
    let dispositions := input.reconciling.dispositions
    let overrides := dispositions.map Disposition.item
    let conversions := dispositions.filterMap fun disposition =>
      disposition.conversion.map fun payload => (disposition.item.source, payload)
    let used := (dispositions.filter Disposition.used).map fun disposition => disposition.item.source
    let issues := input.targetIssues ++ dispositions.filterMap Disposition.issue
    let (digest, unresolved) ←
      if issues.isEmpty then prospectiveDigest digests input overrides conversions else pure (none, [])
    return ⟨finishPlan digests input input.report overrides
      (input.resolutions.filter fun item => !used.contains item.source) digest (issues ++ unresolved) false, conversions⟩

variable {Key : Type} [LinearOrder Key]

def planUpgrade (host : SelectionHost Key) (tables : ConfigurationTables) (desired : List PackIdentity)
    (resolutions : Value) : Except PackUpgradeError UpgradeReconciliation := do
  let desired ← (normalizePackSelection host desired).mapError .catalog
  let resolutions ← parseResolutions resolutions
  if !tables.exists_ then .error (.projectNotFound tables.projectId)
  else reconcileProjectPackUpgrade digests {
    binding := tables.binding
    definitions := tables.definitions
    desired, resolutions
    catalog := host.catalog
    providers := host.providers }

structure UpgradeInput where
  desired : List PackIdentity
  resolutions : Value
  approvedPlanDigest : String
  actorId : String

structure PackUpgradeResult where
  applied : Bool
  planDigest : String
  bindingRevision : Int
  definitionRevision : Int
  packs : List PackIdentity

/-- The transaction of `apply`. The append of the audit event may fail. -/
def commitUpgrade (host : SelectionHost Key) (checks : ProjectDefinitionState → Bool) (audited : Bool)
    (actorId changedAt : String) (reconciliation : UpgradeReconciliation) :
    Method ConfigurationTables PackUpgradeError PackUpgradeResult :=
  let plan := reconciliation.plan
  Method.transaction do
    let tables ← get
    Method.lift (if tables.binding.configurationRevision ≠ plan.bindingRevision then
      .error (.store (.staleBinding tables.binding.configurationRevision)) else .ok ())
    Method.lift (if tables.definitions.revision ≠ plan.definitionRevision then
      .error (.store (.staleDefinitions tables.definitions.revision)) else .ok ())
    let replaced ← Method.adapt .store (replaceBinding host.collation plan.bindingRevision plan.proposedPacks)
    let state ← Method.lift (reconciledDefinitions tables.definitions plan.overrides reconciliation.conversions actorId
      changedAt)
    let definitions ← Method.adapt .store (replaceDefinitions checks state plan.definitionRevision)
    Method.lift (if audited then .ok () else .error .audit)
    return ⟨true, plan.planDigest, replaced.1.configurationRevision, definitions.revision, replaced.1.packs⟩

/-- One run of `apply`, which plans over the rows that it read before its transaction. -/
def applyUpgrade (host : SelectionHost Key) (checks : ProjectDefinitionState → Bool) (audited : Bool) (changedAt : String)
    (read : ConfigurationTables) (input : UpgradeInput) : Method ConfigurationTables PackUpgradeError PackUpgradeResult := do
  let reconciliation ← Method.lift (planUpgrade digests host read input.desired input.resolutions)
  let plan := reconciliation.plan
  if plan.noop then
    return ⟨false, plan.planDigest, plan.bindingRevision, plan.definitionRevision, plan.currentPacks⟩
  else if !plan.issues.isEmpty then throw (.upgradeBlocked plan.issues)
  else if plan.planDigest ≠ input.approvedPlanDigest then throw .planNotApproved
  else commitUpgrade host checks audited input.actorId changedAt reconciliation

end Reconciliation

def storedInput {Key : Type} (host : SelectionHost Key) (tables : ConfigurationTables) : ConfigurationInput where
  projectId := tables.projectId
  binding := tables.binding
  definitions := tables.definitions
  catalog := host.catalog
  coreContractVersion := host.catalog.coreContractVersion
  providers := host.providers
  bindProviders := true

end AiOffice.Application.DomainPack
