import AiOffice.DomainPackContracts.Identity
import AiOffice.Domain.Agent

namespace AiOffice.Application.DomainPack

open Data Domain DomainPackContracts

inductive DefinitionIssueCode
  | malformedOriginReference
  | conflictingOwnershipMetadata
  | duplicateProjectDefinition
  | duplicateOverrideTarget
  | packDefinitionCollision
  | sourcePackNotSelected
  | sourceDefinitionMissing
  | sourceDigestMismatch
  | sourceUntrusted
  | sourceIncompatibleCore
  | sourceIncompatibleContract
  | sourceDependencyUnavailable
  | sourceDependencyConflict
  | unsupportedOverrideOperation
  | protectedSecurityInvariant
  | agentCapabilityExceedsRole
  | policyTargetMissing
  | sourceUnavailable
  deriving DecidableEq

structure ProjectDefinitionConflict where
  code : DefinitionIssueCode
  message : String
  deriving DecidableEq

structure ExactPackDefinitionSource extends DomainPackDependency where
  kind : ContributionKind
  localId : String
  deriving DecidableEq

inductive OverrideOperation
  | replace
  | extend
  | disable
  deriving DecidableEq

def OverrideOperation.name : OverrideOperation → String
  | replace => "replace"
  | extend => "extend"
  | disable => "disable"

structure WorkflowStageDefinition where
  id : String
  role : String
  title : Option String
  objective : Option String
  checks : Option (List String)
  deriving DecidableEq

/-- The payload of a definition. Each kind has some of these keys; the order of keys is no data. -/
structure DefinitionPayload where
  id : Option String
  title : Option String
  description : Option String
  responsibilities : Option (List String)
  text : Option String
  role : Option String
  prompts : Option (List String)
  knowledge : Option (List String)
  capabilities : Option (List String)
  taskType : Option String
  additionalTaskTypes : Option (List String)
  stages : Option (List WorkflowStageDefinition)
  deriving DecidableEq

def describing (id title description : Option String) : DefinitionPayload :=
  ⟨id, title, description, none, none, none, none, none, none, none, none, none⟩

structure ProjectOwnedDefinition where
  kind : ContributionKind
  id : String
  revision : Int
  enabled : Bool
  payload : DefinitionPayload
  actorId : String
  changedAt : String

structure ProjectDefinitionOverride where
  source : ExactPackDefinitionSource
  operation : OverrideOperation
  revision : Int
  payload : Option DefinitionPayload
  actorId : String
  changedAt : String

structure ProjectDefinitionState where
  projectId : String
  revision : Int
  owned : List ProjectOwnedDefinition
  overrides : List ProjectDefinitionOverride

inductive ProjectDefinitionMutation
  | putOwned (kind : ContributionKind) (id : String) (payload : DefinitionPayload) (enabled : Bool)
      (expectedEntryRevision : Option Int)
  | removeOwned (kind : ContributionKind) (id : String)
  | putOverride (source : ExactPackDefinitionSource) (operation : OverrideOperation)
      (payload : Option DefinitionPayload) (expectedEntryRevision : Option Int)
  | removeOverride (source : ExactPackDefinitionSource)

abbrev Parsed (Result : Type) := Except ProjectDefinitionConflict Result

def conflict {Result : Type} (code : DefinitionIssueCode) (message : String) : Parsed Result := .error ⟨code, message⟩

def malformed {Result : Type} (message : String) : Parsed Result := conflict .malformedOriginReference message

def reject (condition : Bool) (code : DefinitionIssueCode) (message : String) : Parsed Unit :=
  if condition then conflict code message else .ok ()

theorem reject_ok {condition : Bool} {code : DefinitionIssueCode} {message : String} {done : Unit}
    (passed : reject condition code message = .ok done) : condition = false := by
  cases condition with
  | false => rfl
  | true => cases passed

def stageGovernanceKeys : List String :=
  ["enforcement", "requiresApproval", "requiresIndependentApproval", "requiresDifferentAgentFrom", "operations",
    "capabilities"]

def knowledgeGuidanceKeys : List String := ["category", "schema", "seeds", "retrieval"]

/-- The one descriptive field that the envelope of a kind adds to `title` and `description`. -/
def descriptiveFieldOfKind : ContributionKind → Option String
  | .roles => some "responsibilities"
  | .prompts => some "text"
  | _ => none

def record : Value → Parsed Record
  | .object entries => .ok entries
  | _ => malformed "Expected an object"

def keysOf (item : Record) : List String := item.map Prod.fst

def textValue (accepts : String → Bool) : Value → Bool
  | .string text => accepts text
  | _ => false

def localId : Value → Parsed String
  | .string text => if localIdPattern text then .ok text else malformed "Invalid local definition ID"
  | _ => malformed "Invalid local definition ID"

def joined (keys : List String) : String := ",".intercalate (sort keys)

def exactKeys (item : Record) (keys allowed : List String) : Parsed Unit :=
  let names := ", ".intercalate allowed
  reject (joined (keysOf item) ≠ joined keys) .malformedOriginReference s!"Expected only {names}"

def parseDefinitionKind : Value → Parsed ContributionKind
  | .string name =>
    match contributionKinds.find? fun kind => kind.name = name with
    | some kind => .ok kind
    | none => malformed "Unknown definition kind"
  | _ => malformed "Unknown definition kind"

def identity (pattern : String → Bool) : Value → Parsed String
  | .string text => if pattern text then .ok text else malformed "Invalid exact pack definition source"
  | _ => malformed "Invalid exact pack definition source"

def parseExactSource (value : Value) : Parsed ExactPackDefinitionSource := do
  let item ← record value
  exactKeys item ["id", "version", "manifestDigest", "kind", "localId"] ["id", "version", "manifestDigest", "kind", "localId"]
  let id ← identity packIdPattern (Record.get item "id")
  let version ← identity versionPattern (Record.get item "version")
  let manifestDigest ← identity digestPattern (Record.get item "manifestDigest")
  let kind ← parseDefinitionKind (Record.get item "kind")
  let localId ← localId (Record.get item "localId")
  return ⟨⟨id, version, manifestDigest⟩, kind, localId⟩

def descriptiveList (field : String) : Value → Parsed (List String)
  | .array items => do
    reject (items.isEmpty || maximumDescriptiveEntries < items.length) .malformedOriginReference
      s!"{field} must be a list of 1 to {maximumDescriptiveEntries} entries; omit the field instead"
    reject (!items.all (textValue isDescriptiveText)) .malformedOriginReference
      s!"{field} entries must be non-empty bounded text"
    return items.map Value.text
  | _ => malformed s!"{field} must be a list of 1 to {maximumDescriptiveEntries} entries; omit the field instead"

def descriptiveText (field : String) (value : Value) : Parsed String :=
  if textValue isDescriptiveText value then .ok value.text else malformed s!"{field} must be non-empty bounded text"

def parseGiven {Result : Type} (item : Record) (key : String) (parse : Value → Parsed Result) :
    Parsed (Option Result) :=
  if (Record.get item key).isUndefined then .ok none else (parse (Record.get item key)).map some

def definitionText (field : String) (value : Value) : Parsed String :=
  if textValue isDefinitionText value then .ok value.text else malformed s!"{field} must be bounded text"

def parseKindField (item : Record) (extra : Option String) (common : DefinitionPayload) : Parsed DefinitionPayload :=
  if extra = some "text" then
    (parseGiven item "text" (descriptiveText "text")).map fun text => { common with text }
  else if extra = some "responsibilities" then
    (parseGiven item "responsibilities" (descriptiveList "responsibilities")).map fun responsibilities =>
      { common with responsibilities }
  else .ok common

/-- The descriptive envelope of a definition. An extension never carries the field of its kind. -/
def parseDefinitionPayload (value : Value) (id : String) (extension : Bool) (kind : Option ContributionKind) :
    Parsed DefinitionPayload := do
  let item ← record value
  reject (kind = some .knowledge && (keysOf item).any fun key => knowledgeGuidanceKeys.contains key)
    .protectedSecurityInvariant "Knowledge guidance is declared by the pack; a project cannot declare it"
  let extra := if extension then none else kind.bind descriptiveFieldOfKind
  let allowed := if extension then ["title", "description"] else ["id", "title", "description"] ++ extra.toList
  reject (((keysOf item).any fun key => !allowed.contains key) ||
      (!extension && !textValue (fun text => text = id) (Record.get item "id")) || (extension && (keysOf item).isEmpty))
    .protectedSecurityInvariant "Definition payload may contain only its exact ID and descriptive fields"
  reject (extension && !(Record.get item "id").isUndefined) .protectedSecurityInvariant
    "Extension cannot change definition identity"
  let title ← parseGiven item "title" (definitionText "title")
  let description ← parseGiven item "description" (definitionText "description")
  let common := describing (if extension then none else some id) title description
  parseKindField item extra common

def referenceList (field : String) : Value → Parsed (List String)
  | .array items => do
    reject items.isEmpty .malformedOriginReference s!"{field} must be a non-empty list; omit the field instead"
    reject (maximumAgentReferences < items.length) .malformedOriginReference
      s!"{field} may hold at most {maximumAgentReferences} references"
    let parsed ← items.mapM localId
    reject (parsed.dedup.length ≠ parsed.length) .conflictingOwnershipMetadata s!"Duplicate {field} reference"
    return sort parsed
  | _ => malformed s!"{field} must be a non-empty list; omit the field instead"

def given (item : Record) (key : String) : Record :=
  if (Record.get item key).isUndefined then [] else [(key, Record.get item key)]

def parseCommon (item : Record) (id : String) : Parsed DefinitionPayload :=
  parseDefinitionPayload (.object (("id", Record.get item "id") :: (given item "title" ++ given item "description"))) id
    false none

def parseAgentPayload (value : Value) (id : String) (requestsCapabilities : Bool) : Parsed DefinitionPayload := do
  let item ← record value
  reject (!requestsCapabilities && !(Record.get item "capabilities").isUndefined) .protectedSecurityInvariant
    "A project-owned agent cannot request capabilities"
  reject ((keysOf item).any fun key => !(["id", "title", "description"] ++ agentReferenceFields).contains key)
    .protectedSecurityInvariant
    "Agent payload may contain only its exact ID, descriptive fields and agent references"
  let common ← parseCommon item id
  reject (!(Record.get item "capabilities").isUndefined && (Record.get item "role").isUndefined)
    .agentCapabilityExceedsRole "Requested capabilities need a role"
  let role ← parseGiven item "role" localId
  let prompts ← parseGiven item "prompts" (referenceList "prompts")
  let knowledge ← parseGiven item "knowledge" (referenceList "knowledge")
  let capabilities ← parseGiven item "capabilities" (referenceList "capabilities")
  return { common with role, prompts, knowledge, capabilities }

def parseStage (earlier : List String) (stage : Value) : Parsed WorkflowStageDefinition := do
  let item ← record stage
  reject ((keysOf item).any fun key => stageGovernanceKeys.contains key) .protectedSecurityInvariant
    "Workflow stage cannot declare governance; a pack policy does"
  exactKeys item (["id", "role"] ++ stageDescriptiveFields.filter fun field => !(Record.get item field).isUndefined)
    (["id", "role"] ++ stageDescriptiveFields)
  let id ← localId (Record.get item "id")
  reject (earlier.contains id) .conflictingOwnershipMetadata "Duplicate workflow stage ID"
  let role ← localId (Record.get item "role")
  let title ← parseGiven item "title" (descriptiveText "Workflow stage title")
  let objective ← parseGiven item "objective" (descriptiveText "Workflow stage objective")
  let checks ← parseGiven item "checks" (descriptiveList "Workflow stage checks")
  return { id, role, title, objective, checks }

def parseStages (earlier : List String) : List Value → Parsed (List WorkflowStageDefinition)
  | [] => .ok []
  | stage :: stages => do
    let first ← parseStage earlier stage
    let rest ← parseStages (earlier ++ [first.id]) stages
    return first :: rest

def parseWorkflowPayload (value : Value) (id : String) : Parsed DefinitionPayload := do
  let item ← record value
  let typed := "Workflow payload must use the typed schema-1 fields"
  reject (((keysOf item).any fun key =>
      !(["id", "title", "description", "taskType", "additionalTaskTypes", "stages"].contains key)) ||
      !textValue (fun text => text = id) (Record.get item "id")) .protectedSecurityInvariant typed
  match Record.get item "stages" with
  | .array declared => do
    reject (maximumWorkflowStages < declared.length) .malformedOriginReference
      s!"Workflow may declare at most {maximumWorkflowStages} stages"
    let common ← parseCommon item id
    let taskType ← localId (Record.get item "taskType")
    let stages ← parseStages [] declared
    let additionalTaskTypes ← parseGiven item "additionalTaskTypes" (referenceList "additionalTaskTypes")
    reject (additionalTaskTypes.any fun routes => routes.contains taskType) .conflictingOwnershipMetadata
      "additionalTaskTypes must not contain the workflow's taskType"
    return { common with taskType := some taskType, additionalTaskTypes, stages := some stages }
  | _ => conflict .protectedSecurityInvariant typed

def parseExpectedRevision (item : Record) : Parsed (Option Int) :=
  match Record.get item "expectedEntryRevision" with
  | .undefined => .ok none
  | .number revision =>
    if revision.den = 1 ∧ isPositiveInteger revision.num = true then .ok (some revision.num)
    else malformed "expectedEntryRevision must be a positive integer"
  | _ => malformed "expectedEntryRevision must be a positive integer"

def expectedKey (expected : Option Int) : List String := if expected.isSome then ["expectedEntryRevision"] else []

def parseOperation : Value → Parsed OverrideOperation
  | .string "replace" => .ok .replace
  | .string "extend" => .ok .extend
  | .string "disable" => .ok .disable
  | _ => conflict .unsupportedOverrideOperation "Unknown override operation"

def parseOwnedPayload (kind : ContributionKind) (id : String) (payload : Value) : Parsed DefinitionPayload :=
  if kind = .workflows then parseWorkflowPayload payload id
  else if kind = .agents then parseAgentPayload payload id false
  else parseDefinitionPayload payload id false (some kind)

/-- The payload of an override. Only a replacement of an agent or of a workflow carries references. -/
def parseOverridePayload (source : ExactPackDefinitionSource) (operation : OverrideOperation) (payload : Value) :
    Parsed DefinitionPayload :=
  if operation = .replace ∧ source.kind = .agents then parseAgentPayload payload source.localId true
  else if operation = .replace ∧ source.kind = .workflows then parseWorkflowPayload payload source.localId
  else parseDefinitionPayload payload source.localId (operation = .extend) (some source.kind)

def parsePutOwned (item : Record) (expected : Option Int) : Parsed ProjectDefinitionMutation := do
  let keys := ["action", "kind", "id", "payload", "enabled"] ++ expectedKey expected
  exactKeys item keys keys
  let kind ← parseDefinitionKind (Record.get item "kind")
  let kindName := kind.name
  reject (!projectOwnedKinds.contains kind) .protectedSecurityInvariant
    s!"Project-owned {kindName} needs a typed security contract"
  let id ← localId (Record.get item "id")
  match Record.get item "enabled" with
  | .boolean enabled => do
    let payload ← parseOwnedPayload kind id (Record.get item "payload")
    return .putOwned kind id payload enabled expected
  | _ => malformed "enabled must be boolean"

def parsePutOverride (item : Record) (expected : Option Int) : Parsed ProjectDefinitionMutation := do
  let source ← parseExactSource (Record.get item "source")
  let operation ← parseOperation (Record.get item "operation")
  let keys := ["action", "source", "operation"] ++ (if operation = .disable then [] else ["payload"]) ++
    expectedKey expected
  exactKeys item keys keys
  let operationName := operation.name
  let kindName := source.kind.name
  reject (!overridableKinds.contains source.kind || (operation = .disable && !disableableKinds.contains source.kind))
    .unsupportedOverrideOperation s!"{operationName} is unsupported for {kindName}"
  if operation = .disable then return .putOverride source operation none expected
  else do
    let payload ← parseOverridePayload source operation (Record.get item "payload")
    return .putOverride source operation (some payload) expected

def parseDefinitionMutation (value : Value) : Parsed ProjectDefinitionMutation := do
  let item ← record value
  let expected ← parseExpectedRevision item
  match Record.get item "action" with
  | .string "put_owned" => parsePutOwned item expected
  | .string "remove_owned" => do
    exactKeys item ["action", "kind", "id"] ["action", "kind", "id"]
    let kind ← parseDefinitionKind (Record.get item "kind")
    let id ← localId (Record.get item "id")
    return .removeOwned kind id
  | .string "put_override" => parsePutOverride item expected
  | .string "remove_override" => do
    exactKeys item ["action", "source"] ["action", "source"]
    let source ← parseExactSource (Record.get item "source")
    return .removeOverride source
  | _ => malformed "Unknown definition mutation"

def listValue (texts : List String) : Value := .array (texts.map .string)

def stageValue (stage : WorkflowStageDefinition) : Value :=
  .object (present [("id", some (.string stage.id)), ("role", some (.string stage.role)),
    ("title", stage.title.map .string), ("objective", stage.objective.map .string),
    ("checks", stage.checks.map listValue)])

def stagesValue (stages : List WorkflowStageDefinition) : Value := .array (stages.map stageValue)

def payloadEntries (payload : DefinitionPayload) : List (String × Option Value) :=
  [("id", payload.id.map .string), ("title", payload.title.map .string),
    ("description", payload.description.map .string), ("responsibilities", payload.responsibilities.map listValue),
    ("text", payload.text.map .string), ("role", payload.role.map .string), ("prompts", payload.prompts.map listValue),
    ("knowledge", payload.knowledge.map listValue), ("capabilities", payload.capabilities.map listValue),
    ("taskType", payload.taskType.map .string), ("additionalTaskTypes", payload.additionalTaskTypes.map listValue),
    ("stages", payload.stages.map stagesValue)]

def payloadValue (payload : DefinitionPayload) : Value := .object (present (payloadEntries payload))

def sourceValue (source : ExactPackDefinitionSource) : Value :=
  .object [("id", .string source.id), ("version", .string source.version),
    ("manifestDigest", .string source.manifestDigest), ("kind", .string source.kind.name),
    ("localId", .string source.localId)]

def sourceKey (source : ExactPackDefinitionSource) : String :=
  "\u0000".intercalate [source.id, source.version, source.manifestDigest, source.kind.name, source.localId]

def ownedOrder (item : ProjectOwnedDefinition) : List (List Nat) := [codeUnits item.kind.name, codeUnits item.id]

def sourceOrder (source : ExactPackDefinitionSource) : List (List Nat) :=
  [codeUnits source.id, codeUnits source.version, codeUnits source.manifestDigest, codeUnits source.kind.name,
    codeUnits source.localId]

end AiOffice.Application.DomainPack
