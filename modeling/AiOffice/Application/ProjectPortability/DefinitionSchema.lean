import AiOffice.Application.OfficeManifestSchema
import AiOffice.Domain.IsoDate

namespace AiOffice.Application.ProjectPortability

open Domain Domain.Schema DomainPackContracts
open Application.DomainPack Application.OfficeManifestSchema

/-- The issues of the items of a list one after another, each with the items before it. -/
def issuesFrom (issues : List Value → Value → List Issue) (earlier : List Value) : List Value → List Issue
  | [] => []
  | item :: items => issues earlier item ++ issuesFrom issues (earlier ++ [item]) items

def eachIssues (items : List Value) (issues : List Value → Value → List Issue) : List Issue :=
  issuesFrom issues [] items

theorem issuesFrom_eq_nil {issues : List Value → Value → List Issue} {earlier items : List Value} :
    issuesFrom issues earlier items = [] ↔
      ∀ before item after, items = before ++ item :: after → issues (earlier ++ before) item = [] := by
  induction items generalizing earlier with
  | nil => simp [issuesFrom]
  | cons first items ih =>
    rw [issuesFrom, List.append_eq_nil_iff, ih]
    constructor
    · rintro ⟨none, later⟩ before item after split
      cases before with
      | nil =>
        obtain ⟨rfl, -⟩ := List.cons.inj split
        rwa [List.append_nil]
      | cons head before =>
        obtain ⟨rfl, rest⟩ := List.cons.inj split
        have clean := later before item after rest
        rwa [List.append_assoc] at clean
    · intro all
      refine ⟨?_, fun before item after split => ?_⟩
      · have clean := all [] first items rfl
        rwa [List.append_nil] at clean
      · rw [List.append_assoc]
        exact all (first :: before) item after (by rw [split]; rfl)

theorem eachIssues_eq_nil {issues : List Value → Value → List Issue} {items : List Value} {accepts : Value → Prop}
    (each : ∀ earlier item, issues earlier item = [] ↔ accepts item) :
    eachIssues items issues = [] ↔ ∀ item ∈ items, accepts item := by
  rw [eachIssues, issuesFrom_eq_nil]
  constructor
  · intro all item member
    obtain ⟨before, after, split⟩ := List.append_of_mem member
    exact (each _ item).mp (all before item after split)
  · rintro all before item after rfl
    exact (each _ item).mpr (all item (List.mem_append_right _ List.mem_cons_self))

def id : Schema := trimmedText 256

def shortText : Schema := text fun value => utf16Length value ≤ 2000

def longText : Schema := text fun value => utf16Length value ≤ 256000

def timestamp : Schema := text IsoDate.isTimestamp

def checksum : Schema := text validHash

def packBindingIssues (packs : List Value) : List Issue :=
  eachIssues packs fun earlier pack =>
    let packId := (pack.get "id").text
    issueUnless (!(earlier.map fun pack => (pack.get "id").text).contains packId)
      [.index earlier.length, .field "id"] s!"Pack {packId} is selected more than once" ++
    issueUnless (earlier.getLast?.all fun previous => codeUnits (previous.get "id").text ≤ codeUnits packId)
      [.index earlier.length, .field "id"] "Pack selection must be sorted by ID"

def exactPackFields : List Field := [
  required "id" (text packIdPattern),
  required "version" (text versionPattern),
  required "manifestDigest" (text digestPattern)]

def portablePackBinding : Schema :=
  superRefine
    (object [
      required "configurationRevision" nonnegativeInteger,
      required "packs" (superRefine (array (object exactPackFields) fun _ => true) fun packs =>
        packBindingIssues packs.items)])
    fun binding => issueUnless
      (!((binding.get "configurationRevision").isNumber 0 && !(binding.get "packs").items.isEmpty)) [.field "configurationRevision"] "A nonempty selection requires a positive configuration revision"

def portableDefinitionKind : List String :=
  ["roles", "taskTypes", "agents", "artifactTypes", "evidenceTypes", "knowledge", "prompts"]

def portableOwnedKind : Schema := union [oneOf portableDefinitionKind, oneOf ["workflows"]]

def portableDefinitionId : Schema := text localIdPattern

def portableDefinitionText : Schema := text isDefinitionText

def descriptiveFields : List Field := [
  required "id" portableDefinitionId,
  optional "title" portableDefinitionText,
  optional "description" portableDefinitionText]

def portableDescriptivePayload : Schema := object descriptiveFields

def portableExtensionPayload : Schema := object [
  optional "title" portableDefinitionText,
  optional "description" portableDefinitionText]

def ascending : List String → Bool
  | [] => true
  | [_] => true
  | first :: second :: rest => codeUnits first < codeUnits second && ascending (second :: rest)

/-- A nonempty set of local ids in the one order that the mutation contract stores. -/
def portableReferenceList : Schema :=
  refine (boundedArray portableDefinitionId 1 maximumAgentReferences) fun items => ascending (texts items)

def portableDescriptiveText : Schema := text isDescriptiveText

def portableDescriptiveList : Schema := boundedArray portableDescriptiveText 1 maximumDescriptiveEntries

def portableRolePayload : Schema :=
  object (descriptiveFields ++ [required "responsibilities" portableDescriptiveList])

def portablePromptPayload : Schema :=
  object (descriptiveFields ++ [required "text" portableDescriptiveText])

def portableAgentPayload : Schema :=
  object (descriptiveFields ++ [
    optional "role" portableDefinitionId,
    optional "prompts" portableReferenceList,
    optional "knowledge" portableReferenceList,
    optional "capabilities" portableReferenceList])

def portableStage : Schema := object [
  required "id" portableDefinitionId,
  required "role" portableDefinitionId,
  optional "title" portableDescriptiveText,
  optional "objective" portableDescriptiveText,
  optional "checks" portableDescriptiveList]

def portableWorkflowPayload : Schema :=
  object (descriptiveFields ++ [
    required "taskType" portableDefinitionId,
    optional "additionalTaskTypes" portableReferenceList,
    required "stages" (boundedArray portableStage 0 maximumWorkflowStages)])

/-- The rules of the format-10 keys: `responsibilities` on a role only, `text` on a prompt only, and routes
without the task type. -/
def descriptiveVocabularyIssue (kind : String) (payload : Value) : Option String :=
  if payload.has "responsibilities" && kind ≠ "roles" then some "Only a role carries responsibilities"
  else if payload.has "text" && kind ≠ "prompts" then some "Only a prompt carries text"
  -- Reading an `undefined` list throws, which rejects the payload as well.
  else if payload.has "additionalTaskTypes" && payload.has "taskType" &&
      ((payload.get "additionalTaskTypes").isUndefined ||
        (texts (payload.get "additionalTaskTypes")).contains (payload.get "taskType").text) then
    some "Additional task types must not contain the task type"
  else none

def vocabularyIssues (path : List PathSegment) (kind : String) (payload : Value) : List Issue :=
  (descriptiveVocabularyIssue kind payload).toList.map fun message => ⟨path, message⟩

def portableExactDefinitionSource : Schema :=
  object (exactPackFields ++ [required "kind" portableOwnedKind, required "localId" portableDefinitionId])

def ownedPayload : Schema :=
  union [portableDescriptivePayload, portableRolePayload, portablePromptPayload, portableWorkflowPayload,
    portableAgentPayload]

def overridePayload : Schema :=
  union [portableDescriptivePayload, portableExtensionPayload, portableRolePayload, portablePromptPayload,
    portableAgentPayload, portableWorkflowPayload]

def portableOwned : Schema := object [
  required "origin" (oneOf ["project_owned"]),
  required "kind" portableOwnedKind,
  required "id" portableDefinitionId,
  required "revision" positiveInteger,
  required "enabled" boolean,
  required "payload" ownedPayload,
  required "actorId" id,
  required "changedAt" timestamp]

def portableOverride : Schema := object [
  required "origin" (oneOf ["project_override"]),
  required "source" portableExactDefinitionSource,
  required "operation" (oneOf ["replace", "extend", "disable"]),
  required "revision" positiveInteger,
  optional "payload" overridePayload,
  required "actorId" id,
  required "changedAt" timestamp]

def portableDefinitionShape : Schema := object [
  required "revision" nonnegativeInteger,
  required "owned" (boundedArray portableOwned 0 100000),
  required "overrides" (boundedArray portableOverride 0 100000)]

def ownedKey (item : Value) : String := (item.get "kind").text ++ "\u0000" ++ (item.get "id").text

def overrideKey (item : Value) : String :=
  let source := item.get "source"
  (source.get "id").text ++ "\u0000" ++ (source.get "version").text ++ "\u0000" ++
    (source.get "manifestDigest").text ++ "\u0000" ++ (source.get "kind").text ++ "\u0000" ++
    (source.get "localId").text

def stageIds (payload : Value) : List String := (payload.get "stages").items.map fun stage => (stage.get "id").text

def ownedIssues (earlier : List Value) (item : Value) : List Issue :=
  let path := [.field "owned", .index earlier.length]
  let kind := (item.get "kind").text
  let payload := item.get "payload"
  issueUnless (!(earlier.map ownedKey).contains (ownedKey item) && (payload.get "id").text = (item.get "id").text) path
    "Duplicate or conflicting project definition identity" ++
  issueUnless (decide (kind = "workflows") == payload.has "stages") (path ++ [.field "payload"])
    "Workflow kind requires its typed payload" ++
  -- Only an agent has references, and a project-owned agent cannot request capabilities.
  issueUnless (!(hasAgentReferences payload && (kind ≠ "agents" || payload.has "capabilities")))
    (path ++ [.field "payload"]) "Unsupported agent reference fields" ++
  vocabularyIssues (path ++ [.field "payload"]) kind payload ++
  issueUnless (!payload.has "stages" || uniqueValues (stageIds payload))
    (path ++ [.field "payload", .field "stages"]) "Duplicate workflow stage ID"

def operationPayload (kind operation localId : String) (payload : Value) : Bool :=
  if operation = "disable" then ["prompts", "roles", "agents", "workflows"].contains kind && payload.isUndefined
  else !payload.isUndefined &&
    !(operation = "replace" && !(payload.has "id" && (payload.get "id").text = localId)) &&
    !(operation = "extend" && (payload.has "id" || payload.entries.isEmpty))

def overrideIssues (earlier : List Value) (item : Value) : List Issue :=
  let path := [.field "overrides", .index earlier.length]
  let kind := ((item.get "source").get "kind").text
  let localId := ((item.get "source").get "localId").text
  let operation := (item.get "operation").text
  let payload := item.get "payload"
  issueUnless (!(earlier.map overrideKey).contains (overrideKey item)) path "Duplicate override target" ++
  -- Only a replacement of an agent has references, and requested capabilities need a role.
  issueUnless (!(hasAgentReferences payload && (kind ≠ "agents" || operation ≠ "replace" ||
      (payload.has "capabilities" && !payload.has "role"))))
    (path ++ [.field "payload"]) "Unsupported agent reference fields" ++
  vocabularyIssues (path ++ [.field "payload"]) kind payload ++
  -- A replacement of a workflow is the typed workflow envelope, and nothing else carries one.
  issueUnless (decide (kind = "workflows" ∧ operation = "replace") == payload.has "stages")
    (path ++ [.field "payload"]) "Workflow replacement requires its typed payload" ++
  issueUnless (!payload.has "stages" || uniqueValues (stageIds payload))
    (path ++ [.field "payload", .field "stages"]) "Duplicate workflow stage ID" ++
  issueUnless (operationPayload kind operation localId payload) path "Unsupported or malformed override operation"

def definitionStateIssues (state : Value) : List Issue :=
  let owned := (state.get "owned").items
  let overrides := (state.get "overrides").items
  eachIssues owned ownedIssues ++ eachIssues overrides overrideIssues ++
  issueUnless (!((state.get "revision").isNumber 0 && (!owned.isEmpty || !overrides.isEmpty))) [.field "revision"]
    "Nonempty definition state needs a positive revision"

def portableDefinitionState : Schema := superRefine portableDefinitionShape definitionStateIssues

def unsupported (part : String) (carries : Value → Bool) (path : List PathSegment) (message : String)
    (state : Value) : List Issue :=
  eachIssues (state.get part).items fun earlier item =>
    issueUnless (!carries item) ([.field part, .index earlier.length] ++ path) message

def carriesVocabulary (item : Value) : Bool := hasDescriptiveVocabulary (item.get "payload")

def carriesReferences (item : Value) : Bool := hasAgentReferences (item.get "payload")

def overridesKind (kind : String) (item : Value) : Bool := ((item.get "source").get "kind").text = kind

def disables (kind : String) (item : Value) : Bool :=
  (item.get "operation").text = "disable" && overridesKind kind item

def unsupportedVocabulary (part : String) (state : Value) : List Issue :=
  unsupported part carriesVocabulary [.field "payload"] "Unsupported descriptive vocabulary fields" state

def unsupportedOverride (carries : Value → Bool) (state : Value) : List Issue :=
  unsupported "overrides" carries [] "Unsupported or malformed override operation" state

def portableDefinitionStateV9 : Schema :=
  superRefine portableDefinitionState fun state =>
    unsupportedVocabulary "owned" state ++ unsupportedVocabulary "overrides" state

def portableDefinitionStateV8 : Schema :=
  superRefine portableDefinitionStateV9 (unsupportedOverride (overridesKind "workflows"))

/-- Format 7 froze `disable` as prompt-or-role and payloads as descriptive. -/
def portableDefinitionStateV7 : Schema :=
  superRefine portableDefinitionStateV8 fun state =>
    unsupported "owned" carriesReferences [.field "payload"] "Unsupported agent reference fields" state ++
    unsupportedOverride (fun item => disables "agents" item || carriesReferences item) state

/-- Format 6 froze `disable` as prompt-only. -/
def portableDefinitionStateV6 : Schema :=
  superRefine portableDefinitionStateV7 (unsupportedOverride (disables "roles"))

end AiOffice.Application.ProjectPortability
