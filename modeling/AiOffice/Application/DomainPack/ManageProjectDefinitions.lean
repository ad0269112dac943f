import AiOffice.Application.DomainPack.ProjectDefinition
import AiOffice.Domain.IsoDate

namespace AiOffice.Application.DomainPack

open Data Domain DomainPackContracts

/-- What `apply` throws. -/
inductive ApplyError
  | conflict (thrown : ProjectDefinitionConflict)
  | stale (actualRevision : Int)
  | invalidDate

/-- The packs that a project selects, and what the installed packs have against a mutation. -/
structure InstalledPacks where
  packs : List DomainPackDependency
  ownedCollisions : ContributionKind → String → List ProjectDefinitionConflict
  sourceIssues : ExactPackDefinitionSource → OverrideOperation → Option DefinitionPayload →
    List ProjectDefinitionConflict

def sourceBindingIssues (packs : List DomainPackDependency) (source : ExactPackDefinitionSource) :
    List ProjectDefinitionConflict :=
  let id := source.id
  let version := source.version
  match packs.find? fun pack => pack.id = source.id with
  | none => [⟨.sourcePackNotSelected, s!"Pack {id}@{version} is not selected"⟩]
  | some selected =>
    if selected.version ≠ source.version then
      [⟨.sourcePackNotSelected, s!"Pack {id}@{version} is not selected"⟩]
    else if selected.manifestDigest ≠ source.manifestDigest then
      [⟨.sourceDigestMismatch, s!"Selected manifest digest differs for {id}@{version}"⟩]
    else []

def ProjectDefinitionState.findOwned (state : ProjectDefinitionState) (kind : ContributionKind) (id : String) :
    Option ProjectOwnedDefinition :=
  state.owned.find? fun item => item.kind = kind ∧ item.id = id

def ProjectDefinitionState.findOverride (state : ProjectDefinitionState) (source : ExactPackDefinitionSource) :
    Option ProjectDefinitionOverride :=
  state.overrides.find? fun item => sourceKey item.source = sourceKey source

def affectedRevision (state : ProjectDefinitionState) : ProjectDefinitionMutation → Option Int
  | .putOwned kind id _ _ _ => (state.findOwned kind id).map (·.revision)
  | .removeOwned kind id => (state.findOwned kind id).map (·.revision)
  | .putOverride source _ _ _ => (state.findOverride source).map (·.revision)
  | .removeOverride source => (state.findOverride source).map (·.revision)

def entryIssues (duplicate : DefinitionIssueCode) (affected expected : Option Int) : List ProjectDefinitionConflict :=
  match affected, expected with
  | some _, none => [⟨duplicate, "Entry already exists; revise with its exact expectedEntryRevision"⟩]
  | some revision, some exactly_ =>
    if revision ≠ exactly_ then
      [⟨.conflictingOwnershipMetadata, "Entry revision differs from expectedEntryRevision"⟩]
    else []
  | none, some _ => [⟨.conflictingOwnershipMetadata, "No entry exists for expectedEntryRevision"⟩]
  | none, none => []

def removalIssues (affected : Option Int) : List ProjectDefinitionConflict :=
  if affected.isNone then [⟨.conflictingOwnershipMetadata, "Entry does not exist"⟩] else []

/-- The issues of a mutation, with or without those of the installed packs. -/
def previewParsed (installed : InstalledPacks) (current : ProjectDefinitionState) (checkInstalledSource : Bool)
    (mutation : ProjectDefinitionMutation) : List ProjectDefinitionConflict :=
  let affected := affectedRevision current mutation
  match mutation with
  | .putOwned kind id _ _ expected =>
    entryIssues .duplicateProjectDefinition affected expected ++
      if checkInstalledSource then installed.ownedCollisions kind id else []
  | .putOverride source operation payload expected =>
    entryIssues .duplicateOverrideTarget affected expected ++
      if checkInstalledSource then installed.sourceIssues source operation payload
      else sourceBindingIssues installed.packs source
  | .removeOwned _ _ => removalIssues affected
  | .removeOverride _ => removalIssues affected

structure ApplyInput where
  mutation : Value
  expectedRevision : Int
  actorId : String

def changed (current : ProjectDefinitionState) (actorId changedAt : String) (mutation : ProjectDefinitionMutation) :
    List ProjectOwnedDefinition × List ProjectDefinitionOverride :=
  let revision := (affectedRevision current mutation).getD 0 + 1
  match mutation with
  | .putOwned kind id payload enabled _ =>
    (current.owned.filter (fun item => item.kind ≠ kind ∨ item.id ≠ id) ++
      [⟨kind, id, revision, enabled, payload, actorId, changedAt⟩], current.overrides)
  | .removeOwned kind id => (current.owned.filter fun item => item.kind ≠ kind ∨ item.id ≠ id, current.overrides)
  | .putOverride source operation payload _ =>
    (current.owned, current.overrides.filter (fun item => sourceKey item.source ≠ sourceKey source) ++
      [⟨source, operation, revision, payload, actorId, changedAt⟩])
  | .removeOverride source =>
    (current.owned, current.overrides.filter fun item => sourceKey item.source ≠ sourceKey source)

def refuse (issues : List ProjectDefinitionConflict) : Except ApplyError Unit :=
  match issues with
  | [] => .ok ()
  | issue :: _ => .error (.conflict issue)

def require (condition : Bool) (thrown : ApplyError) : Except ApplyError Unit :=
  if condition then .ok () else .error thrown

def numberValue (number : Int) : Value := .number number

/-- A mutation as the object that `preview` parses again. -/
def mutationValue : ProjectDefinitionMutation → Value
  | .putOwned kind id payload enabled expected =>
    .object (present [("action", some (.string "put_owned")), ("kind", some (.string kind.name)),
      ("id", some (.string id)), ("enabled", some (.boolean enabled)), ("payload", some (payloadValue payload)),
      ("expectedEntryRevision", expected.map numberValue)])
  | .removeOwned kind id =>
    .object [("action", .string "remove_owned"), ("kind", .string kind.name), ("id", .string id)]
  | .putOverride source operation payload expected =>
    .object (present [("action", some (.string "put_override")), ("source", some (sourceValue source)),
      ("operation", some (.string operation.name)), ("payload", payload.map payloadValue),
      ("expectedEntryRevision", expected.map numberValue)])
  | .removeOverride source => .object [("action", .string "remove_override"), ("source", sourceValue source)]

def parse (mutation : Value) : Except ApplyError ProjectDefinitionMutation :=
  (parseDefinitionMutation mutation).mapError .conflict

/-- One accepted or rejected mutation. The revision that it expects fixes the state that it previews and changes. -/
def apply (installed : InstalledPacks) (now : Date) (current : ProjectDefinitionState) (input : ApplyInput) :
    Except ApplyError ProjectDefinitionState := do
  require (isSafeInteger input.expectedRevision && 0 ≤ input.expectedRevision)
    (.conflict ⟨.malformedOriginReference, "expectedRevision must be nonnegative"⟩)
  let mutation ← parse input.mutation
  let previewed ← parse (mutationValue mutation)
  let issues := previewParsed installed current true previewed
  require (current.revision = input.expectedRevision) (.stale current.revision)
  refuse issues
  refuse (previewParsed installed current false mutation)
  require (IsoDate.validTime now) .invalidDate
  let entries := changed current input.actorId (IsoDate.toISOString now) mutation
  return ⟨current.projectId, input.expectedRevision + 1, sortOn ownedOrder entries.1,
    sortOn (fun item => sourceOrder item.source) entries.2⟩

def noDefinitions (projectId : String) : ProjectDefinitionState := ⟨projectId, 0, [], []⟩

end AiOffice.Application.DomainPack
