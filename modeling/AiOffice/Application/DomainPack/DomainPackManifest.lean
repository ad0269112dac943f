import AiOffice.Application.DomainPack.ProjectDefinition

namespace AiOffice.Application.DomainPack

open Data Domain DomainPackContracts

abbrev PackIdentity := DomainPackDependency

/-- The clauses that a policy declares for one stage of the workflow that it targets. A flag is there only when set. -/
structure PolicyStageClause where
  stage : String
  requiresApproval : Bool
  requiresIndependentApproval : Bool
  requiresDifferentAgentFrom : Option (List String)
  operations : Option (List String)
  deriving DecidableEq

inductive PolicyEnforcement
  | enforced
  | guidance
  deriving DecidableEq

structure KnowledgeSchemaField where
  field : String
  description : String
  deriving DecidableEq

structure KnowledgeRetrievalGuidance where
  maxResults : Option Nat
  hint : Option String
  categories : Option (List String)
  deriving DecidableEq

structure KnowledgeGuidance where
  category : Option String
  schema : Option (List KnowledgeSchemaField)
  seeds : Option (List String)
  retrieval : Option KnowledgeRetrievalGuidance
  deriving DecidableEq

def noGuidance : KnowledgeGuidance := ⟨none, none, none, none⟩

inductive OperationMode
  | read
  | mutation
  deriving DecidableEq

structure CapabilityOperation where
  operation : String
  mode : OperationMode
  deriving DecidableEq

inductive CapabilityRequirement
  | required
  | optional
  deriving DecidableEq

/-- The keys of a definition: those that a project can write, and those that only a pack has. The typed members of
artifact types, evidence types and validators are kept by name, each as its canonical text. -/
structure Definition extends DefinitionPayload where
  workflow : Option String
  enforcement : Option PolicyEnforcement
  clauses : Option (List PolicyStageClause)
  guidance : KnowledgeGuidance
  typedMembers : List (String × String)
  operations : Option (List CapabilityOperation)
  requirement : Option CapabilityRequirement
  deriving DecidableEq

def DefinitionPayload.definition (payload : DefinitionPayload) : Definition :=
  { payload with
    workflow := none, enforcement := none, clauses := none, guidance := noGuidance, typedMembers := []
    operations := none, requirement := none }

structure Contribution extends Definition where
  localId : String
  named : id = some localId
  deriving DecidableEq

abbrev DomainPackContributions := ContributionKind → List Contribution

/-- What holds of the contributions of every manifest that was validated: an id names one definition of a kind, and a
workflow has one policy at most. -/
structure ContributionsValid (contributions : DomainPackContributions) : Prop where
  unique : ∀ kind, ((contributions kind).map Contribution.localId).Nodup
  governed : (contributions .policies).Pairwise fun policy later =>
    policy.workflow = none ∨ policy.workflow ≠ later.workflow

/-- A manifest that was verified: its identity, what it depends on and what it contributes. -/
structure DomainPackManifest extends DomainPackDependency where
  dependencies : List PackIdentity
  contributions : DomainPackContributions
  valid : ContributionsValid contributions

namespace DomainPackManifest

def identity (manifest : DomainPackManifest) : PackIdentity := manifest.toDomainPackDependency

def find (manifest : DomainPackManifest) (kind : ContributionKind) (localId : String) : Option Contribution :=
  (manifest.contributions kind).find? fun entry => entry.localId = localId

end DomainPackManifest

def packOrder (pack : PackIdentity) : List (List Nat) :=
  [codeUnits pack.id, codeUnits pack.version, codeUnits pack.manifestDigest]

theorem packOrder_injective : packOrder.Injective := by
  intro left right same
  simp only [packOrder, List.cons.injEq, and_true] at same
  obtain ⟨id, version, digest⟩ := same
  cases left
  cases right
  obtain rfl := codeUnits_injective id
  obtain rfl := codeUnits_injective version
  obtain rfl := codeUnits_injective digest
  rfl

def sortedPacks (packs : List PackIdentity) : List PackIdentity := sortOn packOrder packs

/-- The identity of a definition that a version, a digest or a text does not change. -/
inductive StableId
  | pack (packId : String) (kind : ContributionKind) (localId : String)
  | project (kind : ContributionKind) (localId : String)
  deriving DecidableEq

/-- The identity of a definition of an exact manifest, or of the project. -/
inductive EffectiveId
  | pack (pack : PackIdentity) (kind : ContributionKind) (localId : String)
  | project (kind : ContributionKind) (localId : String)
  deriving DecidableEq

def StableId.text : StableId → String
  | .pack packId kind localId =>
    let kindName := kind.name
    s!"pack:{packId}/{kindName}/{localId}"
  | .project kind localId =>
    let kindName := kind.name
    s!"project:{kindName}/{localId}"

namespace EffectiveId

def text : EffectiveId → String
  | .pack source kind localId =>
    let packId := source.id
    let version := source.version
    let digest := source.manifestDigest
    let kindName := kind.name
    s!"pack:{packId}@{version}#{digest}/{kindName}/{localId}"
  | .project kind localId =>
    let kindName := kind.name
    s!"project:{kindName}/{localId}"

def kind : EffectiveId → ContributionKind
  | .pack _ kind _ | .project kind _ => kind

def localId : EffectiveId → String
  | .pack _ _ localId | .project _ localId => localId

def stable : EffectiveId → StableId
  | .pack source kind localId => .pack source.id kind localId
  | .project kind localId => .project kind localId

end EffectiveId

end AiOffice.Application.DomainPack
