import AiOffice.Application.DomainPack.PackChanges
import AiOffice.Storage.ProjectConfiguration

namespace AiOffice.Application.DomainPack

open Data Domain DomainPackContracts Storage.ProjectConfiguration

inductive BindingIssueCode
  | catalog (code : CatalogErrorCode)
  | packDefinitionCollision
  | provider (code : CapabilityBindingIssueCode)
  | roleCapabilityChangeRequiresUpgrade
  | capabilityContractChangeRequiresUpgrade
  | policyChangeRequiresUpgrade
  | knowledgeChangeRequiresUpgrade
  | evidenceContractChangeRequiresUpgrade

structure BindingIssue where
  code : BindingIssueCode
  message : String

/-- What `apply` throws. -/
inductive BindingError
  | projectNotFound (projectId : String)
  | catalog (thrown : CatalogError)
  | issue (raised : BindingIssue)
  | store (thrown : StoreError)
  | audit

structure PackDefinitionCollision where
  kind : ContributionKind
  id : String
  pack : String

/-- The definitions of a project that a closure has too, each with the first pack that has it. -/
def packDefinitionCollisions (closure : List DomainPackManifest) (owned : List ProjectOwnedDefinition) :
    List PackDefinitionCollision :=
  (sortOn ownedOrder owned).filterMap fun entry =>
    let packs := (closure.filter fun manifest => (manifest.find entry.kind entry.id).isSome).map fun manifest =>
      let id := manifest.id
      let version := manifest.version
      s!"{id}@{version}"
    (sort packs).head?.map fun pack => { kind := entry.kind, id := entry.id, pack }

def collisionIssues (closure : List DomainPackManifest) (owned : List ProjectOwnedDefinition) : List BindingIssue :=
  (packDefinitionCollisions closure owned).map fun collision =>
    let kindName := collision.kind.name
    let id := collision.id
    let pack := collision.pack
    ⟨.packDefinitionCollision,
      s!"Project definition {kindName}/{id} collides with pack {pack} in the proposed pack closure"⟩

inductive UnavailableReason
  | previousClosureUnresolved
  | proposedClosureUnreadable
  deriving DecidableEq

/-- The differences between two closures, or why they cannot be told. -/
inductive Availability (Change : Type)
  | available (changes : List Change)
  | unavailable (reason : UnavailableReason) (detail : String)

structure ProjectPackBindingPreview where
  current : ProjectPackBinding
  proposed : List PackIdentity
  added : List PackIdentity
  removed : List PackIdentity
  changed : List (PackIdentity × PackIdentity)
  roleCapabilityChanges : Availability RoleCapabilityDifference
  capabilityContractChanges : Availability CapabilityContractDifference
  policyChanges : Availability (DeclarationDifference WorkflowPolicy)
  knowledgeChanges : Availability (DeclarationDifference KnowledgeGuidance)
  evidenceContractChanges : Availability (DeclarationDifference (List (String × String)))
  issues : List BindingIssue

def exactPack (pack : PackIdentity) : Except CatalogError PackIdentity :=
  if !packIdPattern pack.id then .error ⟨.malformedRequest, "id: expected lower-case reverse-DNS ID"⟩
  else if !versionPattern pack.version then .error ⟨.malformedRequest, "version: expected exact MAJOR.MINOR.PATCH"⟩
  else if !digestPattern pack.manifestDigest then
    .error ⟨.malformedRequest, "manifestDigest: expected sha256: and 64 lowercase hex digits"⟩
  else .ok pack

def exactPacks : List String → List PackIdentity → Except CatalogError (List PackIdentity)
  | _, [] => .ok []
  | seen, pack :: packs => do
    let exactly_ ← exactPack pack
    let id := exactly_.id
    if seen.contains id then .error ⟨.versionConflict, s!"Pack {id} is selected more than once"⟩
    else do
      let others ← exactPacks (id :: seen) packs
      return exactly_ :: others

def upgradeRefusal (code : BindingIssueCode) (reason : String) : BindingIssue :=
  ⟨code, s!"{reason}; review and approve it with project:pack:upgrade"⟩

def altered {Change : Type} (idOf : Change → StableId) (changes : List Change) (before after_ : List StableId) :
    Option StableId :=
  (changes.find? fun change => before.contains (idOf change) && after_.contains (idOf change)).map idOf

def roleCapabilityIssue (previous target : List DomainPackManifest) : Option BindingIssue :=
  (altered RoleCapabilityDifference.roleId (roleCapabilityDifferences previous target) (closureRoleIds previous)
    (closureRoleIds target)).map fun id =>
      let name := id.text
      upgradeRefusal .roleCapabilityChangeRequiresUpgrade s!"The selection changes the capabilities of role {name}"

def capabilityContractIssue (previous target : List DomainPackManifest) : Option BindingIssue :=
  (altered CapabilityContractDifference.capabilityId (capabilityContractDifferences previous target)
    (closureCapabilityIds previous) (closureCapabilityIds target)).map fun id =>
      let name := id.text
      upgradeRefusal .capabilityContractChangeRequiresUpgrade
        s!"The selection changes the operation contract of capability {name}"

def policyIssue (previous target : List DomainPackManifest) : Option BindingIssue :=
  (altered DeclarationDifference.id (workflowPolicyDifferences previous target) (closureWorkflowIds previous)
    (closureWorkflowIds target)).map fun id =>
      let name := id.text
      upgradeRefusal .policyChangeRequiresUpgrade s!"The selection changes the policy of workflow {name}"

def knowledgeIssue (previous target : List DomainPackManifest) : Option BindingIssue :=
  (altered DeclarationDifference.id (knowledgeGuidanceDifferences previous target) (closureKnowledgeIds previous)
    (closureKnowledgeIds target)).map fun id =>
      let name := id.text
      upgradeRefusal .knowledgeChangeRequiresUpgrade s!"The selection changes the guidance of knowledge {name}"

def evidenceContractIssue (previous target : List DomainPackManifest) : Option BindingIssue :=
  (altered DeclarationDifference.id (evidenceContractDifferences previous target)
    (closureEvidenceDefinitionIds previous) (closureEvidenceDefinitionIds target)).map fun id =>
      let name := id.text
      upgradeRefusal .evidenceContractChangeRequiresUpgrade s!"The selection changes the contract of {name}"

/-- What a change of the selection alters, and what is refused of it. -/
structure SelectionGuard where
  roleCapabilityChanges : Availability RoleCapabilityDifference
  capabilityContractChanges : Availability CapabilityContractDifference
  policyChanges : Availability (DeclarationDifference WorkflowPolicy)
  knowledgeChanges : Availability (DeclarationDifference KnowledgeGuidance)
  evidenceContractChanges : Availability (DeclarationDifference (List (String × String)))
  issues : List BindingIssue

def SelectionGuard.unchanged : SelectionGuard :=
  ⟨.available [], .available [], .available [], .available [], .available [], []⟩

def SelectionGuard.unavailable (reason : UnavailableReason) (detail : String) (issue : BindingIssue) : SelectionGuard :=
  ⟨.unavailable reason detail, .unavailable reason detail, .unavailable reason detail, .unavailable reason detail,
    .unavailable reason detail, [issue]⟩

/-- The guards of a selection that changes, over the closures of both selections. -/
def selectionGuard (catalog : InstalledPackCatalog) (currentPacks proposed : List PackIdentity) : SelectionGuard :=
  match resolveInstalledPackManifests catalog proposed with
  | .error thrown =>
    let code := thrown.code.name
    .unavailable .proposedClosureUnreadable code (upgradeRefusal .roleCapabilityChangeRequiresUpgrade
      s!"Role capabilities of the proposed selection cannot be read ({code})")
  | .ok target =>
    match resolveInstalledPackManifests catalog currentPacks with
    | .error thrown =>
      .unavailable .previousClosureUnresolved thrown.code.name
        (upgradeRefusal .roleCapabilityChangeRequiresUpgrade
          "The current pack artifacts are not installed, so the selection change cannot be shown to leave role capabilities unchanged")
    | .ok previous =>
      { roleCapabilityChanges := .available (roleCapabilityDifferences previous target)
        capabilityContractChanges := .available (capabilityContractDifferences previous target)
        policyChanges := .available (workflowPolicyDifferences previous target)
        knowledgeChanges := .available (knowledgeGuidanceDifferences previous target)
        evidenceContractChanges := .available (evidenceContractDifferences previous target)
        issues := (roleCapabilityIssue previous target).toList ++ (capabilityContractIssue previous target).toList ++
          (policyIssue previous target).toList ++ (knowledgeIssue previous target).toList ++
          (evidenceContractIssue previous target).toList }

/-- The host that a selection is made on: its installed packs, its providers and the order of its locale. -/
structure SelectionHost (Key : Type) where
  catalog : InstalledPackCatalog
  providers : OperationProviderCatalog
  collation : String → Key

section Selections

variable {Key : Type} [LinearOrder Key] (host : SelectionHost Key)

/-- Exact, structurally valid packs, one for an id, in the order of the locale. -/
def normalizePackSelection (packs : List PackIdentity) : Except CatalogError (List PackIdentity) :=
  (exactPacks [] packs).map (localeSorted host.collation)

def addedPacks (current proposed : List PackIdentity) : List PackIdentity :=
  proposed.filter fun pack => (selectedById current pack.id).isNone

def changedPacks (current proposed : List PackIdentity) : List (PackIdentity × PackIdentity) :=
  proposed.filterMap fun after_ =>
    (selectedById current after_.id).bind fun before => if before = after_ then none else some (before, after_)

/-- The proposed selection. One that names a pack twice is an issue and is examined no further. -/
def proposedSelection (desired : List PackIdentity) :
    Except BindingError (List PackIdentity × List BindingIssue) :=
  match normalizePackSelection host desired with
  | .ok proposed => .ok (proposed, [])
  | .error thrown =>
    if thrown.code = .versionConflict then
      .ok (localeSorted host.collation desired, [⟨.catalog thrown.code, thrown.message⟩])
    else .error (.catalog thrown)

def providerIssues (closure : List DomainPackManifest) : List BindingIssue :=
  match bindCapabilityContracts closure host.providers with
  | .ok _ => []
  | .error issues => issues.map fun issue => ⟨.provider issue.code, issue.message⟩

/-- The preview of a selection, and the closure that it was computed from. -/
def examine (current : ProjectPackBinding) (owned : List ProjectOwnedDefinition) (desired : List PackIdentity) :
    Except BindingError (ProjectPackBindingPreview × Option (List DomainPackManifest)) := do
  let (proposed, conflicts) ← proposedSelection host desired
  let added := addedPacks current.packs proposed
  let removed := addedPacks proposed current.packs
  let changed := changedPacks current.packs proposed
  let closure := if conflicts.isEmpty then some (resolveInstalledPackManifests host.catalog proposed) else none
  let closureIssues := match closure with
    | none => conflicts
    | some (.error thrown) => [⟨.catalog thrown.code, thrown.message⟩]
    | some (.ok manifests) => collisionIssues manifests owned ++ providerIssues host manifests
  let resolved := closure.bind Except.toOption
  let guard_ :=
    if resolved.isSome && 0 < added.length + removed.length + changed.length then
      selectionGuard host.catalog current.packs proposed
    else .unchanged
  return (
    { current, proposed, added, removed, changed
      roleCapabilityChanges := guard_.roleCapabilityChanges
      capabilityContractChanges := guard_.capabilityContractChanges
      policyChanges := guard_.policyChanges
      knowledgeChanges := guard_.knowledgeChanges
      evidenceContractChanges := guard_.evidenceContractChanges
      issues := closureIssues ++ guard_.issues }, resolved)

/-- The rows that one run of `apply` reads before its transaction, each at its own time. -/
structure SelectionReads where
  started : ConfigurationTables
  examined : ConfigurationTables
  compared : ConfigurationTables

structure SelectionInput where
  desired : List PackIdentity
  expectedRevision : Int

def readBinding (tables : ConfigurationTables) : Except BindingError ProjectPackBinding :=
  if tables.exists_ then .ok tables.binding else .error (.projectNotFound tables.projectId)

def raise : List BindingIssue → Except BindingError Unit
  | [] => .ok ()
  | issue :: _ => .error (.issue issue)

/-- What a run checks before its transaction: the normalized selection, with the closure of a changed one. -/
def checkSelection (reads : SelectionReads) (input : SelectionInput) :
    Except BindingError (List PackIdentity × Option (List DomainPackManifest)) := do
  if !isSafeInteger input.expectedRevision || input.expectedRevision < 0 then
    .error (.catalog ⟨.malformedRequest, "Expected a nonnegative project pack configuration revision"⟩)
  else do
    let desired ← (normalizePackSelection host input.desired).mapError .catalog
    let current ← readBinding reads.started
    if current.configurationRevision ≠ input.expectedRevision then
      .error (.store (.staleBinding current.configurationRevision))
    else if current.packs = desired then return (desired, none)
    else do
      let binding ← readBinding reads.examined
      let (preview, closure) ← examine host binding reads.compared.owned input.desired
      raise preview.issues
      match closure with
      | none => .error (.catalog ⟨.malformedCatalogEntry,
          "The proposed pack closure could not be read back for the composition preflight"⟩)
      | some closure => return (desired, some closure)

def refuseCollision (closure : Option (List DomainPackManifest)) (owned : List ProjectOwnedDefinition) :
    Except BindingError Unit :=
  match closure with
  | none => .ok ()
  | some closure => raise (collisionIssues closure owned)

/-- The transaction of `apply`. The append of the audit event may fail. -/
def commitSelection (audited : Bool) (expectedRevision : Int) (desired : List PackIdentity)
    (closure : Option (List DomainPackManifest)) : Method ConfigurationTables BindingError ProjectPackBinding :=
  Method.transaction do
    let tables ← get
    Method.lift (if tables.binding.configurationRevision ≠ expectedRevision then
      .error (.store (.staleBinding tables.binding.configurationRevision)) else .ok ())
    let (binding, changed) ← Method.adapt .store (replaceBinding host.collation expectedRevision desired)
    let replaced ← get
    Method.lift (refuseCollision closure replaced.definitions.owned)
    Method.lift (if changed && !audited then .error .audit else .ok ())
    return binding

/-- One run of `apply`. -/
def applySelection (audited : Bool) (reads : SelectionReads) (input : SelectionInput) :
    Method ConfigurationTables BindingError ProjectPackBinding := do
  let (desired, closure) ← Method.lift (checkSelection host reads input)
  commitSelection host audited input.expectedRevision desired closure

end Selections

end AiOffice.Application.DomainPack
