import AiOffice.AgentClientIntegrations.LocalAgentClientFiles
import AiOffice.Data.Outcome
import AiOffice.Domain.OfficeManifest

/-! The Runtime's rows that bind a checkout to its project, and the two transactions that write them. -/

namespace AiOffice.Application.ProjectLifecycle

open Data Domain AgentClientIntegrations

structure ProjectRow where
  id : String
  name : String
  description : Option String

structure RepositoryIdentityAssociation where
  repositoryId : String
  projectId : String

structure ProjectSource where
  projectId : String
  localPath : String
  remoteUrl : Option String

/-- The entry of a project's profile that names the root of a checkout. -/
structure ProfileRoot where
  projectId : String
  localPath : String
  detected : Bool

structure ManifestProvenance where
  host : String
  skill : String
  skillVersion : String
  deriving DecidableEq

structure ManifestDocument extends OfficeManifest where
  provenance : ManifestProvenance
  deriving DecidableEq

structure ManifestRevision where
  id : String
  projectId : String
  revision : Nat
  manifest : ManifestDocument

structure RuntimeTables where
  projects : List ProjectRow
  identities : List RepositoryIdentityAssociation
  sources : List ProjectSource
  detachments : List String
  profileRoots : List ProfileRoot
  manifests : List ManifestRevision

inductive AssociationResult
  | created
  | existing
  | conflict
  deriving DecidableEq

def storageError (message : String) : Thrown := ⟨.storageError, message⟩

def sourceAssociationError (message : String) : Thrown := ⟨.projectSourceAssociationError, message⟩

namespace RuntimeTables

variable (tables : RuntimeTables)

def findProject (id : String) : Option ProjectRow := tables.projects.find? (·.id = id)

def findProjectId (repositoryId : String) : Option String :=
  (tables.identities.find? (·.repositoryId = repositoryId)).map (·.projectId)

def findRepositoryId (projectId : String) : Option String :=
  (tables.identities.find? (·.projectId = projectId)).map (·.repositoryId)

def findProjectIdByLocalPath (localPath : String) : Option String :=
  if localPath ∈ tables.detachments then none
  else
    ((tables.sources.find? (·.localPath = localPath)).map (·.projectId)) <|>
      ((tables.profileRoots.find? (·.localPath = localPath)).map (·.projectId)) <|>
      ((tables.projects.find? (·.description = some s!"Imported from {localPath}")).map (·.id))

def listSources (projectId : String) : List ProjectSource := tables.sources.filter (·.projectId = projectId)

def findLatestManifest (projectId : String) : Option ManifestRevision :=
  (tables.manifests.filter (·.projectId = projectId)).foldl (fun latest revision =>
    if latest.any fun earlier => revision.revision ≤ earlier.revision then latest else some revision) none

/-- Both columns are unique, and a row that is there already is left alone. -/
def associate (repositoryId projectId : String) : Except Thrown (AssociationResult × RuntimeTables) :=
  if tables.identities.any fun row => row.repositoryId = repositoryId ∨ row.projectId = projectId then
    if tables.findProjectId repositoryId = some projectId ∧ tables.findRepositoryId projectId = some repositoryId then
      .ok (.existing, tables)
    else .ok (.conflict, tables)
  else if (tables.findProject projectId).isNone then .error (storageError "FOREIGN KEY constraint failed")
  else .ok (.created, { tables with identities := tables.identities ++ [⟨repositoryId, projectId⟩] })

def saveSource (source : ProjectSource) : RuntimeTables :=
  { tables with
    detachments := tables.detachments.filter (· ≠ source.localPath)
    sources :=
      if tables.sources.any (·.localPath = source.localPath) then
        tables.sources.map fun row =>
          if row.localPath = source.localPath then { row with remoteUrl := source.remoteUrl } else row
      else tables.sources ++ [source] }

def replaceDetected (root : ProfileRoot) : RuntimeTables :=
  { tables with
    profileRoots := tables.profileRoots.filter (fun row => ¬(row.projectId = root.projectId ∧ row.detected)) ++ [root] }

end RuntimeTables

def query {Result : Type} (read : RuntimeTables → Result) : Access RuntimeTables Result := do
  access
  let session ← get
  return read session.shared.runtime

/-- What a transaction returns and leaves behind, and the changes that it made. -/
structure Committed (Result : Type) where
  result : Result
  tables : RuntimeTables
  changes : List Change

def transact {Result : Type} (body : RuntimeTables → Except Thrown (Committed Result)) : Access RuntimeTables Result := do
  access
  let session ← get
  match body session.shared.runtime with
  | .error thrown => throw thrown
  | .ok committed => do
    modify fun session =>
      { session with
        shared := { session.shared with runtime := committed.tables }
        changes := session.changes ++ committed.changes }
    return committed.result

structure ProjectScan where
  projectName : String
  remoteUrl : Option String

/-- The pattern `.git` at the end, with a slash before it or not, and then a slash at the end. -/
def normalizedRemote (value : String) : String :=
  let withoutSuffix := (trim value).toList
  let withoutGit :=
    if "/.git".toList.isSuffixOf withoutSuffix then withoutSuffix.take (withoutSuffix.length - 5)
    else if ".git".toList.isSuffixOf withoutSuffix then withoutSuffix.take (withoutSuffix.length - 4)
    else withoutSuffix
  String.ofList (if ['/'].isSuffixOf withoutGit then withoutGit.dropLast else withoutGit)

/-- The checkout is one of a remote that the project already has a source of. -/
def sameRemote (scan : ProjectScan) (sources : List ProjectSource) : Bool :=
  scan.remoteUrl.any fun remoteUrl =>
    normalizedRemote remoteUrl ∈ (sources.filterMap ProjectSource.remoteUrl).map normalizedRemote

structure ImportInput where
  rootPath : String
  projectId : Option String
  repositoryId : Option String

structure ImportProjectResult where
  projectId : String
  created : Bool

namespace ImportProject

/-- A new project, by an identifier that is not used yet, and its identity. -/
def createProject (tables : RuntimeTables) (generated : String) (input : ImportInput) (scan : ProjectScan) :
    Except Thrown RuntimeTables :=
  let name := trim scan.projectName
  if name = "" then .error ⟨.domainValidationError, "Project name cannot be empty"⟩
  else
    let saved : RuntimeTables := { tables with projects := tables.projects ++ [⟨generated, name, none⟩] }
    match saved.associate (input.repositoryId.getD s!"repo_{generated}") generated with
    | .ok (.created, associated) => .ok associated
    | .ok _ => .error (sourceAssociationError s!"Portable identity for imported project {generated} conflicts")
    | .error thrown => .error thrown

def saveCheckout (tables : RuntimeTables) (projectId rootPath : String) (scan : ProjectScan) : RuntimeTables :=
  (tables.saveSource ⟨projectId, rootPath, scan.remoteUrl⟩).replaceDetected ⟨projectId, rootPath, true⟩

def transaction (generated : String) (input : ImportInput) (scan : ProjectScan) (tables : RuntimeTables) :
    Except Thrown (Committed ImportProjectResult) :=
  let existing := tables.findProjectIdByLocalPath input.rootPath
  match input.projectId, existing with
  | some projectId, some other =>
    if other ≠ projectId then
      .error (sourceAssociationError
        s!"Canonical path {input.rootPath} is already associated with project {other}")
    else
      .ok ⟨⟨projectId, false⟩, saveCheckout tables projectId input.rootPath scan, [.source projectId]⟩
  | some projectId, none =>
    .ok ⟨⟨projectId, false⟩, saveCheckout tables projectId input.rootPath scan, [.source projectId]⟩
  | none, some projectId =>
    .ok ⟨⟨projectId, false⟩, saveCheckout tables projectId input.rootPath scan, [.source projectId]⟩
  | none, none =>
    (createProject tables generated input scan).map fun created =>
      ⟨⟨generated, true⟩, saveCheckout created generated input.rootPath scan,
        [.project generated, .association (input.repositoryId.getD s!"repo_{generated}") generated,
          .source generated]⟩

/-- The project that the checkout is to be added to must be there, and have the same remote. -/
def requireProject (projectId : String) (scan : ProjectScan) : Access RuntimeTables Unit := do
  let project ← query (·.findProject projectId)
  if project.isNone then
    throw (sourceAssociationError s!"Project {projectId} does not exist for repository association")
  else do
    let sources ← query (·.listSources projectId)
    if sources ≠ [] ∧ sameRemote scan sources = false then
      throw (sourceAssociationError
        s!"Repository identity is already associated with project {projectId}, but this checkout cannot be verified as the same Git remote. Use a distinct repository identity or resolve the copied binding explicitly.")
    else pure ()

def execute (scanner : Shared RuntimeTables → ProjectScan) (generated : String) (input : ImportInput) :
    Access RuntimeTables ImportProjectResult := do
  access
  let session ← get
  let scan := scanner session.shared
  match input.projectId with
  | none => transact (transaction generated input scan)
  | some projectId => do
    requireProject projectId scan
    transact (transaction generated input scan)

end ImportProject

namespace ApplyOfficeManifest

def transaction (generated projectId : String) (manifest : ManifestDocument) (tables : RuntimeTables) :
    Except Thrown (Committed ManifestRevision) :=
  if (tables.findProject projectId).isNone then
    .error ⟨.projectNotFoundError, s!"Project {projectId} not found"⟩
  else
    let revision : ManifestRevision :=
      ⟨generated, projectId, ((tables.findLatestManifest projectId).map (·.revision)).getD 0 + 1, manifest⟩
    .ok ⟨revision, { tables with manifests := tables.manifests ++ [revision] }, [.officeRevision projectId]⟩

def execute (generated projectId : String) (manifest : ManifestDocument) : Access RuntimeTables ManifestRevision :=
  transact (transaction generated projectId manifest)

end ApplyOfficeManifest
end AiOffice.Application.ProjectLifecycle
