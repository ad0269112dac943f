import AiOffice.AgentClientIntegrations.Adapters
import AiOffice.Application.ProjectLifecycle.ImportProject
import AiOffice.Application.ProjectLifecycle.ProjectBinding

namespace AiOffice.Application.ProjectLifecycle

open Data Data.Method Domain AgentClientIntegrations

/-- The contract that the instructions and the skill of a project are compiled from. -/
structure ProjectInstructionContract where
  projectName : String
  manifest : ManifestDocument

structure InstallServices extends BindingServices where
  rootPath : String
  isLegacyCompatibilityPointer : LegacyPointer
  isGenerated : GeneratedSkill
  findExecutable : String → Bool
  compileProjectInstructions : ProjectInstructionContract → Text
  compileProjectSkill : ProjectInstructionContract → Text
  hashDraft : AgentClientIntegrationDraft → Digest
  repositoryIdFromLegacyProjectId : String → String
  scan : Shared RuntimeTables → ProjectScan
  defaultManifest : ManifestDocument

inductive FileChangeKind
  | create
  | update
  | delete
  deriving DecidableEq

def changeKind (operation : AgentClientFileOperation) : FileChangeKind :=
  match operation.mutation with
  | .create _ => .create
  | .update _ _ => .update
  | .delete _ => .delete

structure AgentClientFileChange where
  kind : FileChangeKind
  relativePath : String
  expectedSha256 : Option Digest
  ownershipAfter : AgentClientFileOwnership
  summary : String

structure AgentClientIntegrationPlan where
  action : PlanAction
  clientId : AgentClientId
  planHash : Digest
  changes : List AgentClientFileChange
  issues : List AgentClientIntegrationIssue

structure AgentClientDetection where
  clientId : AgentClientId
  displayName : String
  detected : Bool

def displayName : AgentClientId → String
  | .codex => "Codex CLI"
  | .claude => "Claude Code"

def executableName : AgentClientId → String
  | .codex => "codex"
  | .claude => "claude"

def conflicts (issues : List AgentClientIntegrationIssue) : List AgentClientIntegrationIssue :=
  issues.filter (·.severity = .conflict)

namespace ManageAgentClientIntegration

variable (services : InstallServices)

def detect : Access RuntimeTables (List AgentClientDetection) :=
  [AgentClientId.codex, .claude].mapM fun clientId => do
    access
    return ⟨clientId, displayName clientId, services.findExecutable (executableName clientId)⟩

def inspect (clientId : AgentClientId) : Access RuntimeTables AgentClientInspection :=
  match clientId with
  | .codex => CodexAgentClientAdapter.inspect services.isLegacyCompatibilityPointer services.isGenerated
  | .claude => ClaudeAgentClientAdapter.inspect services.isLegacyCompatibilityPointer services.isGenerated

def validate (clientId : AgentClientId) : Access RuntimeTables AgentClientValidation :=
  match clientId with
  | .codex => CodexAgentClientAdapter.validate services.isLegacyCompatibilityPointer services.isGenerated
  | .claude => ClaudeAgentClientAdapter.validate services.isLegacyCompatibilityPointer services.isGenerated

def draft (clientId : AgentClientId) (contract : ProjectInstructionContract) :
    Access RuntimeTables AgentClientIntegrationDraft :=
  let instructions := services.compileProjectInstructions contract
  let skill := services.compileProjectSkill contract
  match clientId with
  | .codex =>
    CodexAgentClientAdapter.plan services.digest services.isLegacyCompatibilityPointer instructions skill
  | .claude =>
    ClaudeAgentClientAdapter.plan services.digest services.isLegacyCompatibilityPointer instructions skill

def applyDraft (clientId : AgentClientId) (draft : AgentClientIntegrationDraft) : Access RuntimeTables Unit :=
  match clientId with
  | .codex => CodexAgentClientAdapter.apply services.digest draft
  | .claude => ClaudeAgentClientAdapter.apply services.digest draft

def publicPlan (draft : AgentClientIntegrationDraft) : AgentClientIntegrationPlan where
  action := draft.action
  clientId := draft.clientId
  planHash := services.hashDraft draft
  changes := draft.operations.map fun operation =>
    ⟨changeKind operation, operation.relativePath, operation.expectedSha256, operation.ownershipAfter,
      operation.summary⟩
  issues := draft.issues

def plan (clientId : AgentClientId) (contract : ProjectInstructionContract) :
    Access RuntimeTables AgentClientIntegrationPlan := do
  let draft ← draft services clientId contract
  return publicPlan services draft

def apply (clientId : AgentClientId) (contract : ProjectInstructionContract) (approvedPlanHash : Digest) :
    Access RuntimeTables AgentClientValidation := do
  let draft ← draft services clientId contract
  if conflicts draft.issues ≠ [] then
    throw ⟨.agentClientPlanConflictError, "Agent client integration plan contains unresolved conflicts"⟩
  else if services.hashDraft draft ≠ approvedPlanHash then
    throw ⟨.agentClientPlanApprovalError, "Agent client integration approval does not match the current plan"⟩
  else do
    applyDraft services clientId draft
    validate services clientId

end ManageAgentClientIntegration

inductive ClientConfiguration
  | configured
  | unmanaged
  | drifted
  | missing
  | conflict
  | notConfigured
  deriving DecidableEq

def ClientConfiguration.text : ClientConfiguration → String
  | .configured => "configured"
  | .unmanaged => "unmanaged"
  | .drifted => "drifted"
  | .missing => "missing"
  | .conflict => "conflict"
  | .notConfigured => "not_configured"

structure LifecycleClientStatus where
  clientId : AgentClientId
  displayName : String
  detected : Bool
  configuration : ClientConfiguration
  issues : List String

structure LifecycleIssue where
  severity : String
  code : String
  message : String
  recovery : String

def hasManagedClientState (clientId : AgentClientId) (inspection : AgentClientInspection) : Bool :=
  match clientId with
  | .codex => inspection.clientInstructions.ownership = .aiOfficeOwned
  | .claude =>
    inspection.clientInstructions.ownership = .aiOfficeOwned ||
      inspection.skillInstructions.ownership = .aiOfficeOwned ||
      inspection.clientInstructions.ownership = .merged

def hasUnmanagedFile (inspection : AgentClientInspection) : Bool :=
  inspection.canonicalInstructions.integrationStatus = .unmanaged ||
    (inspection.clientInstructions.ownership = .userOwned &&
      inspection.clientInstructions.integrationStatus = .integrated) ||
    inspection.clientInstructions.integrationStatus = .unmanaged ||
    (inspection.sharedSkillInstructions.any fun state => state.integrationStatus = .unmanaged) ||
    inspection.skillInstructions.integrationStatus = .unmanaged

def issueMessages (inspection : AgentClientInspection) : List String :=
  sortOn codeUnits (inspection.issues.map (·.message))

section Lifecycle

variable (services : InstallServices)

open ManageAgentClientIntegration in
def clientStatus (detection : AgentClientDetection) (contract : ProjectInstructionContract) :
    Access RuntimeTables LifecycleClientStatus := do
  let inspection ← ManageAgentClientIntegration.inspect services detection.clientId
  let validation ← validate services detection.clientId
  let status (configuration : ClientConfiguration) : LifecycleClientStatus :=
    ⟨detection.clientId, detection.displayName, detection.detected, configuration, issueMessages inspection⟩
  let managed := hasManagedClientState detection.clientId inspection
  if conflicts inspection.issues ≠ [] ∨ (detection.detected ∧ conflicts validation.issues ≠ []) then
    return status .conflict
  else if hasUnmanagedFile inspection then return status .unmanaged
  else if !detection.detected && !managed then return status .notConfigured
  else do
    let plan ← plan services detection.clientId contract
    return status
      (if validation.valid && plan.changes.isEmpty then .configured else if managed then .drifted else .missing)

def clientIdText : AgentClientId → String
  | .codex => "codex"
  | .claude => "claude"

def clientIssues (clients : List LifecycleClientStatus) : List LifecycleIssue :=
  let requiresAttention (client : LifecycleClientStatus) : Bool :=
    if client.detected then client.configuration ≠ .configured
    else client.configuration = .drifted ∨ client.configuration = .conflict
  (clients.filter requiresAttention).map fun client =>
    { severity := if client.configuration = .conflict then "error" else "warning"
      code := s!"client_{clientIdText client.clientId}_{client.configuration.text}"
      message := s!"{client.displayName} integration is {client.configuration.text}"
      recovery := "Inspect the user-owned files, resolve conflicts, and rerun ai-office install ." }

structure Completed where
  projectCreated : Bool
  sourceAssociated : Bool
  repositoryMapped : Bool
  officeApplied : Bool
  repositoryIdentityWritten : Bool
  clientPaths : List String

def Completed.changed (completed : Completed) : Bool :=
  completed.projectCreated || completed.sourceAssociated || completed.repositoryMapped ||
    completed.officeApplied || completed.repositoryIdentityWritten || !completed.clientPaths.isEmpty

structure InstallChange where
  kind : FileChangeKind
  relativePath : String

/-- The session of the call, and the variables that its body assigns. -/
structure Installation where
  session : Session RuntimeTables
  completed : Completed
  office : Option ManifestRevision
  officeCreated : Bool
  bindingAction : BindingAction
  changes : List InstallChange
  clients : List LifecycleClientStatus

def Installation.replaceSession (state : Installation) (session : Session RuntimeTables) : Installation :=
  { state with session }

abbrev Install (Result : Type) := Method Installation Thrown Result

def onSession {Result : Type} (method : Access RuntimeTables Result) : Install Result :=
  within Installation.session Installation.replaceSession method

def complete (change : Completed → Completed) : Install Unit :=
  modify fun state => { state with completed := change state.completed }

structure Generated where
  repository : String
  project : String
  revision : String

def lifecycleError (message : String) : Thrown := ⟨.projectLifecycleError, message⟩

structure Identified where
  inspection : ProjectBindingInspection
  repositoryId : String
  legacyProjectId : Option String
  projectAtPath : Option String
  projectByIdentity : Option String

def repositoryIdFor (inspection : ProjectBindingInspection) (generated : Generated) (rebind : Bool) :
    String × Option String :=
  if rebind then (s!"repo_{generated.repository}", none)
  else
    match inspection.binding with
    | some (.current repositoryId) => (repositoryId, none)
    | some (.legacy projectId) => (services.repositoryIdFromLegacyProjectId projectId, some projectId)
    | none => (s!"repo_{generated.repository}", none)

/-- The repository's identifier that the Runtime has for a project, else the one found so far. -/
def knownRepositoryId (projectId : Option String) (repositoryId : String) : Access RuntimeTables String :=
  match projectId with
  | none => pure repositoryId
  | some projectId => do
    let known ← query (·.findRepositoryId projectId)
    return known.getD repositoryId

def identify (generated : Generated) (rebind : Bool) : Access RuntimeTables Identified := do
  -- The root of the project is resolved.
  access
  let inspection ← inspect services.toBindingServices
  match inspection with
  | .invalid issue =>
    throw (bindingError s!"{issue}. Resolve or remove {projectBindingFile} explicitly.")
  | inspection => do
    let projectAtPath ← query (·.findProjectIdByLocalPath services.rootPath)
    let (repositoryId, legacyProjectId) := repositoryIdFor services inspection generated rebind
    let repositoryId ← knownRepositoryId (if rebind then none else legacyProjectId) repositoryId
    let repositoryId ←
      knownRepositoryId (if rebind = false ∧ inspection.binding.isSome then none else projectAtPath) repositoryId
    let legacyProjectId := if rebind ∧ projectAtPath.isSome then none else legacyProjectId
    let projectByIdentity ← query (·.findProjectId repositoryId)
    match projectAtPath, projectByIdentity with
    | some atPath, some byIdentity =>
      if atPath ≠ byIdentity then
        throw (lifecycleError
          s!"Repository identity {repositoryId} belongs to project {byIdentity}, but this canonical path belongs to {atPath}. Resolve the copied or conflicting identity explicitly.")
      else return ⟨inspection, repositoryId, legacyProjectId, projectAtPath, projectByIdentity⟩
    | _, _ => return ⟨inspection, repositoryId, legacyProjectId, projectAtPath, projectByIdentity⟩

def importSource (generated : Generated) (projectId : String) : Install String := do
  let _ ← onSession (ImportProject.execute services.scan generated.project
    ⟨services.rootPath, some projectId, none⟩)
  complete ({ · with sourceAssociated := true })
  return projectId

/-- The project of the checkout, which is imported when the Runtime does not know it. -/
def findOrImport (generated : Generated) (found : Identified) : Install String :=
  match found.projectByIdentity, found.projectAtPath with
  | some projectId, some _ => pure projectId
  | some projectId, none => importSource services generated projectId
  | none, some projectId => pure projectId
  | none, none => do
    let legacyProject ← onSession <|
      match found.legacyProjectId with
      | none => pure none
      | some projectId => query (·.findProject projectId)
    match found.legacyProjectId, legacyProject with
    | some projectId, some _ => importSource services generated projectId
    | _, _ => do
      let imported ← onSession (ImportProject.execute services.scan generated.project
        ⟨services.rootPath, none, some found.repositoryId⟩)
      complete ({ · with projectCreated := imported.created })
      return imported.projectId

def lookup (projectId : String) : Install ProjectRow := do
  let project ← onSession (query (·.findProject projectId))
  match project with
  | none => throw (lifecycleError s!"Project {projectId} disappeared during installation")
  | some project => return project

structure Prepared where
  manifest : ManifestDocument
  detections : List AgentClientDetection
  candidates : List AgentClientDetection
  sharedPlan : SharedProjectArtifactDraft

def conflictText (issues : List AgentClientIntegrationIssue) : String :=
  "; ".intercalate ((conflicts issues).map (·.message))

def preflight (contract : ProjectInstructionContract) (detection : AgentClientDetection) :
    Access RuntimeTables Unit := do
  let plan ← ManageAgentClientIntegration.plan services detection.clientId contract
  if conflicts plan.issues ≠ [] then
    throw (lifecycleError s!"{detection.displayName} integration has a conflict: {conflictText plan.issues}")
  else pure ()

def survey (project : ProjectRow) (manifest : ManifestDocument) : Access RuntimeTables Prepared := do
  let detections ← ManageAgentClientIntegration.detect services
  let inspections ← detections.mapM fun detection => do
    let inspection ← ManageAgentClientIntegration.inspect services detection.clientId
    return (detection, inspection)
  let candidates := (inspections.filter fun (detection, inspection) =>
    detection.detected || hasManagedClientState detection.clientId inspection).map Prod.fst
  let contract : ProjectInstructionContract := ⟨project.name, manifest⟩
  let sharedPlan ← SharedProjectArtifactsAdapter.plan services.digest services.isLegacyCompatibilityPointer
    (services.compileProjectInstructions contract) (services.compileProjectSkill contract)
  if conflicts sharedPlan.issues ≠ [] then
    throw (lifecycleError s!"Shared AI Office artifacts have a conflict: {conflictText sharedPlan.issues}")
  else do
    let _ ← candidates.mapM (preflight services contract)
    return ⟨manifest, detections, candidates, sharedPlan⟩

def prepare (project : ProjectRow) : Install Prepared := do
  let office ← onSession (query (·.findLatestManifest project.id))
  modify fun state => { state with office }
  onSession (survey services project ((office.map (·.manifest)).getD services.defaultManifest))

def associate (repositoryId : String) (project : ProjectRow) : Install Unit := do
  let association ← onSession (transact fun tables =>
    (tables.associate repositoryId project.id).map fun (result, after) =>
      ⟨result, after, if result = .created then [.association repositoryId project.id] else []⟩)
  if association = .conflict then
    throw (lifecycleError
      s!"Repository identity {repositoryId} conflicts with an existing runtime association")
  else complete ({ · with repositoryMapped := decide (association = .created) })

def applyOffice (generated : Generated) (project : ProjectRow) (prepared : Prepared) : Install Unit := do
  let state ← get
  match state.office with
  | some _ => pure ()
  | none => do
    let revision ← onSession (ApplyOfficeManifest.execute generated.revision project.id prepared.manifest)
    modify fun state => { state with office := some revision, officeCreated := true }
    complete ({ · with officeApplied := true })

def writeBinding (repositoryId : String) : Install Unit := do
  let plan ← onSession (planWrite services.toBindingServices repositoryId)
  onSession (applyWrite services.toBindingServices plan)
  modify fun state => { state with bindingAction := plan.action }
  complete ({ · with repositoryIdentityWritten := decide (plan.action ≠ .none) })

/-- An applier has returned: its creations and updates are kept for the report. -/
def keepApplied (applied : List InstallChange) : Install Unit := do
  let written := applied.filter (·.kind ≠ .delete)
  modify fun state => { state with changes := state.changes ++ written }
  complete fun completed =>
    { completed with clientPaths := completed.clientPaths ++ written.map (·.relativePath) }

def applySharedArtifacts (prepared : Prepared) : Install Unit := do
  onSession (SharedProjectArtifactsAdapter.apply services.digest prepared.sharedPlan)
  keepApplied (prepared.sharedPlan.operations.map fun operation => ⟨changeKind operation, operation.relativePath⟩)

def applyClient (project : ProjectRow) (prepared : Prepared) (detection : AgentClientDetection) : Install Unit := do
  let contract : ProjectInstructionContract := ⟨project.name, prepared.manifest⟩
  let plan ← onSession (ManageAgentClientIntegration.plan services detection.clientId contract)
  let _ ← onSession (ManageAgentClientIntegration.apply services detection.clientId contract plan.planHash)
  keepApplied (plan.changes.map fun change => ⟨change.kind, change.relativePath⟩)

def readClients (project : ProjectRow) (prepared : Prepared) : Install Unit := do
  let state ← get
  let manifest := (state.office.map (·.manifest)).getD prepared.manifest
  let clients ← onSession (prepared.detections.mapM fun detection =>
    clientStatus services detection ⟨project.name, manifest⟩)
  modify fun state => { state with clients }

def steps (generated : Generated) (repositoryId : String) (project : ProjectRow) (prepared : Prepared) :
    List (Install Unit) :=
  [associate repositoryId project, applyOffice generated project prepared, writeBinding services repositoryId,
    applySharedArtifacts services prepared] ++
    prepared.candidates.map (applyClient services project prepared) ++
    [readClients services project prepared]

structure ProjectInstallResult where
  warnings : Bool
  projectId : String
  repositoryId : String
  projectName : String
  root : String
  created : Bool
  associationCreated : Bool
  officeRevision : Nat
  officeCreated : Bool
  defaultBaseline : Bool
  officeName : String
  roles : List String
  bindingAction : BindingAction
  migratedFromLegacy : Bool
  clients : List LifecycleClientStatus
  changes : List InstallChange
  issues : List LifecycleIssue

def installResult (repositoryId : String) (inspection : ProjectBindingInspection) (project : ProjectRow)
    (office : ManifestRevision) (state : Installation) : ProjectInstallResult where
  warnings := clientIssues state.clients ≠ []
  projectId := project.id
  repositoryId
  projectName := project.name
  root := services.rootPath
  created := state.completed.projectCreated
  associationCreated :=
    state.completed.projectCreated || state.completed.sourceAssociated || state.completed.repositoryMapped
  officeRevision := office.revision
  officeCreated := state.officeCreated
  defaultBaseline := office.manifest = services.defaultManifest
  officeName := office.manifest.office.name
  roles := office.manifest.office.roles.map (·.title)
  bindingAction := state.bindingAction
  migratedFromLegacy := inspection.binding.any fun binding => binding matches .legacy _
  clients := state.clients
  changes := state.changes
  issues := clientIssues state.clients

def installProject (generated : Generated) (found : Identified) (project : ProjectRow) :
    Install ProjectInstallResult := do
  let prepared ← prepare services project
  inOrder (steps services generated found.repositoryId project prepared)
  let state ← get
  let office := state.office.getD ⟨generated.revision, project.id, 0, prepared.manifest⟩
  return installResult services found.repositoryId found.inspection project office state

structure ProjectInstallPartialResult where
  projectId : String
  repositoryId : String
  projectName : String
  root : String
  completed : Completed
  message : String
  recovery : String

/-- An error as it was thrown, or the error that reports a partial installation. -/
inductive InstallError
  | plain (thrown : Thrown)
  | unfinished (result : ProjectInstallPartialResult)

def reportPartial (found : Identified) (project : ProjectRow) (error : InstallError) :
    Method Installation InstallError ProjectInstallResult := do
  let state ← get
  match error with
  | .unfinished result => throw (.unfinished result)
  | .plain thrown =>
    if state.completed.changed = false ∨ thrown.name = .projectSourceAssociationError then throw (.plain thrown)
    else throw (.unfinished {
      projectId := project.id
      repositoryId := found.repositoryId
      projectName := project.name
      root := services.rootPath
      completed := { state.completed with clientPaths := state.completed.clientPaths.eraseDups }
      message := thrown.message
      recovery :=
        "No rollback was attempted. Run ai-office status, resolve the reported conflict, then rerun ai-office install ." })

def install (generated : Generated) (rebind : Bool) : Method Installation InstallError ProjectInstallResult := do
  let found ← adapt .plain (onSession (identify services generated rebind))
  let projectId ← adapt .plain (findOrImport services generated found)
  let project ← adapt .plain (lookup projectId)
  tryCatch (adapt .plain (installProject services generated found project)) (reportPartial services found project)

def Installation.initial (shared : Shared RuntimeTables) (moments : List (Moment RuntimeTables)) : Installation where
  session := ⟨shared, moments, []⟩
  completed := ⟨false, false, false, false, false, []⟩
  office := none
  officeCreated := false
  bindingAction := .none
  changes := []
  clients := []

end Lifecycle
end AiOffice.Application.ProjectLifecycle
