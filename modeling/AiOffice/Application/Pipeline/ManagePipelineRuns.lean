import AiOffice.Application.TaskCommands
import AiOffice.Domain.PipelineRun.Effects

namespace AiOffice.Application

open Domain

inductive DefinitionOrigin
  | packOwned
  | projectOwned
  deriving DecidableEq

structure ResolvedWorkflowStage where
  id : String
  roleId : String
  title : Option String
  objective : Option String
  checks : Option (List String)

structure ResolvedWorkflow where
  workflowId : String
  origin : DefinitionOrigin
  title : Option String
  description : Option String
  taskTypeId : String
  additionalTaskTypeIds : Option (List String)
  stages : List ResolvedWorkflowStage

structure PolicyStageClauses where
  stage : String
  requiresApproval : Bool
  requiresIndependentApproval : Bool
  requiresDifferentAgentFrom : List String
  operations : List String

inductive PolicyState
  | active
  | inert
  deriving DecidableEq

structure ResolvedPolicy where
  workflowId : String
  state : PolicyState
  enforcement : PipelineEnforcement
  stages : List PolicyStageClauses

structure ResolvedProjectConfiguration where
  pin : PipelineRunConfigurationPin
  selectedPacks : List PipelineRunConfigurationPackIdentity
  workflows : List ResolvedWorkflow
  policies : List ResolvedPolicy

def packPipelineUnsupported (id reason : String) : Thrown :=
  ⟨.packPipelineUnsupportedError, s!"Pack workflow {id} cannot start a run: {reason}"⟩

def localDefinitionId (stableId : String) : String :=
  String.ofList (stableId.toList.rtakeWhile fun char => char ≠ '/')

def packOwner (stableId : String) : Option String :=
  if "pack:".toList.isPrefixOf stableId.toList then
    let path := stableId.toList.drop 5
    let owner := path.takeWhile fun char => char ≠ '/'
    if owner = [] ∨ owner.length = path.length then none else some (String.ofList owner)
  else none

def isStartable (configuration : ResolvedProjectConfiguration) (workflow : ResolvedWorkflow) : Bool :=
  match workflow.origin with
  | .projectOwned => true
  | .packOwned =>
    match packOwner workflow.workflowId with
    | none => false
    | some owner => configuration.selectedPacks.any fun pack => pack.id = owner

def workflowsWithLocalId (configuration : ResolvedProjectConfiguration) (localId : String) :
    List ResolvedWorkflow :=
  configuration.workflows.filter fun workflow => localDefinitionId workflow.workflowId = localId

def findPackWorkflow (configuration : ResolvedProjectConfiguration) (localId : String) :
    Except Thrown (Option ResolvedWorkflow) :=
  let found := (workflowsWithLocalId configuration localId).filter (isStartable configuration)
  if 1 < found.length then
    .error (packPipelineUnsupported localId
      "more than one resolved workflow has this local ID (a manifest pipeline can still be started with --source manifest)")
  else .ok found.head?

def isDependencyOnlyWorkflow (configuration : ResolvedProjectConfiguration) (localId : String) : Bool :=
  let found := workflowsWithLocalId configuration localId
  0 < found.length && found.all fun workflow => !isStartable configuration workflow

def activePolicy (configuration : ResolvedProjectConfiguration) (workflow : ResolvedWorkflow) :
    Except Thrown (Option ResolvedPolicy) :=
  let policies := configuration.policies.filter fun policy =>
    policy.workflowId = workflow.workflowId && policy.state = .active
  if 1 < policies.length then
    .error (packPipelineUnsupported (localDefinitionId workflow.workflowId)
      "more than one active policy governs it")
  else .ok policies.head?

/-- A stage of a workflow under the clauses of its policy; without clauses nothing governs it. -/
def packStage (clauses : List PolicyStageClauses) (stage : ResolvedWorkflowStage) : OfficePipelineStage :=
  -- Of two clauses for one stage the map keeps the last.
  let clause := clauses.reverse.find? fun clause => clause.stage = stage.id
  { id := stage.id
    name := stage.title.getD stage.id
    roleId := localDefinitionId stage.roleId
    objective := stage.objective.getD ""
    checks := stage.checks.getD []
    requiresApproval := clause.any PolicyStageClauses.requiresApproval
    requiresIndependentApproval := some (clause.any PolicyStageClauses.requiresIndependentApproval)
    capabilities := some ((clause.map PolicyStageClauses.operations).getD [])
    requiresDifferentAgentFrom := some ((clause.map PolicyStageClauses.requiresDifferentAgentFrom).getD []) }

def packWorkflowPipeline (configuration : ResolvedProjectConfiguration) (workflow : ResolvedWorkflow) :
    Except Thrown OfficePipeline := do
  let id := localDefinitionId workflow.workflowId
  let policy ← activePolicy configuration workflow
  return {
    id
    name := workflow.title.getD id
    description := workflow.description.getD ""
    defaultFor := (workflow.taskTypeId :: workflow.additionalTaskTypeIds.getD []).map localDefinitionId
    enforcement := some (if policy.any fun policy => policy.enforcement = .enforced then .enforced else .guidance)
    stages := workflow.stages.map (packStage ((policy.map ResolvedPolicy.stages).getD [])) }

end AiOffice.Application

namespace AiOffice.Application.Pipeline

open Data Domain Domain.PipelineRun Storage.Office

structure OperatorPrincipal where
  kind : String
  source : String
  id : String

def localOperatorPrincipal : OperatorPrincipal := ⟨"operator", "local_cli", "local-operator"⟩

inductive DefinitionSource
  | manifest
  | pack
  deriving DecidableEq

structure StartPipelineRun where
  projectId : String
  taskId : String
  pipelineId : String
  source : Option DefinitionSource
  principal : OperatorPrincipal

/-- What the transaction of a start takes from the configuration, the clock and the id generator. -/
structure StartSupply where
  configuration : Option (Except Thrown ResolvedProjectConfiguration)
  now : Date
  generate : Nat → String

structure AssignStage where
  projectId : String
  pipelineRunId : String
  agentId : String
  principal : OperatorPrincipal

structure CompleteStageFromAgentRun where
  projectId : String
  agentRunId : String
  expectedPipelineRunId : Option String

structure ApproveStage where
  projectId : String
  pipelineRunId : String
  principal : OperatorPrincipal
  rationale : Option String

structure RejectStage where
  projectId : String
  pipelineRunId : String
  principal : OperatorPrincipal
  rationale : String

structure OverrideStage where
  projectId : String
  pipelineRunId : String
  principal : OperatorPrincipal
  reason : String
  overrideId : String

structure CancelPipelineRun where
  projectId : String
  pipelineRunId : String
  principal : OperatorPrincipal

def agentNotFound (id : String) : Thrown := ⟨.agentNotFoundError, s!"Agent {id} not found"⟩

def officeManifestNotFound (projectId : String) : Thrown :=
  ⟨.officeManifestNotFoundError, s!"No office manifest is configured for project {projectId}"⟩

def officePipelineNotFound (projectId pipelineId : String) : Thrown :=
  ⟨.officePipelineNotFoundError, s!"No default {pipelineId} pipeline is configured for project {projectId}"⟩

def activePipelineRunExists (taskId : String) : Thrown :=
  ⟨.activePipelineRunExistsError, s!"Task {taskId} already has an active pipeline run"⟩

def pipelineDefinitionNotEnforced (id : String) : Thrown :=
  ⟨.pipelineDefinitionNotEnforcedError, s!"Pipeline {id} is guidance-only and cannot create an enforced run"⟩

def pipelineDefinitionAmbiguous (id : String) : Thrown :=
  ⟨.pipelineDefinitionAmbiguousError,
    s!"Pipeline {id} is both a manifest pipeline and a pack workflow; pass --source manifest or --source pack"⟩

def pipelineRoleUnavailable (id : String) (roles : List String) : Thrown :=
  let listed := ", ".intercalate roles
  ⟨.pipelineRoleUnavailableError, s!"Pack workflow {id} needs Runtime roles that do not exist: {listed}"⟩

def pipelineRunNotFound (id : String) : Thrown :=
  ⟨.pipelineRunNotFoundError, s!"Pipeline run {id} not found"⟩

def concurrentPipelineTransition (id : String) : Thrown :=
  ⟨.concurrentPipelineTransitionError, s!"Pipeline run {id} changed concurrently"⟩

def pipelineActorUnauthorized (operation : String) : Thrown :=
  ⟨.pipelineActorUnauthorizedError, s!"Pipeline {operation} is not authorized for this actor type"⟩

namespace ManagePipelineRuns

def requireOperator (actor : OperatorPrincipal) : Except Thrown Unit :=
  if actor.kind ≠ "operator" ∨ actor.source ≠ "local_cli" ∨ actor.id ≠ "local-operator" then
    .error (pipelineActorUnauthorized "administration")
  else .ok ()

def requireEnforced (definition : OfficePipeline) : Except Thrown OfficePipeline :=
  if definition.enforcement ≠ some .enforced then .error (pipelineDefinitionNotEnforced definition.id)
  else .ok definition

def manifestDefinition (input : StartPipelineRun) (revision : OfficeManifestRevision) : Option OfficePipeline :=
  revision.pipelines.find? fun pipeline => pipeline.id = input.pipelineId

def requireManifestDefinition (input : StartPipelineRun) (definition : Option OfficePipeline) :
    Except Thrown OfficePipeline :=
  match definition with
  | none => .error (officePipelineNotFound input.projectId input.pipelineId)
  | some definition => requireEnforced definition

def readActiveConfiguration (supply : StartSupply) : Except Thrown (Option ResolvedProjectConfiguration) :=
  match supply.configuration with
  | none => .ok none
  | some read => read.map fun configuration =>
    if configuration.selectedPacks = [] then none else some configuration

/-- The stage roles of a pack workflow that the project lacks, each named once. -/
def missingRoles (definition : OfficePipeline) (projectId : String) (tables : OfficeTables) : List String :=
  let known := (tables.roles.filter fun role => role.projectId = projectId).map Role.key
  ((definition.stages.map OfficePipelineStage.roleId).filter fun roleId => roleId ∉ known).eraseDups

def requirePackDefinition (projectId : String) (configuration : ResolvedProjectConfiguration)
    (workflow : ResolvedWorkflow) (tables : OfficeTables) : Except Thrown OfficePipeline := do
  let definition ← packWorkflowPipeline configuration workflow
  let definition ← requireEnforced definition
  if definition.stages = [] then .error (packPipelineUnsupported definition.id "it has no stages")
  else if missingRoles definition projectId tables ≠ [] then
    .error (pipelineRoleUnavailable (localDefinitionId workflow.workflowId)
      (missingRoles definition projectId tables))
  else return definition

def packWorkflow (input : StartPipelineRun) (configuration : Option ResolvedProjectConfiguration) :
    Except Thrown (Option (ResolvedProjectConfiguration × ResolvedWorkflow)) :=
  match configuration with
  | none => .ok none
  | some configuration =>
    if input.source = some .manifest then .ok none
    else (findPackWorkflow configuration input.pipelineId).map fun found =>
      found.map fun workflow => (configuration, workflow)

def selectDefinition (input : StartPipelineRun) (definition : Option OfficePipeline)
    (configuration : Option ResolvedProjectConfiguration) (tables : OfficeTables) :
    Except Thrown OfficePipeline := do
  let definition := if input.source = some .pack then none else definition
  match ← packWorkflow input configuration with
  | some (configuration, workflow) =>
    if definition.isSome then .error (pipelineDefinitionAmbiguous input.pipelineId)
    else requirePackDefinition input.projectId configuration workflow tables
  | none =>
    if definition.isNone ∧ input.source ≠ some .manifest ∧
        configuration.any fun configuration => isDependencyOnlyWorkflow configuration input.pipelineId then
      .error (packPipelineUnsupported input.pipelineId
        "it belongs to a dependency pack the project did not select")
    else requireManifestDefinition input definition

/-- Append the job of the stage that the run is at, while that stage is active. -/
def enqueueCurrentStage (run : PipelineRunProps) (tables : OfficeTables) : Except Thrown OfficeTables := do
  match ← (Method.call currentStage run).1 with
  | none => return tables
  | some stage =>
    if stage.status ≠ .active then return tables
    else appendJob ⟨run.projectId, run.id, stage.id, run.version⟩ tables

def readTask (input : StartPipelineRun) (tables : OfficeTables) : Except Thrown TaskProps := do
  requireOperator input.principal
  match tables.findTask input.taskId with
  | none => .error (taskNotFound input.taskId)
  | some task => if task.projectId ≠ input.projectId then .error (taskNotFound input.taskId) else return task

def requireNoActiveRun (input : StartPipelineRun) (tables : OfficeTables) : Except Thrown Unit :=
  if (tables.findActiveByTask input.taskId input.projectId).isSome then
    .error (activePipelineRunExists input.taskId)
  else .ok ()

def readManifest (input : StartPipelineRun) (tables : OfficeTables) : Except Thrown OfficeManifestRevision :=
  match tables.findLatestManifest input.projectId with
  | none => .error (officeManifestNotFound input.projectId)
  | some revision => .ok revision

/-- Without a selected pack, an id that names no enforced pipeline is refused before the transaction. -/
def requireStartable (input : StartPipelineRun) (revision : OfficeManifestRevision) (selectsPacks : Bool) :
    Except Thrown Unit :=
  if input.source ≠ some .pack ∧ selectsPacks = false then
    (requireManifestDefinition input (manifestDefinition input revision)).map fun _ => ()
  else .ok ()

def commitStart (input : StartPipelineRun) (task : TaskProps) (revision : OfficeManifestRevision)
    (supply : StartSupply) (tables : OfficeTables) : Except Thrown (PipelineRunProps × OfficeTables) := do
  assertTaskPrerequisitesComplete input.projectId input.taskId .start tables
  let configuration ← readActiveConfiguration supply
  let definition ← selectDefinition input (manifestDefinition input revision) configuration tables
  let run ← PipelineRun.create {
    id := supply.generate definition.stages.length
    projectId := input.projectId
    taskId := input.taskId
    manifestRevisionId := revision.id
    manifestRevision := revision.revision
    definition
    startedBy := input.principal.id
    stageRunIds := (List.range definition.stages.length).map supply.generate
    configurationPin := configuration.map ResolvedProjectConfiguration.pin
    now := supply.now }
  let started ← Task.start task supply.now
  let tables ← saveTask started tables
  let tables ← insertPipelineRun run tables
  let tables ← enqueueCurrentStage run tables
  return (run, tables)

def start (input : StartPipelineRun) (selectsPacks : Bool) (supply : StartSupply) (tables : OfficeTables) :
    Except Thrown (PipelineRunProps × OfficeTables) := do
  let task ← readTask input tables
  assertTaskPrerequisitesComplete input.projectId input.taskId .start tables
  requireNoActiveRun input tables
  let revision ← readManifest input tables
  requireStartable input revision selectsPacks
  commitStart input task revision supply tables

def requireRun (id projectId : String) (tables : OfficeTables) : Except Thrown PipelineRunProps :=
  match tables.findPipelineRun id projectId with
  | none => .error (pipelineRunNotFound id)
  | some run => .ok run

def persist (run : PipelineRunProps) (expectedVersion : Nat) (tables : OfficeTables) :
    Except Thrown OfficeTables := do
  let saved ← savePipelineRun run expectedVersion tables
  if saved.1 = true then return saved.2 else .error (concurrentPipelineTransition run.id)

/-- A run that an operation changed, with the record that an override issues. -/
structure Performed where
  record : Option PipelineOverrideRecord
  run : PipelineRunProps

/-- Perform an operation on the run that was read, and save it over that version. -/
def performAndPersist (command : Command) (run : PipelineRunProps) (tables : OfficeTables) :
    Except Thrown (Performed × OfficeTables) := do
  let performed ← Method.attempt command.perform run
  let tables ← persist performed.2 run.version tables
  return (⟨performed.1, performed.2⟩, tables)

def syncTaskTerminal (run : PipelineRunProps) (now : Date) (tables : OfficeTables) :
    Except Thrown OfficeTables :=
  if run.status = .active then .ok tables
  else
    match tables.findTask run.taskId with
    | none => .error (taskNotFound run.taskId)
    | some task =>
      if task.projectId ≠ run.projectId then .error (taskNotFound run.taskId)
      else if run.status = .completed then do
        assertTaskPrerequisitesComplete run.projectId run.taskId .completion tables
        let completed ← Task.complete task now
        saveTask completed tables
      else do
        let cancelled ← Task.cancel task now
        saveTask cancelled tables

def afterAdvance (run : PipelineRunProps) (tables : OfficeTables) : Except Thrown OfficeTables :=
  if run.status = .active then enqueueCurrentStage run tables else .ok tables

def requireAgent (agentId projectId : String) (tables : OfficeTables) : Except Thrown Agent :=
  match tables.findAgent agentId with
  | none => .error (agentNotFound agentId)
  | some agent =>
    if agent.projectId ≠ projectId ∨ agent.enabled = false then .error (agentNotFound agentId) else .ok agent

def requireAgentRole (agent : Agent) (projectId : String) (tables : OfficeTables) : Except Thrown Role :=
  match tables.findRole agent.roleId projectId with
  | none => .error (agentNotFound agent.id)
  | some role => .ok role

def assign (input : AssignStage) (now : Date) (tables : OfficeTables) :
    Except Thrown (PipelineRunProps × OfficeTables) := do
  requireOperator input.principal
  let agent ← requireAgent input.agentId input.projectId tables
  let role ← requireAgentRole agent input.projectId tables
  let run ← requireRun input.pipelineRunId input.projectId tables
  let changed ← performAndPersist (.assign input.agentId role.key now) run tables
  return (changed.1.run, changed.2)

def stageCompletionUnauthorized : Thrown := pipelineActorUnauthorized "stage completion"

structure AgentExecutionPrincipal where
  agentId : String
  taskId : String
  pipelineRunId : String
  pipelineStageRunId : String
  deriving DecidableEq

def agentPrincipal (input : CompleteStageFromAgentRun) (tables : OfficeTables) :
    Except Thrown AgentExecutionPrincipal :=
  match tables.findAgentRun input.agentRunId with
  | none => .error stageCompletionUnauthorized
  | some agent =>
    match agent.pipelineRunId, agent.pipelineStageRunId with
    | some pipelineRunId, some pipelineStageRunId =>
      if agent.projectId ≠ input.projectId ∨ input.expectedPipelineRunId.any (· ≠ pipelineRunId) ∨
          agent.status ∉ [AgentRunStatus.completed, .running, .reviewing] then
        .error stageCompletionUnauthorized
      else .ok ⟨agent.agentId, agent.taskId, pipelineRunId, pipelineStageRunId⟩
    | _, _ => .error stageCompletionUnauthorized

def agentRoleKey (agentId projectId : String) (tables : OfficeTables) : Option String := do
  let agent ← tables.findAgent agentId
  let role ← tables.findRole agent.roleId projectId
  if agent.projectId ≠ projectId then none else some role.key

def authorizesStage (principal : AgentExecutionPrincipal) (projectId : String) (stage : PipelineStageRunProps)
    (tables : OfficeTables) : Bool :=
  stage.id = principal.pipelineStageRunId &&
    agentRoleKey principal.agentId projectId tables = some stage.roleId &&
    stage.status = .active && stage.assignedAgentId = some principal.agentId

def authorizeStage (principal : AgentExecutionPrincipal) (projectId : String) (run : PipelineRunProps)
    (tables : OfficeTables) : Except Thrown Unit := do
  match ← (Method.call currentStage run).1 with
  | none => .error stageCompletionUnauthorized
  | some stage =>
    if run.taskId ≠ principal.taskId ∨ authorizesStage principal projectId stage tables = false then
      .error stageCompletionUnauthorized
    else return ()

def enqueueNext (before after : PipelineRunProps) (tables : OfficeTables) : Except Thrown OfficeTables :=
  if after.status = .active ∧ after.currentStageIndex ≠ before.currentStageIndex then
    enqueueCurrentStage after tables
  else .ok tables

def completeStageFromAgentRun (input : CompleteStageFromAgentRun) (now synced : Date) (tables : OfficeTables) :
    Except Thrown (PipelineRunProps × OfficeTables) := do
  let principal ← agentPrincipal input tables
  let run ← requireRun principal.pipelineRunId input.projectId tables
  authorizeStage principal input.projectId run tables
  let changed ← performAndPersist (.completeStage principal.agentId now) run tables
  let tables ← syncTaskTerminal changed.1.run synced changed.2
  let tables ← enqueueNext run changed.1.run tables
  return (changed.1.run, tables)

def approveStage (input : ApproveStage) (now synced : Date) (tables : OfficeTables) :
    Except Thrown (PipelineRunProps × OfficeTables) := do
  requireOperator input.principal
  let run ← requireRun input.pipelineRunId input.projectId tables
  let changed ← performAndPersist (.approveStage input.principal.id input.rationale now) run tables
  let tables ← syncTaskTerminal changed.1.run synced changed.2
  let tables ← afterAdvance changed.1.run tables
  return (changed.1.run, tables)

def rejectStage (input : RejectStage) (now synced : Date) (tables : OfficeTables) :
    Except Thrown (PipelineRunProps × OfficeTables) := do
  requireOperator input.principal
  let run ← requireRun input.pipelineRunId input.projectId tables
  let changed ← performAndPersist (.rejectStage input.principal.id input.rationale now) run tables
  let tables ← syncTaskTerminal changed.1.run synced changed.2
  return (changed.1.run, tables)

def appendIssued (record : Option PipelineOverrideRecord) (tables : OfficeTables) : Except Thrown OfficeTables :=
  match record with
  | none => .ok tables
  | some record => appendOverride record tables

def overrideStage (input : OverrideStage) (now synced : Date) (tables : OfficeTables) :
    Except Thrown (PipelineRunProps × OfficeTables) := do
  requireOperator input.principal
  let run ← requireRun input.pipelineRunId input.projectId tables
  let issue : Override := ⟨input.overrideId, input.principal.id, input.reason, now⟩
  let changed ← performAndPersist (.overrideCurrent issue) run tables
  let tables ← syncTaskTerminal changed.1.run synced changed.2
  let tables ← appendIssued changed.1.record tables
  let tables ← afterAdvance changed.1.run tables
  return (changed.1.run, tables)

def cancel (input : CancelPipelineRun) (now synced : Date) (tables : OfficeTables) :
    Except Thrown (PipelineRunProps × OfficeTables) := do
  requireOperator input.principal
  let run ← requireRun input.pipelineRunId input.projectId tables
  let changed ← performAndPersist (.cancel input.principal.id now) run tables
  let tables ← syncTaskTerminal changed.1.run synced changed.2
  return (changed.1.run, tables)

variable {tables after : OfficeTables}

theorem enqueueCurrentStage_ok {run : PipelineRunProps} (enqueued : enqueueCurrentStage run tables = .ok after) :
    after = { tables with outbox := after.outbox } := by
  obtain ⟨stage, -, enqueued⟩ := Outcome.bind_ok enqueued
  cases stage with
  | none =>
    cases enqueued
    rfl
  | some stage =>
    dsimp only at enqueued
    split at enqueued
    · cases enqueued
      rfl
    · exact appendJob_ok enqueued

theorem commitStart_ok {input : StartPipelineRun} {task : TaskProps} {revision : OfficeManifestRevision}
    {supply : StartSupply} {run : PipelineRunProps} (committed : commitStart input task revision supply tables = .ok (run, after)) :
    ∃ creation started saved inserted, PipelineRun.create creation = .ok run ∧ creation.projectId = input.projectId ∧
      creation.taskId = input.taskId ∧ creation.now = supply.now ∧ Task.start task supply.now = .ok started ∧
      saveTask started tables = .ok saved ∧ insertPipelineRun run saved = .ok inserted ∧
      after = { inserted with outbox := after.outbox } := by
  obtain ⟨-, -, committed⟩ := Outcome.bind_ok committed
  obtain ⟨configuration, -, committed⟩ := Outcome.bind_ok committed
  obtain ⟨definition, -, committed⟩ := Outcome.bind_ok committed
  obtain ⟨created, create, committed⟩ := Outcome.bind_ok committed
  obtain ⟨started, start, committed⟩ := Outcome.bind_ok committed
  obtain ⟨saved, save, committed⟩ := Outcome.bind_ok committed
  obtain ⟨inserted, insert, committed⟩ := Outcome.bind_ok committed
  obtain ⟨enqueued, enqueue, committed⟩ := Outcome.bind_ok committed
  cases committed
  exact ⟨_, started, saved, inserted, create, rfl, rfl, rfl, start, save, insert, enqueueCurrentStage_ok enqueue⟩

theorem readTask_ok {input : StartPipelineRun} {task : TaskProps} (read : readTask input tables = .ok task) :
    tables.findTask input.taskId = some task ∧ task.projectId = input.projectId := by
  obtain ⟨-, -, read⟩ := Outcome.bind_ok read
  split at read
  · cases read
  · next stored found =>
      obtain ⟨inProject, same⟩ := Outcome.guard_ok read
      obtain rfl := Except.ok.inj same
      exact ⟨found, not_not.mp inProject⟩

end ManagePipelineRuns

def buildPipeline : OfficePipeline where
  id := "build"
  name := "Build"
  description := ""
  defaultFor := []
  enforcement := some .enforced
  stages := [⟨"build", "Build", "developer", "Build it", [], false, none, none, none⟩]

def buildOffice : OfficeTables where
  projects := ["project"]
  tasks := [⟨"task", "project", "Task", none, .pending, 0, 0, 0⟩]
  dependencies := []
  manifests := [⟨"manifest", "project", 1, [buildPipeline]⟩]
  pipelines := []
  overrides := []
  agents := [⟨"agent", "project", "Agent", "role", true, 0, 0⟩]
  roles := [⟨"role", "project", "developer", "Developer", 1, ⟨1, 0, 1⟩, none, none, 0, 0⟩]
  agentRuns := []
  outbox := []

def startBuild : StartPipelineRun := ⟨"project", "task", "build", none, localOperatorPrincipal⟩

def buildSupply : StartSupply := ⟨none, 1, fun index => String.ofList (List.replicate (index + 1) 'i')⟩

def startedRun : PipelineRunProps where
  id := "ii"
  projectId := "project"
  taskId := "task"
  manifestRevisionId := "manifest"
  manifestRevision := 1
  definition := buildPipeline
  status := .active
  currentStageIndex := 0
  stages := [⟨"i", "build", 0, "developer", .active, none, none, none, none, none, none, none⟩]
  startedBy := "local-operator"
  version := 1
  createdAt := 1
  updatedAt := 1
  completedAt := none
  cancelledAt := none
  configurationPin := none

def startedOffice : OfficeTables := { buildOffice with
  tasks := [⟨"task", "project", "Task", none, .running, 0, 0, 1⟩]
  pipelines := [startedRun]
  outbox := [⟨"project", "ii", "i", 1⟩] }

end AiOffice.Application.Pipeline
