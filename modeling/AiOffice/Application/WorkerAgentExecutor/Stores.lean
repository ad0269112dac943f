import AiOffice.Application.WorkerAgentExecutor.Interleaving
import AiOffice.Storage.AgentRuntime.Parity.Authority

namespace AiOffice.Application.WorkerAgentExecutor

open Data Domain Storage.AgentRuntime

variable {Json : Type} [DecidableEq Json] {database : Database Json} {codec : AgentRunCodec Json}
  {checks : AgentRunState Json → Bool} {errors : AdmissionErrors Json} {around : Surroundings}
  {store : SqliteStore Json} {other : PostgresStore Json} {fence : WorkerAuthorityFence Json} {row : AgentRunState Json}

omit [DecidableEq Json] in
/-- A fence that an executor made for the run of a row, with the pipeline that it found for it. -/
def FencedFor (fence : WorkerAuthorityFence Json) (row : AgentRunState Json) : Prop :=
  ∃ (services : WorkerServices Json) (run : AgentRunProps Json) (prepared : PreparedExecution Json)
    (pipeline : Option PipelineRunProps),
    fence = prepared.fence services run ∧
    checkPipeline run prepared.reads.agent prepared.reads.role pipeline = .ok prepared.reads.pipeline ∧
    prepared.reads.agent.id = run.agentId ∧ run.agentId = row.agentId ∧ run.pipelineRunId = row.pipelineRunId ∧
    run.pipelineStageRunId = row.pipelineStageRunId

omit [DecidableEq Json] in
theorem FencedFor.fits (fenced : FencedFor fence row) : fence.Fits row := by
  obtain ⟨services, run, prepared, pipeline, rfl, checked, agent, sameAgent, samePipeline, sameStage⟩ := fenced
  obtain ⟨found, assigned⟩ := checkPipeline_ok checked
  constructor
  · intro unbound
    have none : prepared.reads.pipeline = none := Option.map_eq_none_iff.mp unbound
    rw [none, Option.map_none] at found
    subst found
    rw [checkPipeline] at checked
    obtain ⟨bound, -⟩ := Outcome.guard_ok checked
    simp only [not_or, not_not] at bound
    exact ⟨samePipeline.symm.trans bound.1, sameStage.symm.trans bound.2⟩
  · intro expected bound
    obtain ⟨⟨pipeline, stage⟩, reads, rfl⟩ := Option.map_eq_some_iff.mp bound
    obtain ⟨-, -, sameAssigned, -⟩ := assigned pipeline stage reads
    rw [pipelineFence, sameAssigned, Option.getD_some, agent, sameAgent]

/-- The condition that the stores answer an operation alike under. Its texts are without the character U+0000, what it
writes passes the checks of both databases or of none, `jsonb` gives its values back, and the rows that it lists are
ordered alike by the collation. -/
def Agreeable (database : Database Json) (codec : AgentRunCodec Json) (checks : AgentRunState Json → Bool)
    (store : SqliteStore Json) : Surroundings × Operation Json → Prop
  | (around, operation) =>
    around.Holds store ∧ operation.texts.all storable = true ∧
      match operation with
      | .saveRole role => sqliteRoleChecks (roleRow role) = postgresRoleChecks (roleRow role)
      | .saveAgent agent => postgresAgentChecks agent = true
      | .listAgents projectId => NamesOrdered database store projectId
      | .saveRun run =>
        Storable database codec run.toAgentRunState ∧
          checks run.toAgentRunState = database.checks run.toAgentRunState ∧
          sqliteBinds around run.toAgentRunState =
            postgresBinds around store.agents store.roles run.toAgentRunState
      | .listRuns projectId => IdsOrdered database store (·.createdAt) projectId
      | .listQueuedRuns projectId limit => IdsOrdered database store (·.createdAt) projectId ∧ 0 ≤ limit
      | .listRecoverableRuns projectId => IdsOrdered database store (·.updatedAt) projectId
      | .admitQueuedRun input => ∀ row ∈ store.runtime.runs, row.id = input.runId → row.status = .queued →
          row.error = none ∧ row.completedAt = none
      | .acceptWorkerResult fence _ result _ =>
        database.Keeps codec result ∧ ∀ row ∈ store.runtime.runs, row.id = fence.runId → FencedFor fence row
      | _ => True

omit [DecidableEq Json] in
theorem read_alike {Result : Type} {here there : Except Thrown Result} {answer : Result → Answer Json}
    (mirrors : Mirrors database codec store other) (same : there = here) :
    Alike (Machine.Answers (Mirrors database codec)) (do return (answer (← here), store))
      (do return (answer (← there), other)) :=
  (Alike.of_eq same.symm fun _ => rfl).bind fun _ _ equal => .returns ⟨congrArg answer equal, mirrors⟩

/-- One operation, on stores with the same rows. -/
theorem operation_alike (mirrors : Mirrors database codec store other)
    (keeps : database.Keeps codec errors.runNotEligible) (input : Surroundings × Operation Json)
    (agreeable : Agreeable database codec checks store input) :
    Alike (Machine.Answers (Mirrors database codec)) (sqlite codec errors checks store input)
      (postgres database codec errors other input) := by
  obtain ⟨around, operation⟩ := input
  obtain ⟨holds, texts, condition⟩ := agreeable
  unfold sqlite postgres
  dsimp only
  rw [if_neg (by rw [texts]; exact Bool.false_ne_true)]
  cases operation with
  | saveRole role => exact (saveRole_alike mirrors condition).bind fun _ _ after => .returns ⟨rfl, after⟩
  | findRole roleId projectId => exact read_alike mirrors (findRole_eq mirrors holds roleId projectId)
  | listRoles projectId => exact read_alike mirrors (listRoles_eq mirrors holds projectId)
  | saveAgent agent => exact (saveAgent_alike mirrors condition).bind fun _ _ after => .returns ⟨rfl, after⟩
  | findAgent agentId => exact .returns ⟨congrArg _ (findAgent_eq mirrors holds agentId).symm, mirrors⟩
  | listAgents projectId => exact .returns ⟨congrArg _ (listAgents_eq mirrors holds condition).symm, mirrors⟩
  | saveRun run =>
    obtain ⟨storable, sameChecks, binds⟩ := condition
    refine (saveRun_alike mirrors holds storable sameChecks binds).bind fun _ _ after => .returns ⟨?_, after.2⟩
    exact congrArg (fun saved => Answer.run (some saved)) after.1
  | findRun runId => exact read_alike mirrors (findRun_eq mirrors holds runId)
  | listRuns projectId => exact read_alike mirrors (listRuns_eq mirrors holds condition)
  | listQueuedRuns projectId limit => exact read_alike mirrors (listQueuedRuns_eq mirrors holds condition.1 condition.2)
  | listRecoverableRuns projectId => exact read_alike mirrors (listRecoverableRuns_eq mirrors holds condition)
  | listRunEvents runId => exact .returns ⟨congrArg _ (listRunEvents_eq mirrors holds runId).symm, mirrors⟩
  | executionOwner runId => exact .returns ⟨congrArg _ (executionOwner_eq mirrors holds runId).symm, mirrors⟩
  | admitQueuedRun input =>
    refine (admitQueuedRun_alike mirrors holds keeps condition).bind fun _ _ after => .returns ⟨?_, after.2⟩
    exact congrArg Answer.run after.1
  | acceptWorkerResult fence run result acceptedAt =>
    have fits := fun row stands about => (condition.2 row stands about).fits
    refine (acceptWorkerResult_alike mirrors holds condition.1 fits).bind fun _ _ after => .returns ⟨?_, after.2⟩
    exact congrArg Answer.flag after.1
  | findTaskLock taskId => exact .returns ⟨congrArg _ (findTaskLock_eq mirrors holds taskId).symm, mirrors⟩
  | acquireTaskLock taskId runId acquiredAt expiresAt =>
    obtain ⟨same, after⟩ := acquireTaskLock_mirrors mirrors holds taskId runId acquiredAt expiresAt
    exact .returns ⟨congrArg _ same, after⟩
  | renewTaskLock runId now newExpiresAt =>
    obtain ⟨same, after⟩ := renewTaskLock_mirrors mirrors holds runId now newExpiresAt
    exact .returns ⟨congrArg _ same, after⟩
  | releaseTaskLock runId =>
    obtain ⟨same, after⟩ := releaseTaskLock_mirrors mirrors holds runId
    exact .returns ⟨congrArg _ same, after⟩

/-- An order of letters before their case, as that of `en_US`. -/
def letterCollation : Collation where
  le left right := toLex (left.toLower, left) ≤ toLex (right.toLower, right)
  total left right := by
    rw [decide_eq_true_eq, decide_eq_true_eq]
    exact le_total _ _
  trans left middle right first second := by
    rw [decide_eq_true_eq] at *
    exact first.trans second
  antisymm left right first second := by
    rw [decide_eq_true_eq] at first second
    exact congrArg (fun pair => (ofLex pair).2) (le_antisymm first second)

def letterDatabase : Database String where
  collation := letterCollation
  holds := storable
  text _ := none
  parse := .ok
  checks _ := true

def textCodec : AgentRunCodec String := ⟨"null", .ok, .ok, .ok, .ok⟩

def notEligible : AdmissionErrors String := ⟨"not eligible"⟩

def emptySqlite : SqliteStore String := ⟨[], [], ⟨[], [], []⟩⟩

def emptyPostgres : PostgresStore String := ⟨[], [], [], [], []⟩

def oneProject : Surroundings := ⟨["project"], [], [], []⟩

def reviewer : RoleRecord where
  id := "role"
  projectId := "project"
  key := "reviewer"
  name := "Reviewer"
  version := 1
  limits := ⟨1, 1, 1⟩
  guidanceText := none
  guidanceVersion := none
  createdAt := 0
  updatedAt := 0
  capabilities := []
  tools := []
  modelPolicy := "default"
  sourcePath := "roles/reviewer.md"

def agentNamed (name : String) : Agent where
  id := name
  projectId := "project"
  name := name
  roleId := "role"
  enabled := true
  createdAt := 0
  updatedAt := 0

def namedHistory (first second : String) : List (Surroundings × Operation String) :=
  [(oneProject, .saveRole reviewer), (oneProject, .saveAgent (agentNamed first)),
    (oneProject, .saveAgent (agentNamed second)), (oneProject, .listAgents "project")]

private def namedStore (names : List String) : SqliteStore String :=
  ⟨[roleRow reviewer], names.map agentNamed, ⟨[], [], []⟩⟩

private theorem oneProject_holds {store : SqliteStore String} (runs : store.runtime.runs = [])
    (roles : ∀ row ∈ store.roles, row.projectId ∈ oneProject.projects)
    (agents : ∀ row ∈ store.agents, row.projectId ∈ oneProject.projects) : oneProject.Holds store where
  taskIds := List.nodup_nil
  pipelineTasks := fun _ member => absurd member List.not_mem_nil
  dependencyTasks := fun _ member => absurd member List.not_mem_nil
  roleProjects := roles
  agentProjects := agents
  runProjects := fun _ member => absurd (runs ▸ member) List.not_mem_nil
  runTasks := fun _ member => absurd (runs ▸ member) List.not_mem_nil
  taskProjects := fun _ member => absurd member List.not_mem_nil

private theorem emptyStores_mirror : Mirrors letterDatabase textCodec emptySqlite emptyPostgres where
  roles := rfl
  agents := rfl
  runs := rfl
  events := fun _ => rfl
  locks := rfl
  roleRows := fun _ member => absurd member List.not_mem_nil
  agentNames := List.nodup_nil
  runIds := List.nodup_nil
  storable := fun _ member => absurd member List.not_mem_nil
  runAgents := fun _ member => absurd member List.not_mem_nil
  eventRuns := fun _ member => absurd member List.not_mem_nil
  lockRuns := fun _ member => absurd member List.not_mem_nil
  lockTasks := List.nodup_nil

private theorem namedHistory_meets :
    (sqlite textCodec notEligible fun _ => true).Meets (Agreeable letterDatabase textCodec fun _ => true) emptySqlite
      (namedHistory "alpha" "beta") := by
  have named : ∀ names, oneProject.Holds (namedStore names) := fun names =>
    oneProject_holds rfl (List.forall_mem_singleton.mpr (by decide)) (List.forall_mem_map.mpr fun _ _ => List.mem_singleton_self _)
  have role : sqlite textCodec notEligible (fun _ => true) emptySqlite (oneProject, .saveRole reviewer) =
      .ok (.done, namedStore []) := by decide
  have first : sqlite textCodec notEligible (fun _ => true) (namedStore [])
      (oneProject, .saveAgent (agentNamed "alpha")) = .ok (.done, namedStore ["alpha"]) := by decide
  have second : sqlite textCodec notEligible (fun _ => true) (namedStore ["alpha"])
      (oneProject, .saveAgent (agentNamed "beta")) = .ok (.done, namedStore ["alpha", "beta"]) := by decide
  refine ⟨⟨oneProject_holds rfl (by simp [emptySqlite]) (by simp [emptySqlite]), by decide, by decide⟩, ?_⟩
  rw [role]
  refine ⟨⟨named [], by decide, by decide⟩, ?_⟩
  rw [first]
  refine ⟨⟨named ["alpha"], by decide, by decide⟩, ?_⟩
  rw [second]
  refine ⟨⟨named ["alpha", "beta"], by decide, ?_⟩, trivial⟩
  unfold NamesOrdered
  decide +kernel

end AiOffice.Application.WorkerAgentExecutor
