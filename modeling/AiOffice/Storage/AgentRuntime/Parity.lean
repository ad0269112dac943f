import AiOffice.Storage.AgentRuntime.Postgres
import AiOffice.Storage.AgentRuntime.Sqlite
import Mathlib.Data.List.Find

namespace AiOffice.Storage.AgentRuntime

open Data Outcome Domain PostgresStore

variable {Json : Type}

def Database.Keeps (database : Database Json) (codec : AgentRunCodec Json) (json : Json) : Prop :=
  json ≠ codec.null ∧ database.holds json = true ∧ database.text json = none

/-- A run whose structured fields are normalized, as those of an object are, and kept by PostgreSQL. -/
structure Storable (database : Database Json) (codec : AgentRunCodec Json) (row : AgentRunState Json) : Prop where
  actionIntent : ∀ json, row.actionIntent = some json →
    database.Keeps codec json ∧ codec.normalizeActionIntent json = .ok json
  roleGuidance : ∀ json, row.roleGuidance = some json →
    database.Keeps codec json ∧ codec.normalizeRoleGuidance json = .ok json
  execution : ∀ json, row.execution = some json → database.Keeps codec json ∧ codec.parseAgentExecution json = .ok json
  modelRouting : ∀ json, row.modelRouting = some json →
    database.Keeps codec json ∧ codec.parseAgentRunModelRouting json = .ok json
  result : ∀ json, row.result = some json → database.Keeps codec json
  error : ∀ json, row.error = some json → database.Keeps codec json

/-- What the foreign keys of a step hold of the tables around it. -/
structure Surroundings.Holds (around : Surroundings) (store : SqliteStore Json) : Prop where
  taskIds : (around.tasks.map TaskProps.id).Nodup
  pipelineTasks : ∀ pipeline ∈ around.pipelines, ∃ task ∈ around.tasks,
    task.id = pipeline.taskId ∧ task.projectId = pipeline.projectId
  dependencyTasks : ∀ edge ∈ around.dependencies, ∀ task ∈ around.tasks, task.id = edge.dependsOnTaskId →
    task.projectId = edge.projectId
  roleProjects : ∀ row ∈ store.roles, row.projectId ∈ around.projects
  agentProjects : ∀ row ∈ store.agents, row.projectId ∈ around.projects
  runProjects : ∀ row ∈ store.runtime.runs, row.projectId ∈ around.projects
  runTasks : ∀ row ∈ store.runtime.runs, ∃ task ∈ around.tasks, task.id = row.taskId ∧ task.projectId = row.projectId
  taskProjects : ∀ task ∈ around.tasks, task.projectId ∈ around.projects

structure Mirrors (database : Database Json) (codec : AgentRunCodec Json) (store : SqliteStore Json)
    (other : PostgresStore Json) : Prop where
  roles : other.roles = store.roles
  agents : other.agents = store.agents
  runs : other.runs = store.runtime.runs
  events : ∀ runId, (other.events.filter fun event => event.runId = runId).map PostgresRunEvent.toAgentRunEvent =
    store.runtime.events.filter fun event => event.runId = runId
  locks : other.locks.map PostgresTaskLock.toTaskLock = store.runtime.locks
  roleRows : ∀ row ∈ store.roles, postgresRoleChecks row = true
  agentNames : (store.agents.map fun row => (row.projectId, row.name)).Nodup
  runIds : (store.runtime.runs.map (·.id)).Nodup
  storable : ∀ row ∈ store.runtime.runs, Storable database codec row
  runAgents : ∀ row ∈ store.runtime.runs, ∃ agent ∈ store.agents, agent.id = row.agentId ∧ agent.projectId = row.projectId
  eventRuns : ∀ event ∈ other.events, ∃ row ∈ store.runtime.runs, row.id = event.runId ∧ row.projectId = event.projectId
  lockRuns : ∀ lock ∈ other.locks, ∃ row ∈ store.runtime.runs, row.id = lock.runId ∧ row.taskId = lock.taskId ∧
    row.projectId = lock.projectId
  lockTasks : (other.locks.map (·.taskId)).Nodup

theorem mapM_fixed {read : Json → Except Thrown Json} {value : Option Json}
    (fixed : ∀ json, value = some json → read json = .ok json) : value.mapM read = .ok value := by
  cases value with
  | none => rfl
  | some json =>
    rw [Option.mapM_some, fixed json rfl]
    rfl

theorem Collation.refl (collation : Collation) (value : String) : collation.le value value = true := by
  simpa using collation.total value value

section Columns

variable {database : Database Json} {codec : AgentRunCodec Json} {row : AgentRunState Json}

theorem jsonValue_keeps {json : Json} (keeps : database.Keeps codec json) : jsonValue database json = .ok json := by
  rw [jsonValue, keeps.2.2]

theorem Storable.readColumns (storable : Storable database codec row) :
    PostgresStore.readColumns database row = .ok row := by
  unfold PostgresStore.readColumns
  rw [mapM_fixed fun json holds => jsonValue_keeps (storable.execution json holds).1,
    mapM_fixed fun json holds => jsonValue_keeps (storable.modelRouting json holds).1,
    mapM_fixed fun json holds => jsonValue_keeps (storable.roleGuidance json holds).1,
    mapM_fixed fun json holds => jsonValue_keeps (storable.actionIntent json holds).1,
    mapM_fixed fun json holds => jsonValue_keeps (storable.result json holds),
    mapM_fixed fun json holds => jsonValue_keeps (storable.error json holds)]
  rfl

theorem Storable.load (storable : Storable database codec row) :
    AgentRuntime.load codec row = .ok { row with persistenceToken := some ⟨row.status, row.updatedAt⟩ } := by
  unfold AgentRuntime.load AgentRun.restore
  rw [mapM_fixed fun json holds => (storable.execution json holds).2,
    mapM_fixed fun json holds => (storable.actionIntent json holds).2,
    mapM_fixed fun json holds => (storable.roleGuidance json holds).2,
    mapM_fixed fun json holds => (storable.modelRouting json holds).2]
  rfl

theorem Storable.restoreRun (storable : Storable database codec row) :
    PostgresStore.restoreRun database codec row = AgentRuntime.load codec row := by
  rw [PostgresStore.restoreRun, storable.readColumns]
  rfl

variable [DecidableEq Json]

theorem jsonParameter_keeps {value : Option Json} (keeps : ∀ json, value = some json → database.Keeps codec json) :
    jsonParameter database codec value = .ok value := by
  cases value with
  | none => rfl
  | some json =>
    obtain ⟨notNull, held, -⟩ := keeps json rfl
    simp [jsonParameter, notNull, held]

theorem Storable.writeColumns (storable : Storable database codec row) :
    PostgresStore.writeColumns database codec row = .ok row := by
  unfold PostgresStore.writeColumns
  rw [jsonParameter_keeps fun json holds => (storable.actionIntent json holds).1,
    jsonParameter_keeps fun json holds => storable.result json holds,
    jsonParameter_keeps fun json holds => storable.error json holds,
    jsonParameter_keeps fun json holds => (storable.execution json holds).1,
    jsonParameter_keeps fun json holds => (storable.modelRouting json holds).1,
    jsonParameter_keeps fun json holds => (storable.roleGuidance json holds).1]
  rfl

end Columns

section Upserts

variable {Row : Type} {conflicts sameId : Row → Row → Bool} {overwrite : Row → Row → Row} {rows after : List Row}
  {value row : Row}

theorem upsert_forall {holds : Row → Prop} (stored : ∀ row ∈ rows, holds row) (given : holds value)
    (overwritten : ∀ row, holds (overwrite row value)) (returned : upsert conflicts sameId overwrite rows value = .ok after) :
    ∀ row ∈ after, holds row := by
  unfold upsert at returned
  split at returned
  · cases returned
    intro row member
    obtain ⟨before, inRows, rfl⟩ := List.mem_map.mp member
    split
    · exact overwritten before
    · exact stored before inRows
  · obtain ⟨-, returned⟩ := guard_ok returned
    cases returned
    intro row member
    rcases List.mem_append.mp member with old | new
    · exact stored row old
    · rw [List.mem_singleton.mp new]
      exact given

theorem upsert_keeps (returned : upsert conflicts sameId overwrite rows value = .ok after) (member : row ∈ rows) :
    row ∈ after ∨ overwrite row value ∈ after := by
  unfold upsert at returned
  split at returned
  · cases returned
    by_cases hits : conflicts row value = true
    · exact .inr (List.mem_map.mpr ⟨row, member, if_pos hits⟩)
    · exact .inl (List.mem_map.mpr ⟨row, member, if_neg hits⟩)
  · obtain ⟨-, returned⟩ := guard_ok returned
    cases returned
    exact .inl (List.mem_append_left _ member)

theorem upsert_keys {Key : Type} {key : Row → Key} (unique : (rows.map key).Nodup)
    (conflict : ∀ row, conflicts row value = true ↔ key row = key value) (kept : ∀ row, key (overwrite row value) = key row)
    (returned : upsert conflicts sameId overwrite rows value = .ok after) : (after.map key).Nodup := by
  unfold upsert at returned
  split at returned
  · cases returned
    refine keyed_map (fun row => ?_) unique
    split
    · exact kept row
    · rfl
  · next free =>
    obtain ⟨-, returned⟩ := guard_ok returned
    cases returned
    rw [List.map_append, List.nodup_append]
    refine ⟨unique, List.nodup_singleton _, ?_⟩
    rintro taken member given new rfl
    obtain ⟨row, stands, same⟩ := List.mem_map.mp member
    rw [List.map_singleton, List.mem_singleton] at new
    exact free (List.any_eq_true.mpr ⟨row, stands, (conflict row).mpr (same.trans new)⟩)

end Upserts

theorem mapM_congr {Item Result : Type} {read also : Item → Except Thrown Result} {items : List Item}
    (same : ∀ item ∈ items, read item = also item) : items.mapM read = items.mapM also := by
  induction items with
  | nil => rfl
  | cons item items ih =>
    rw [List.mapM_cons, List.mapM_cons, same item List.mem_cons_self,
      ih fun other member => same other (List.mem_cons_of_mem _ member)]

theorem any_congr {Item : Type} {selected also : Item → Bool} {items : List Item}
    (same : ∀ item ∈ items, selected item = also item) : items.any selected = items.any also := by
  rw [Bool.eq_iff_iff, List.any_eq_true, List.any_eq_true]
  exact exists_congr fun item => and_congr_right fun member => by rw [same item member]

theorem find_mapM_congr {Item Result : Type} {read also : Item → Except Thrown Result} {items : List Item}
    {selected : Item → Bool} (same : ∀ item ∈ items, read item = also item) :
    (items.find? selected).mapM read = (items.find? selected).mapM also := by
  cases found : items.find? selected with
  | none => rfl
  | some item => rw [Option.mapM_some, Option.mapM_some, same item (List.mem_of_find?_eq_some found)]

theorem postgresRoleChecks_overwrite (row value : RoleRow) :
    postgresRoleChecks (overwriteRole row value) = postgresRoleChecks value := by
  simp only [postgresRoleChecks, overwriteRole]
  rfl

section Reads

variable {database : Database Json} {codec : AgentRunCodec Json} {around : Surroundings} {store : SqliteStore Json}
  {other : PostgresStore Json} (mirrors : Mirrors database codec store other) (holds : around.Holds store)

include mirrors holds

omit holds in
theorem saveRole_alike {value : RoleRecord}
    (checks : sqliteRoleChecks (roleRow value) = postgresRoleChecks (roleRow value)) :
    Alike (Mirrors database codec) (store.saveRole around value) (other.saveRole around value) := by
  unfold SqliteStore.saveRole PostgresStore.saveRole
  rw [checks, mirrors.roles]
  by_cases passes : postgresRoleChecks (roleRow value) = true
  · rw [passes]
    cases saved : upsertRole store.roles (roleRow value) with
    | error thrown =>
      by_cases known : value.projectId ∈ around.projects
      · simp only [Bool.not_true, Bool.false_eq_true, if_false, known, not_true_eq_false]
        exact .throws
      · simp only [Bool.not_true, Bool.false_eq_true, if_false, known, not_false_eq_true, if_true]
        exact .throws
    | ok roles =>
      have roleRows : ∀ row ∈ roles, postgresRoleChecks row = true :=
        upsert_forall mirrors.roleRows passes
          (fun row => (postgresRoleChecks_overwrite row _).trans passes) saved
      simp only [Bool.not_true, Bool.false_eq_true, if_false]
      refine Alike.guard Iff.rfl fun _ => .returns ?_
      exact { mirrors with roles := rfl, roleRows := roleRows }
  · rw [(Bool.not_eq_true _).mp passes]
    simp only [Bool.not_false, if_true]
    split <;> exact .throws

omit holds in
theorem saveAgent_alike {value : Agent} (checks : postgresAgentChecks value = true) :
    Alike (Mirrors database codec) (store.saveAgent around value) (other.saveAgent around value) := by
  unfold SqliteStore.saveAgent PostgresStore.saveAgent
  rw [mirrors.roles, mirrors.agents]
  by_cases owned : (store.roles.any fun role => role.id = value.roleId && role.projectId = value.projectId) = true
  · cases saved : upsertAgent store.agents value with
    | error thrown =>
      simp only [owned, Bool.not_true, Bool.false_eq_true, if_false, or_false, checks]
      split <;> exact .throws
    | ok agents =>
      have runAgents : ∀ row ∈ store.runtime.runs, ∃ agent ∈ agents, agent.id = row.agentId ∧
          agent.projectId = row.projectId := by
        intro row member
        obtain ⟨agent, stands, about, same⟩ := mirrors.runAgents row member
        rcases upsert_keeps saved stands with kept | overwritten
        · exact ⟨agent, kept, about, same⟩
        · exact ⟨overwriteAgent agent value, overwritten, about, same⟩
      simp only [owned, Bool.not_true, Bool.false_eq_true, if_false, or_false, checks]
      refine Alike.guard Iff.rfl fun _ => .returns ?_
      exact { mirrors with
        roles := rfl
        agents := rfl
        agentNames := upsert_keys mirrors.agentNames (fun row => by simp [Prod.ext_iff]) (fun row => rfl) saved
        runAgents := runAgents }
  · rw [(Bool.not_eq_true _).mp owned]
    simp only [Bool.not_false, if_true, or_true]
    exact .throws

omit holds in
theorem roles_restored : ∀ row ∈ store.roles, postgresRole row = sqliteRole row := by
  intro row member
  have checks := mirrors.roleRows row member
  simp only [postgresRoleChecks, isPositiveInteger, Bool.and_eq_true] at checks
  unfold postgresRole sqliteRole
  rw [if_neg (by simp [checks.1.1.1.2.1, checks.1.1.2.1]), if_neg (by simp [checks.2]), if_neg (by simp [checks.2])]

theorem findRole_eq (roleId projectId : String) :
    other.findRole around roleId projectId = store.findRole roleId projectId := by
  unfold PostgresStore.findRole SqliteStore.findRole
  rw [mirrors.roles, find_mapM_congr (roles_restored mirrors)]
  refine congrArg (Option.mapM sqliteRole) (List.find?_congr fun row member => ?_)
  simp [holds.roleProjects row member]

theorem listRoles_eq (projectId : String) : other.listRoles around projectId = store.listRoles projectId := by
  have selected : (store.roles.filter fun row => row.projectId = projectId && row.projectId ∈ around.projects) =
      store.roles.filter fun row => row.projectId = projectId :=
    List.filter_congr fun row member => by simp [holds.roleProjects row member]
  unfold PostgresStore.listRoles SqliteStore.listRoles
  rw [mirrors.roles, selected]
  refine mapM_congr fun row member => roles_restored mirrors row ?_
  exact (List.mem_filter.mp (mem_sortOn.mp member)).1

theorem findAgent_eq (agentId : String) : other.findAgent around agentId = store.findAgent agentId := by
  unfold PostgresStore.findAgent SqliteStore.findAgent
  rw [mirrors.agents]
  exact List.find?_congr fun row member => by simp [holds.agentProjects row member]

/-- Whether a database orders the names of the agents of a project by their characters. -/
def NamesOrdered (database : Database Json) (store : SqliteStore Json) (projectId : String) : Prop :=
  ∀ left ∈ store.agents, ∀ right ∈ store.agents, left.projectId = projectId → right.projectId = projectId →
    database.collation.le left.name right.name = decide (left.name ≤ right.name)

theorem listAgents_eq {projectId : String} (ordered : NamesOrdered database store projectId) :
    other.listAgents around database projectId = store.listAgents projectId := by
  have selected : (store.agents.filter fun row => row.projectId = projectId && row.projectId ∈ around.projects) =
      store.agents.filter fun row => row.projectId = projectId :=
    List.filter_congr fun row member => by simp [holds.agentProjects row member]
  unfold PostgresStore.listAgents SqliteStore.listAgents sortOn
  rw [mirrors.agents, selected]
  refine insertionSort_congr fun left here right there => ?_
  simp only [List.mem_filter, decide_eq_true_eq] at here there
  have names := ordered left here.1 right there.1 here.2 there.2
  rw [Prod.Lex.toLex_le_toLex]
  by_cases same : left.name = right.name
  · have only : left = right :=
      keyed_eq mirrors.agentNames there.1 here.1 (Prod.ext (here.2.trans there.2.symm) same)
    simp [only, database.collation.refl]
  · simp [same, names, le_iff_lt_or_eq]

omit holds in
theorem run_restored {row : AgentRunState Json} (member : row ∈ store.runtime.runs) :
    restoreRun database codec row = load codec row := (mirrors.storable row member).restoreRun

theorem findRun_eq (runId : String) : other.findRun around database codec runId = store.runtime.findRun codec runId := by
  unfold PostgresStore.findRun RuntimeTables.findRun RuntimeTables.findRow
  rw [mirrors.runs, find_mapM_congr fun row member => run_restored mirrors member]
  refine congrArg (Option.mapM (load codec)) (List.find?_congr fun row member => ?_)
  simp [holds.runProjects row member]

/-- Whether a database orders the ids of the runs of a project that have the same time by their characters. -/
def IdsOrdered (database : Database Json) (store : SqliteStore Json) (time : AgentRunState Json → Date)
    (projectId : String) : Prop :=
  ∀ left ∈ store.runtime.runs, ∀ right ∈ store.runtime.runs, left.projectId = projectId → right.projectId = projectId →
    time left = time right → database.collation.le left.id right.id = decide (left.id ≤ right.id)

theorem runsBy_eq {time : AgentRunState Json → Date} {projectId : String} (selects : AgentRunStatus → Bool)
    (ordered : IdsOrdered database store time projectId) :
    other.runsBy around database time projectId selects = sortOn (fun row => toLex (time row, row.id))
      (store.runtime.runs.filter fun row => row.projectId = projectId && selects row.status) := by
  have selected : (store.runtime.runs.filter fun row =>
      row.projectId = projectId && selects row.status && row.projectId ∈ around.projects) =
      store.runtime.runs.filter fun row => row.projectId = projectId && selects row.status :=
    List.filter_congr fun row member => by simp [holds.runProjects row member]
  unfold PostgresStore.runsBy sortOn
  rw [mirrors.runs, selected]
  refine insertionSort_congr fun left here right there => ?_
  simp only [List.mem_filter, Bool.and_eq_true, decide_eq_true_eq] at here there
  have ids := ordered left here.1 right there.1 here.2.1 there.2.1
  rw [Prod.Lex.toLex_le_toLex]
  by_cases same : time left = time right
  · simp [Collation.byTime, same, ids same]
  · simp [Collation.byTime, same]

omit holds in
theorem restored_mapM {rows : List (AgentRunState Json)} (stored : ∀ row ∈ rows, row ∈ store.runtime.runs) :
    rows.mapM (restoreRun database codec) = rows.mapM (load codec) :=
  mapM_congr fun row member => run_restored mirrors (stored row member)

omit mirrors holds in
theorem mem_sorted {time : AgentRunState Json → Date} {selected : AgentRunState Json → Bool} {row : AgentRunState Json}
    (member : row ∈ sortOn (fun row => toLex (time row, row.id)) (store.runtime.runs.filter selected)) :
    row ∈ store.runtime.runs := (List.mem_filter.mp (mem_sortOn.mp member)).1

theorem listRuns_eq {projectId : String} (ordered : IdsOrdered database store (·.createdAt) projectId) :
    other.listRuns around database codec projectId = store.runtime.listRuns codec projectId := by
  unfold PostgresStore.listRuns RuntimeTables.listRuns
  rw [runsBy_eq mirrors holds (fun _ => true) ordered, restored_mapM mirrors fun row => mem_sorted]
  simp

theorem listQueuedRuns_eq {projectId : String} {limit : Int} (ordered : IdsOrdered database store (·.createdAt) projectId)
    (bounded : 0 ≤ limit) :
    other.listQueuedRuns around database codec projectId limit = store.listQueuedRuns codec projectId limit := by
  unfold PostgresStore.listQueuedRuns SqliteStore.listQueuedRuns
  dsimp only
  rw [if_neg (Int.not_lt.mpr bounded), if_neg (Int.not_lt.mpr bounded), runsBy_eq mirrors holds _ ordered,
    restored_mapM mirrors fun row member => mem_sorted (List.mem_of_mem_take member)]

theorem listRecoverableRuns_eq {projectId : String} (ordered : IdsOrdered database store (·.updatedAt) projectId) :
    other.listRecoverableRuns around database codec projectId = store.listRecoverableRuns codec projectId := by
  unfold PostgresStore.listRecoverableRuns SqliteStore.listRecoverableRuns
  rw [runsBy_eq mirrors holds _ ordered, restored_mapM mirrors fun row => mem_sorted]

theorem event_joined {event : PostgresRunEvent Json} (member : event ∈ other.events) :
    event.projectId ∈ around.projects ∧
      (other.runs.any fun row => row.id = event.runId && row.projectId = event.projectId) = true := by
  obtain ⟨row, stands, about, same⟩ := mirrors.eventRuns event member
  refine ⟨same ▸ holds.runProjects row stands, ?_⟩
  rw [mirrors.runs]
  exact List.any_eq_true.mpr ⟨row, stands, by simp [about, same]⟩

theorem listRunEvents_eq (runId : String) : other.listRunEvents around runId = store.listRunEvents runId := by
  unfold PostgresStore.listRunEvents SqliteStore.listRunEvents
  rw [← mirrors.events runId]
  refine congrArg _ (List.filter_congr fun event member => ?_)
  obtain ⟨tenant, joined⟩ := event_joined mirrors holds member
  simp only [tenant, joined, decide_true, Bool.and_true]

theorem executionOwner_eq (runId : String) : other.executionOwner around runId = store.runtime.executionOwner runId := by
  have here : (store.runtime.events.find? fun event => event.runId = runId && event.status = .preparing) =
      (store.runtime.events.filter fun event => event.runId = runId).find? fun event => event.status = .preparing := by
    simp [List.find?_filter]
  have there : (other.events.find? fun event =>
      event.runId = runId && event.status = .preparing && event.projectId ∈ around.projects) =
      (other.events.filter fun event => event.runId = runId).find? fun event => event.status = .preparing := by
    rw [List.find?_filter]
    refine List.find?_congr fun event member => ?_
    simp [(event_joined mirrors holds member).1]
  unfold PostgresStore.executionOwner RuntimeTables.executionOwner
  rw [here, there, ← mirrors.events runId, List.find?_map, Option.bind_map]
  rfl

omit holds in
theorem find_lock (selected : TaskLock → Bool) :
    store.runtime.locks.find? selected =
      (other.locks.find? fun lock => selected lock.toTaskLock).map PostgresTaskLock.toTaskLock := by
  rw [← mirrors.locks, List.find?_map]
  rfl

theorem lock_joined {lock : PostgresTaskLock} (member : lock ∈ other.locks) : lock.projectId ∈ around.projects := by
  obtain ⟨row, stands, -, -, same⟩ := mirrors.lockRuns lock member
  exact same ▸ holds.runProjects row stands

theorem findTaskLock_eq (taskId : String) : other.findTaskLock around taskId =
    (store.runtime.findTaskLock taskId).map fun lock => (lock.runId, lock.expiresAt) := by
  unfold PostgresStore.findTaskLock RuntimeTables.findTaskLock
  rw [find_lock mirrors, Option.map_map]
  refine congrArg _ (List.find?_congr fun lock member => ?_)
  simp [lock_joined mirrors holds member]

end Reads

end AiOffice.Storage.AgentRuntime
