import AiOffice.Storage.AgentRuntime.Parity.Locks

namespace AiOffice.Storage.AgentRuntime

open Data Outcome Domain PostgresStore RuntimeTables

variable {Json : Type} {database : Database Json} {codec : AgentRunCodec Json} {around : Surroundings}
  {store : SqliteStore Json} {other : PostgresStore Json} {runId : String} {row : AgentRunState Json}
  {added : List (PostgresRunEvent Json)}

section Writes

variable (mirrors : Mirrors database codec store other)

include mirrors

/-- The events of each run, after some were added for one of them. -/
theorem events_added (ofRun : ∀ event ∈ added, event.runId = runId) (written : Option (AgentRunState Json)) (id : String) :
    ((other.events ++ added).filter fun event => event.runId = id).map PostgresRunEvent.toAgentRunEvent =
      (store.runtime.withRun runId ⟨written, (store.runtime.events.filter fun event => event.runId = runId) ++
        added.map PostgresRunEvent.toAgentRunEvent⟩).events.filter fun event => event.runId = id := by
  have same := mirrors.events id
  by_cases own : id = runId
  · subst own
    have all : (added.filter fun event => event.runId = id) = added :=
      List.filter_eq_self.mpr fun event member => decide_eq_true (ofRun event member)
    have allOf : (added.map PostgresRunEvent.toAgentRunEvent).filter (fun event => event.runId = id) =
        added.map PostgresRunEvent.toAgentRunEvent := by
      rw [List.filter_map]
      exact congrArg _ all
    simp only [withRun, List.filter_append, List.map_append, same, all, allOf, List.filter_filter]
    simp
  · have none : (added.filter fun event => event.runId = id) = [] :=
      List.filter_eq_nil_iff.mpr fun event member => by simp [ofRun event member, Ne.symm own]
    have noneOf : (added.map PostgresRunEvent.toAgentRunEvent).filter (fun event => event.runId = id) = [] := by
      rw [List.filter_map]
      exact congrArg _ none
    have kept : (store.runtime.events.filter fun event => decide (event.runId = id) && decide (event.runId ≠ runId)) =
        store.runtime.events.filter fun event => event.runId = id :=
      List.filter_congr fun event _ => by
        by_cases about : event.runId = id
        · simp [about, own]
        · simp [about]
    have gone : (store.runtime.events.filter fun event => decide (event.runId = id) && decide (event.runId = runId)) = [] :=
      List.filter_eq_nil_iff.mpr fun event _ => by
        simp only [Bool.and_eq_true, decide_eq_true_eq, not_and]
        exact fun about => about ▸ own
    simp only [withRun, List.filter_append, same, none, noneOf, List.filter_filter, kept, gone, List.append_nil]

/-- The stores after the row of a run moved on, with new events of the run. -/
theorem Mirrors.moved (next : AgentRunState Json) (found : store.runtime.findRow runId = some row)
    (sameId : next.id = row.id) (sameProject : next.projectId = row.projectId) (sameTask : next.taskId = row.taskId)
    (sameAgent : next.agentId = row.agentId) (storable : Storable database codec next)
    (ofRun : ∀ event ∈ added, event.runId = runId ∧ event.projectId = row.projectId) :
    Mirrors database codec
      { store with runtime := store.runtime.withRun runId ⟨some next,
        (store.runtime.events.filter fun event => event.runId = runId) ++ added.map PostgresRunEvent.toAgentRunEvent⟩ }
      { other with
        runs := other.runs.map fun stored => if stored.id = runId then next else stored
        events := other.events ++ added } := by
  obtain ⟨stands, about⟩ := findRow_some found
  have runs : (store.runtime.withRun runId ⟨some next,
      (store.runtime.events.filter fun event => event.runId = runId) ++
        added.map PostgresRunEvent.toAgentRunEvent⟩).runs =
      store.runtime.runs.map fun stored => if stored.id = runId then next else stored := by
    rw [withRun, writeRow, if_pos (by rw [found]; rfl)]
  have each : ∀ stored ∈ store.runtime.runs, ∃ later ∈ store.runtime.runs.map fun stored =>
      if stored.id = runId then next else stored, later.id = stored.id ∧ later.taskId = stored.taskId ∧
        later.projectId = stored.projectId := by
    intro stored member
    refine ⟨_, List.mem_map_of_mem member, ?_⟩
    split
    · next same =>
      obtain rfl := row_of_id mirrors stands member (same.trans about.symm)
      exact ⟨sameId, sameTask, sameProject⟩
    · exact ⟨rfl, rfl, rfl⟩
  refine { mirrors with runs := ?_, events := ?_, runIds := ?_, storable := ?_, runAgents := ?_, eventRuns := ?_, lockRuns := ?_ }
  · rw [runs, mirrors.runs]
  · exact events_added mirrors (fun event member => (ofRun event member).1) _
  · rw [runs]
    refine keyed_map (fun stored => ?_) mirrors.runIds
    split
    · next same => exact sameId.trans (about.trans same.symm)
    · rfl
  · rw [runs]
    intro later member
    obtain ⟨stored, inRuns, rfl⟩ := List.mem_map.mp member
    split
    · exact storable
    · exact mirrors.storable stored inRuns
  · rw [runs]
    intro later member
    obtain ⟨stored, inRuns, rfl⟩ := List.mem_map.mp member
    split
    · rw [sameAgent, sameProject]
      exact mirrors.runAgents row stands
    · exact mirrors.runAgents stored inRuns
  · rw [runs]
    intro event member
    rcases List.mem_append.mp member with old | new
    · obtain ⟨stored, inRuns, same, project⟩ := mirrors.eventRuns event old
      obtain ⟨later, inLater, sameId, -, sameProject⟩ := each stored inRuns
      exact ⟨later, inLater, sameId.trans same, sameProject.trans project⟩
    · obtain ⟨later, inLater, sameId, -, sameProject⟩ := each row stands
      obtain ⟨own, project⟩ := ofRun event new
      exact ⟨later, inLater, sameId.trans (about.trans own.symm), sameProject.trans project.symm⟩
  · rw [runs]
    intro lock member
    obtain ⟨stored, inRuns, same, task, project⟩ := mirrors.lockRuns lock member
    obtain ⟨later, inLater, sameId, sameTask, sameProject⟩ := each stored inRuns
    exact ⟨later, inLater, sameId.trans same, sameTask.trans task, sameProject.trans project⟩

/-- The stores after a run was inserted, with its events. -/
theorem Mirrors.inserted (absent : store.runtime.findRow row.id = none) (storable : Storable database codec row)
    (ofAgent : ∃ agent ∈ store.agents, agent.id = row.agentId ∧ agent.projectId = row.projectId)
    (ofRun : ∀ event ∈ added, event.runId = row.id ∧ event.projectId = row.projectId) :
    Mirrors database codec
      { store with runtime := store.runtime.withRun row.id ⟨some row,
        (store.runtime.events.filter fun event => event.runId = row.id) ++ added.map PostgresRunEvent.toAgentRunEvent⟩ }
      { other with runs := other.runs ++ [row], events := other.events ++ added } := by
  have runs : (store.runtime.withRun row.id ⟨some row,
      (store.runtime.events.filter fun event => event.runId = row.id) ++
        added.map PostgresRunEvent.toAgentRunEvent⟩).runs = store.runtime.runs ++ [row] := by
    rw [withRun, writeRow, if_neg (by rw [absent]; exact Bool.false_ne_true)]
  have each : ∀ stored ∈ store.runtime.runs ++ [row], stored ∈ store.runtime.runs ∨ stored = row :=
    fun stored member => (List.mem_append.mp member).imp_right List.mem_singleton.mp
  refine { mirrors with runs := ?_, events := ?_, runIds := ?_, storable := ?_, runAgents := ?_, eventRuns := ?_, lockRuns := ?_ }
  · rw [runs, mirrors.runs]
  · exact events_added mirrors (fun event member => (ofRun event member).1) _
  · rw [runs, List.map_append, List.nodup_append]
    refine ⟨mirrors.runIds, List.nodup_singleton _, ?_⟩
    rintro id taken fresh new rfl
    obtain ⟨stored, member, same⟩ := List.mem_map.mp taken
    rw [List.map_singleton, List.mem_singleton] at new
    exact absurd (decide_eq_true (same.trans new)) (List.find?_eq_none.mp absent stored member)
  · rw [runs]
    intro stored member
    rcases each stored member with old | rfl
    · exact mirrors.storable stored old
    · exact storable
  · rw [runs]
    intro stored member
    rcases each stored member with old | rfl
    · exact mirrors.runAgents stored old
    · exact ofAgent
  · rw [runs]
    intro event member
    rcases List.mem_append.mp member with old | new
    · obtain ⟨stored, inRuns, holds⟩ := mirrors.eventRuns event old
      exact ⟨stored, List.mem_append_left _ inRuns, holds⟩
    · obtain ⟨own, project⟩ := ofRun event new
      exact ⟨row, List.mem_append_right _ (List.mem_singleton_self row), own.symm, project.symm⟩
  · rw [runs]
    intro lock member
    obtain ⟨stored, inRuns, holds⟩ := mirrors.lockRuns lock member
    exact ⟨stored, List.mem_append_left _ inRuns, holds⟩

theorem Mirrors.rewritten (runId : String) :
    Mirrors database codec { store with runtime := store.runtime.withRun runId (store.runtime.ofRun runId) } other := by
  have runs : (store.runtime.withRun runId (store.runtime.ofRun runId)).runs = store.runtime.runs :=
    writeRow_same mirrors.runIds
  have events := fun id => @events_added _ database codec store other runId [] mirrors nofun
    (store.runtime.findRow runId) id
  simp only [List.append_nil, List.map_nil] at events
  exact { mirrors with
    runs := by rw [runs]; exact mirrors.runs
    events := events
    runIds := by rw [runs]; exact mirrors.runIds
    storable := by rw [runs]; exact mirrors.storable
    runAgents := by rw [runs]; exact mirrors.runAgents
    eventRuns := by rw [runs]; exact mirrors.eventRuns
    lockRuns := by rw [runs]; exact mirrors.lockRuns }

end Writes

section Saving

variable [DecidableEq Json] {checks : AgentRunState Json → Bool} {value : AgentRunProps Json}
  (mirrors : Mirrors database codec store other) (holds : around.Holds store)

omit [DecidableEq Json] in
include holds in
theorem unsatisfied_eq (projectId taskId : String) :
    sqliteUnsatisfied around projectId taskId = postgresUnsatisfied around projectId taskId := by
  unfold sqliteUnsatisfied postgresUnsatisfied
  refine any_congr fun edge depends => ?_
  refine congrArg _ (any_congr fun task member => ?_)
  by_cases about : task.id = edge.dependsOnTaskId
  · simp [about, holds.dependencyTasks edge depends task member about]
  · simp [about]

def newEvents (events : List (PostgresRunEvent Json)) (value : AgentRunState Json)
    (previousStatus : Option AgentRunStatus) : List (PostgresRunEvent Json) :=
  if events.any fun event => event.runId = value.id && event.status = value.status then []
  else [{
    runId := value.id
    status := value.status
    hasResult := value.result.isSome
    hasError := value.error.isSome
    execution := value.execution
    modelRouting := if previousStatus.isNone then value.modelRouting else none
    ownerId := none
    occurredAt := value.updatedAt
    projectId := value.projectId }]

omit [DecidableEq Json] in
theorem newEvents_ofRun (events : List (PostgresRunEvent Json)) (value : AgentRunState Json)
    (previousStatus : Option AgentRunStatus) :
    ∀ event ∈ newEvents events value previousStatus, event.runId = value.id ∧ event.projectId = value.projectId := by
  intro event member
  unfold newEvents at member
  split at member
  · cases member
  · rw [List.mem_singleton.mp member]
    exact ⟨rfl, rfl⟩

omit [DecidableEq Json] in
theorem appendRunEvent_new (events : List (PostgresRunEvent Json)) (value : AgentRunState Json)
    (previousStatus : Option AgentRunStatus) : PostgresStore.appendRunEvent events value previousStatus =
      events ++ newEvents events value previousStatus := by
  unfold PostgresStore.appendRunEvent newEvents
  split
  · rw [List.append_nil]
  · rfl

omit [DecidableEq Json] in
include mirrors in
theorem hasEvent_eq (runId : String) (status : AgentRunStatus) :
    ((store.runtime.events.filter fun event => event.runId = runId).any fun event => event.status = status) =
      other.events.any fun event => event.runId = runId && event.status = status := by
  rw [← mirrors.events runId, List.any_map, List.any_filter]
  rfl

omit [DecidableEq Json] in
include mirrors in
theorem appendRunEvent_mirrors (value : AgentRunState Json) (previousStatus : Option AgentRunStatus) :
    AgentRuntime.appendRunEvent (store.runtime.events.filter fun event => event.runId = value.id) value previousStatus =
      (store.runtime.events.filter fun event => event.runId = value.id) ++
        (newEvents other.events value previousStatus).map PostgresRunEvent.toAgentRunEvent := by
  unfold AgentRuntime.appendRunEvent newEvents
  rw [hasEvent_eq mirrors]
  split
  · rw [List.map_nil, List.append_nil]
  · rfl

theorem saveRun_stored {events : List (AgentRunEvent Json)} (storable : Storable database codec row) :
    AgentRuntime.saveRun codec value ⟨some row, events⟩ =
      if !sameIdentity codec row value.toAgentRunState then .error (conflict value.id)
      else if row.status = value.status then
        if sameMutableState codec row value.toAgentRunState then .ok (AgentRun.markPersisted value, ⟨some row, events⟩)
        else .error (conflict value.id)
      else if value.persistenceToken ≠ some ⟨row.status, row.updatedAt⟩ then .error (conflict value.id)
      else if !canPersistAgentRunTransition row.status value.status ∨ value.updatedAt < row.updatedAt then
        .error (conflict value.id)
      else .ok (AgentRun.markPersisted value,
        ⟨some (overwrite row value.toAgentRunState),
          AgentRuntime.appendRunEvent events value.toAgentRunState (some row.status)⟩) := by
  unfold AgentRuntime.saveRun
  dsimp only
  rw [bind_returns storable.load]
  rfl

omit [DecidableEq Json] in
include mirrors holds in
theorem owns_row (member : row ∈ store.runtime.runs) : around.owns store.agents row = true := by
  obtain ⟨task, inTasks, task⟩ := holds.runTasks row member
  obtain ⟨agent, inAgents, agent⟩ := mirrors.runAgents row member
  simp only [Surroundings.owns, Bool.and_eq_true, List.any_eq_true, decide_eq_true_eq]
  exact ⟨⟨_, inTasks, task⟩, _, inAgents, agent⟩

theorem sameIdentity_ids (identity : sameIdentity codec row value.toAgentRunState = true) :
    row.projectId = value.projectId ∧ row.taskId = value.taskId ∧ row.agentId = value.agentId := by
  simp only [sameIdentity, Bool.and_eq_true, decide_eq_true_eq] at identity
  exact ⟨identity.1.1.1.1.1.1.1.1, identity.1.1.1.1.1.1.1.2, identity.1.1.1.1.1.1.2⟩

omit [DecidableEq Json] in
theorem stageKnown_of_binds {agents : List Agent} {roles : List RoleRow}
    (binds : postgresBinds around agents roles row = true) : sqliteStageKnown around row = true := by
  unfold postgresBinds sqliteStageKnown at *
  cases stage : row.pipelineStageRunId with
  | none => rfl
  | some id =>
    rw [stage] at binds
    simp only [Option.isNone_some, Bool.and_false, Bool.false_or, List.any_eq_true, Bool.and_eq_true,
      decide_eq_true_eq] at binds
    obtain ⟨pipeline, member, -, stage, inStages, ⟨⟨⟨same, -⟩, -⟩, -⟩, -⟩ := binds
    simp only [Option.all_some, List.any_eq_true, decide_eq_true_eq]
    exact ⟨pipeline, member, stage, inStages, Option.some.inj same⟩

include mirrors in
theorem insertRun_mirrors (absent : store.runtime.findRow value.id = none)
    (storable : Storable database codec value.toAgentRunState)
    (owned : around.owns store.agents value.toAgentRunState = true) :
    ∃ after, store.runtime.saveRun codec value = .ok (AgentRun.markPersisted value, after) ∧
      Mirrors database codec { store with runtime := after }
        { other with
          runs := other.runs ++ [value.toAgentRunState]
          events := PostgresStore.appendRunEvent other.events value.toAgentRunState none } := by
  have returned : store.runtime.saveRun codec value = .ok (AgentRun.markPersisted value,
      store.runtime.withRun value.id ⟨some value.toAgentRunState, AgentRuntime.appendRunEvent
        (store.runtime.events.filter fun event => event.runId = value.id) value.toAgentRunState none⟩) := by
    unfold RuntimeTables.saveRun AgentRuntime.saveRun RuntimeTables.ofRun
    rw [absent]
    rfl
  refine ⟨_, returned, ?_⟩
  simp only [Surroundings.owns, Bool.and_eq_true, List.any_eq_true, decide_eq_true_eq] at owned
  have inserted := mirrors.inserted absent storable owned.2
    (newEvents_ofRun other.events value.toAgentRunState none)
  rwa [← appendRunEvent_mirrors mirrors, ← appendRunEvent_new] at inserted

include mirrors in
theorem updateRun_mirrors (found : store.runtime.findRow value.id = some row)
    (storable : Storable database codec value.toAgentRunState)
    (identity : sameIdentity codec row value.toAgentRunState = true) :
    Mirrors database codec
      { store with runtime := store.runtime.withRun value.id ⟨some (overwrite row value.toAgentRunState),
        AgentRuntime.appendRunEvent (store.runtime.events.filter fun event => event.runId = value.id)
          value.toAgentRunState (some row.status)⟩ }
      { other with
        runs := other.runs.map fun stored => if stored.id = value.id then overwrite row value.toAgentRunState else stored
        events := PostgresStore.appendRunEvent other.events value.toAgentRunState (some row.status) } := by
  have stored := mirrors.storable row (findRow_some found).1
  have overwritten : Storable database codec (overwrite row value.toAgentRunState) :=
    { actionIntent := stored.actionIntent
      roleGuidance := stored.roleGuidance
      modelRouting := stored.modelRouting
      execution := storable.execution
      result := storable.result
      error := storable.error }
  have ofRun : ∀ event ∈ newEvents other.events value.toAgentRunState (some row.status),
      event.runId = value.id ∧ event.projectId = row.projectId := by
    intro event member
    obtain ⟨own, project⟩ := newEvents_ofRun _ _ _ event member
    exact ⟨own, project.trans (sameIdentity_ids identity).1.symm⟩
  have moved := mirrors.moved (overwrite row value.toAgentRunState) found rfl rfl rfl rfl overwritten ofRun
  rwa [← appendRunEvent_mirrors mirrors, ← appendRunEvent_new] at moved

omit [DecidableEq Json] in
theorem claims_self (status : AgentRunStatus) : claims status status = false := by
  cases status <;> rfl

include mirrors in
/-- Saving a run that has a row, past the checks of an insert. -/
theorem saveStored_alike (found : store.runtime.findRow value.id = some row)
    (storable : Storable database codec value.toAgentRunState) {incomplete : Bool} :
    Alike (Machine.Answers (Mirrors database codec))
      (do
        let saved ← store.runtime.saveRun codec value
        if row.status ≠ value.status ∧ row.execution.isSome ∧ value.execution ≠ row.execution then
          .error provenanceImmutable
        else if claims row.status value.status && incomplete then .error incompletePrerequisites
        else return (saved.1, { store with runtime := saved.2 }))
      (if !sameIdentity codec row value.toAgentRunState then .error (conflict value.id)
        else if row.status = value.status then
          if sameMutableState codec row value.toAgentRunState then return (AgentRun.markPersisted value, other)
          else .error (conflict value.id)
        else if value.persistenceToken ≠ some ⟨row.status, row.updatedAt⟩ then .error (conflict value.id)
        else if !canPersistAgentRunTransition row.status value.status ∨ value.updatedAt < row.updatedAt then
          .error (conflict value.id)
        else if row.execution.isSome ∧ value.execution ≠ row.execution then .error provenanceImmutable
        else if claims row.status value.status && incomplete then .error incompletePrerequisites
        else return (AgentRun.markPersisted value, { other with
          runs := other.runs.map fun stored => if stored.id = value.id then overwrite row value.toAgentRunState else stored
          events := PostgresStore.appendRunEvent other.events value.toAgentRunState (some row.status) })) := by
  have stored := mirrors.storable row (findRow_some found).1
  unfold RuntimeTables.saveRun RuntimeTables.ofRun
  rw [found, saveRun_stored stored]
  by_cases identity : sameIdentity codec row value.toAgentRunState = true
  · have passes : ¬(!sameIdentity codec row value.toAgentRunState) = true := by
      rw [identity]
      exact Bool.false_ne_true
    rw [if_neg passes, if_neg passes]
    by_cases status : row.status = value.status
    · rw [if_pos status, if_pos status]
      by_cases unchanged : sameMutableState codec row value.toAgentRunState = true
      · rw [if_pos unchanged, if_pos unchanged]
        have rewritten := mirrors.rewritten value.id
        rw [RuntimeTables.ofRun, found] at rewritten
        simp only [Except.map, bind, Except.bind, status, claims_self, ne_eq, not_true_eq_false, false_and, if_false,
          Bool.false_and, Bool.false_eq_true]
        exact .returns ⟨rfl, rewritten⟩
      · rw [if_neg unchanged, if_neg unchanged]
        exact .throws
    · rw [if_neg status, if_neg status]
      by_cases token : value.persistenceToken ≠ some ⟨row.status, row.updatedAt⟩
      · rw [if_pos token, if_pos token]
        exact .throws
      · rw [if_neg token, if_neg token]
        by_cases refused : (!canPersistAgentRunTransition row.status value.status) = true ∨ value.updatedAt < row.updatedAt
        · rw [if_pos refused, if_pos refused]
          exact .throws
        · rw [if_neg refused, if_neg refused]
          refine Alike.guard (and_iff_right status) fun _ => Alike.guard Iff.rfl fun _ => .returns ⟨rfl, ?_⟩
          exact updateRun_mirrors mirrors found storable identity
  · have different : (!sameIdentity codec row value.toAgentRunState) = true := by
      rw [(Bool.not_eq_true _).mp identity]
      rfl
    rw [if_pos different, if_pos different]
    exact .throws

include mirrors holds in
theorem saveRun_alike (storable : Storable database codec value.toAgentRunState)
    (sameChecks : checks value.toAgentRunState = database.checks value.toAgentRunState)
    (binds : sqliteBinds around value.toAgentRunState =
      postgresBinds around store.agents store.roles value.toAgentRunState) :
    Alike (Machine.Answers (Mirrors database codec)) (store.saveRun around codec checks value)
      (other.saveRun around database codec value) := by
  obtain ⟨roles, agents, runs, events, locks⟩ := other
  obtain rfl : roles = store.roles := mirrors.roles
  obtain rfl : agents = store.agents := mirrors.agents
  obtain rfl : runs = store.runtime.runs := mirrors.runs
  unfold SqliteStore.saveRun PostgresStore.saveRun
  rw [bind_returns storable.writeColumns, ← binds, ← sameChecks]
  dsimp only
  by_cases owned : around.owns store.agents value.toAgentRunState = true
  · have selected : value.projectId ∈ around.projects ∧ around.owns store.agents value.toAgentRunState = true := by
      refine ⟨?_, owned⟩
      simp only [Surroundings.owns, Bool.and_eq_true, List.any_eq_true, decide_eq_true_eq] at owned
      obtain ⟨⟨task, member, -, same⟩, -⟩ := owned
      exact same ▸ holds.taskProjects task member
    rw [if_neg (by rw [owned]; exact Bool.false_ne_true)]
    refine Alike.guard (by simp [selected]) fun bound => Alike.guard (by simp [selected]) fun _ => ?_
    cases found : store.runtime.findRow value.id with
    | none =>
      rw [RuntimeTables.findRow] at found
      rw [found]
      dsimp only
      have known : sqliteStageKnown around value.toAgentRunState = true := by
        refine stageKnown_of_binds (binds.symm.trans ?_)
        simpa using bound
      obtain ⟨after, returned, inserted⟩ := insertRun_mirrors mirrors found storable owned
      rw [if_neg (not_not.mpr selected), if_neg (by rw [known]; exact Bool.false_ne_true), returned]
      rw [unsatisfied_eq holds]
      exact Alike.guard Iff.rfl fun _ => .returns ⟨rfl, inserted⟩
    | some row =>
      have same := found
      rw [RuntimeTables.findRow] at same
      rw [same]
      dsimp only
      have stands := (findRow_some found).1
      rw [bind_returns (mirrors.storable row stands).readColumns,
        if_neg (not_not.mpr (holds.runProjects row stands)), unsatisfied_eq holds]
      exact saveStored_alike mirrors found storable
  · rw [if_pos (by rw [(Bool.not_eq_true _).mp owned]; rfl)]
    rw [if_neg (by simp [owned]), if_neg (by simp [owned])]
    cases found : store.runtime.runs.find? fun stored => stored.id = value.id with
    | none =>
      dsimp only
      rw [if_pos fun selected => owned selected.2]
      exact .throws
    | some row =>
      have stands := List.mem_of_find?_eq_some found
      have different : sameIdentity codec row value.toAgentRunState = false := by
        refine (Bool.not_eq_true _).mp fun identity => owned ?_
        obtain ⟨project, task, agent⟩ := sameIdentity_ids identity
        have owns := owns_row mirrors holds stands
        rw [Surroundings.owns, project, task, agent] at owns
        exact owns
      dsimp only
      rw [bind_returns (mirrors.storable row stands).readColumns,
        if_neg (not_not.mpr (holds.runProjects row stands)), if_pos (by rw [different]; rfl)]
      exact .throws

end Saving

end AiOffice.Storage.AgentRuntime
