import AiOffice.Storage.AgentRuntime.Parity.Runs

namespace AiOffice.Storage.AgentRuntime

open Data Outcome Domain PostgresStore RuntimeTables

variable {Json : Type} {database : Database Json} {codec : AgentRunCodec Json} {around : Surroundings}
  {store : SqliteStore Json} {other : PostgresStore Json} {row : AgentRunState Json}

/-- A fence that fits a row: without a pipeline for a run without one, and else for the agent of the run. -/
structure WorkerAuthorityFence.Fits (fence : WorkerAuthorityFence Json) (row : AgentRunState Json) : Prop where
  unbound : fence.pipeline = none → row.pipelineRunId = none ∧ row.pipelineStageRunId = none
  assigned : ∀ expected, fence.pipeline = some expected → expected.assignedAgentId = row.agentId

section Authority

variable (mirrors : Mirrors database codec store other) (holds : around.Holds store) (member : row ∈ store.runtime.runs)

include mirrors holds member

theorem authorized_eq {authority : AgentAuthority} {now : Date} {lockAllows : PostgresTaskLock → Bool}
    {stageAllows : RoleRow → Bool} {allows : Role → Bool}
    (locks : ∀ lock ∈ other.locks, lockAllows lock = (lock.runId = row.id && lock.taskId = row.taskId))
    (stages : ∀ role ∈ store.roles, stageAllows role = allows role.role) :
    other.authorized around row authority now lockAllows stageAllows =
      agentAuthorized (store.authorities around) row authority now allows := by
  have held : (other.locks.any fun lock => lockAllows lock && now < lock.expiresAt) =
      store.runtime.locks.any fun lock => lock.runId = row.id && lock.taskId = row.taskId && now < lock.expiresAt := by
    rw [← mirrors.locks, List.any_map]
    exact any_congr fun lock inLocks => by rw [locks lock inLocks]; rfl
  unfold PostgresStore.authorized agentAuthorized SqliteStore.authorities
  rw [mirrors.agents, mirrors.roles, held]
  simp only [holds.runProjects row member, decide_true, Bool.true_and, List.any_map]
  refine any_congr fun task _ => congrArg _ (any_congr fun agent _ => congrArg _ (any_congr fun role inRoles => ?_))
  rw [stages role inRoles]
  rfl

omit mirrors in
theorem pipeline_project {pipeline : PipelineRunProps} (runs : pipeline ∈ around.pipelines)
    (task : pipeline.taskId = row.taskId) : pipeline.projectId = row.projectId := by
  obtain ⟨worked, inTasks, about, project⟩ := holds.pipelineTasks pipeline runs
  obtain ⟨owned, alsoIn, same, ofRun⟩ := holds.runTasks row member
  have only : owned = worked := keyed_eq holds.taskIds inTasks alsoIn ((same.trans task.symm).trans about.symm)
  exact project.symm.trans (only ▸ ofRun)

theorem admissible_eq (authority : RunAuthority) (now : Date) :
    other.admissible around row authority now = AgentRuntime.admissible (store.authorities around) row authority now := by
  refine authorized_eq mirrors holds member (fun lock inLocks => ?_) fun role _ => ?_
  · by_cases held : lock.runId = row.id
    · obtain ⟨task, project⟩ := lock_of_run mirrors inLocks member held
      simp [held, task, project]
    · simp [held]
  · have idle : (around.pipelines.any fun pipeline =>
        pipeline.projectId = row.projectId && pipeline.taskId = row.taskId && pipeline.status = .active) =
        around.pipelines.any fun pipeline => pipeline.taskId = row.taskId && pipeline.status = .active :=
      any_congr fun pipeline runs => by
        by_cases task : pipeline.taskId = row.taskId
        · simp [task, pipeline_project holds member runs task]
        · simp [task]
    unfold PostgresStore.unbound SqliteStore.authorities
    rw [idle]
    simp only [← Bool.and_assoc]
    refine congrArg _ (any_congr fun pipeline _ => ?_)
    rw [Bool.eq_iff_iff]
    simp only [Bool.and_eq_true]
    constructor
    · rintro ⟨⟨⟨⟨⟨⟨id, project⟩, task⟩, active⟩, version⟩, bound⟩, stage⟩
      exact ⟨⟨⟨⟨⟨⟨id, bound⟩, task⟩, project⟩, version⟩, active⟩, stage⟩
    · rintro ⟨⟨⟨⟨⟨⟨id, bound⟩, task⟩, project⟩, version⟩, active⟩, stage⟩
      exact ⟨⟨⟨⟨⟨⟨id, project⟩, task⟩, active⟩, version⟩, bound⟩, stage⟩

theorem fenced_eq {fence : WorkerAuthorityFence Json} (fits : fence.Fits row) (now : Date) :
    other.fenced around row fence now = AgentRuntime.fenced (store.authorities around) row fence now := by
  refine authorized_eq mirrors holds member (fun lock inLocks => ?_) fun role _ => ?_
  · by_cases held : lock.runId = row.id
    · obtain ⟨task, project⟩ := lock_of_run mirrors inLocks member held
      simp [held, task, project]
    · simp [held]
  · cases pipeline : fence.pipeline with
    | none =>
      obtain ⟨noPipeline, noStage⟩ := fits.unbound pipeline
      simp only [PostgresStore.unbound, SqliteStore.authorities, noPipeline, noStage, Option.isNone_none,
        Bool.true_and]
      exact congrArg _ (any_congr fun pipeline _ => by rw [Bool.and_comm (decide (pipeline.projectId = _))])
    | some expected =>
      have assigned := fits.assigned expected pipeline
      refine any_congr fun pipeline _ => congrArg _ (any_congr fun stage _ => ?_)
      by_cases agent : stage.assignedAgentId = some expected.assignedAgentId
      · simp [agent, assigned]
      · simp [agent]

end Authority

section Results

variable [DecidableEq Json] {fence : WorkerAuthorityFence Json} {run : AgentRunProps Json} {result : Json}
  {acceptedAt : Date} (mirrors : Mirrors database codec store other) (holds : around.Holds store)

omit [DecidableEq Json] in
include mirrors in
theorem insertRunEvent_alike (event : PostgresRunEvent Json) :
    Alike (fun here there =>
        here = (store.runtime.events.filter fun stored => stored.runId = event.runId) ++
            [event].map PostgresRunEvent.toAgentRunEvent ∧ there = other.events ++ [event])
      (AgentRuntime.insertRunEvent (store.runtime.events.filter fun stored => stored.runId = event.runId)
        event.toAgentRunEvent)
      (PostgresStore.insertRunEvent other.events event) := by
  unfold AgentRuntime.insertRunEvent PostgresStore.insertRunEvent
  exact Alike.guard (by rw [hasEvent_eq mirrors]) fun _ => .returns ⟨rfl, rfl⟩

include mirrors holds

/-- A result is accepted alike, where PostgreSQL keeps it and the fence fits the row of its run. -/
theorem acceptRow_alike (keeps : database.Keeps codec result)
    (fits : ∀ row ∈ store.runtime.runs, row.id = fence.runId → fence.Fits row) :
    Alike (fun here there => here.1 = there.1 ∧
        Mirrors database codec { store with runtime := store.runtime.withRun fence.runId here.2 } there.2)
      (AgentRuntime.acceptWorkerResult (store.authorities around) fence run result acceptedAt
        (store.runtime.ofRun fence.runId))
      (other.acceptWorkerResult around database codec fence run result acceptedAt) := by
  have written : jsonParameter database codec (some result) = .ok (some result) :=
    jsonParameter_keeps fun json same => Option.some.inj same ▸ keeps
  have rewritten := mirrors.rewritten fence.runId
  unfold AgentRuntime.acceptWorkerResult PostgresStore.acceptWorkerResult
  rw [bind_returns written, mirrors.runs]
  unfold RuntimeTables.ofRun at rewritten ⊢
  dsimp only
  cases found : store.runtime.findRow fence.runId with
  | none =>
    rw [found] at rewritten
    rw [RuntimeTables.findRow] at found
    rw [found]
    exact .returns ⟨rfl, rewritten⟩
  | some row =>
    obtain ⟨stands, about⟩ := findRow_some found
    have same := found
    rw [found] at rewritten
    rw [RuntimeTables.findRow] at same
    rw [same]
    dsimp only
    rw [fenced_eq mirrors holds stands (fits row stands about)]
    by_cases refused : (!fencedRow row fence run.updatedAt) = true ∨
        (!AgentRuntime.fenced (store.authorities around) row fence acceptedAt) = true
    · rw [if_pos refused, if_pos refused]
      exact .returns ⟨rfl, rewritten⟩
    · rw [if_neg refused, if_neg refused]
      rw [not_or, Bool.not_eq_true', Bool.not_eq_false] at refused
      simp only [fencedRow, Bool.and_eq_true, decide_eq_true_eq] at refused
      obtain ⟨⟨⟨⟨⟨⟨-, project⟩, -⟩, -⟩, -⟩, -⟩, -⟩ := refused.1
      have kept := mirrors.storable row stands
      have inserted := insertRunEvent_alike mirrors
        ⟨⟨fence.runId, .reviewing, true, false, none, none, none, acceptedAt⟩, fence.projectId⟩
      refine inserted.bind ?_
      rintro here there ⟨rfl, rfl⟩
      rw [← mirrors.runs]
      refine .returns ⟨rfl, mirrors.moved
        { row with status := .reviewing, result := some result, updatedAt := acceptedAt } found rfl rfl rfl rfl
        { kept with result := fun json same => Option.some.inj same ▸ keeps } ?_⟩
      exact List.forall_mem_singleton.mpr ⟨rfl, project.symm⟩

theorem acceptWorkerResult_alike (keeps : database.Keeps codec result)
    (fits : ∀ row ∈ store.runtime.runs, row.id = fence.runId → fence.Fits row) :
    Alike (Machine.Answers (Mirrors database codec)) (store.acceptWorkerResult around fence run result acceptedAt)
      (other.acceptWorkerResult around database codec fence run result acceptedAt) := by
  have mapped : store.acceptWorkerResult around fence run result acceptedAt =
      (AgentRuntime.acceptWorkerResult (store.authorities around) fence run result acceptedAt
        (store.runtime.ofRun fence.runId)).map fun accepted =>
          (accepted.1, { store with runtime := store.runtime.withRun fence.runId accepted.2 }) := by
    unfold SqliteStore.acceptWorkerResult RuntimeTables.acceptWorkerResult
    change (Except.map _ (AgentRuntime.acceptWorkerResult (store.authorities around) fence run result acceptedAt
      (store.runtime.ofRun fence.runId)) >>= _) = _
    cases AgentRuntime.acceptWorkerResult (store.authorities around) fence run result acceptedAt
      (store.runtime.ofRun fence.runId) <;> rfl
  rw [mapped]
  exact (acceptRow_alike mirrors holds keeps fits).map_left fun _ _ related => related

def admittedStatus (accepted : Bool) : AgentRunStatus := if accepted then .preparing else .cancelled

def admittedRow (errors : AdmissionErrors Json) (accepted : Bool) (now : Date) (row : AgentRunState Json) :
    AgentRunState Json :=
  { row with
    status := admittedStatus accepted
    updatedAt := now
    completedAt := if accepted then none else some now
    error := if accepted then none else some errors.runNotEligible }

omit mirrors holds in
theorem transition_queued {errors : AdmissionErrors Json} {value : AgentRunProps Json} (queued : value.status = .queued)
    (noError : value.error = none) (unended : value.completedAt = none) (accepted : Bool) (now : Date) :
    AgentRun.transition codec value (if accepted then .preparing else .cancelled) now
        { error := if accepted then none else some errors.runNotEligible } =
      .ok { value with toAgentRunState := admittedRow errors accepted now value.toAgentRunState } := by
  obtain ⟨⟨id, projectId, taskId, agentId, pipelineRunId, pipelineStageRunId, actionIntent, roleGuidance, execution,
    modelRouting, status, worktreePath, result, error, createdAt, startedAt, completedAt, updatedAt⟩, token⟩ := value
  obtain rfl : status = .queued := queued
  obtain rfl : error = none := noError
  obtain rfl : completedAt = none := unended
  have allowed : (if accepted then AgentRunStatus.preparing else .cancelled) ∈ AgentRun.transitions .queued := by
    cases accepted <;> decide
  unfold AgentRun.transition
  rw [if_neg (not_not.mpr allowed)]
  cases accepted with
  | true => exact if_neg fun changed => changed.2 rfl
  | false => exact if_neg fun changed => changed.2 rfl

omit mirrors holds in
theorem admitQueuedRun_queued {errors : AdmissionErrors Json} {authorities : AuthorityTables} {input : RunAdmission}
    {row : AgentRunState Json} {events : List (AgentRunEvent Json)} {accepted : Bool} (about : row.id = input.runId)
    (queued : row.status = .queued) (noError : row.error = none) (unended : row.completedAt = none)
    (storable : Storable database codec row)
    (admits : (input.authority.any fun authority => AgentRuntime.admissible authorities row authority input.now) =
      accepted) :
    AgentRuntime.admitQueuedRun codec errors authorities input ⟨some row, events⟩ =
      (AgentRuntime.insertRunEvent events ⟨input.runId, admittedStatus accepted, false, !accepted, none, none,
        input.ownerId, input.now⟩).map fun events =>
          (some { admittedRow errors accepted input.now row with
            persistenceToken := some ⟨admittedStatus accepted, input.now⟩ },
          ⟨some (admittedRow errors accepted input.now row), events⟩,
          if accepted then authorities.locks else authorities.locks.filter fun lock => lock.runId ≠ input.runId) := by
  unfold AgentRuntime.admitQueuedRun
  dsimp only
  rw [if_neg (by simp [about, queued]), admits, bind_returns storable.load,
    bind_returns (transition_queued queued noError unended accepted input.now)]
  dsimp only [admittedRow]
  cases AgentRuntime.insertRunEvent events ⟨input.runId, admittedStatus accepted, false, !accepted, none, none,
    input.ownerId, input.now⟩ <;> rfl

omit [DecidableEq Json] mirrors holds in
theorem Storable.admitted {errors : AdmissionErrors Json} {row : AgentRunState Json} {accepted : Bool} {now : Date}
    (storable : Storable database codec row) (keeps : database.Keeps codec errors.runNotEligible) :
    Storable database codec (admittedRow errors accepted now row) := by
  refine { storable with error := fun json same => ?_ }
  unfold admittedRow at same
  cases accepted with
  | true => cases same
  | false => exact Option.some.inj same ▸ keeps

omit [DecidableEq Json] holds in
theorem admitted_mirrors {errors : AdmissionErrors Json} {runId : String} {row : AgentRunState Json} {accepted : Bool}
    {now : Date} {event : PostgresRunEvent Json} (found : store.runtime.findRow runId = some row)
    (keeps : database.Keeps codec errors.runNotEligible) (ofRun : event.runId = runId ∧ event.projectId = row.projectId) :
    Mirrors database codec
      { store with runtime := { store.runtime.withRun runId ⟨some (admittedRow errors accepted now row),
          (store.runtime.events.filter fun stored => stored.runId = runId) ++
            [event].map PostgresRunEvent.toAgentRunEvent⟩ with
        locks := if accepted then store.runtime.locks else store.runtime.locks.filter fun lock => lock.runId ≠ runId } }
      { other with
        runs := other.runs.map fun stored => if stored.id = runId then admittedRow errors accepted now row else stored
        events := other.events ++ [event]
        locks := if accepted then other.locks
          else other.locks.filter fun lock => !(lock.runId = runId && lock.projectId = row.projectId) } := by
  obtain ⟨stands, about⟩ := findRow_some found
  have moved := mirrors.moved (admittedRow errors accepted now row) found rfl rfl rfl rfl
    ((mirrors.storable row stands).admitted keeps) (List.forall_mem_singleton.mpr ofRun)
  cases accepted with
  | true => exact moved
  | false =>
    refine moved.released fun lock member => ?_
    by_cases held : lock.runId = runId
    · simp [held, (lock_of_run mirrors member stands (held.trans about.symm)).2]
    · simp [held]

omit mirrors holds in
theorem admitQueuedRun_part (errors : AdmissionErrors Json) (input : RunAdmission) :
    store.admitQueuedRun around codec errors input = (do
      let admitted ← AgentRuntime.admitQueuedRun codec errors (store.authorities around) input
        (store.runtime.ofRun input.runId)
      if admitted.1.any fun run => claims .queued run.status && sqliteUnsatisfied around run.projectId run.taskId then
        .error incompletePrerequisites
      else return (admitted.1, { store with runtime := { store.runtime.withRun input.runId admitted.2.1 with
        locks := admitted.2.2 } })) := by
  unfold SqliteStore.admitQueuedRun RuntimeTables.admitQueuedRun
  change (Except.map _ (AgentRuntime.admitQueuedRun codec errors (store.authorities around) input
    (store.runtime.ofRun input.runId)) >>= _) = _
  cases AgentRuntime.admitQueuedRun codec errors (store.authorities around) input
    (store.runtime.ofRun input.runId) <;> rfl

/-- An admission finds a queued run alike, and leaves everything else alone. -/
theorem admitQueuedRun_alike {errors : AdmissionErrors Json} {input : RunAdmission}
    (keeps : database.Keeps codec errors.runNotEligible)
    (untouched : ∀ row ∈ store.runtime.runs, row.id = input.runId → row.status = .queued →
      row.error = none ∧ row.completedAt = none) :
    Alike (Machine.Answers (Mirrors database codec)) (store.admitQueuedRun around codec errors input)
      (other.admitQueuedRun around database codec errors input) := by
  rw [admitQueuedRun_part]
  unfold PostgresStore.admitQueuedRun
  by_cases waiting : ∃ row ∈ store.runtime.runs, row.id = input.runId ∧ row.status = .queued
  · obtain ⟨row, stands, about, queued⟩ := waiting
    have found : store.runtime.findRow input.runId = some row := about ▸ findRow_of_mem mirrors.runIds stands
    have selected : (other.runs.find? fun row =>
        row.id = input.runId && row.status = .queued && row.projectId ∈ around.projects) = some row := by
      rw [mirrors.runs]
      refine find_keyed mirrors.runIds stands ?_ fun also _ selected => ?_
      · simp [about, queued, holds.runProjects row stands]
      · simp only [Bool.and_eq_true, decide_eq_true_eq] at selected
        exact selected.1.1.trans about.symm
    obtain ⟨noError, unended⟩ := untouched row stands about queued
    have admits : (input.authority.any fun authority => other.admissible around row authority input.now) =
        input.authority.any fun authority =>
          AgentRuntime.admissible (store.authorities around) row authority input.now :=
      congrArg input.authority.any (funext fun authority => admissible_eq mirrors holds stands authority input.now)
    generalize accepts : (input.authority.any fun authority =>
      AgentRuntime.admissible (store.authorities around) row authority input.now) = accepted at admits
    have inserted := insertRunEvent_alike mirrors
      ⟨⟨input.runId, admittedStatus accepted, false, !accepted, none, none, input.ownerId, input.now⟩, row.projectId⟩
    rw [selected]
    dsimp only
    unfold RuntimeTables.ofRun
    rw [found, admits, queued, ← unsatisfied_eq holds,
      admitQueuedRun_queued about queued noError unended (mirrors.storable row stands) accepts]
    change Alike _ _ (if claims .queued (admittedStatus accepted) &&
        sqliteUnsatisfied around row.projectId row.taskId then _
      else PostgresStore.insertRunEvent other.events ⟨⟨input.runId, admittedStatus accepted, false, !accepted, none,
        none, input.ownerId, input.now⟩, row.projectId⟩ >>= _)
    dsimp only at inserted
    generalize AgentRuntime.insertRunEvent (store.runtime.events.filter fun stored => stored.runId = input.runId)
      ⟨input.runId, admittedStatus accepted, false, !accepted, none, none, input.ownerId, input.now⟩ = here at inserted ⊢
    generalize PostgresStore.insertRunEvent other.events
      ⟨⟨input.runId, admittedStatus accepted, false, !accepted, none, none, input.ownerId, input.now⟩, row.projectId⟩ =
        there at inserted ⊢
    cases inserted with
    | throws =>
      by_cases blocked : (claims .queued (admittedStatus accepted) &&
          sqliteUnsatisfied around row.projectId row.taskId) = true
      · rw [if_pos blocked]
        exact .throws
      · rw [if_neg blocked]
        exact .throws
    | returns same =>
      obtain ⟨rfl, rfl⟩ := same
      change Alike _ (if claims .queued (admittedStatus accepted) &&
        sqliteUnsatisfied around row.projectId row.taskId then _ else _) _
      refine Alike.guard Iff.rfl fun _ => ?_
      have storable : Storable database codec (admittedRow errors accepted input.now row) :=
        (mirrors.storable row stands).admitted keeps
      change Alike _ _ (restoreRun database codec (admittedRow errors accepted input.now row) >>= _)
      rw [bind_returns (storable.restoreRun.trans storable.load)]
      exact .returns ⟨rfl, admitted_mirrors mirrors found keeps ⟨rfl, rfl⟩⟩
  · have idle : (other.runs.find? fun row =>
        row.id = input.runId && row.status = .queued && row.projectId ∈ around.projects) = none := by
      rw [mirrors.runs]
      refine List.find?_eq_none.mpr fun also member selected => waiting ⟨also, member, ?_⟩
      simp only [Bool.and_eq_true, decide_eq_true_eq] at selected
      exact selected.1
    have kept : AgentRuntime.admitQueuedRun codec errors (store.authorities around) input
        (store.runtime.ofRun input.runId) = .ok (none, store.runtime.ofRun input.runId, store.runtime.locks) := by
      unfold AgentRuntime.admitQueuedRun RuntimeTables.ofRun
      cases found : store.runtime.findRow input.runId with
      | none => rfl
      | some row =>
        obtain ⟨stands, about⟩ := findRow_some found
        exact if_pos (.inr fun queued => waiting ⟨row, stands, about, queued⟩)
    rw [idle, kept]
    exact .returns ⟨rfl, mirrors.rewritten input.runId⟩

end Results

end AiOffice.Storage.AgentRuntime
