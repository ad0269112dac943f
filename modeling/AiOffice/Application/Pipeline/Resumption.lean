import AiOffice.Application.Pipeline.Consistency
import Mathlib.Data.List.Infix
import Mathlib.Data.List.ReduceOption
import Mathlib.Data.List.Sort

namespace AiOffice.Application.Pipeline

open Data Outcome Domain Domain.PipelineRun Storage.Office ManagePipelineRuns

inductive PipelineRecoveryOutcome
  | resumed
  | awaitingPrerequisites
  | superseded
  deriving DecidableEq

structure SuspendedStageCandidate where
  pipelineRunId : String
  pipelineStageRunId : String
  agentRunId : String
  taskId : String
  deriving DecidableEq

structure SuspendedStageRecovery where
  candidate : SuspendedStageCandidate
  outcome : PipelineRecoveryOutcome

def completedRunOfStage (agentRuns : List AgentRunBinding) (stageRunId : String) : Option AgentRunBinding :=
  agentRuns.find? fun agentRun => agentRun.status = .completed && agentRun.pipelineStageRunId = some stageRunId

def suspendedStage (agentRuns : List AgentRunBinding) (run : PipelineRunProps) :
    Except Thrown (Option SuspendedStageCandidate) :=
  if run.status ≠ .active then .ok none
  else (Method.call currentStage run).1.map fun current => do
    let stage ← current
    if stage.status ≠ .active then none
    else (completedRunOfStage agentRuns stage.id).map fun agentRun =>
      ⟨run.id, stage.id, agentRun.id, run.taskId⟩

def findSuspendedStageCandidates (localeCompare : String → String → Int) (runs : List PipelineRunProps)
    (agentRuns : List AgentRunBinding) : Except Thrown (List SuspendedStageCandidate) :=
  (runs.mapM (suspendedStage agentRuns)).map fun found =>
    found.reduceOption.insertionSort fun left right => localeCompare left.pipelineRunId right.pipelineRunId ≤ 0

/-- What the clock reads while a candidate is resumed, and while its task is then ended. -/
structure ResumptionClock where
  now : SuspendedStageCandidate → Date
  synced : SuspendedStageCandidate → Date

namespace RecoverSuspendedPipelines

def candidates (localeCompare : String → String → Int) (projectId : String) (tables : OfficeTables) :
    Except Thrown (List SuspendedStageCandidate) :=
  findSuspendedStageCandidates localeCompare (tables.pipelines.filter fun run => run.projectId = projectId)
    (tables.agentRuns.filter fun agentRun => agentRun.projectId = projectId)

def resume (projectId : String) (clock : ResumptionClock) (candidate : SuspendedStageCandidate)
    (tables : OfficeTables) : Except Thrown (PipelineRunProps × OfficeTables) :=
  completeStageFromAgentRun ⟨projectId, candidate.agentRunId, some candidate.pipelineRunId⟩ (clock.now candidate)
    (clock.synced candidate) tables

/-- The outcome of one candidate. Its task and prerequisites are those of the scan. -/
def recover (projectId : String) (clock : ResumptionClock) (scan : OfficeTables)
    (candidate : SuspendedStageCandidate) (tables : OfficeTables) :
    Except Thrown (PipelineRecoveryOutcome × OfficeTables) :=
  if (scan.statuses projectId candidate.taskId).any isTerminalTaskStatus then .ok (.superseded, tables)
  else do
    let blockedBy ← blockingPrerequisites (scan.statuses projectId) .completion
      (scan.prerequisites projectId candidate.taskId)
    if blockedBy ≠ [] then return (.awaitingPrerequisites, tables)
    else
      match resume projectId clock candidate tables with
      | .ok resumed => return (.resumed, resumed.2)
      | .error thrown =>
        if isPrerequisiteRefusal thrown then return (.awaitingPrerequisites, tables)
        else if thrown.name ∈ [ErrorName.concurrentPipelineTransitionError, .pipelineActorUnauthorizedError] then
          return (.superseded, tables)
        else .error thrown

def recoverAll (projectId : String) (clock : ResumptionClock) (scan : OfficeTables) :
    List SuspendedStageCandidate → OfficeTables → Except Thrown (List SuspendedStageRecovery × OfficeTables)
  | [], tables => .ok ([], tables)
  | candidate :: rest, tables => do
    let first ← recover projectId clock scan candidate tables
    let later ← recoverAll projectId clock scan rest first.2
    return (⟨candidate, first.1⟩ :: later.1, later.2)

def execute (localeCompare : String → String → Int) (projectId : String) (clock : ResumptionClock)
    (tables : OfficeTables) : Except Thrown (List SuspendedStageRecovery × OfficeTables) := do
  let found ← candidates localeCompare projectId tables
  recoverAll projectId clock tables found tables

end RecoverSuspendedPipelines
end AiOffice.Application.Pipeline

namespace AiOffice.Application.Pipeline

open Data Outcome Domain Domain.PipelineRun Storage.Office ManagePipelineRuns
  RecoverSuspendedPipelines

/-- The agent run of the candidate may complete the stage that its run is at. -/
structure Resumable (projectId : String) (tables : OfficeTables) (candidate : SuspendedStageCandidate)
    (principal : AgentExecutionPrincipal) (run : PipelineRunProps) (stage : PipelineStageRunProps) : Prop where
  accepted : agentPrincipal ⟨projectId, candidate.agentRunId, some candidate.pipelineRunId⟩ tables = .ok principal
  found : tables.findPipelineRun candidate.pipelineRunId projectId = some run
  current : Current run stage
  sameTask : run.taskId = principal.taskId
  authorized : authorizesStage principal projectId stage tables = true

/-- The stage cannot be completed: the clock is before the last update of its run; or it ends the run, and its task
cannot be completed; or it moves the run to a stage whose job is too large for the outbox. -/
def CannotComplete (tables : OfficeTables) (run : PipelineRunProps) (stage : PipelineStageRunProps) (now : Date) :
    Prop :=
  now < run.updatedAt ∨
    (run.definition.stages[stage.stageIndex]?.any fun definition => !definition.requiresApproval) = true ∧
      match run.stages[stage.stageIndex + 1]? with
      | none => ∃ task, tables.findTask run.taskId = some task ∧ TaskStatus.completed ∉ taskTransitions task.status
      | some next => maximumPayloadBytes < payloadBytes ⟨run.projectId, run.id, next.id, run.version + 1⟩

def PrerequisitesCompleted (projectId taskId : String) (tables : OfficeTables) : Prop :=
  blockingPrerequisites (tables.statuses projectId) .completion (tables.prerequisites projectId taskId) = .ok []

variable {projectId : String} {tables after : OfficeTables} {candidate : SuspendedStageCandidate}
  {principal : AgentExecutionPrincipal} {run changed : PipelineRunProps} {stage next : PipelineStageRunProps}
  {definition : OfficePipelineStage} {clock : ResumptionClock} {agentId : String} {now : Date}

def completedAs (run : PipelineRunProps) (stage : PipelineStageRunProps) (definition : OfficePipelineStage)
    (now : Date) : PipelineRunProps :=
  if definition.requiresApproval then stepped run stage.stageIndex (submitted stage) now else finished run stage now

theorem attempt_completeStage (current : Current run stage) (active : stage.status = .active)
    (assigned : stage.assignedAgentId = some agentId)
    (defined : run.definition.stages[stage.stageIndex]? = some definition) (now : Date) :
    Method.attempt (Command.completeStage agentId now).perform run =
      .ok (none, completedAs run stage definition now) := by
  have required : Method.call (requireCurrent .active) run = (.ok stage, run) := by
    simp [requireCurrent, Method.call_bind, call_currentStage_current current, active]
  have read : Method.call (stageDefinition stage.stageIndex) run = (.ok definition, run) := by
    simp [stageDefinition, Method.call_bind, defined]
  have completes : Method.call (PipelineRun.completeStage agentId now) run =
      (.ok ⟨⟩, completedAs run stage definition now) := by
    unfold PipelineRun.completeStage completedAs
    rw [Method.call_bind_ok required, if_neg (by rw [assigned]; nofun), if_neg (not_not.mpr assigned),
      Method.call_bind_ok read]
    by_cases gated : definition.requiresApproval = true
    · rw [if_pos gated, if_pos gated, Method.call_bind_ok (call_replaceStage ..)]
      rfl
    · rw [if_neg gated, if_neg gated]
      exact call_finishCurrent current now
  rw [Method.attempt_ok_iff, Command.perform, Method.call_bind_ok completes]
  rfl

theorem completedAs_effect (current : Current run stage) (active : stage.status = .active)
    (assigned : stage.assignedAgentId = some agentId)
    (defined : run.definition.stages[stage.stageIndex]? = some definition) (now : Date) :
    Effect run (.completeStage agentId now) none (completedAs run stage definition now) := by
  unfold completedAs
  split
  · next gated => exact .submitted current active assigned defined gated
  · next ungated => exact .completed current active assigned defined (by simpa using ungated)

theorem enqueueCurrentStage_current (current : Current run stage) (active : stage.status = .active) :
    enqueueCurrentStage run tables = appendJob ⟨run.projectId, run.id, stage.id, run.version⟩ tables := by
  have read : (Method.call currentStage run).1 = .ok (some stage) := by rw [call_currentStage_current current]
  rw [enqueueCurrentStage, bind_returns read]
  simp [active]

theorem finished_current (current : Current run stage) (later : run.stages[stage.stageIndex + 1]? = some next) :
    Current (finished run stage now) (activated next) := by
  obtain ⟨within, -⟩ := List.getElem?_eq_some_iff.mp later
  unfold finished
  rw [later]
  refine ⟨current.1, ?_⟩
  dsimp only
  rw [List.getElem?_set_self (by simpa using within)]

theorem agentPrincipal_throws {input : CompleteStageFromAgentRun} {thrown : Thrown}
    (threw : agentPrincipal input tables = .error thrown) : thrown = stageCompletionUnauthorized := by
  unfold agentPrincipal at threw
  split at threw
  · exact (Except.error.inj threw).symm
  · split at threw
    · split at threw
      · exact (Except.error.inj threw).symm
      · cases threw
    · exact (Except.error.inj threw).symm

theorem agentPrincipal_run {agentRunId runId : String}
    (accepted : agentPrincipal ⟨projectId, agentRunId, some runId⟩ tables = .ok principal) :
    principal.pipelineRunId = runId := by
  unfold agentPrincipal at accepted
  split at accepted
  · cases accepted
  · split at accepted
    · obtain ⟨passed, same⟩ := guard_ok accepted
      cases same
      simp only [not_or, Option.any_some, decide_eq_true_eq, not_not] at passed
      exact passed.2.1.symm
    · cases accepted

theorem authorizesStage_ok (authorized : authorizesStage principal projectId stage tables = true) :
    stage.status = .active ∧ stage.assignedAgentId = some principal.agentId := by
  simp only [authorizesStage, Bool.and_eq_true, decide_eq_true_eq] at authorized
  exact ⟨authorized.1.2, authorized.2⟩

theorem authorizeStage_current (current : Current run stage) :
    authorizeStage principal projectId run tables =
      if run.taskId ≠ principal.taskId ∨ authorizesStage principal projectId stage tables = false then
        .error stageCompletionUnauthorized
      else .ok () := by
  have read : (Method.call currentStage run).1 = .ok (some stage) := by rw [call_currentStage_current current]
  rw [authorizeStage, bind_returns read]
  rfl

theorem resume_unauthorized (found : tables.findPipelineRun candidate.pipelineRunId projectId = some run)
    (current : Current run stage)
    (refused : ∀ principal, ¬Resumable projectId tables candidate principal run stage) :
    resume projectId clock candidate tables = .error stageCompletionUnauthorized := by
  unfold resume completeStageFromAgentRun
  cases accepted : agentPrincipal ⟨projectId, candidate.agentRunId, some candidate.pipelineRunId⟩ tables with
  | error thrown =>
    rw [agentPrincipal_throws accepted]
    rfl
  | ok principal =>
    have required : requireRun principal.pipelineRunId projectId tables = .ok run := by
      rw [requireRun, agentPrincipal_run accepted, found]
    have unauthorized : run.taskId ≠ principal.taskId ∨ authorizesStage principal projectId stage tables = false := by
      by_contra allowed
      rw [not_or, not_not, Bool.not_eq_false] at allowed
      exact refused principal ⟨accepted, found, current, allowed.1, allowed.2⟩
    change (requireRun principal.pipelineRunId projectId tables >>= _) = _
    rw [bind_returns required, authorizeStage_current current, if_pos unauthorized]
    rfl

theorem resume_authorized (resumable : Resumable projectId tables candidate principal run stage) :
    resume projectId clock candidate tables = do
      let changed ← performAndPersist (.completeStage principal.agentId (clock.now candidate)) run tables
      let tables ← syncTaskTerminal changed.1.run (clock.synced candidate) changed.2
      let tables ← enqueueNext run changed.1.run tables
      return (changed.1.run, tables) := by
  have sameRun : principal.pipelineRunId = candidate.pipelineRunId := agentPrincipal_run resumable.accepted
  have required : requireRun principal.pipelineRunId projectId tables = .ok run := by
    rw [requireRun, sameRun, resumable.found]
  have authorized : authorizeStage principal projectId run tables = .ok () := by
    rw [authorizeStage_current resumable.current, if_neg]
    rw [not_or, not_not, Bool.not_eq_false]
    exact ⟨resumable.sameTask, resumable.authorized⟩
  unfold resume completeStageFromAgentRun
  rw [bind_returns resumable.accepted]
  dsimp only
  rw [bind_returns required, bind_returns authorized]

theorem statuses_of_findTask (unique : (tables.tasks.map TaskProps.id).Nodup) {task : TaskProps} {id : String}
    (found : tables.findTask id = some task) : tables.statuses task.projectId id = some task.status := by
  obtain ⟨stored, rfl⟩ := findTask_found found
  unfold OfficeTables.statuses
  cases lookup : tables.tasks.find? fun other => other.projectId = task.projectId && other.id = task.id with
  | none =>
    have absent := List.find?_eq_none.mp lookup task stored
    simp at absent
  | some other =>
    have matched := List.find?_some lookup
    simp only [Bool.and_eq_true, decide_eq_true_eq] at matched
    rw [List.inj_on_of_nodup_map unique (List.mem_of_find?_eq_some lookup) stored matched.2]
    rfl

theorem PrerequisitesCompleted.satisfied {taskId : String} (completed : PrerequisitesCompleted projectId taskId tables)
    (unique : (tables.tasks.map TaskProps.id).Nodup) : tables.unsatisfied .completion projectId taskId = false := by
  rw [PrerequisitesCompleted, blockingPrerequisites_none_iff] at completed
  rw [OfficeTables.unsatisfied, List.any_eq_false]
  intro id required
  obtain ⟨status, known, satisfied⟩ := completed id required
  obtain ⟨task, found, -, rfl⟩ := statuses_known unique known
  rw [List.any_eq_true]
  rintro ⟨other, stored, matched⟩
  simp only [Bool.and_eq_true, decide_eq_true_eq] at matched
  have same := findTask_of_mem unique stored
  rw [matched.1, found, Option.some.injEq] at same
  rw [← same, satisfied] at matched
  exact absurd matched.2 Bool.false_ne_true

theorem RunStored.defined (stored : RunStored run) (current : Current run stage) :
    ∃ definition, run.definition.stages[stage.stageIndex]? = some definition := by
  have within := stored.wellFormed.within
  rw [stored.sameLength, ← stored.wellFormed.position current] at within
  exact ⟨_, List.getElem?_eq_getElem within⟩

def Unrecognized (thrown : Thrown) : Prop :=
  isPrerequisiteRefusal thrown = false ∧
    thrown.name ∉ [ErrorName.concurrentPipelineTransitionError, .pipelineActorUnauthorizedError]

instance (thrown : Thrown) : Decidable (Unrecognized thrown) := inferInstanceAs (Decidable (_ ∧ _))

theorem includes_char {value part : String} {char : Char} (included : includes value part = true)
    (member : char ∈ part.toList) : char ∈ value.toList := by
  obtain ⟨rest, ends, starts⟩ := List.any_eq_true.mp included
  exact ((List.mem_tails _ _).mp ends).subset ((List.isPrefixOf_iff_prefix.mp starts).subset member)

theorem intercalate_without {char : Char} {separator : String} {parts : List String}
    (separates : char ∉ separator.toList) (each : ∀ part ∈ parts, char ∉ part.toList) :
    char ∉ (separator.intercalate parts).toList := by
  induction parts with
  | nil => simp
  | cons part parts ih =>
    cases parts with
    | nil => simpa using each
    | cons next rest =>
      rw [String.intercalate_cons_cons]
      simp_all

theorem statusText_without (status : TaskStatus) : 'q' ∉ status.text.toList := by
  cases status <;> simp [TaskStatus.text]

-- No text of a refused transition has the `q` of a refusal for incomplete prerequisites.
theorem invalidTransition_without (before after : TaskStatus) :
    'q' ∉ (Task.invalidTransition before after).message.toList := by
  have listed : 'q' ∉ (", ".intercalate ((taskTransitions before).map TaskStatus.text)).toList :=
    intercalate_without (by simp) (by simp [statusText_without])
  simp only [Task.invalidTransition]
  split <;> simp [toString, statusText_without, -String.toList_intercalate, listed]

theorem invalidTransition_unrecognized (status : TaskStatus) :
    Unrecognized (Task.invalidTransition status .completed) := by
  have name : (Task.invalidTransition status .completed).name = .invalidTaskTransitionError := rfl
  have excluded : includes (Task.invalidTransition status .completed).message "task has incomplete prerequisites" =
      false :=
    Bool.eq_false_iff.mpr fun included => invalidTransition_without status .completed (includes_char included (by simp))
  exact ⟨by simp [isPrerequisiteRefusal, name, excluded], by simp [name]⟩

theorem syncTaskTerminal_completes {task : TaskProps} (unique : (tables.tasks.map TaskProps.id).Nodup)
    (ended : changed.status = .completed) (found : tables.findTask changed.taskId = some task)
    (inProject : task.projectId = changed.projectId)
    (completed : PrerequisitesCompleted changed.projectId changed.taskId tables) :
    syncTaskTerminal changed now tables =
      if TaskStatus.completed ∈ taskTransitions task.status then
        .ok (tables.replaceTask { task with status := .completed, updatedAt := now })
      else .error (Task.invalidTransition task.status .completed) := by
  have admitted : assertTaskPrerequisitesComplete changed.projectId changed.taskId .completion tables = .ok () := by
    rw [assertTaskPrerequisitesComplete, bind_returns completed]
    rfl
  unfold syncTaskTerminal
  rw [if_neg (by rw [ended]; nofun), found]
  dsimp only
  rw [if_neg (not_not.mpr inProject), if_pos ended, bind_returns admitted]
  by_cases allowed : TaskStatus.completed ∈ taskTransitions task.status
  · have moved : Task.complete task now = .ok { task with status := .completed, updatedAt := now } := by
      rw [Task.complete, Task.transition, if_neg (not_not.mpr allowed)]
    have stored : tables.findTask task.id = some task := by rw [(findTask_found found).2, found]
    have satisfied := completed.satisfied unique
    rw [← inProject, ← (findTask_found found).2] at satisfied
    rw [if_pos allowed, bind_returns moved]
    simp [saveTask, stored, taskUpdateRefused, satisfied]
  · have threw : Task.complete task now = .error (Task.invalidTransition task.status .completed) := by
      rw [Task.complete, Task.transition, if_pos allowed]
    rw [if_neg allowed, threw]
    rfl

def settle (run changed : PipelineRunProps) (synced : Date) (tables : OfficeTables) :
    Except Thrown (PipelineRunProps × OfficeTables) := do
  let settled ← syncTaskTerminal changed synced tables
  let enqueued ← enqueueNext run changed settled
  return (changed, enqueued)

theorem settle_waiting (active : changed.status = .active)
    (same : changed.currentStageIndex = run.currentStageIndex) (synced : Date) (tables : OfficeTables) :
    settle run changed synced tables = .ok (changed, tables) := by
  have sync : syncTaskTerminal changed synced tables = .ok tables := by rw [syncTaskTerminal, if_pos active]
  have enqueued : enqueueNext run changed tables = .ok tables := by
    rw [enqueueNext, if_neg fun moved => moved.2 same]
  rw [settle, bind_returns sync, bind_returns enqueued]
  rfl

theorem settle_moved (current : Current changed next) (active : next.status = .active)
    (moved : changed.currentStageIndex ≠ run.currentStageIndex) (synced : Date) (tables : OfficeTables) :
    settle run changed synced tables =
      (appendJob ⟨changed.projectId, changed.id, next.id, changed.version⟩ tables).map fun enqueued =>
        (changed, enqueued) := by
  have sync : syncTaskTerminal changed synced tables = .ok tables := by rw [syncTaskTerminal, if_pos current.1]
  rw [settle, bind_returns sync, enqueueNext, if_pos ⟨current.1, moved⟩,
    enqueueCurrentStage_current current active]
  cases appendJob ⟨changed.projectId, changed.id, next.id, changed.version⟩ tables <;> rfl

theorem settle_ended (ended : changed.status = .completed) (synced : Date) (tables : OfficeTables) :
    settle run changed synced tables =
      (syncTaskTerminal changed synced tables).map fun settled => (changed, settled) := by
  unfold settle
  cases syncTaskTerminal changed synced tables with
  | error thrown => rfl
  | ok settled =>
    have enqueued : enqueueNext run changed settled = .ok settled := by
      rw [enqueueNext, if_neg (by rw [ended]; exact fun moved => nomatch moved.1)]
    exact (bind_returns enqueued)

section Authorized

variable (consistent : Consistent tables) (resumable : Resumable projectId tables candidate principal run stage)
include consistent resumable

theorem resume_back_in_time (back : clock.now candidate < run.updatedAt) :
    resume projectId clock candidate tables = .error (abort "invalid pipeline run version transition") := by
  obtain ⟨member, -, -⟩ := findPipelineRun_found resumable.found
  obtain ⟨active, assigned⟩ := authorizesStage_ok resumable.authorized
  obtain ⟨definition, defined⟩ := RunStored.defined (consistent.stored run member) resumable.current
  have performed := attempt_completeStage resumable.current active assigned defined (clock.now candidate)
  have effect := completedAs_effect resumable.current active assigned defined (clock.now candidate)
  have refused : runUpdateRefusal run (completedAs run stage definition (clock.now candidate)) =
      some "invalid pipeline run version transition" := by
    rw [runUpdateRefusal, if_pos (.inr (by rw [effect.updatedAt]; exact back))]
  have threw := savePipelineRun_effect consistent.runIds member effect
  rw [refused, Option.some_or] at threw
  rw [resume_authorized resumable, performAndPersist, bind_returns performed]
  dsimp only
  rw [persist, threw]
  rfl

theorem resume_in_order (defined : run.definition.stages[stage.stageIndex]? = some definition)
    (inOrder : run.updatedAt ≤ clock.now candidate) :
    resume projectId clock candidate tables =
      settle run (completedAs run stage definition (clock.now candidate)) (clock.synced candidate) { tables with
        pipelines := replaceRun tables.pipelines (completedAs run stage definition (clock.now candidate)) } := by
  obtain ⟨member, -, -⟩ := findPipelineRun_found resumable.found
  have stored := consistent.stored run member
  obtain ⟨active, assigned⟩ := authorizesStage_ok resumable.authorized
  have performed := attempt_completeStage resumable.current active assigned defined (clock.now candidate)
  have effect := completedAs_effect resumable.current active assigned defined (clock.now candidate)
  have moves : MovesStatuses (clock.now candidate) (.completeStage principal.agentId (clock.now candidate)) := rfl
  have passed : (runUpdateRefusal run _).or (stagesUpdateRefusal tables run _) = none :=
    Effect.accepted effect stored moves inOrder
  have persisted := performAndPersist_returns consistent.runIds member performed effect passed
  rw [resume_authorized resumable, bind_returns persisted]
  rfl

theorem resume_gated (defined : run.definition.stages[stage.stageIndex]? = some definition)
    (inOrder : run.updatedAt ≤ clock.now candidate) (gated : definition.requiresApproval = true) :
    resume projectId clock candidate tables =
      .ok (stepped run stage.stageIndex (submitted stage) (clock.now candidate), { tables with
        pipelines := replaceRun tables.pipelines
          (stepped run stage.stageIndex (submitted stage) (clock.now candidate)) }) := by
  have active : (stepped run stage.stageIndex (submitted stage) (clock.now candidate)).status = .active :=
    resumable.current.1
  have same : (stepped run stage.stageIndex (submitted stage) (clock.now candidate)).currentStageIndex =
      run.currentStageIndex := rfl
  rw [resume_in_order consistent resumable defined inOrder, completedAs, if_pos gated, settle_waiting active same]

/-- The last stage ends the run, and its task if its status allows it. -/
theorem resume_last (defined : run.definition.stages[stage.stageIndex]? = some definition)
    (inOrder : run.updatedAt ≤ clock.now candidate) (ungated : definition.requiresApproval = false)
    (last : run.stages[stage.stageIndex + 1]? = none) {task : TaskProps}
    (found : tables.findTask run.taskId = some task)
    (completed : PrerequisitesCompleted projectId run.taskId tables) :
    resume projectId clock candidate tables =
      if TaskStatus.completed ∈ taskTransitions task.status then
        .ok (finished run stage (clock.now candidate), OfficeTables.replaceTask { tables with
          pipelines := replaceRun tables.pipelines (finished run stage (clock.now candidate)) }
          { task with status := .completed, updatedAt := clock.synced candidate })
      else .error (Task.invalidTransition task.status .completed) := by
  obtain ⟨member, -, inProject⟩ := findPipelineRun_found resumable.found
  obtain ⟨active, assigned⟩ := authorizesStage_ok resumable.authorized
  have effect : Effect run _ _ (finished run stage (clock.now candidate)) :=
    .completed resumable.current active assigned defined ungated
  obtain ⟨-, sameProject, sameTask, -⟩ := Effect.kept effect
  have ended : (finished run stage (clock.now candidate)).status = .completed := by rw [finished, last]
  have same : task.projectId = (finished run stage (clock.now candidate)).projectId := by
    obtain ⟨known, stored, taskInProject⟩ := consistent.known run member
    rw [found, Option.some.injEq] at stored
    rw [stored, taskInProject, sameProject]
  have finishedTask : tables.findTask (finished run stage (clock.now candidate)).taskId = some task := by
    rw [sameTask]
    exact found
  have finishedPrerequisites : PrerequisitesCompleted (finished run stage (clock.now candidate)).projectId
      (finished run stage (clock.now candidate)).taskId tables := by
    rw [sameTask, sameProject, inProject]
    exact completed
  have sync : syncTaskTerminal (finished run stage (clock.now candidate)) (clock.synced candidate) { tables with
      pipelines := replaceRun tables.pipelines (finished run stage (clock.now candidate)) } = _ :=
    syncTaskTerminal_completes consistent.taskIds ended finishedTask same finishedPrerequisites
  rw [resume_in_order consistent resumable defined inOrder, completedAs,
    if_neg (by rw [ungated]; exact Bool.false_ne_true), settle_ended ended, sync]
  split <;> rfl

theorem resume_next (defined : run.definition.stages[stage.stageIndex]? = some definition)
    (inOrder : run.updatedAt ≤ clock.now candidate) (ungated : definition.requiresApproval = false)
    (later : run.stages[stage.stageIndex + 1]? = some next) :
    resume projectId clock candidate tables =
      (appendJob ⟨run.projectId, run.id, next.id, run.version + 1⟩ { tables with
        pipelines := replaceRun tables.pipelines (finished run stage (clock.now candidate)) }).map fun enqueued =>
          (finished run stage (clock.now candidate), enqueued) := by
  obtain ⟨member, -, -⟩ := findPipelineRun_found resumable.found
  obtain ⟨active, assigned⟩ := authorizesStage_ok resumable.authorized
  have effect : Effect run _ _ (finished run stage (clock.now candidate)) :=
    .completed resumable.current active assigned defined ungated
  obtain ⟨sameId, sameProject, -, -⟩ := Effect.kept effect
  have moved : (finished run stage (clock.now candidate)).currentStageIndex ≠ run.currentStageIndex := by
    rw [← (consistent.stored run member).wellFormed.position resumable.current, finished, later]
    exact Nat.succ_ne_self _
  rw [resume_in_order consistent resumable defined inOrder, completedAs, if_neg (by rw [ungated]; exact Bool.false_ne_true),
    settle_moved (finished_current resumable.current later) rfl moved, sameId, sameProject, finished_version]
  rfl

/-- A stage that can be completed is completed. -/
theorem resume_returns (completed : PrerequisitesCompleted projectId run.taskId tables)
    (able : ¬CannotComplete tables run stage (clock.now candidate)) :
    ∃ changed after, resume projectId clock candidate tables = .ok (changed, after) ∧
      Advanced tables after run changed := by
  obtain ⟨back, settles⟩ := not_or.mp able
  have inOrder := Int.not_lt.mp back
  obtain ⟨member, -, -⟩ := findPipelineRun_found resumable.found
  have stored := consistent.stored run member
  obtain ⟨definition, defined⟩ := RunStored.defined stored resumable.current
  have returned : ∃ changed after, resume projectId clock candidate tables = .ok (changed, after) := by
    cases gated : definition.requiresApproval with
    | true => exact ⟨_, _, resume_gated consistent resumable defined inOrder gated⟩
    | false =>
      cases later : run.stages[stage.stageIndex + 1]? with
      | none =>
        obtain ⟨task, found, -⟩ := consistent.known run member
        have allowed : TaskStatus.completed ∈ taskTransitions task.status := by
          by_contra refused
          exact settles ⟨by simp [defined, gated], by rw [later]; exact ⟨task, found, refused⟩⟩
        have last := resume_last consistent resumable defined inOrder gated later found completed
        rw [if_pos allowed] at last
        exact ⟨_, _, last⟩
      | some next =>
        have small : ¬maximumPayloadBytes < payloadBytes ⟨run.projectId, run.id, next.id, run.version + 1⟩ := by
          intro large
          exact settles ⟨by simp [defined, gated], by rw [later]; exact large⟩
        have moved := resume_next consistent resumable defined inOrder gated later
        rw [appendJob, if_neg small] at moved
        split at moved <;> exact ⟨_, _, moved⟩
  obtain ⟨changed, after, returned⟩ := returned
  refine ⟨changed, after, returned, ?_⟩
  obtain ⟨bound, before, accepted, required, advance⟩ :=
    completeStage_advanced consistent.runIds consistent.stored returned
  have sameRun : bound.pipelineRunId = candidate.pipelineRunId := agentPrincipal_run accepted
  rw [requireRun, sameRun, resumable.found] at required
  cases required
  exact advance

theorem resume_throws (completed : PrerequisitesCompleted projectId run.taskId tables)
    (cannot : CannotComplete tables run stage (clock.now candidate)) :
    ∃ thrown, resume projectId clock candidate tables = .error thrown ∧ Unrecognized thrown := by
  by_cases back : clock.now candidate < run.updatedAt
  · exact ⟨_, resume_back_in_time consistent resumable back, by decide⟩
  · have inOrder := Int.not_lt.mp back
    obtain ⟨ungated, settles⟩ := cannot.resolve_left back
    obtain ⟨member, -, -⟩ := findPipelineRun_found resumable.found
    obtain ⟨definition, defined⟩ := RunStored.defined (consistent.stored run member) resumable.current
    have gated : definition.requiresApproval = false := by simpa [defined] using ungated
    cases later : run.stages[stage.stageIndex + 1]? with
    | none =>
      rw [later] at settles
      obtain ⟨task, found, refused⟩ := settles
      have last := resume_last consistent resumable defined inOrder gated later found completed
      rw [if_neg refused] at last
      exact ⟨_, last, invalidTransition_unrecognized task.status⟩
    | some next =>
      rw [later] at settles
      have moved := resume_next consistent resumable defined inOrder gated later
      rw [appendJob, if_pos (show maximumPayloadBytes < _ from settles)] at moved
      exact ⟨_, moved, by decide⟩

end Authorized

end AiOffice.Application.Pipeline
