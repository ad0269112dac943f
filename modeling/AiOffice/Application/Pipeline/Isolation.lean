import AiOffice.Application.Pipeline.Resumption

namespace AiOffice.Application.Pipeline

open Data Outcome Domain Domain.PipelineRun Storage.Office ManagePipelineRuns
  RecoverSuspendedPipelines

/-- Every candidate gets one outcome, the one that it gets when it is the only one. -/
def Isolated (localeCompare : String → String → Int) (projectId : String) (clock : ResumptionClock)
    (tables : OfficeTables) : Prop :=
  ∃ found recoveries after, candidates localeCompare projectId tables = .ok found ∧
    execute localeCompare projectId clock tables = .ok (recoveries, after) ∧
    recoveries.map SuspendedStageRecovery.candidate = found ∧
    ∀ recovery ∈ recoveries, ∃ left,
      recover projectId clock tables recovery.candidate tables = .ok (recovery.outcome, left)

/-- Nothing holds the candidate back, and its agent run may complete its stage, but the stage cannot be completed. -/
structure Stuck (projectId : String) (clock : ResumptionClock) (tables : OfficeTables)
    (candidate : SuspendedStageCandidate) : Prop where
  unfinished : (tables.statuses projectId candidate.taskId).any isTerminalTaskStatus = false
  unblocked : PrerequisitesCompleted projectId candidate.taskId tables
  held : ∃ principal run stage, Resumable projectId tables candidate principal run stage ∧
    CannotComplete tables run stage (clock.now candidate)

structure CandidateOf (projectId : String) (tables : OfficeTables) (candidate : SuspendedStageCandidate)
    (run : PipelineRunProps) (stage : PipelineStageRunProps) : Prop where
  member : run ∈ tables.pipelines
  key : run.id = candidate.pipelineRunId
  inProject : run.projectId = projectId
  sameTask : run.taskId = candidate.taskId
  current : Current run stage

structure Undisturbed (projectId : String) (before after : OfficeTables) (candidate : SuspendedStageCandidate) :
    Prop where
  agents : after.agents = before.agents
  roles : after.roles = before.roles
  agentRuns : after.agentRuns = before.agentRuns
  dependencies : after.dependencies = before.dependencies
  run : after.findPipelineRun candidate.pipelineRunId projectId =
    before.findPipelineRun candidate.pipelineRunId projectId
  task : after.findTask candidate.taskId = before.findTask candidate.taskId
  completed : ∀ id, before.statuses projectId id = some .completed → after.statuses projectId id = some .completed

variable {projectId : String} {scan tables after : OfficeTables} {candidate : SuspendedStageCandidate}
  {principal : AgentExecutionPrincipal} {run changed : PipelineRunProps} {stage : PipelineStageRunProps}
  {clock : ResumptionClock} {localeCompare : String → String → Int}

theorem Undisturbed.refl (projectId : String) (tables : OfficeTables) (candidate : SuspendedStageCandidate) :
    Undisturbed projectId tables tables candidate :=
  ⟨rfl, rfl, rfl, rfl, rfl, rfl, fun _ completed => completed⟩

theorem Undisturbed.resumable (undisturbed : Undisturbed projectId scan tables candidate) :
    Resumable projectId tables candidate principal run stage ↔
      Resumable projectId scan candidate principal run stage := by
  have sameAgent : agentPrincipal ⟨projectId, candidate.agentRunId, some candidate.pipelineRunId⟩ tables =
      agentPrincipal ⟨projectId, candidate.agentRunId, some candidate.pipelineRunId⟩ scan := by
    simp only [agentPrincipal, OfficeTables.findAgentRun, undisturbed.agentRuns]
  have sameRole : agentRoleKey principal.agentId projectId tables = agentRoleKey principal.agentId projectId scan := by
    simp only [agentRoleKey, OfficeTables.findAgent, OfficeTables.findRole, undisturbed.agents, undisturbed.roles]
  have sameStage : authorizesStage principal projectId stage tables =
      authorizesStage principal projectId stage scan := by
    rw [authorizesStage, sameRole]
    rfl
  constructor
  · rintro ⟨accepted, found, current, sameTask, authorized⟩
    exact ⟨sameAgent ▸ accepted, undisturbed.run ▸ found, current, sameTask, sameStage ▸ authorized⟩
  · rintro ⟨accepted, found, current, sameTask, authorized⟩
    exact ⟨sameAgent ▸ accepted, undisturbed.run ▸ found, current, sameTask, sameStage ▸ authorized⟩

theorem Undisturbed.cannotComplete (undisturbed : Undisturbed projectId scan tables candidate)
    (sameTask : run.taskId = candidate.taskId) {now : Date} :
    CannotComplete tables run stage now ↔ CannotComplete scan run stage now := by
  unfold CannotComplete
  rw [sameTask, undisturbed.task]

theorem Undisturbed.prerequisites (undisturbed : Undisturbed projectId scan tables candidate) {taskId : String}
    (completed : PrerequisitesCompleted projectId taskId scan) : PrerequisitesCompleted projectId taskId tables := by
  have same : tables.prerequisites projectId taskId = scan.prerequisites projectId taskId := by
    simp only [OfficeTables.prerequisites, undisturbed.dependencies]
  rw [PrerequisitesCompleted, blockingPrerequisites_none_iff] at completed ⊢
  rw [same]
  intro id required
  obtain ⟨status, known, satisfied⟩ := completed id required
  obtain rfl : status = .completed := by simpa [PrerequisiteRequirement.satisfied] using satisfied
  exact ⟨.completed, undisturbed.completed id known, rfl⟩

theorem findPipelineRun_replaceRun {id : String} (other : id ≠ changed.id) :
    OfficeTables.findPipelineRun { tables with pipelines := replaceRun tables.pipelines changed } id projectId =
      tables.findPipelineRun id projectId := by
  unfold OfficeTables.findPipelineRun replaceRun
  rw [List.find?_map]
  have sameKey : ((fun run : PipelineRunProps => decide (run.id = id) && decide (run.projectId = projectId)) ∘
      fun stored => if stored.id = changed.id then changed else stored) =
      fun run => decide (run.id = id) && decide (run.projectId = projectId) := by
    funext stored
    by_cases replaced : stored.id = changed.id <;> simp [replaced, Ne.symm other]
  rw [sameKey]
  cases lookup : tables.pipelines.find? fun run => decide (run.id = id) && decide (run.projectId = projectId) with
  | none => rfl
  | some stored =>
    obtain ⟨-, key, -⟩ := findPipelineRun_found lookup
    rw [Option.map_some, if_neg (by rw [key]; exact other)]

/-- The completion of one stage leaves the candidates of other runs and tasks as they were. -/
theorem Undisturbed.advanced (undisturbed : Undisturbed projectId scan tables candidate)
    (consistent : Consistent tables) (advance : Advanced tables after run changed)
    (otherRun : candidate.pipelineRunId ≠ run.id) (otherTask : candidate.taskId ≠ run.taskId)
    (known : (tables.findTask candidate.taskId).isSome = true) : Undisturbed projectId scan after candidate := by
  obtain ⟨command, record, effect⟩ := advance.effect
  obtain ⟨sameId, -, sameTask, -⟩ := Effect.kept effect
  obtain ⟨now, settled, synced, rest⟩ := advance.synced
  have sameRun := (findPipelineRun_replaceRun (show candidate.pipelineRunId ≠ changed.id by
    rw [sameId]
    exact otherRun)).trans undisturbed.run
  rw [rest]
  rcases syncTaskTerminal_ok synced with ⟨-, rfl⟩ | ⟨-, row, value, stored, sameKey, allowed, saved⟩
  · exact ⟨undisturbed.agents, undisturbed.roles, undisturbed.agentRuns, undisturbed.dependencies, sameRun,
      undisturbed.task, undisturbed.completed⟩
  · have replaced := consistent.replaceRun advance.member effect advance.stored
    have kept := replaced.saveTask (fun fresh => absurd fresh (not_fresh stored sameKey)) saved
    have rows := saveTask_tasks saved
    have key : value.id = run.taskId := by rw [sameKey, (findTask_found stored).2, sameTask]
    refine ⟨?_, ?_, ?_, ?_, ?_, ?_, ?_⟩
    · rw [rows]
      exact undisturbed.agents
    · rw [rows]
      exact undisturbed.roles
    · rw [rows]
      exact undisturbed.agentRuns
    · rw [rows]
      exact undisturbed.dependencies
    · rw [rows]
      exact sameRun
    · obtain ⟨task, found⟩ := Option.isSome_iff_exists.mp known
      have different : task.id ≠ value.id := by
        rw [(findTask_found found).2, key]
        exact otherTask
      have later := saveTask_findTask saved (show OfficeTables.findTask { tables with
        pipelines := replaceRun tables.pipelines changed } candidate.taskId = some task from found)
      rw [if_neg different] at later
      exact later.trans (found.symm.trans undisturbed.task)
    · intro id completed
      obtain ⟨task, found, inProject, status⟩ :=
        statuses_known consistent.taskIds (undisturbed.completed id completed)
      have later := saveTask_findTask saved (show OfficeTables.findTask { tables with
        pipelines := replaceRun tables.pipelines changed } id = some task from found)
      have different : task.id ≠ value.id := by
        intro same
        have rowFound : tables.findTask changed.taskId = some row := stored
        rw [sameTask, ← key, ← same, (findTask_found found).2, found, Option.some.injEq] at rowFound
        rw [← rowFound, status] at allowed
        exact List.not_mem_nil allowed
      rw [if_neg different] at later
      have known := statuses_of_findTask kept.taskIds later
      rw [inProject, status] at known
      exact known

/-- The outcome of a candidate that is not stuck is the same wherever what it depends on is as it was. -/
theorem recover_returns (consistent : Consistent scan) (about : CandidateOf projectId scan candidate run stage)
    (free : ¬Stuck projectId clock scan candidate) :
    ∃ outcome, ∀ tables, Consistent tables → Undisturbed projectId scan tables candidate → ∃ left,
      recover projectId clock scan candidate tables = .ok (outcome, left) ∧
        (left = tables ∨ ∃ changed, Advanced tables left run changed) := by
  have found : scan.findPipelineRun candidate.pipelineRunId projectId = some run := by
    rw [← about.key, ← about.inProject, findPipelineRun_of_mem consistent.runIds about.member]
  unfold recover
  by_cases terminal : (scan.statuses projectId candidate.taskId).any isTerminalTaskStatus = true
  · exact ⟨.superseded, fun tables _ _ => ⟨tables, by rw [if_pos terminal], .inl rfl⟩⟩
  have known : ∀ id ∈ scan.prerequisites projectId candidate.taskId, (scan.statuses projectId id).isSome = true := by
    intro id required
    obtain ⟨edge, member, rfl⟩ := List.mem_map.mp required
    obtain ⟨stored, matched⟩ := List.mem_filter.mp member
    simp only [Bool.and_eq_true, decide_eq_true_eq] at matched
    obtain ⟨task, lookup, inProject⟩ := consistent.prerequisites edge stored
    have status := statuses_of_findTask consistent.taskIds lookup
    rw [inProject, matched.1] at status
    rw [status]
    rfl
  obtain ⟨blocked, sorted⟩ := blockingPrerequisites_known (show ∀ id ∈ _, _ from known)
  by_cases held : blocked ≠ []
  · refine ⟨.awaitingPrerequisites, fun tables _ _ => ⟨tables, ?_, .inl rfl⟩⟩
    rw [if_neg terminal, bind_returns sorted, if_pos held]
    rfl
  obtain rfl := not_not.mp held
  by_cases resumable : ∃ principal, Resumable projectId scan candidate principal run stage
  · obtain ⟨principal, resumable⟩ := resumable
    have able : ¬CannotComplete scan run stage (clock.now candidate) := fun cannot =>
      free ⟨by simpa using terminal, sorted, principal, run, stage, resumable, cannot⟩
    refine ⟨.resumed, fun tables kept undisturbed => ?_⟩
    have completed : PrerequisitesCompleted projectId run.taskId tables := by
      rw [about.sameTask]
      exact undisturbed.prerequisites sorted
    obtain ⟨changed, left, returned, advance⟩ := resume_returns kept (undisturbed.resumable.mpr resumable) completed
      (fun cannot => able ((undisturbed.cannotComplete about.sameTask).mp cannot))
    refine ⟨left, ?_, .inr ⟨changed, advance⟩⟩
    rw [if_neg terminal, bind_returns sorted, if_neg held, returned]
    rfl
  · refine ⟨.superseded, fun tables kept undisturbed => ⟨tables, ?_, .inl rfl⟩⟩
    have refused : resume projectId clock candidate tables = .error stageCompletionUnauthorized :=
      resume_unauthorized (undisturbed.run.trans found) about.current fun principal accepted =>
        resumable ⟨principal, undisturbed.resumable.mp accepted⟩
    have unrecognized : isPrerequisiteRefusal stageCompletionUnauthorized = false := by decide
    have lost : stageCompletionUnauthorized.name ∈
        [ErrorName.concurrentPipelineTransitionError, .pipelineActorUnauthorizedError] := by decide
    rw [if_neg terminal, bind_returns sorted, if_neg held, refused]
    dsimp only
    rw [if_neg (by rw [unrecognized]; exact Bool.false_ne_true), if_pos lost]
    rfl

theorem recover_stuck (consistent : Consistent tables) (about : CandidateOf projectId tables candidate run stage)
    (stuck : Stuck projectId clock tables candidate) :
    ∃ thrown, recover projectId clock tables candidate tables = .error thrown := by
  obtain ⟨unfinished, unblocked, principal, held, at_, resumable, cannot⟩ := stuck
  have found : tables.findPipelineRun candidate.pipelineRunId projectId = some run := by
    rw [← about.key, ← about.inProject, findPipelineRun_of_mem consistent.runIds about.member]
  obtain rfl : held = run := Option.some.inj (resumable.found.symm.trans found)
  obtain ⟨thrown, threw, unrecognized, different⟩ := resume_throws consistent resumable
    (by rw [about.sameTask]; exact unblocked) cannot
  refine ⟨thrown, ?_⟩
  unfold recover
  rw [if_neg (by rw [unfinished]; exact Bool.false_ne_true), bind_returns unblocked,
    if_neg (by simp), threw]
  dsimp only
  rw [if_neg (by rw [unrecognized]; exact Bool.false_ne_true), if_neg different]

def suspended (agentRuns : List AgentRunBinding) (run : PipelineRunProps) : Option SuspendedStageCandidate :=
  if run.status ≠ .active then none
  else do
    let stage ← run.stages[run.currentStageIndex]?
    if stage.status ≠ .active then none
    else (completedRunOfStage agentRuns stage.id).map fun agentRun => ⟨run.id, stage.id, agentRun.id, run.taskId⟩

theorem suspendedStage_suspended (stored : RunStored run) (agentRuns : List AgentRunBinding) :
    suspendedStage agentRuns run = .ok (suspended agentRuns run) := by
  unfold suspendedStage suspended
  by_cases active : run.status = .active
  · have found : run.stages[run.currentStageIndex]? = some _ := List.getElem?_eq_getElem stored.wellFormed.within
    rw [if_neg (not_not.mpr active), if_neg (not_not.mpr active), call_currentStage_current ⟨active, found⟩, found]
    rfl
  · rw [if_pos active, if_pos active]

theorem suspended_some {agentRuns : List AgentRunBinding} (found : suspended agentRuns run = some candidate) :
    run.id = candidate.pipelineRunId ∧ run.taskId = candidate.taskId ∧ ∃ stage, Current run stage := by
  unfold suspended at found
  split at found
  · cases found
  · next active =>
      obtain ⟨stage, here, found⟩ := Option.bind_eq_some_iff.mp found
      split at found
      · cases found
      · obtain ⟨agentRun, -, rfl⟩ := Option.map_eq_some_iff.mp found
        exact ⟨rfl, rfl, stage, not_not.mp active, here⟩

theorem mapM_ok {Value Result : Type} {compute : Value → Except Thrown Result} {result : Value → Result}
    {values : List Value} (returns : ∀ value ∈ values, compute value = .ok (result value)) :
    values.mapM compute = .ok (values.map result) := by
  induction values with
  | nil => rfl
  | cons value values ih =>
    obtain ⟨first, rest⟩ := List.forall_mem_cons.mp returns
    rw [List.mapM_cons, bind_returns first, bind_returns (ih rest)]
    rfl

theorem candidates_found (consistent : Consistent tables) (localeCompare : String → String → Int)
    (projectId : String) :
    ∃ found, candidates localeCompare projectId tables = .ok found ∧
      (found.map SuspendedStageCandidate.pipelineRunId).Nodup ∧
      ∀ candidate ∈ found, ∃ run stage, CandidateOf projectId tables candidate run stage := by
  have computed : ∀ run ∈ tables.pipelines.filter fun run => run.projectId = projectId,
      suspendedStage (tables.agentRuns.filter fun agentRun => agentRun.projectId = projectId) run =
        .ok (suspended (tables.agentRuns.filter fun agentRun => agentRun.projectId = projectId) run) :=
    fun run member => suspendedStage_suspended (consistent.stored run (List.mem_filter.mp member).1) _
  refine ⟨_, by rw [candidates, findSuspendedStageCandidates, mapM_ok computed]; rfl, ?_, ?_⟩
  · have perm := List.perm_insertionSort (fun left right : SuspendedStageCandidate =>
      localeCompare left.pipelineRunId right.pipelineRunId ≤ 0) (((tables.pipelines.filter fun run =>
        run.projectId = projectId).map (suspended (tables.agentRuns.filter fun agentRun =>
          agentRun.projectId = projectId))).reduceOption)
    rw [(perm.map _).nodup_iff, List.Nodup, List.pairwise_map, List.reduceOption, List.pairwise_filterMap,
      List.pairwise_map]
    have distinct := consistent.runIds
    rw [List.Nodup, List.pairwise_map] at distinct
    refine (distinct.filter _).imp fun {first second} different left foundLeft right foundRight => ?_
    rw [← (suspended_some foundLeft).1, ← (suspended_some foundRight).1]
    exact different
  · intro candidate member
    rw [List.mem_insertionSort, List.reduceOption_mem_iff] at member
    obtain ⟨run, stored, found⟩ := List.mem_map.mp member
    obtain ⟨inTable, inProject⟩ := List.mem_filter.mp stored
    obtain ⟨key, sameTask, stage, current⟩ := suspended_some found
    exact ⟨run, stage, inTable, key, of_decide_eq_true inProject, sameTask, current⟩

theorem CandidateOf.otherTask (consistent : Consistent tables) {other : SuspendedStageCandidate}
    {otherRun : PipelineRunProps} {otherStage : PipelineStageRunProps}
    (about : CandidateOf projectId tables candidate run stage)
    (also : CandidateOf projectId tables other otherRun otherStage)
    (different : candidate.pipelineRunId ≠ other.pipelineRunId) : other.taskId ≠ run.taskId := by
  intro same
  refine different ?_
  rw [← about.key, ← also.key]
  exact consistent.oneActive run about.member otherRun also.member about.current.1 also.current.1
    (same.symm.trans also.sameTask.symm) (about.inProject.trans also.inProject.symm)

/-- The candidates that none of which is stuck are recovered one after another, each as if it were alone. -/
theorem recoverAll_returns (consistent : Consistent scan) (left : List SuspendedStageCandidate)
    (distinct : (left.map SuspendedStageCandidate.pipelineRunId).Nodup)
    (about : ∀ candidate ∈ left, ∃ run stage, CandidateOf projectId scan candidate run stage)
    (free : ∀ candidate ∈ left, ¬Stuck projectId clock scan candidate) (kept : Consistent tables)
    (undisturbed : ∀ candidate ∈ left, Undisturbed projectId scan tables candidate) :
    ∃ recoveries after, recoverAll projectId clock scan left tables = .ok (recoveries, after) ∧
      recoveries.map SuspendedStageRecovery.candidate = left ∧
      ∀ recovery ∈ recoveries, ∃ left, recover projectId clock scan recovery.candidate scan = .ok (recovery.outcome, left) := by
  induction left generalizing tables with
  | nil => exact ⟨[], tables, rfl, rfl, fun _ member => absurd member List.not_mem_nil⟩
  | cons candidate rest ih =>
    obtain ⟨⟨run, stage, first⟩, aboutRest⟩ := List.forall_mem_cons.mp about
    obtain ⟨freeFirst, freeRest⟩ := List.forall_mem_cons.mp free
    obtain ⟨asScanned, restAsScanned⟩ := List.forall_mem_cons.mp undisturbed
    rw [List.map_cons, List.nodup_cons] at distinct
    obtain ⟨outcome, recovers⟩ := recover_returns consistent first freeFirst
    obtain ⟨alone, returnsAlone, -⟩ := recovers scan consistent (.refl projectId scan candidate)
    obtain ⟨middle, returns, changes⟩ := recovers tables kept asScanned
    have next : Consistent middle ∧ ∀ other ∈ rest, Undisturbed projectId scan middle other := by
      rcases changes with rfl | ⟨changed, advance⟩
      · exact ⟨kept, restAsScanned⟩
      · refine ⟨kept.advanced advance, fun other member => ?_⟩
        obtain ⟨otherRun, otherStage, also⟩ := aboutRest other member
        have different : candidate.pipelineRunId ≠ other.pipelineRunId := fun same =>
          distinct.1 (List.mem_map.mpr ⟨other, member, same.symm⟩)
        have known : (tables.findTask other.taskId).isSome = true := by
          rw [(restAsScanned other member).task, ← also.sameTask]
          obtain ⟨task, found, -⟩ := consistent.known otherRun also.member
          rw [found]
          rfl
        exact (restAsScanned other member).advanced kept advance (by rw [first.key]; exact different.symm)
          (first.otherTask consistent also different) known
    obtain ⟨recoveries, after, recovered, same, alike⟩ := ih distinct.2 aboutRest freeRest next.1 next.2
    refine ⟨⟨candidate, outcome⟩ :: recoveries, after, ?_, by rw [List.map_cons, same], ?_⟩
    · rw [recoverAll, bind_returns returns]
      dsimp only
      rw [bind_returns recovered]
      rfl
    · exact List.forall_mem_cons.mpr ⟨⟨alone, returnsAlone⟩, alike⟩

/-- In the tables that any commands reach, the recovery isolates its candidates exactly when none is stuck. -/
theorem recovery_isolated {start : OfficeTables} (blank : Blank start)
    (reached : Transition.Reachable Performs start tables) (localeCompare : String → String → Int)
    (projectId : String) (clock : ResumptionClock) :
    Isolated localeCompare projectId clock tables ↔
      ∀ found, candidates localeCompare projectId tables = .ok found → ∀ candidate ∈ found,
        ¬Stuck projectId clock tables candidate := by
  have consistent := reachable_consistent blank reached
  obtain ⟨found, computed, distinct, about⟩ := candidates_found consistent localeCompare projectId
  constructor
  · rintro ⟨same, recoveries, after, again, -, outcomes, alone⟩ all computedAll candidate member stuck
    obtain rfl := Except.ok.inj (again.symm.trans computedAll)
    obtain ⟨run, stage, first⟩ := about candidate (Except.ok.inj (again.symm.trans computed) ▸ member)
    rw [← outcomes] at member
    obtain ⟨recovery, present, rfl⟩ := List.mem_map.mp member
    obtain ⟨left, returns⟩ := alone recovery present
    obtain ⟨thrown, threw⟩ := recover_stuck consistent first stuck
    rw [returns] at threw
    cases threw
  · intro free
    obtain ⟨recoveries, after, recovered, outcomes, alone⟩ := recoverAll_returns consistent found distinct about
      (free found computed) consistent fun candidate _ => .refl projectId tables candidate
    refine ⟨found, recoveries, after, computed, ?_, outcomes, alone⟩
    rw [execute, bind_returns computed, recovered]

/-- The office of `startedOffice` when the agent that its stage is assigned to has completed its run. -/
def assignedOffice : OfficeTables := { startedOffice with
  pipelines := [{ startedRun with
    stages := [⟨"i", "build", 0, "developer", .active, some "agent", some 2, none, none, none, none, none⟩]
    version := 2
    updatedAt := 2 }] }

def suspendedOffice : OfficeTables := { assignedOffice with
  agentRuns := [⟨"run", "project", "task", "agent", some "ii", some "i", .completed⟩] }

def assignBuild : OfficeCommand := .assign ⟨"project", "ii", "agent", localOperatorPrincipal⟩ 2

def endAgentRun : OfficeCommand := .replaceOthers {
  projects := suspendedOffice.projects
  dependencies := suspendedOffice.dependencies
  manifests := suspendedOffice.manifests
  agents := suspendedOffice.agents
  roles := suspendedOffice.roles
  agentRuns := suspendedOffice.agentRuns
  outbox := suspendedOffice.outbox }

theorem suspendedOffice_reached : Transition.Reachable Performs emptyOffice suspendedOffice :=
  ((((Transition.Reachable.refl emptyOffice).snoc emptyOffice_creates).snoc buildOffice_starts).snoc
    (show Performs _ assignBuild assignedOffice from .committed trivial (by decide))).snoc
    (show Performs _ endAgentRun suspendedOffice from .committed trivial (by decide))

def resumptionClock : ResumptionClock := ⟨fun _ => 5, fun _ => 6⟩

theorem recovery_isolated_running : Isolated (fun _ _ => 0) "project" resumptionClock suspendedOffice := by
  refine (recovery_isolated ⟨rfl, rfl, rfl⟩ suspendedOffice_reached _ _ _).mpr ?_
  have computed : candidates (fun _ _ => 0) "project" suspendedOffice = .ok [⟨"ii", "i", "run", "task"⟩] := by decide
  intro found same candidate member stuck
  obtain rfl := Except.ok.inj (computed.symm.trans same)
  obtain rfl := List.mem_singleton.mp member
  obtain ⟨principal, run, stage, resumable, cannot⟩ := stuck.held
  obtain rfl := Option.some.inj (show some _ = some run from resumable.found)
  obtain rfl := Option.some.inj (show some _ = some stage from resumable.current.2)
  rcases cannot with back | ⟨-, task, stored, refused⟩
  · exact absurd back (by decide)
  · obtain rfl := Option.some.inj (show some _ = some task from stored)
    exact refused (by decide)

def blockedOffice : OfficeTables := { suspendedOffice with
  tasks := [⟨"task", "project", "Task", none, .blocked, 0, 0, 3⟩] }

def blockTask : OfficeCommand := .task (.lifecycle ⟨"project", "task", .block, some "waiting"⟩ 3)

/-- A suspended pipeline whose task was blocked makes the whole recovery throw. -/
theorem blocked_task_stops_recovery :
    ¬∀ start tables localeCompare projectId clock, Blank start → Transition.Reachable Performs start tables →
      Isolated localeCompare projectId clock tables := by
  intro isolated
  have reached : Transition.Reachable Performs emptyOffice blockedOffice :=
    suspendedOffice_reached.snoc (show Performs _ blockTask blockedOffice from .committed trivial (by decide))
  obtain ⟨found, recoveries, after, -, returned, -⟩ :=
    isolated emptyOffice blockedOffice (fun _ _ => 0) "project" resumptionClock ⟨rfl, rfl, rfl⟩ reached
  have throws : (execute (fun _ _ => 0) "project" resumptionClock blockedOffice).isOk = false := by decide
  rw [returned] at throws
  cases throws

end AiOffice.Application.Pipeline
