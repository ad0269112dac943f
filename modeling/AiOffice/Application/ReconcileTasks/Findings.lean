import AiOffice.Application.ReconcileTasks

namespace AiOffice.Application.ReconcileTasks

open Data Outcome Domain Storage.Office

variable {tables : ReconciliationTables} {office : OfficeTables} {projectId : String} {task : TaskProps}
  {issue : TaskReconciliationIssue} {issues : List TaskReconciliationIssue}

/-- A task may take an operation: its status allows it, and it is not completed before its prerequisites are. -/
structure Takes (office : OfficeTables) (projectId : String) (task : TaskProps) (operation : TaskLifecycleOperation) :
    Prop where
  allowed : operation.to ∈ taskTransitions task.status
  notStart : operation ≠ .start
  prerequisites : operation = .complete → ∀ id ∈ prerequisiteIds office projectId task.id,
    office.statuses projectId id = some .completed

/-- The exits that a repair of a task answers: those of its prerequisites, all known, that are blocked, failed or
cancelled. -/
structure ExitsOf (office : OfficeTables) (projectId : String) (task : TaskProps) (exits : List ReviewExit) :
    Prop where
  known : ∀ id ∈ prerequisiteIds office projectId task.id, (office.statuses projectId id).isSome = true
  exact : ∀ id status, ⟨id, status⟩ ∈ exits ↔
    id ∈ prerequisiteIds office projectId task.id ∧ office.statuses projectId id = some status ∧
      isReviewExit status = true

def Accepts (office : OfficeTables) (projectId : String) (task : TaskProps) : SuggestedCommand → Prop
  | .recordCompletion => historicalCompletionRefusal task.status = none
  | .lifecycle operation reason =>
    Takes office projectId task operation ∧
      ((operation = .block ∧ ∃ exits, ExitsOf office projectId task exits ∧
          exits.length ≤ (prerequisiteIds office projectId task.id).length ∧
          reason = some (reviewExitRepairReason exits)) ∨
        operation ∈ [TaskLifecycleOperation.complete, .cancel] ∧ reason = none)

/-- A repair that answers review exits, or one that follows a terminal pipeline. -/
def Answers (office : OfficeTables) (projectId : String) (task : TaskProps) (operation : TaskLifecycleOperation) :
    Option (List ReviewExit) → Prop
  | some exits => ExitsOf office projectId task exits ∧
      exits.length ≤ (prerequisiteIds office projectId task.id).length ∧
      operation ∈ [TaskLifecycleOperation.block, .cancel]
  | none => operation ∈ [TaskLifecycleOperation.complete, .cancel]

structure Grounded (office : OfficeTables) (projectId : String) (task : TaskProps) (issue : TaskReconciliationIssue) :
    Prop where
  taskId : issue.taskId = task.id
  status : issue.status = task.status
  suggestion : ∀ command, issue.suggestedCommand = some command → Accepts office projectId task command
  repair : issue.repairable = true → ∃ operation, issue.repairOperation = some operation ∧
    Takes office projectId task operation ∧ Answers office projectId task operation issue.reviewExits

theorem reported_grounded (finding : TaskReconciliationFinding) (severity : TaskReconciliationSeverity)
    (summary refusalReason : String) :
    Grounded office projectId task (reported task finding severity summary refusalReason) where
  taskId := rfl
  status := rfl
  suggestion := nofun
  repair := nofun

theorem reported_refused (finding : TaskReconciliationFinding) (severity : TaskReconciliationSeverity)
    (summary refusalReason : String) : (reported task finding severity summary refusalReason).repairable = false := rfl

theorem mem_prerequisiteIds {id : String} :
    id ∈ prerequisiteIds office projectId task.id ↔ id ∈ office.prerequisites projectId task.id := by
  simp only [prerequisiteIds, OfficeTables.prerequisites, dependenciesOf, List.mem_map, List.mem_filter, mem_sortOn,
    Bool.and_eq_true, decide_eq_true_eq, and_assoc]

theorem blockingPrerequisites_mem {statuses : String → Option TaskStatus} {requirement : PrerequisiteRequirement}
    {ids : List String} {blocked : List BlockingPrerequisite}
    (computed : blockingPrerequisites statuses requirement ids = .ok blocked) (item : BlockingPrerequisite) :
    item ∈ blocked ↔
      item.taskId ∈ ids ∧ statuses item.taskId = some item.status ∧ requirement.satisfied item.status = false := by
  induction ids generalizing blocked with
  | nil => cases computed; simp
  | cons id ids ih =>
    rw [blockingPrerequisites] at computed
    cases known : statuses id with
    | none => rw [known] at computed; cases computed
    | some status =>
      rw [known] at computed
      obtain ⟨rest, later, computed⟩ := bind_ok computed
      cases computed
      rw [List.mem_cons]
      cases satisfied : requirement.satisfied status with
      | true =>
        rw [if_pos rfl, ih later]
        constructor
        · rintro ⟨member, found, unmet⟩
          exact ⟨.inr member, found, unmet⟩
        · rintro ⟨rfl | member, found, unmet⟩
          · rw [known, Option.some.injEq] at found
            rw [← found, satisfied] at unmet
            cases unmet
          · exact ⟨member, found, unmet⟩
      | false =>
        rw [if_neg Bool.false_ne_true, List.mem_cons, ih later]
        constructor
        · rintro (rfl | ⟨member, found, unmet⟩)
          · exact ⟨.inl rfl, known, satisfied⟩
          · exact ⟨.inr member, found, unmet⟩
        · rintro ⟨same | member, found, unmet⟩
          · left
            cases item
            subst same
            rw [known] at found
            cases found
            rfl
          · exact .inr ⟨member, found, unmet⟩

theorem blockingPrerequisites_length {statuses : String → Option TaskStatus} {requirement : PrerequisiteRequirement}
    {ids : List String} {blocked : List BlockingPrerequisite}
    (computed : blockingPrerequisites statuses requirement ids = .ok blocked) : blocked.length ≤ ids.length := by
  induction ids generalizing blocked with
  | nil => cases computed; rfl
  | cons id ids ih =>
    rw [blockingPrerequisites] at computed
    cases known : statuses id with
    | none => rw [known] at computed; cases computed
    | some status =>
      rw [known] at computed
      obtain ⟨rest, later, computed⟩ := bind_ok computed
      cases computed
      have shorter := ih later
      split <;> simp only [List.length_cons] <;> omega

theorem blockingPrerequisites_isSome {statuses : String → Option TaskStatus} {requirement : PrerequisiteRequirement}
    {ids : List String} {blocked : List BlockingPrerequisite}
    (computed : blockingPrerequisites statuses requirement ids = .ok blocked) :
    ∀ id ∈ ids, (statuses id).isSome = true := by
  induction ids generalizing blocked with
  | nil => exact fun id member => absurd member List.not_mem_nil
  | cons id ids ih =>
    rw [blockingPrerequisites] at computed
    cases known : statuses id with
    | none => rw [known] at computed; cases computed
    | some status =>
      rw [known] at computed
      obtain ⟨rest, later, -⟩ := bind_ok computed
      exact List.forall_mem_cons.mpr ⟨by rw [known]; rfl, ih later⟩

theorem isReviewExit_unsatisfied {status : TaskStatus} (exited : isReviewExit status = true) :
    PrerequisiteRequirement.satisfied .start status = false := by
  cases status <;> first | rfl | cases exited

section

variable {blockedBy : List BlockingPrerequisite}
  (blocked : blockingPrerequisites (office.statuses projectId) .start
    (prerequisiteIds office projectId task.id) = .ok blockedBy)
include blocked

theorem exitsOf_blocked :
    ExitsOf office projectId task
      ((blockedBy.filter fun item => isReviewExit item.status).map fun item => ⟨item.taskId, item.status⟩) := by
  refine ⟨blockingPrerequisites_isSome blocked, fun id status => ?_⟩
  simp only [List.mem_map, List.mem_filter, ReviewExit.mk.injEq]
  constructor
  · rintro ⟨item, ⟨member, exited⟩, rfl, rfl⟩
    obtain ⟨inIds, found, -⟩ := (blockingPrerequisites_mem blocked item).mp member
    exact ⟨inIds, found, exited⟩
  · rintro ⟨inIds, found, exited⟩
    refine ⟨⟨id, status⟩, ⟨?_, exited⟩, rfl, rfl⟩
    exact (blockingPrerequisites_mem blocked ⟨id, status⟩).mpr ⟨inIds, found, isReviewExit_unsatisfied exited⟩

theorem exits_length :
    ((blockedBy.filter fun item => isReviewExit item.status).map fun item =>
      (⟨item.taskId, item.status⟩ : ReviewExit)).length ≤ (prerequisiteIds office projectId task.id).length := by
  rw [List.length_map]
  exact (List.length_filter_le _ _).trans (blockingPrerequisites_length blocked)

theorem reviewExitIssue_grounded (started : task.status = .running ∨ task.status = .waitingReview) (executing : Bool) :
    Grounded office projectId task (reviewExitIssue task blockedBy executing) := by
  have blocks : Takes office projectId task .block :=
    ⟨by rcases started with status | status <;> rw [status] <;> decide, nofun, nofun⟩
  have cancels : Takes office projectId task .cancel :=
    ⟨by rcases started with status | status <;> rw [status] <;> decide, nofun, nofun⟩
  have exits := exitsOf_blocked blocked
  have length := exits_length blocked
  refine ⟨rfl, rfl, fun command suggested => ?_, fun repairable => ?_⟩
  · cases suggested
    by_cases terminal :
        ((blockedBy.filter fun item => isReviewExit item.status).any fun item => isTerminalTaskStatus item.status) = true
    · simp only [terminal, if_true, reduceCtorEq, if_false]
      exact ⟨cancels, .inr ⟨by decide, rfl⟩⟩
    · simp only [terminal, if_false, Bool.false_eq_true, if_true]
      exact ⟨blocks, .inl ⟨rfl, _, exits, length, rfl⟩⟩
  · cases executing with
    | true => cases repairable
    | false =>
      refine ⟨_, rfl, ?_, exits, length, ?_⟩
      · split
        · exact cancels
        · exact blocks
      · split <;> decide

end

theorem dependencyIssues_grounded (member : issue ∈ dependencyIssues office projectId task) :
    Grounded office projectId task issue := by
  unfold dependencyIssues at member
  split at member
  · rw [List.mem_singleton.mp member]
    exact reported_grounded _ _ _ _
  · next blockedBy blocked =>
    split at member
    · cases member
    dsimp only at member
    split at member
    · next exits =>
      rw [List.mem_singleton.mp member]
      simp only [Bool.and_eq_true, Bool.or_eq_true, decide_eq_true_eq] at exits
      exact reviewExitIssue_grounded blocked exits.1 _
    · rw [List.mem_singleton.mp member]
      exact reported_grounded _ _ _ _

theorem dependencyIssues_length : (dependencyIssues office projectId task).length ≤ 1 := by
  unfold dependencyIssues
  split
  · exact le_rfl
  · split
    · exact Nat.zero_le 1
    · dsimp only
      split <;> exact le_rfl

theorem requirementIssues_reported {requirement : RequirementRecord}
    (member : issue ∈ requirementIssues tables projectId task requirement) :
    Grounded tables.office projectId task issue ∧ issue.repairable = false := by
  have reports (finding severity summary refusalReason) :
      Grounded tables.office projectId task (reported task finding severity summary refusalReason) ∧
        (reported task finding severity summary refusalReason).repairable = false :=
    ⟨reported_grounded finding severity summary refusalReason, rfl⟩
  unfold requirementIssues at member
  rcases List.mem_append.mp member with ofMilestone | member
  · unfold milestoneIssues at ofMilestone
    split at ofMilestone
    · cases ofMilestone
    · split at ofMilestone
      · rw [List.mem_singleton.mp ofMilestone]; exact reports _ _ _ _
      · cases ofMilestone
  · split at member
    · cases member
    · rcases List.mem_append.mp member with competing | duplicate
      · split at competing
        · rw [List.mem_singleton.mp competing]; exact reports _ _ _ _
        · cases competing
      · split at duplicate
        · rw [List.mem_singleton.mp duplicate]; exact reports _ _ _ _
        · cases duplicate

theorem satisfied_completion {status : TaskStatus}
    (satisfied : PrerequisiteRequirement.satisfied .completion status = true) : status = .completed := by
  cases status <;> first | rfl | cases satisfied

theorem correctionCommandFor_some {before after : TaskStatus} {command : SuggestedCommand}
    (suggested : correctionCommandFor before after = some command) :
    command = .recordCompletion ∧ historicalCompletionRefusal before = none := by
  unfold correctionCommandFor at suggested
  split at suggested
  · next applicable => cases suggested; exact ⟨rfl, applicable.2⟩
  · cases suggested

theorem pipelineTarget_cases (terminal : List PipelineRunProps) :
    pipelineTarget terminal = .completed ∨ pipelineTarget terminal = .cancelled := by
  unfold pipelineTarget
  split
  · exact .inl rfl
  · exact .inr rfl

/-- The issue of a terminal pipeline, and what it takes to be repaired. -/
theorem terminalPipelineIssue_ok {terminal : List PipelineRunProps} {hasActive : Bool}
    (returned : terminalPipelineIssue office projectId task terminal hasActive issues = .ok issue) :
    Grounded office projectId task issue ∧
      (issue.repairable = true → ∀ earlier ∈ issues, earlier.taskId = task.id → earlier.repairable = false) := by
  dsimp only [terminalPipelineIssue] at returned
  obtain ⟨blockedBy, blocked, returned⟩ := bind_ok returned
  have operationTo : (if pipelineTarget terminal = .completed then TaskLifecycleOperation.complete else .cancel).to =
      pipelineTarget terminal := by
    rcases pipelineTarget_cases terminal with target | target <;> rw [target] <;> rfl
  have outcome : (if pipelineTarget terminal = .completed then TaskLifecycleOperation.complete else .cancel) ∈
      [TaskLifecycleOperation.complete, .cancel] := by
    split <;> decide
  have takes (reachable : pipelineTarget terminal ∈ taskTransitions task.status) (satisfied : blockedBy = []) :
      Takes office projectId task
        (if pipelineTarget terminal = .completed then .complete else .cancel) := by
    refine ⟨by rw [operationTo]; exact reachable, by split <;> nofun, fun completes id member => ?_⟩
    rw [completes, openPrerequisites, if_pos rfl, satisfied, blockingPrerequisites_none_iff] at blocked
    obtain ⟨status, found, satisfies⟩ := blocked id member
    rw [found, satisfied_completion satisfies]
  cases returned
  refine ⟨⟨rfl, rfl, fun command suggested => ?_, fun repairable => ?_⟩, fun repairable => ?_⟩
  · dsimp only at suggested
    split at suggested
    · cases suggested
    next satisfied =>
    split at suggested
    · next reachable =>
      cases suggested
      exact ⟨takes reachable (not_not.mp satisfied), .inr ⟨outcome, rfl⟩⟩
    · obtain ⟨rfl, applicable⟩ := correctionCommandFor_some suggested
      exact applicable
  · dsimp only at repairable ⊢
    have conditions := repairable
    simp only [Bool.and_eq_true, decide_eq_true_eq, Bool.not_eq_true', decide_eq_false_iff_not, not_not] at conditions
    exact ⟨_, if_pos repairable, takes conditions.1.1.2 conditions.1.2, outcome⟩
  · dsimp only at repairable
    simp only [Bool.and_eq_true, Option.isNone_iff_eq_none, List.find?_eq_none, decide_eq_true_eq, not_and,
      Bool.not_eq_true] at repairable
    exact fun earlier member same => repairable.2 earlier member same

theorem standingIssues_grounded {hasActive explained : Bool}
    (member : issue ∈ standingIssues tables projectId task hasActive explained) :
    Grounded tables.office projectId task issue ∧ issue.repairable = false := by
  unfold standingIssues at member
  simp only [List.mem_append] at member
  rcases member with ((member | member) | member) | member
  all_goals
    split at member
    · rw [List.mem_singleton.mp member]
      refine ⟨⟨rfl, rfl, fun command suggested => ?_, nofun⟩, rfl⟩
      first
        | cases suggested
        | obtain ⟨rfl, applicable⟩ := correctionCommandFor_some suggested
          exact applicable
    · cases member

def repairedTasks (issues : List TaskReconciliationIssue) : List String :=
  (issues.filter (·.repairable)).map (·.taskId)

theorem filter_refused (refused : ∀ issue ∈ issues, issue.repairable = false) : issues.filter (·.repairable) = [] :=
  List.filter_eq_nil_iff.mpr fun issue member => by rw [refused issue member]; exact Bool.false_ne_true

theorem followingIssues_ok {terminal : List PipelineRunProps} {hasActive : Bool} {followed : List TaskReconciliationIssue}
    (returned : followingIssues office projectId task terminal hasActive issues = .ok followed) :
    followed.length ≤ 1 ∧ ∀ issue ∈ followed, Grounded office projectId task issue ∧
      (issue.repairable = true → ∀ earlier ∈ issues, earlier.taskId = task.id → earlier.repairable = false) := by
  unfold followingIssues at returned
  split at returned
  · obtain ⟨issue, computed, rfl⟩ := map_ok returned
    refine ⟨le_rfl, fun other member => ?_⟩
    rw [List.mem_singleton.mp member]
    exact terminalPipelineIssue_ok computed
  · cases returned
    exact ⟨Nat.zero_le 1, fun issue member => absurd member List.not_mem_nil⟩

/-- Inspecting a task adds issues of it, at most one of which is repaired. -/
theorem inspectTask_ok {after : List TaskReconciliationIssue}
    (inspected : inspectTask tables projectId issues task = .ok after) :
    ∃ added, after = issues ++ added ∧ (∀ issue ∈ added, Grounded tables.office projectId task issue) ∧
      (added.filter (·.repairable)).length ≤ 1 := by
  dsimp only [inspectTask] at inspected
  obtain ⟨followed, following, inspected⟩ := bind_ok inspected
  cases inspected
  obtain ⟨single, follows⟩ := followingIssues_ok following
  let ofDependencies := dependencyIssues tables.office projectId task
  let ofRequirements := (linkedTo tables projectId task.id).flatMap (requirementIssues tables projectId task)
  have requirements (issue : TaskReconciliationIssue) (member : issue ∈ ofRequirements) :
      Grounded tables.office projectId task issue ∧ issue.repairable = false := by
    obtain ⟨requirement, -, member⟩ := List.mem_flatMap.mp member
    exact requirementIssues_reported member
  refine ⟨ofDependencies ++ ofRequirements ++ followed ++ _, by simp only [List.append_assoc]; rfl, ?_, ?_⟩
  · intro issue member
    rw [List.mem_append, List.mem_append, List.mem_append] at member
    rcases member with ((member | member) | member) | member
    · exact dependencyIssues_grounded member
    · exact (requirements issue member).1
    · exact (follows issue member).1
    · exact (standingIssues_grounded member).1
  · rw [List.filter_append, List.filter_append, List.filter_append,
      filter_refused fun issue member => (requirements issue member).2,
      filter_refused fun issue member => (standingIssues_grounded member).2, List.append_nil, List.append_nil,
      List.length_append]
    cases repaired : followed.filter (·.repairable) with
    | nil => exact (Nat.add_zero _).trans_le ((List.length_filter_le _ _).trans dependencyIssues_length)
    | cons issue others =>
      have member : issue ∈ followed.filter (·.repairable) := repaired ▸ List.mem_cons_self
      obtain ⟨inFollowed, repairable⟩ := List.mem_filter.mp member
      have uncovered : ofDependencies.filter (·.repairable) = [] := by
        refine filter_refused fun earlier inDependencies => ?_
        refine (follows issue inFollowed).2 repairable earlier ?_ (dependencyIssues_grounded inDependencies).taskId
        exact List.mem_append_left _ (List.mem_append_right _ inDependencies)
      rw [uncovered, ← repaired]
      exact (Nat.zero_add _).trans_le ((List.length_filter_le _ _).trans single)

/-- Inspecting tasks with different ids: no two repairs are of the same task. -/
theorem inspectTasks_ok {tasks : List TaskProps} {after : List TaskReconciliationIssue}
    (unique : (tasks.map TaskProps.id).Nodup)
    (inspected : tasks.foldlM (inspectTask tables projectId) issues = .ok after) :
    ∃ added, after = issues ++ added ∧ (∀ issue ∈ added, ∃ task ∈ tasks, Grounded tables.office projectId task issue) ∧
      (repairedTasks added).Nodup := by
  induction tasks generalizing issues with
  | nil =>
    cases inspected
    exact ⟨[], (List.append_nil _).symm, fun issue member => absurd member List.not_mem_nil, List.nodup_nil⟩
  | cons task tasks ih =>
    rw [List.foldlM_cons] at inspected
    obtain ⟨middle, first, later⟩ := bind_ok inspected
    obtain ⟨own, rfl, grounded, single⟩ := inspectTask_ok first
    obtain ⟨fresh, others⟩ := List.nodup_cons.mp unique
    obtain ⟨rest, rfl, groundedRest, nodup⟩ := ih others later
    refine ⟨own ++ rest, List.append_assoc _ _ _, ?_, ?_⟩
    · intro issue member
      rcases List.mem_append.mp member with inOwn | inRest
      · exact ⟨task, List.mem_cons_self, grounded issue inOwn⟩
      · obtain ⟨other, member, groundedOther⟩ := groundedRest issue inRest
        exact ⟨other, List.mem_cons_of_mem task member, groundedOther⟩
    · unfold repairedTasks at nodup ⊢
      rw [List.filter_append, List.map_append, List.nodup_append']
      refine ⟨?_, nodup, ?_⟩
      · cases repaired : own.filter (·.repairable) with
        | nil => exact List.nodup_nil
        | cons issue others =>
          rw [repaired, List.length_cons] at single
          rw [List.length_eq_zero_iff.mp (Nat.le_zero.mp (Nat.le_of_succ_le_succ single))]
          exact List.nodup_singleton _
      · intro id inOwn inRest
        obtain ⟨issue, member, rfl⟩ := List.mem_map.mp inOwn
        obtain ⟨other, memberOther, same⟩ := List.mem_map.mp inRest
        obtain ⟨found, inTasks, groundedOther⟩ := groundedRest other (List.mem_filter.mp memberOther).1
        refine fresh (List.mem_map.mpr ⟨found, inTasks, ?_⟩)
        rw [← groundedOther.taskId, same, (grounded issue (List.mem_filter.mp member).1).taskId]

theorem cycleIssues_mem {tasks : List TaskProps} {validated edges : List TaskDependency}
    (member : issue ∈ cycleIssues tasks validated edges) :
    ∃ task ∈ tasks, issue = reported task .invalidTaskDependency .inconsistent "blocking dependencies contain a cycle"
      "cycle requires explicit operator correction" := by
  induction edges generalizing validated with
  | nil => cases member
  | cons edge edges ih =>
    rw [cycleIssues, List.mem_append] at member
    rcases member with here | later
    · split at here
      · cases here
      · rw [Option.mem_toList, Option.map_eq_some_iff] at here
        obtain ⟨task, found, same⟩ := here
        exact ⟨task, List.mem_of_find?_eq_some found, same.symm⟩
    · exact ih later

theorem cycleIssues_reported {tasks : List TaskProps} {validated edges : List TaskDependency}
    (member : issue ∈ cycleIssues tasks validated edges) :
    issue.repairable = false ∧ ∃ task ∈ tasks, Grounded office projectId task issue := by
  obtain ⟨task, inTasks, same⟩ := cycleIssues_mem member
  rw [same]
  exact ⟨reported_refused _ _ _ _, task, inTasks, reported_grounded _ _ _ _⟩

theorem deferConflict_taskId (repaired : List String) :
    (deferConflict office projectId repaired issue).taskId = issue.taskId := by
  unfold deferConflict
  split
  · rfl
  · split <;> rfl

theorem deferConflict_repairable {repaired : List String}
    (repairable : (deferConflict office projectId repaired issue).repairable = true) :
    deferConflict office projectId repaired issue = issue ∧
      (issue.reviewExits.isSome = true → ∀ id ∈ prerequisiteIds office projectId issue.taskId, id ∉ repaired) := by
  unfold deferConflict at repairable ⊢
  split at repairable
  · next pipeline =>
    rw [if_pos pipeline]
    refine ⟨rfl, fun exits => ?_⟩
    rw [repairable, Bool.not_true, Bool.false_or, Option.isNone_iff_eq_none] at pipeline
    rw [pipeline] at exits
    cases exits
  · next review =>
    rw [if_neg review]
    split at repairable
    · next alone =>
      refine ⟨rfl, fun _ id member => ?_⟩
      simpa using List.find?_eq_none.mp alone id member
    · cases repairable

theorem deferConflict_grounded (grounded : Grounded office projectId task issue) (repaired : List String) :
    Grounded office projectId task (deferConflict office projectId repaired issue) := by
  unfold deferConflict
  split
  · exact grounded
  · split
    · exact grounded
    · refine ⟨grounded.taskId, grounded.status, fun command suggested => ?_, fun repairable => ?_⟩
      · cases suggested
      · cases repairable

theorem repairedTasks_defer (repaired : List String) :
    (repairedTasks (issues.map (deferConflict office projectId repaired))).Sublist (repairedTasks issues) := by
  unfold repairedTasks
  induction issues with
  | nil => exact List.Sublist.refl _
  | cons issue issues ih =>
    rw [List.map_cons, List.filter_cons, List.filter_cons]
    by_cases kept : (deferConflict office projectId repaired issue).repairable = true
    · have same := (deferConflict_repairable kept).1
      rw [if_pos kept, same, if_pos (same ▸ kept), List.map_cons, List.map_cons]
      exact ih.cons_cons _
    · rw [if_neg kept]
      split
      · rw [List.map_cons]
        exact ih.cons _
      · exact ih

theorem mem_tasksOf : task ∈ tasksOf office projectId ↔ task ∈ office.tasks ∧ task.projectId = projectId := by
  rw [tasksOf, mem_sortOn, List.mem_filter, decide_eq_true_eq]

theorem tasksOf_nodup (unique : (office.tasks.map TaskProps.id).Nodup) :
    ((tasksOf office projectId).map TaskProps.id).Nodup :=
  ((sortOn_perm _ _).map TaskProps.id).nodup_iff.mpr (unique.sublist (List.filter_sublist.map TaskProps.id))

/-- What a report says: every issue holds of its task, no task is repaired twice, and a review-exit repair has no
prerequisite that is repaired too. -/
structure Plan (office : OfficeTables) (projectId : String) (issues : List TaskReconciliationIssue) : Prop where
  grounded : ∀ issue ∈ issues, ∃ task ∈ office.tasks, task.projectId = projectId ∧
    Grounded office projectId task issue
  once : (repairedTasks issues).Nodup
  apart : ∀ issue ∈ issues, issue.repairable = true → issue.reviewExits.isSome = true →
    ∀ id ∈ prerequisiteIds office projectId issue.taskId, id ∉ repairedTasks issues

theorem findIssues_ok (unique : (tables.office.tasks.map TaskProps.id).Nodup)
    (found : findIssues projectId tables = .ok issues) : Plan tables.office projectId issues := by
  obtain ⟨inspected, computed, found⟩ := bind_ok found
  cases found
  obtain ⟨added, same, grounded, once⟩ := inspectTasks_ok (tasksOf_nodup unique) computed
  rw [List.nil_append] at same
  subst same
  let cycles := cycleIssues (tasksOf tables.office projectId) [] (dependenciesOf tables.office projectId)
  have all (issue : TaskReconciliationIssue) (member : issue ∈ inspected ++ cycles) :
      ∃ task ∈ tasksOf tables.office projectId, Grounded tables.office projectId task issue := by
    rcases List.mem_append.mp member with ofTask | ofCycle
    · exact grounded issue ofTask
    · exact (cycleIssues_reported ofCycle).2
  have repaired : repairedTasks (inspected ++ cycles) = repairedTasks inspected := by
    unfold repairedTasks
    rw [List.filter_append, filter_refused fun issue member => (@cycleIssues_reported tables.office projectId _ _ _ _ member).1,
      List.append_nil]
  constructor
  · intro issue member
    obtain ⟨origin, inIssues, rfl⟩ := List.mem_map.mp member
    obtain ⟨task, inTasks, holds⟩ := all origin inIssues
    obtain ⟨stored, inProject⟩ := mem_tasksOf.mp inTasks
    exact ⟨task, stored, inProject, deferConflict_grounded holds _⟩
  · exact (repaired ▸ once : (repairedTasks (inspected ++ cycles)).Nodup).sublist (repairedTasks_defer _)
  · intro issue member repairable exits id prerequisite repairedToo
    obtain ⟨origin, inIssues, rfl⟩ := List.mem_map.mp member
    obtain ⟨same, alone⟩ := deferConflict_repairable repairable
    rw [same] at exits
    rw [deferConflict_taskId] at prerequisite
    exact alone exits id prerequisite ((repairedTasks_defer _).mem repairedToo)

end AiOffice.Application.ReconcileTasks
