import AiOffice.Application.ManageAgentRuns.Effects
import AiOffice.Application.ReconcileTasks.Repair

namespace AiOffice.Application

open Data Outcome Domain Domain.Capability Storage.AgentRuntime Storage.Office

namespace ManageTaskLifecycle

variable {Json : Type} [DecidableEq Json]

/-- A lifecycle command. Once the transition of a cancelled task is committed, the runs of the task are cancelled. -/
def execute (recovery : RunRecovery Json) (request : TaskLifecycleRequest) (now : Date) (cancelledAt : String → Date)
    (office : OfficeTables) (host : RuntimeHost Json) : Except Thrown Unit × OfficeTables × RuntimeHost Json :=
  match perform request now office with
  | .error thrown => (.error thrown, office, host)
  | .ok after =>
    if request.operation ≠ .cancel then (.ok ⟨⟩, after, host)
    else
      let cancelled := ManageAgentRuns.cancelTaskRuns recovery request.projectId request.taskId
        (request.reason.getD "Task cancelled") cancelledAt host
      (cancelled.1, after, cancelled.2)

end ManageTaskLifecycle

namespace ReconcileTasks

variable {tables : ReconciliationTables} {office : OfficeTables} {projectId : String} {task : TaskProps}
  {issue : TaskReconciliationIssue} {operation : TaskLifecycleOperation} {reason : Option String} {now : Date}

theorem Accepts.resolves (stored : StoredTasks office)
    (accepts : Accepts office projectId task (.lifecycle operation reason)) :
    ∃ resolved, ManageTaskLifecycle.resolveReason operation reason = .ok resolved := by
  rcases accepts.2 with ⟨rfl, exits, answers, length, rfl⟩ | ⟨outcome, rfl⟩
  · obtain ⟨given, normalized⟩ := answers.normalized stored length "block reason"
    refine ⟨some given, ?_⟩
    rw [ManageTaskLifecycle.resolveReason, if_neg (by decide)]
    change (normalizeTaskReason _ "block reason").map some = _
    rw [normalized]
    rfl
  · refine ⟨none, ?_⟩
    rcases List.mem_cons.mp outcome with rfl | cancels
    · rfl
    · obtain rfl := List.mem_singleton.mp cancels
      rfl

theorem Accepts.performs (stored : StoredTasks office) (known : projectId ∈ office.projects)
    (member : task ∈ office.tasks) (inProject : task.projectId = projectId)
    (accepts : Accepts office projectId task (.lifecycle operation reason)) :
    ManageTaskLifecycle.perform ⟨projectId, task.id, operation, reason⟩ now office =
      .ok (moveTask office task.id operation now) := by
  obtain ⟨resolved, accepted⟩ := accepts.resolves stored
  exact perform_returns stored known member inProject accepts.1 accepted

theorem Accepts.records (stored : StoredTasks office) (known : projectId ∈ office.projects)
    (member : task ∈ office.tasks) (inProject : task.projectId = projectId)
    (accepts : Accepts office projectId task .recordCompletion) {rationale given : String}
    (normalized : normalizeTaskReason rationale "completion record reason" = .ok given)
    (digest : TaskProps → String → String) :
    RecordTaskCompletion.record digest ⟨projectId, task.id, rationale, digest task given⟩ now office =
      .ok (moveTask office task.id .complete now) := by
  have applicable : historicalCompletionRefusal task.status = none := accepts
  have required : requireTask projectId task.id office = .ok task := by
    rw [requireTask, if_neg (not_not.mpr known), stored.findTask member]
    dsimp only
    rw [if_neg (not_not.mpr inProject)]
  have admitted : taskUpdateRefused office task { task with status := .completed, updatedAt := now } = false := by
    have idle : task.status ∉ [TaskStatus.running, .waitingReview] := by
      intro busy
      revert applicable busy
      cases task.status <;> decide
    simp [taskUpdateRefused, idle]
  have recorded : Task.recordHistoricalCompletion task now =
      .ok { task with status := .completed, updatedAt := now } := by
    rw [Task.recordHistoricalCompletion, applicable]
  unfold RecordTaskCompletion.record
  rw [bind_returns normalized, bind_returns required, if_neg (by simp [applicable]),
    bind_returns recorded, saveTask, stored.findTask member]
  dsimp only
  have moves : office.replaceTask { task with status := TaskLifecycleOperation.complete.to, updatedAt := now } =
      moveTask office task.id .complete now := replaceTask_moves stored member
  rw [if_neg (by rw [admitted]; exact Bool.false_ne_true)]
  exact congrArg _ moves

variable {Json : Type} [DecidableEq Json] {planHash : PlanHash} {inspectedAt : Date}
  {report : TaskReconciliationReport}

/-- What executing a lifecycle command does: its transition is committed. Nothing refuses the command then, except that
the runs of a cancelled task are not all cancelled when one of them has an ambiguous effect. -/
structure Commits (recovery : RunRecovery Json) (request : TaskLifecycleRequest) (now : Date)
    (cancelledAt : String → Date) (office : OfficeTables) (host : RuntimeHost Json) : Prop where
  committed : (ManageTaskLifecycle.execute recovery request now cancelledAt office host).2.1 =
    moveTask office request.taskId request.operation now
  accepted : ManageAgentRuns.StoredRuns recovery host request.projectId cancelledAt →
    ((ManageTaskLifecycle.execute recovery request now cancelledAt office host).1 = .ok ⟨⟩ ↔
      (request.operation = .cancel → ∀ row ∈ host.tables.runs,
        ¬ManageAgentRuns.BlocksCancellation recovery host request.projectId request.taskId row))

theorem Accepts.commits (stored : StoredTasks office) (known : projectId ∈ office.projects)
    (member : task ∈ office.tasks) (inProject : task.projectId = projectId)
    (accepts : Accepts office projectId task (.lifecycle operation reason)) (recovery : RunRecovery Json)
    (cancelledAt : String → Date) (host : RuntimeHost Json) :
    Commits recovery ⟨projectId, task.id, operation, reason⟩ now cancelledAt office host := by
  have performed : ManageTaskLifecycle.perform ⟨projectId, task.id, operation, reason⟩ now office = _ :=
    accepts.performs stored known member inProject
  by_cases cancels : operation = .cancel
  · subst cancels
    have unexplained : reason = none := by
      rcases accepts.2 with ⟨blocks, -⟩ | ⟨-, none⟩
      · cases blocks
      · exact none
    subst unexplained
    have executed : ManageTaskLifecycle.execute recovery ⟨projectId, task.id, .cancel, none⟩ now cancelledAt office host =
        ((ManageAgentRuns.cancelTaskRuns recovery projectId task.id "Task cancelled" cancelledAt host).1,
          moveTask office task.id .cancel now,
          (ManageAgentRuns.cancelTaskRuns recovery projectId task.id "Task cancelled" cancelledAt host).2) := by
      rw [ManageTaskLifecycle.execute, performed]
      rfl
    refine ⟨by rw [executed], fun runs => ?_⟩
    have normalized : normalizeTaskReason "Task cancelled" "Cancellation reason" = .ok "Task cancelled" := by
      decide
    have again : normalizeTaskReason "Task cancelled" "Recovery reason" = .ok "Task cancelled" := by decide
    rw [executed, ManageAgentRuns.cancelTaskRuns_returns_iff runs normalized again]
    exact ⟨fun clear _ => clear, fun clear => clear rfl⟩
  · have executed : ManageTaskLifecycle.execute recovery ⟨projectId, task.id, operation, reason⟩ now cancelledAt office
        host = (.ok ⟨⟩, moveTask office task.id operation now, host) := by
      rw [ManageTaskLifecycle.execute, performed]
      exact if_pos cancels
    refine ⟨by rw [executed], fun _ => ?_⟩
    rw [executed]
    exact ⟨fun _ cancelled => absurd cancelled cancels, fun _ => rfl⟩

def plainRecovery : RunRecovery String where
  codec := ⟨"null", .ok, .ok, .ok, .ok⟩
  planHash := fun evidence => evidence.reason
  localeCompare := fun left right => if left < right then -1 else if left = right then 0 else 1
  isWorker := fun execution => execution = "worker"
  operatorCancelled := "OPERATOR_CANCELLED"
  interruptedRunResolved := "INTERRUPTED_RUN_RESOLVED"

/-- The task of `exitedTables` while an agent run works on it. -/
def busyTables : ReconciliationTables :=
  { exitedTables with
    office := { exitedTables.office with
      agentRuns := [⟨"run", "project", "dependent", "agent", none, none, .running⟩] } }

def busyReport : TaskReconciliationReport where
  projectId := "project"
  generatedAt := 4
  tasksInspected := 2
  issues := [reviewExitIssue dependentTask [⟨"prerequisite", .failed⟩] true]
  planHash := none

def busyHost : RuntimeHost String where
  tables := {
    runs := [{
      id := "run"
      projectId := "project"
      taskId := "dependent"
      agentId := "agent"
      pipelineRunId := none
      pipelineStageRunId := none
      actionIntent := none
      roleGuidance := none
      execution := none
      modelRouting := none
      status := .running
      worktreePath := none
      result := none
      error := none
      createdAt := 2
      startedAt := some 3
      completedAt := none
      updatedAt := 3 }]
    events := []
    locks := [⟨"dependent", "run", 1800002⟩] }
  actions := [⟨"action", "project", "run", .executing, "payload", some .executing⟩]
  live := [⟨"run", false⟩]

end ReconcileTasks

end AiOffice.Application
