import AiOffice.Application.TaskCommands
import AiOffice.Domain.CodeUnits
import Mathlib.Data.Prod.Lex
import Mathlib.Order.Defs.LinearOrder
import Mathlib.Data.String.Basic

namespace AiOffice.Application

open Data Domain Storage.Office

inductive RequirementStatus
  | proposed
  | accepted
  | implemented
  | verified
  | rejected
  deriving DecidableEq

inductive MilestoneStatus
  | planned
  | active
  | completed
  | cancelled
  | archived
  deriving DecidableEq

structure RequirementRecord where
  id : String
  projectId : String
  milestoneId : Option String
  key : String
  status : RequirementStatus

structure MilestoneRecord where
  id : String
  projectId : String
  title : String
  status : MilestoneStatus

structure TaskRequirementLink where
  taskId : String
  requirementId : String

structure ReconciliationTables where
  office : OfficeTables
  requirements : List RequirementRecord
  milestones : List MilestoneRecord
  links : List TaskRequirementLink

structure RequirementProgress where
  total : Nat
  verified : Nat
  terminal : Nat
  openCount : Nat

def isTerminalRequirementStatus (status : RequirementStatus) : Bool := status = .verified || status = .rejected

def requirementProgress (requirements : List RequirementRecord) : RequirementProgress :=
  let total := requirements.length
  let terminal := requirements.countP fun requirement => isTerminalRequirementStatus requirement.status
  { total
    verified := requirements.countP fun requirement => requirement.status = .verified
    terminal
    openCount := total - terminal }

def TaskLifecycleOperation.command (operation : TaskLifecycleOperation) : String := s!"task:{operation.text}"

def taskCompletionRecordCommand : String := "task:record-completion"

namespace ReconcileTasks

inductive TaskReconciliationFinding
  | terminalPipelineOpenTask
  | activePipelineTerminalTask
  | stalePendingTask
  | completedTaskOpenRequirements
  | inFlightTaskWithoutExecution
  | completedMilestoneActiveTask
  | verifiedRequirementCompetingTasks
  | verifiedRequirementDuplicateTasks
  | blockingPrerequisiteIncomplete
  | invalidTaskDependency
  deriving DecidableEq

def TaskReconciliationFinding.text : TaskReconciliationFinding → String
  | .terminalPipelineOpenTask => "terminal_pipeline_open_task"
  | .activePipelineTerminalTask => "active_pipeline_terminal_task"
  | .stalePendingTask => "stale_pending_task"
  | .completedTaskOpenRequirements => "completed_task_open_requirements"
  | .inFlightTaskWithoutExecution => "in_flight_task_without_execution"
  | .completedMilestoneActiveTask => "completed_milestone_active_task"
  | .verifiedRequirementCompetingTasks => "verified_requirement_competing_tasks"
  | .verifiedRequirementDuplicateTasks => "verified_requirement_duplicate_tasks"
  | .blockingPrerequisiteIncomplete => "blocking_prerequisite_incomplete"
  | .invalidTaskDependency => "invalid_task_dependency"

inductive TaskReconciliationSeverity
  | inconsistent
  | warning
  deriving DecidableEq

/-- A prerequisite that left `waiting_review`. -/
structure ReviewExit where
  taskId : String
  exitedTo : TaskStatus
  deriving DecidableEq

/-- The command that an issue names, with the reason that it carries. -/
inductive SuggestedCommand
  | lifecycle (operation : TaskLifecycleOperation) (reason : Option String)
  | recordCompletion
  deriving DecidableEq

def hexDigits : List String :=
  ["0", "1", "2", "3", "4", "5", "6", "7", "8", "9", "a", "b", "c", "d", "e", "f"]

def jsonEscape (char : Char) : String :=
  match char.toNat with
  | 0x08 => "\\b"
  | 0x09 => "\\t"
  | 0x0A => "\\n"
  | 0x0C => "\\f"
  | 0x0D => "\\r"
  | 0x22 => "\\\""
  | 0x5C => "\\\\"
  | code =>
    if code < 0x20 then "\\u00" ++ hexDigits.getD (code / 16) "" ++ hexDigits.getD (code % 16) ""
    else char.toString

def jsonText (value : String) : String := "\"" ++ String.join (value.toList.map jsonEscape) ++ "\""

def SuggestedCommand.text : SuggestedCommand → String
  | .lifecycle operation none => operation.command
  | .lifecycle operation (some reason) => s!"{operation.command} --reason {jsonText reason}"
  | .recordCompletion => taskCompletionRecordCommand

structure TaskReconciliationIssue where
  finding : TaskReconciliationFinding
  severity : TaskReconciliationSeverity
  taskId : String
  title : String
  status : TaskStatus
  summary : String
  suggestedCommand : Option SuggestedCommand
  repairOperation : Option TaskLifecycleOperation
  repairable : Bool
  refusalReason : Option String
  reviewExits : Option (List ReviewExit)
  deriving DecidableEq

/-- An issue that is reported and neither repaired nor answered by a command. -/
def reported (task : TaskProps) (finding : TaskReconciliationFinding) (severity : TaskReconciliationSeverity)
    (summary refusalReason : String) : TaskReconciliationIssue where
  finding
  severity
  taskId := task.id
  title := task.title
  status := task.status
  summary
  suggestedCommand := none
  repairOperation := none
  repairable := false
  refusalReason := some refusalReason
  reviewExits := none

def activeRunStatuses : List AgentRunStatus := [.queued, .preparing, .running, .reviewing]

def inFlightTaskStatuses : List TaskStatus := [.assigned, .running, .waitingReview]

def tasksOf (tables : OfficeTables) (projectId : String) : List TaskProps :=
  sortOn (fun task => toLex (-task.priority, toLex (task.createdAt, task.id)))
    (tables.tasks.filter fun task => task.projectId = projectId)

def dependenciesOf (tables : OfficeTables) (projectId : String) : List TaskDependency :=
  sortOn (fun edge => toLex (edge.taskId, edge.dependsOnTaskId))
    (tables.dependencies.filter fun edge => edge.projectId = projectId)

def pipelinesOf (tables : OfficeTables) (projectId taskId : String) : List PipelineRunProps :=
  sortOn (fun run => toLex (run.createdAt, run.id))
    (tables.pipelines.filter fun run => run.projectId = projectId && run.taskId = taskId)

/-- The requirements that a task of the project links, in the order of their keys. -/
def linkedTo (tables : ReconciliationTables) (projectId taskId : String) : List RequirementRecord :=
  sortOn (fun requirement => toLex (requirement.key, requirement.id))
    (tables.links.filterMap fun link =>
      if link.taskId = taskId then
        tables.requirements.find? fun requirement =>
          requirement.id = link.requirementId && requirement.projectId = projectId
      else none)

def prerequisiteIds (tables : OfficeTables) (projectId taskId : String) : List String :=
  ((dependenciesOf tables projectId).filter fun edge => edge.taskId = taskId).map TaskDependency.dependsOnTaskId

/-- Whether an agent run of the project works, or waits to work, on a task. -/
def activeRun (tables : OfficeTables) (projectId taskId : String) : Bool :=
  tables.agentRuns.any fun run => run.projectId = projectId && run.taskId = taskId && run.status ∈ activeRunStatuses

def isReviewExit (status : TaskStatus) : Bool := status ∈ [TaskStatus.blocked, .failed, .cancelled]

def reviewExitRepairReason (exits : List ReviewExit) : String :=
  let named := exits.take 3
  let rest := exits.length - named.length
  let clauses := ", ".intercalate (named.map fun exit =>
    s!"prerequisite {exit.taskId} exited review to {exit.exitedTo.text}")
  s!"reconciled: {clauses}" ++ if rest = 0 then "" else s!", and {rest} more"

def correctionCommandFor (before after : TaskStatus) : Option SuggestedCommand :=
  if after = .completed ∧ historicalCompletionRefusal before = none then some .recordCompletion else none

def listed (blocked : List BlockingPrerequisite) : String :=
  ", ".intercalate (blocked.map fun item => s!"{item.taskId} ({item.status.text})")

def exitClause (exit : BlockingPrerequisite) : String :=
  s!"prerequisite {exit.taskId} exited waiting_review -> {exit.status.text}" ++
    if isTerminalTaskStatus exit.status then " and can never complete this task"
    else "; work is stalled until the prerequisite recovers"

/-- The issue of a task that was started, and of whose prerequisites some left review since. -/
def reviewExitIssue (task : TaskProps) (blockedBy : List BlockingPrerequisite) (executing : Bool) :
    TaskReconciliationIssue :=
  let exits := blockedBy.filter fun item => isReviewExit item.status
  let live := blockedBy.filter fun item => !isReviewExit item.status
  let terminal := exits.any fun item => isTerminalTaskStatus item.status
  let operation : TaskLifecycleOperation := if terminal then .cancel else .block
  let unmet := listed live
  let clauses := "; ".intercalate (exits.map exitClause ++ if live = [] then [] else [s!"still unmet: {unmet}"])
  let reviewExits := exits.map fun item => (⟨item.taskId, item.status⟩ : ReviewExit)
  { finding := .blockingPrerequisiteIncomplete
    severity := if terminal then .inconsistent else .warning
    taskId := task.id
    title := task.title
    status := task.status
    summary := s!"started under review-ready admission; {clauses}"
    suggestedCommand := some (.lifecycle operation
      (if operation = .block then some (reviewExitRepairReason reviewExits) else none))
    repairOperation := if executing then none else some operation
    repairable := !executing
    refusalReason :=
      if executing then some "an active pipeline or agent run is executing this task; the batch repair does not stop live execution, so apply the suggested command directly once that work is accounted for"
      else none
    reviewExits := some reviewExits }

def dependencyIssues (tables : OfficeTables) (projectId : String) (task : TaskProps) : List TaskReconciliationIssue :=
  match blockingPrerequisites (tables.statuses projectId) .start (prerequisiteIds tables projectId task.id) with
  | .error _ =>
    [reported task .invalidTaskDependency .inconsistent "a prerequisite task reference is missing"
      "planning reference requires operator inspection"]
  | .ok blockedBy =>
    if blockedBy = [] ∨ isTerminalTaskStatus task.status then []
    else
      let started := task.status = .running || task.status = .waitingReview
      let unmet := listed blockedBy
      if started && blockedBy.any fun item => isReviewExit item.status then
        [reviewExitIssue task blockedBy (activeRun tables projectId task.id ||
          (pipelinesOf tables projectId task.id).any fun run => run.status = .active)]
      else
        [reported task .blockingPrerequisiteIncomplete .warning
          (if started then s!"started with prerequisites neither completed nor in review: {unmet}; completing it requires every prerequisite completed"
            else s!"cannot start until prerequisites are completed or in review: {unmet}")
          (if started then "prerequisites must be completed before this task can complete; resolve them through their own lifecycle"
            else "prerequisites must reach review or completion through their own lifecycle")]

def milestoneOf (tables : ReconciliationTables) (projectId : String) (requirement : RequirementRecord) :
    Option MilestoneRecord :=
  requirement.milestoneId.bind fun id =>
    tables.milestones.find? fun milestone => milestone.id = id && milestone.projectId = projectId

def isLowerLetter (char : Char) : Bool := 'a' ≤ char && char ≤ 'z'

/-- The lower case of a title: of the letters outside ASCII, only these two have one that holds an ASCII letter. -/
def lowerTitle (value : String) : List Char :=
  value.toList.flatMap fun char =>
    if char.toNat = 0x212A then ['k']
    else if char.toNat = 0x0130 then ['i', Char.ofNat 0x0307]
    else [char.toLower]

/-- Drop a key such as `abc-12d:` at the start of a title. -/
def dropKey (title : List Char) : List Char :=
  let letters := title.takeWhile isLowerLetter
  match title.dropWhile isLowerLetter with
  | '-' :: rest =>
    let digits := rest.takeWhile Char.isDigit
    let suffix := rest.dropWhile Char.isDigit
    let suffix := match suffix with
      | char :: later => if isLowerLetter char then later else suffix
      | [] => []
    match suffix with
    | ':' :: later =>
      if 1 ≤ letters.length ∧ letters.length ≤ 12 ∧ digits ≠ [] then later.dropWhile isWhiteSpace else title
    | _ => title
  | _ => title

def normalizeTitle (value : String) : List Char :=
  [' '].intercalate (((dropKey (lowerTitle value)).splitOnP fun char =>
    !(isLowerLetter char || char.isDigit)).filter fun word => !word.isEmpty)

def similarTaskTitles (left right : String) : Bool :=
  let first := normalizeTitle left
  let second := normalizeTitle right
  decide (12 ≤ first.length) && decide (12 ≤ second.length) &&
    (first = second || (second ++ [' ']).isPrefixOf first || (first ++ [' ']).isPrefixOf second)

def peersOf (tables : ReconciliationTables) (projectId requirementId : String) : List TaskProps :=
  (tasksOf tables.office projectId).filter fun task =>
    (linkedTo tables projectId task.id).any fun requirement => requirement.id = requirementId

def isCompeting (task peer : TaskProps) : Bool :=
  peer.id ≠ task.id && peer.status = .completed && task.status ∈ inFlightTaskStatuses &&
    similarTaskTitles peer.title task.title

def isDuplicate (task peer : TaskProps) : Bool :=
  peer.id ≠ task.id && isTerminalTaskStatus peer.status && isTerminalTaskStatus task.status &&
    (decide (peer.createdAt < task.createdAt) ||
      peer.createdAt = task.createdAt && decide (codeUnits peer.id < codeUnits task.id)) &&
    similarTaskTitles peer.title task.title

def milestoneIssues (tables : ReconciliationTables) (projectId : String) (task : TaskProps)
    (requirement : RequirementRecord) : List TaskReconciliationIssue :=
  match milestoneOf tables projectId requirement with
  | none => []
  | some milestone =>
    if (milestone.status = .completed ∨ milestone.status = .archived) ∧ task.status ∈ inFlightTaskStatuses then
      [reported task .completedMilestoneActiveTask .inconsistent
        s!"completed milestone {milestone.title} still has task {task.status.text}"
        "milestone status cannot attest to a task outcome"]
    else []

def requirementIssues (tables : ReconciliationTables) (projectId : String) (task : TaskProps)
    (requirement : RequirementRecord) : List TaskReconciliationIssue :=
  milestoneIssues tables projectId task requirement ++
  if requirement.status ≠ .verified then []
  else
    let peers := peersOf tables projectId requirement.id
    (match peers.find? (isCompeting task) with
      | some competing =>
        [reported task .verifiedRequirementCompetingTasks .warning
          s!"verified requirement {requirement.key} has completed task {competing.id} and similar task {task.id} still {task.status.text}"
          "multiple linked tasks may be legitimate slices; an operator must reconcile duplicates"]
      | none => []) ++
    (match peers.find? (isDuplicate task) with
      | some duplicate =>
        [reported task .verifiedRequirementDuplicateTasks .warning
          s!"verified requirement {requirement.key} links similar terminal tasks {duplicate.id} and {task.id}"
          "terminal task history is immutable; inspect links and document supersession"]
      | none => [])

def pipelineStatusText : PipelineRunStatus → String
  | .active => "active"
  | .completed => "completed"
  | .cancelled => "cancelled"

def pipelineTarget (terminal : List PipelineRunProps) : TaskStatus :=
  if terminal.any fun run => run.status = .completed then .completed else .cancelled

/-- What still blocks the completion of a task; other operations do not wait for prerequisites. -/
def openPrerequisites (tables : OfficeTables) (projectId taskId : String) (operation : TaskLifecycleOperation) :
    Except Thrown (List BlockingPrerequisite) :=
  if operation = .complete then
    blockingPrerequisites (tables.statuses projectId) .completion (prerequisiteIds tables projectId taskId)
  else .ok []

/-- The issue of a task that did not follow its terminal pipelines. `issues` are those found before it. -/
def terminalPipelineIssue (tables : OfficeTables) (projectId : String) (task : TaskProps)
    (terminal : List PipelineRunProps) (hasActive : Bool) (issues : List TaskReconciliationIssue) :
    Except Thrown TaskReconciliationIssue := do
  let outcomes := (terminal.map PipelineRunProps.status).eraseDups
  let ambiguous := decide (1 < outcomes.length) || hasActive
  let target := pipelineTarget terminal
  let operation : TaskLifecycleOperation := if target = .completed then .complete else .cancel
  let reachable := target ∈ taskTransitions task.status
  let blockedBy ← openPrerequisites tables projectId task.id operation
  let prerequisitesOpen := blockedBy ≠ []
  let covering := issues.find? fun issue => issue.taskId = task.id && issue.repairable
  let repairable := !ambiguous && reachable && !prerequisitesOpen && covering.isNone
  let shown := "/".intercalate (outcomes.map pipelineStatusText)
  return {
    finding := .terminalPipelineOpenTask
    severity := .inconsistent
    taskId := task.id
    title := task.title
    status := task.status
    summary := s!"pipeline {shown} while task is {task.status.text}"
    suggestedCommand :=
      if prerequisitesOpen then none
      else if reachable then some (.lifecycle operation none)
      else correctionCommandFor task.status target
    repairOperation := if repairable then some operation else none
    repairable
    refusalReason :=
      if ambiguous then some "pipelines for this task disagree or one is still active"
      else match covering with
      | some covering => some s!"already covered by the {covering.finding.text} repair in this plan; one task takes at most one repair per approved plan"
      | none =>
        if reachable then
          if prerequisitesOpen then some "completion requires every prerequisite to be completed" else none
        else some s!"task cannot move from {task.status.text} to {target.text}"
    reviewExits := none }

def standingIssues (tables : ReconciliationTables) (projectId : String) (task : TaskProps)
    (hasActive explainedByPipeline : Bool) : List TaskReconciliationIssue :=
  let progress := requirementProgress (linkedTo tables projectId task.id)
  (if hasActive && isTerminalTaskStatus task.status then
    [reported task .activePipelineTerminalTask .inconsistent
      s!"pipeline still active while task is {task.status.text}"
      "a terminal task cannot be reopened, and cancelling live execution is not a reconciliation decision"] else []) ++
  (if (task.status = .pending ∨ task.status = .assigned) ∧ 0 < progress.total ∧ progress.openCount = 0 then
    [{ reported task .stalePendingTask .warning
        s!"task is {task.status.text} while {progress.terminal}/{progress.total} linked requirements are terminal"
        "requirement completion alone is insufficient evidence that operational work completed" with
      suggestedCommand := correctionCommandFor task.status .completed }] else []) ++
  (if task.status = .completed ∧ 0 < progress.openCount then
    [reported task .completedTaskOpenRequirements .warning
      s!"task is completed while {progress.openCount}/{progress.total} linked requirements are still open"
      "requirement acceptance is governance state and is never changed by task reconciliation"] else []) ++
  (if !explainedByPipeline && task.status ∈ inFlightTaskStatuses && !hasActive &&
      !activeRun tables.office projectId task.id then
    [reported task .inFlightTaskWithoutExecution .warning
      s!"task is {task.status.text} with no active pipeline run and no active agent run"
      "absence of execution does not distinguish finished, abandoned, and blocked work"] else [])

/-- The issue of a task that is open while pipelines of it ended, if it is. -/
def followingIssues (tables : OfficeTables) (projectId : String) (task : TaskProps)
    (terminal : List PipelineRunProps) (hasActive : Bool) (issues : List TaskReconciliationIssue) :
    Except Thrown (List TaskReconciliationIssue) :=
  if terminal ≠ [] ∧ !isTerminalTaskStatus task.status then
    (terminalPipelineIssue tables projectId task terminal hasActive issues).map fun issue => [issue]
  else .ok []

def inspectTask (tables : ReconciliationTables) (projectId : String) (issues : List TaskReconciliationIssue)
    (task : TaskProps) : Except Thrown (List TaskReconciliationIssue) := do
  let pipelines := pipelinesOf tables.office projectId task.id
  let terminal := pipelines.filter fun run => run.status ≠ .active
  let hasActive := pipelines.any fun run => run.status = .active
  let issues := issues ++ dependencyIssues tables.office projectId task ++
    (linkedTo tables projectId task.id).flatMap (requirementIssues tables projectId task)
  let followed ← followingIssues tables.office projectId task terminal hasActive issues
  return issues ++ followed ++ standingIssues tables projectId task hasActive (followed ≠ [])

/-- Whether the task at the end of an edge is reached from the queue. Each step takes one task off the queue, and an
edge is followed once, so more steps than edges are never needed. -/
def reaches (target : String) : Nat → List TaskDependency → List String → Bool
  | 0, _, _ => false
  | _ + 1, _, [] => false
  | steps + 1, edges, current :: queue =>
    if current = target then true
    else
      reaches target steps (edges.filter fun edge => edge.dependsOnTaskId ≠ current)
        (queue ++ (edges.filter fun edge => edge.dependsOnTaskId = current).map TaskDependency.taskId)

def assertAcyclicDependency (taskId dependsOnTaskId : String) (edges : List TaskDependency) : Except Thrown Unit :=
  if taskId = dependsOnTaskId then .error ⟨.taskDependencyError, "A task cannot depend on itself"⟩
  else if reaches dependsOnTaskId (edges.length + 1) edges [taskId] then
    .error ⟨.taskDependencyError, "Task dependency would create a cycle"⟩
  else .ok ⟨⟩

def cycleIssues (tasks : List TaskProps) (validated : List TaskDependency) :
    List TaskDependency → List TaskReconciliationIssue
  | [] => []
  | edge :: edges =>
    (match assertAcyclicDependency edge.taskId edge.dependsOnTaskId validated with
      | .ok _ => []
      | .error _ =>
        ((tasks.find? fun task => task.id = edge.taskId).map fun task =>
          reported task .invalidTaskDependency .inconsistent "blocking dependencies contain a cycle"
            "cycle requires explicit operator correction").toList) ++
    cycleIssues tasks (validated ++ [edge]) edges

/-- A review-exit repair waits for the repairs of the prerequisites of its task. -/
def deferConflict (tables : OfficeTables) (projectId : String) (repairedTasks : List String)
    (issue : TaskReconciliationIssue) : TaskReconciliationIssue :=
  if !issue.repairable || issue.reviewExits.isNone then issue
  else match (prerequisiteIds tables projectId issue.taskId).find? (repairedTasks.contains ·) with
  | none => issue
  | some conflict =>
    { issue with
      repairable := false
      repairOperation := none
      suggestedCommand := none
      refusalReason :=
        some s!"prerequisite {conflict} has its own repair in this plan; apply it first, then re-inspect" }

structure PlannedRepair where
  taskId : String
  finding : TaskReconciliationFinding
  status : TaskStatus
  operation : Option TaskLifecycleOperation
  reviewExits : Option (List ReviewExit)

structure TaskReconciliationReport where
  projectId : String
  generatedAt : Date
  tasksInspected : Nat
  issues : List TaskReconciliationIssue
  planHash : Option String
  deriving DecidableEq

abbrev PlanHash := String → List PlannedRepair → String

def planned (issue : TaskReconciliationIssue) : PlannedRepair where
  taskId := issue.taskId
  finding := issue.finding
  status := issue.status
  operation := issue.repairOperation
  reviewExits := issue.reviewExits

def findIssues (projectId : String) (tables : ReconciliationTables) :
    Except Thrown (List TaskReconciliationIssue) := do
  let tasks := tasksOf tables.office projectId
  let found ← tasks.foldlM (inspectTask tables projectId) []
  let issues := found ++ cycleIssues tasks [] (dependenciesOf tables.office projectId)
  let repairedTasks := (issues.filter (·.repairable)).map (·.taskId)
  return issues.map (deferConflict tables.office projectId repairedTasks)

def inspect (planHash : PlanHash) (projectId : String) (now : Date) (tables : ReconciliationTables) :
    Except Thrown TaskReconciliationReport :=
  if projectId ∉ tables.office.projects then .error (projectNotFound projectId)
  else do
    let issues ← findIssues projectId tables
    let repairs := issues.filter (·.repairable)
    return {
      projectId
      generatedAt := now
      tasksInspected := (tasksOf tables.office projectId).length
      issues
      planHash := if repairs = [] then none else some (planHash projectId (repairs.map planned)) }

def approvalError : Thrown :=
  ⟨.taskReconciliationApprovalError,
    "Reconciliation plan approval does not match the current plan; re-run task:reconcile and approve the new plan hash"⟩

def stalePlanError (detail : String) : Thrown :=
  ⟨.taskReconciliationStalePlanError,
    s!"Reconciliation plan went stale: {detail}; re-run task:reconcile and approve the new plan"⟩

/-- The prerequisites of a task that have left review, with the status that each has now. -/
def currentExits (tables : OfficeTables) (ids : List String) : List (String × TaskStatus) :=
  ids.filterMap fun id => (tables.findTask id).bind fun task =>
    if isReviewExit task.status then some (id, task.status) else none

/-- A review-exit repair is applied only while the exits that it was derived from still hold. -/
def assertExitsHold (tables : OfficeTables) (ids : List String) (reviewExits : List ReviewExit) :
    Except Thrown Unit :=
  let exits := currentExits tables ids
  match reviewExits.find? fun exit => exits.lookup exit.taskId ≠ some exit.exitedTo with
  | some moved => .error (stalePlanError s!"prerequisite {moved.taskId} no longer holds the recorded review exit")
  | none =>
    match exits.find? fun exit => exit.1 ∉ reviewExits.map ReviewExit.taskId with
    | some appeared =>
      .error (stalePlanError
        s!"prerequisite {appeared.1} exited review to {appeared.2.text} after the plan was approved")
    | none => .ok ⟨⟩

def repairReason (issue : TaskReconciliationIssue) (operation : TaskLifecycleOperation) : Option String :=
  match issue.reviewExits with
  | some exits => some (reviewExitRepairReason exits)
  | none => if operation = .cancel then some "reconciled with terminal pipeline" else none

def assertRepairHolds (projectId : String) (issue : TaskReconciliationIssue) (tables : OfficeTables) :
    Except Thrown Unit :=
  match issue.reviewExits with
  | some exits => assertExitsHold tables (prerequisiteIds tables projectId issue.taskId) exits
  | none => .ok ⟨⟩

def applyRepair (projectId : String) (now : Date) (issue : TaskReconciliationIssue)
    (operation : TaskLifecycleOperation) (tables : OfficeTables) : Except Thrown OfficeTables := do
  assertRepairHolds projectId issue tables
  ManageTaskLifecycle.perform ⟨projectId, issue.taskId, operation, repairReason issue operation⟩ now tables

/-- One repair after the other. `now` is what the clock says at each of them. -/
def applyRepairs (projectId : String) :
    (now : Nat → Date) → List (TaskReconciliationIssue × TaskLifecycleOperation) → OfficeTables →
      Except Thrown OfficeTables
  | _, [], tables => .ok tables
  | now, (issue, operation) :: repairs, tables => do
    let after ← applyRepair projectId (now 0) issue operation tables
    applyRepairs projectId (fun index => now (index + 1)) repairs after

structure AppliedRepair where
  taskId : String
  before : TaskStatus
  after : TaskStatus
  operation : TaskLifecycleOperation

structure TaskRepairResult where
  applied : List AppliedRepair
  refused : List TaskReconciliationIssue

def repairsOf (issues : List TaskReconciliationIssue) : List (TaskReconciliationIssue × TaskLifecycleOperation) :=
  issues.filterMap fun issue =>
    if issue.repairable then issue.repairOperation.map fun operation => (issue, operation) else none

def repair (planHash : PlanHash) (projectId approvedPlanHash : String) (inspectedAt : Date) (now : Nat → Date)
    (tables : ReconciliationTables) : Except Thrown (TaskRepairResult × OfficeTables) := do
  let report ← inspect planHash projectId inspectedAt tables
  if report.planHash ≠ some approvedPlanHash then .error approvalError
  else
    let repairs := repairsOf report.issues
    if repairs.length ≠ (report.issues.filter (·.repairable)).length then .error approvalError
    else
      let after ← applyRepairs projectId now repairs tables.office
      return ({
        applied := repairs.map fun entry => ⟨entry.1.taskId, entry.1.status, entry.2.to, entry.2⟩
        refused := report.issues.filter fun issue => !issue.repairable }, after)

/-- The tables after the transaction of a repair, and what its caller gets: a transaction that throws is rolled back. -/
def repairTransaction (planHash : PlanHash) (projectId approvedPlanHash : String) (inspectedAt : Date)
    (now : Nat → Date) (tables : ReconciliationTables) : OfficeTables × Except Thrown TaskRepairResult :=
  match repair planHash projectId approvedPlanHash inspectedAt now tables with
  | .ok (result, after) => (after, .ok result)
  | .error thrown => (tables.office, .error thrown)

end ReconcileTasks

end AiOffice.Application
