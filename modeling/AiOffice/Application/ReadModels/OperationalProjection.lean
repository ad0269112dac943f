import AiOffice.Domain.CanonicalJson
import AiOffice.Domain.IsoDate
import AiOffice.Domain.AgentRun
import AiOffice.Domain.PipelineRun
import AiOffice.Domain.Task

namespace AiOffice.Application.ReadModels

open Domain Domain.IsoDate

inductive AttentionKind
  | reviewPending
  | pipelineStageAwaitingApproval
  | pipelineStageUnassigned
  | agentRunFailed
  | taskBlocked
  | taskFailed
  | taskRunWithoutLease
  | taskLeaseExpired
  deriving DecidableEq

inductive AttentionSubjectType
  | task
  | agentRun
  | pipelineRun
  | review
  deriving DecidableEq

structure AttentionReason where
  kind : AttentionKind
  projectId : String
  subjectType : AttentionSubjectType
  subjectId : String
  summary : String
  since : String

structure BoundedList (Item : Type) where
  total : Nat
  items : List Item
  truncated : Bool

inductive ReviewStatus
  | pending
  | approved
  | rejected
  deriving DecidableEq

inductive ReviewSubjectType
  | task
  | agentRun
  | requirement
  | adr
  | milestone
  deriving DecidableEq

def ReviewSubjectType.text : ReviewSubjectType → String
  | .task => "task"
  | .agentRun => "agent_run"
  | .requirement => "requirement"
  | .adr => "adr"
  | .milestone => "milestone"

structure OperationalReviewRecord where
  id : String
  projectId : String
  subjectType : ReviewSubjectType
  subjectId : String
  status : ReviewStatus
  createdAt : Date

structure OperationalAgentRunRecord where
  id : String
  projectId : String
  taskId : String
  agentId : String
  status : AgentRunStatus
  error : Option Value
  completedAt : Option Date
  updatedAt : Date

structure OperationalActivePipelineStageRecord where
  projectId : String
  pipelineRunId : String
  stageName : String
  stageStatus : PipelineStageRunStatus
  assignedAgentId : Option String
  stageCompletedAt : Option Date
  updatedAt : Date

structure OperationalAttentionTaskRecord where
  projectId : String
  taskId : String
  title : String
  status : TaskStatus
  updatedAt : Date

/-- The lease of a task with the status of the run that owns it. -/
structure TaskLeaseRecord where
  taskId : String
  ownerRunId : String
  acquiredAt : Date
  expiresAt : Date
  ownerRunStatus : Option AgentRunStatus

structure LeaseTimes where
  acquiredAt : Date
  expiresAt : Date
  expired : Bool

structure TaskLeaseAnomalyRecord where
  projectId : String
  taskId : String
  taskTitle : Option String
  runsWithoutValidLease : Nat
  lease : Option LeaseTimes
  taskUpdatedAt : Date

def activeAgentRunStatuses : List AgentRunStatus := [.queued, .preparing, .running, .reviewing]

def executingAgentRunStatuses : List AgentRunStatus := [.running, .reviewing]

def isActiveAgentRunStatus (status : AgentRunStatus) : Bool := status ∈ activeAgentRunStatuses

/-- The code in the recorded error of a run: of an object only, and only when it is a text. -/
def runFailureCode : Option Value → Option String
  | some (.object entries) =>
    match entries.lookup "code" with
    | some (.string code) => some code
    | _ => none
  | _ => none

def agentRunAttentionReasons (run : OperationalAgentRunRecord) : List AttentionReason :=
  if run.status ≠ .failed then [] else
    [{ kind := .agentRunFailed, projectId := run.projectId, subjectType := .agentRun, subjectId := run.id
       summary := match runFailureCode run.error with
         | none => "Agent run failed"
         | some code => s!"Agent run failed ({code})"
       since := toISOString (run.completedAt.getD run.updatedAt) }]

def reviewAttentionReason (review : OperationalReviewRecord) : Option AttentionReason :=
  if review.status ≠ .pending then none else
    some { kind := .reviewPending, projectId := review.projectId, subjectType := .review, subjectId := review.id
           summary := s!"Review of {review.subjectType.text} {review.subjectId} is pending"
           since := toISOString review.createdAt }

def attentionTaskReason (task : OperationalAttentionTaskRecord) : AttentionReason :=
  { kind := if task.status = .blocked then .taskBlocked else .taskFailed
    projectId := task.projectId, subjectType := .task, subjectId := task.taskId
    summary := if task.status = .blocked then "Task is blocked" else "Task failed"
    since := toISOString task.updatedAt }

def activePipelineStageAttention (stage : OperationalActivePipelineStageRecord) : Option AttentionReason :=
  if stage.stageStatus = .awaitingApproval then
    some { kind := .pipelineStageAwaitingApproval, projectId := stage.projectId, subjectType := .pipelineRun
           subjectId := stage.pipelineRunId, summary := s!"Stage {stage.stageName} is awaiting approval"
           since := toISOString (stage.stageCompletedAt.getD stage.updatedAt) }
  else if stage.stageStatus = .active ∧ stage.assignedAgentId = none then
    some { kind := .pipelineStageUnassigned, projectId := stage.projectId, subjectType := .pipelineRun
           subjectId := stage.pipelineRunId, summary := s!"Stage {stage.stageName} has no assigned agent"
           since := toISOString stage.updatedAt }
  else none

def taskLeaseAttention (projectId taskId : String) (runsWithoutValidLease : Nat) (lease : Option LeaseTimes)
    (taskUpdatedAt : Date) : AttentionReason :=
  let single := runsWithoutValidLease = 1
  let runs := if single then "1 active run" else s!"{runsWithoutValidLease} active runs"
  match lease with
  | some lease =>
    if lease.expired then
      let verb := if single then "continues" else "continue"
      { kind := .taskLeaseExpired, projectId, subjectType := .task, subjectId := taskId
        summary := s!"{runs} of this task {verb} after its execution lease expired"
        since := toISOString lease.expiresAt }
    else
      let verb := if single then "owns" else "own"
      { kind := .taskRunWithoutLease, projectId, subjectType := .task, subjectId := taskId
        summary := s!"{runs} of this task no longer {verb} its execution lease"
        since := toISOString lease.acquiredAt }
  | none =>
    let verb := if single then "holds" else "hold"
    { kind := .taskRunWithoutLease, projectId, subjectType := .task, subjectId := taskId
      summary := s!"{runs} of this task {verb} no execution lease"
      since := toISOString taskUpdatedAt }

def TaskLeaseAnomalyRecord.attention (task : TaskLeaseAnomalyRecord) : AttentionReason :=
  taskLeaseAttention task.projectId task.taskId task.runsWithoutValidLease task.lease task.taskUpdatedAt

inductive TaskOperationalStatus
  | notStarted
  | scheduled
  | inProgress
  | awaitingReview
  | blocked
  | failed
  | completed
  | cancelled
  deriving DecidableEq

inductive TaskDivergenceReason
  | agentRunScheduledWithoutTaskTransition
  | agentRunActiveWithoutTaskTransition
  | agentRunFailedWithoutTaskTransition
  | pipelineStageAwaitingApproval
  | reviewPending
  deriving DecidableEq

structure TaskFacts where
  task : TaskProps
  activeRunCount : Nat
  executingRunCount : Nat
  latestRun : Option OperationalAgentRunRecord
  lease : Option TaskLeaseRecord
  pipelineRun : Option PipelineRunProps
  pendingReviewCount : Nat
  earliestPendingReview : Option OperationalReviewRecord

structure TaskOperationalState where
  taskId : String
  projectId : String
  recordedStatus : TaskStatus
  terminal : Bool
  operationalStatus : TaskOperationalStatus
  divergesFromRecordedStatus : Bool
  divergenceReasons : List TaskDivergenceReason
  leaseExpired : Bool
  runsWithoutValidLeaseCount : Int
  pendingReviewCount : Nat
  attentionReasons : List AttentionReason

section Projection

variable (facts : TaskFacts) (now : Date)

def leaseExpired : Bool := facts.lease.any fun lease => lease.expiresAt ≤ now

/-- At most one active run holds the lease, and an expired lease grants nothing. -/
def validLeaseOwnerIsActive : Bool :=
  facts.lease.any fun lease => !leaseExpired facts now && lease.ownerRunStatus.any isActiveAgentRunStatus

def runsWithoutValidLeaseCount : Int :=
  facts.activeRunCount - (if validLeaseOwnerIsActive facts now then 1 else 0)

def pipelineStage : Option PipelineStageRunProps :=
  facts.pipelineRun.bind fun run => if run.status = .active then run.stages[run.currentStageIndex]? else none

def hasPendingReview : Bool := 0 < facts.pendingReviewCount

def awaitingApproval : Bool := (pipelineStage facts).any fun stage => stage.status = .awaitingApproval

def stoppedOnFailure : Bool :=
  facts.activeRunCount = 0 && facts.latestRun.any (fun run => run.status = .failed) && (pipelineStage facts).isNone

def operationalStatus : TaskOperationalStatus :=
  match facts.task.status with
  | .cancelled => .cancelled
  | .failed => .failed
  | .completed => .completed
  | .blocked => .blocked
  | status =>
    if hasPendingReview facts || awaitingApproval facts then .awaitingReview
    else if status = .waitingReview then .awaitingReview
    else if 0 < facts.activeRunCount then if 0 < facts.executingRunCount then .inProgress else .scheduled
    else if stoppedOnFailure facts then .failed
    else if status = .running then .inProgress
    else .notStarted

def divergenceReasons : List TaskDivergenceReason :=
  (if facts.task.status ∈ [TaskStatus.pending, .assigned] ∧ 0 < facts.activeRunCount then
    [if 0 < facts.executingRunCount then .agentRunActiveWithoutTaskTransition
      else .agentRunScheduledWithoutTaskTransition] else []) ++
  (if !isTerminalTaskStatus facts.task.status && stoppedOnFailure facts then
    [.agentRunFailedWithoutTaskTransition] else []) ++
  (if facts.task.status ≠ .waitingReview ∧ awaitingApproval facts then [.pipelineStageAwaitingApproval] else []) ++
  (if facts.task.status ≠ .waitingReview ∧ hasPendingReview facts then [.reviewPending] else [])

def taskReviewAttention : List AttentionReason :=
  ((facts.earliestPendingReview.bind reviewAttentionReason).map fun reason =>
    if facts.pendingReviewCount = 1 then reason
    else { reason with summary := s!"{facts.pendingReviewCount} reviews of task {facts.task.id} are pending" }).toList

def taskStatusAttention : List AttentionReason :=
  if facts.task.status = .blocked ∨ facts.task.status = .failed then
    [attentionTaskReason ⟨facts.task.projectId, facts.task.id, facts.task.title, facts.task.status,
      facts.task.updatedAt⟩]
  else []

def taskRunAttention : List AttentionReason := (facts.latestRun.map agentRunAttentionReasons).getD []

def taskLeaseReason : List AttentionReason :=
  if 0 < runsWithoutValidLeaseCount facts now then
    [taskLeaseAttention facts.task.projectId facts.task.id (runsWithoutValidLeaseCount facts now).toNat
      (facts.lease.map fun lease => ⟨lease.acquiredAt, lease.expiresAt, leaseExpired facts now⟩) facts.task.updatedAt]
  else []

def attentionReasons : List AttentionReason :=
  taskReviewAttention facts ++ taskStatusAttention facts ++ taskRunAttention facts ++ taskLeaseReason facts now

def projectTaskOperationalState : TaskOperationalState :=
  { taskId := facts.task.id
    projectId := facts.task.projectId
    recordedStatus := facts.task.status
    terminal := isTerminalTaskStatus facts.task.status
    operationalStatus := operationalStatus facts
    divergesFromRecordedStatus := !(divergenceReasons facts).isEmpty
    divergenceReasons := divergenceReasons facts
    leaseExpired := leaseExpired facts now
    runsWithoutValidLeaseCount := runsWithoutValidLeaseCount facts now
    pendingReviewCount := facts.pendingReviewCount
    attentionReasons := attentionReasons facts now }

end Projection

def AttentionReason.isLeaseAnomaly (reason : AttentionReason) : Bool :=
  reason.kind = .taskRunWithoutLease || reason.kind = .taskLeaseExpired

variable {facts : TaskFacts} {now : Date}

theorem taskLeaseAttention_isLeaseAnomaly (projectId taskId : String) (runs : Nat) (lease : Option LeaseTimes)
    (taskUpdatedAt : Date) :
    (taskLeaseAttention projectId taskId runs lease taskUpdatedAt).isLeaseAnomaly = true := by
  unfold taskLeaseAttention
  dsimp only
  split
  · split <;> rfl
  · rfl

theorem attentionReasons_lease (facts : TaskFacts) (now : Date) :
    (attentionReasons facts now).filter AttentionReason.isLeaseAnomaly = taskLeaseReason facts now := by
  have reviews : (taskReviewAttention facts).filter AttentionReason.isLeaseAnomaly = [] := by
    simp only [taskReviewAttention, reviewAttentionReason, List.filter_eq_nil_iff, Option.mem_toList,
      Option.map_eq_some_iff, Option.bind_eq_some_iff]
    intro reason ⟨_, ⟨review, _, made⟩, shown⟩
    split at made
    · cases made
    · cases made
      subst shown
      split <;> simp [AttentionReason.isLeaseAnomaly]
  have statuses : (taskStatusAttention facts).filter AttentionReason.isLeaseAnomaly = [] := by
    unfold taskStatusAttention attentionTaskReason
    split
    · by_cases blocked : facts.task.status = .blocked <;> simp [AttentionReason.isLeaseAnomaly, blocked]
    · rfl
  have runs : (taskRunAttention facts).filter AttentionReason.isLeaseAnomaly = [] := by
    unfold taskRunAttention agentRunAttentionReasons
    cases facts.latestRun with
    | none => rfl
    | some run =>
      simp only [Option.map_some, Option.getD_some]
      split <;> simp [AttentionReason.isLeaseAnomaly]
  have lease : (taskLeaseReason facts now).filter AttentionReason.isLeaseAnomaly = taskLeaseReason facts now := by
    unfold taskLeaseReason
    split <;> simp [taskLeaseAttention_isLeaseAnomaly]
  simp only [attentionReasons, List.filter_append, reviews, statuses, runs, lease, List.nil_append]

end AiOffice.Application.ReadModels
