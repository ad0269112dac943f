import AiOffice.Data.Outcome
import AiOffice.Domain.Text

namespace AiOffice.Domain

inductive TaskStatus
  | pending
  | assigned
  | running
  | blocked
  | waitingReview
  | completed
  | failed
  | cancelled
  deriving DecidableEq

def TaskStatus.text : TaskStatus → String
  | .pending => "pending"
  | .assigned => "assigned"
  | .running => "running"
  | .blocked => "blocked"
  | .waitingReview => "waiting_review"
  | .completed => "completed"
  | .failed => "failed"
  | .cancelled => "cancelled"

def taskTransitions : TaskStatus → List TaskStatus
  | .pending | .assigned => [.running, .blocked, .cancelled]
  | .running => [.waitingReview, .completed, .blocked, .failed, .cancelled]
  | .blocked => [.pending, .failed, .cancelled]
  | .waitingReview => [.completed, .blocked, .failed, .cancelled]
  | .completed | .failed | .cancelled => []

def isTerminalTaskStatus (status : TaskStatus) : Bool :=
  status ∈ [TaskStatus.completed, .failed, .cancelled]

theorem isTerminalTaskStatus_iff (status : TaskStatus) :
    isTerminalTaskStatus status = true ↔ taskTransitions status = [] := by
  cases status <;> decide

def historicalCompletionRefusal (status : TaskStatus) : Option String :=
  if isTerminalTaskStatus status then
    some s!"{status.text} is terminal and terminal state is never rewritten"
  else if .completed ∈ taskTransitions status then
    some s!"{status.text} can reach completed through the ordinary lifecycle, so use task:complete"
  else none

def minTaskPriority : Int := -2147483648

def maxTaskPriority : Int := 2147483647

def validateTaskPriority (priority : Int) : Except Thrown Int :=
  if priority < minTaskPriority ∨ maxTaskPriority < priority then
    .error ⟨.domainValidationError,
      s!"Task priority must be an integer between {minTaskPriority} and {maxTaskPriority}"⟩
  else .ok priority

def defaultTaskPriority : Int := 0

def maximumTaskReasonLength : Nat := 2000

def normalizeTaskReason (value label : String) : Except Thrown String :=
  let reason := trim value
  if utf16Length reason = 0 then .error ⟨.domainValidationError, s!"Task {label} cannot be empty"⟩
  else if maximumTaskReasonLength < utf16Length reason then
    .error ⟨.domainValidationError, s!"Task {label} cannot exceed {maximumTaskReasonLength} characters"⟩
  else .ok reason

structure TaskProps where
  id : String
  projectId : String
  title : String
  description : Option String
  status : TaskStatus
  priority : Int
  createdAt : Date
  updatedAt : Date
  deriving DecidableEq

namespace Task

def create (id projectId title : String) (description : Option String) (priority : Option Int) (now : Date) :
    Except Thrown TaskProps :=
  if trim title = "" then .error ⟨.domainValidationError, "Task title cannot be empty"⟩
  else do
    let priority ← validateTaskPriority (priority.getD defaultTaskPriority)
    return {
      id
      projectId
      title := trim title
      description
      status := .pending
      priority
      createdAt := now
      updatedAt := now }

theorem create_ok {id projectId title : String} {description : Option String} {priority : Option Int} {now : Date}
    {props : TaskProps} (created : create id projectId title description priority now = .ok props) :
    props.id = id ∧ props.projectId = projectId ∧ props.status = .pending := by
  obtain ⟨-, created⟩ := Data.Outcome.guard_ok created
  obtain ⟨priority, -, created⟩ := Data.Outcome.bind_ok created
  cases created
  exact ⟨rfl, rfl, rfl⟩

def invalidTransition (before after : TaskStatus) : Thrown :=
  let allowed := taskTransitions before
  let listed := ", ".intercalate (allowed.map TaskStatus.text)
  ⟨.invalidTaskTransitionError,
    if allowed = [] then s!"Cannot transition task from {before.text} to {after.text}: {before.text} is terminal"
    else s!"Cannot transition task from {before.text} to {after.text}. Allowed from {before.text}: {listed}"⟩

def transition (props : TaskProps) (status : TaskStatus) (now : Date) : Except Thrown TaskProps :=
  if status ∉ taskTransitions props.status then .error (invalidTransition props.status status)
  else .ok { props with status, updatedAt := now }

theorem transition_ok {props after : TaskProps} {status : TaskStatus} {now : Date}
    (moved : transition props status now = .ok after) :
    status ∈ taskTransitions props.status ∧ after = { props with status, updatedAt := now } := by
  obtain ⟨allowed, moved⟩ := Data.Outcome.guard_ok moved
  exact ⟨not_not.mp allowed, (Except.ok.inj moved).symm⟩

def updateDescription (props : TaskProps) (description : String) (now : Date) : TaskProps :=
  { props with description := some description, updatedAt := now }

def updatePriority (props : TaskProps) (priority : Int) (now : Date) : Except Thrown TaskProps := do
  let priority ← validateTaskPriority priority
  return { props with priority, updatedAt := now }

def start (props : TaskProps) (now : Date) : Except Thrown TaskProps := transition props .running now

def submitForReview (props : TaskProps) (now : Date) : Except Thrown TaskProps :=
  transition props .waitingReview now

def complete (props : TaskProps) (now : Date) : Except Thrown TaskProps := transition props .completed now

def block (props : TaskProps) (now : Date) : Except Thrown TaskProps := transition props .blocked now

def unblock (props : TaskProps) (now : Date) : Except Thrown TaskProps := transition props .pending now

def fail (props : TaskProps) (now : Date) : Except Thrown TaskProps := transition props .failed now

def cancel (props : TaskProps) (now : Date) : Except Thrown TaskProps := transition props .cancelled now

def recordHistoricalCompletion (props : TaskProps) (now : Date) : Except Thrown TaskProps :=
  match historicalCompletionRefusal props.status with
  | some refusal => .error ⟨.invalidTaskCorrectionError,
      s!"Cannot record completed for a task that is {props.status.text}: {refusal}"⟩
  | none => .ok { props with status := .completed, updatedAt := now }

end Task
end AiOffice.Domain
