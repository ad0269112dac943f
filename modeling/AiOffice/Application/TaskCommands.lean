import AiOffice.Storage.Office

namespace AiOffice.Application

open Data Outcome Domain Storage.Office

def projectNotFound (projectId : String) : Thrown :=
  ⟨.projectNotFoundError, s!"Project {projectId} not found"⟩

def taskNotFound (id : String) : Thrown := ⟨.taskNotFoundError, s!"Task {id} not found"⟩

def taskPrerequisiteIncomplete (taskId : String) (blockedBy : List BlockingPrerequisite)
    (requirement : PrerequisiteRequirement) : Thrown :=
  let completion :=
    if requirement = .completion then " (completion requires every prerequisite to be completed)" else ""
  let listed := ", ".intercalate (blockedBy.map BlockingPrerequisite.taskId)
  ⟨.taskPrerequisiteIncompleteError,
    s!"Task {taskId} has incomplete prerequisites: {listed}{completion}"⟩

/-- The refusal that the application throws, or the one that a trigger raises. -/
def isPrerequisiteRefusal (thrown : Thrown) : Bool :=
  thrown.name = .taskPrerequisiteIncompleteError || includes thrown.message "task has incomplete prerequisites"

def assertTaskPrerequisitesComplete (projectId taskId : String) (requirement : PrerequisiteRequirement)
    (tables : OfficeTables) : Except Thrown Unit := do
  let blockedBy ← blockingPrerequisites (tables.statuses projectId) requirement
    (tables.prerequisites projectId taskId)
  if blockedBy ≠ [] then .error (taskPrerequisiteIncomplete taskId blockedBy requirement) else return ()

def requireTask (projectId taskId : String) (tables : OfficeTables) : Except Thrown TaskProps :=
  if projectId ∉ tables.projects then .error (projectNotFound projectId)
  else
    match tables.findTask taskId with
    | none => .error (taskNotFound taskId)
    | some task => if task.projectId ≠ projectId then .error (taskNotFound taskId) else .ok task

theorem requireTask_ok {projectId taskId : String} {tables : OfficeTables} {task : TaskProps}
    (required : requireTask projectId taskId tables = .ok task) :
    tables.findTask taskId = some task ∧ task.projectId = projectId := by
  obtain ⟨-, required⟩ := guard_ok required
  split at required
  · cases required
  · next stored found =>
      obtain ⟨inProject, same⟩ := guard_ok required
      obtain rfl := Except.ok.inj same
      exact ⟨found, not_not.mp inProject⟩

structure CreateTask where
  projectId : String
  id : String
  title : String
  description : Option String
  priority : Option Int
  now : Date

namespace CreateTask

def execute (input : CreateTask) (tables : OfficeTables) : Except Thrown OfficeTables :=
  if input.projectId ∉ tables.projects then .error (projectNotFound input.projectId)
  else do
    let task ← Task.create input.id input.projectId input.title input.description input.priority input.now
    saveTask task tables

end CreateTask

inductive TaskLifecycleOperation
  | start
  | submitReview
  | complete
  | block
  | unblock
  | fail
  | cancel
  deriving DecidableEq

def TaskLifecycleOperation.text : TaskLifecycleOperation → String
  | .start => "start"
  | .submitReview => "submit-review"
  | .complete => "complete"
  | .block => "block"
  | .unblock => "unblock"
  | .fail => "fail"
  | .cancel => "cancel"

def TaskLifecycleOperation.to : TaskLifecycleOperation → TaskStatus
  | .start => .running
  | .submitReview => .waitingReview
  | .complete => .completed
  | .block => .blocked
  | .unblock => .pending
  | .fail => .failed
  | .cancel => .cancelled

def lifecycleMutations : TaskLifecycleOperation → TaskProps → Date → Except Thrown TaskProps
  | .start => Task.start
  | .submitReview => Task.submitForReview
  | .complete => Task.complete
  | .block => Task.block
  | .unblock => Task.unblock
  | .fail => Task.fail
  | .cancel => Task.cancel

theorem lifecycleMutations_eq (operation : TaskLifecycleOperation) (props : TaskProps) (now : Date) :
    lifecycleMutations operation props now = Task.transition props operation.to now := by
  cases operation <;> rfl

def reasonRequiredOperations : List TaskLifecycleOperation := [.block, .fail]

def reasonAcceptedOperations : List TaskLifecycleOperation := [.block, .fail, .cancel]

structure TaskLifecycleRequest where
  projectId : String
  taskId : String
  operation : TaskLifecycleOperation
  reason : Option String

namespace ManageTaskLifecycle

def resolveReason (operation : TaskLifecycleOperation) (value : Option String) :
    Except Thrown (Option String) :=
  match value with
  | none =>
    if operation ∈ reasonRequiredOperations then
      .error ⟨.domainValidationError, s!"Task {operation.text} requires a reason"⟩
    else .ok none
  | some value =>
    if operation ∉ reasonAcceptedOperations then
      .error ⟨.domainValidationError, s!"Task {operation.text} does not accept a reason"⟩
    else (normalizeTaskReason value s!"{operation.text} reason").map some

def assertAdmitted (request : TaskLifecycleRequest) (tables : OfficeTables) : Except Thrown Unit :=
  match request.operation with
  | .start => assertTaskPrerequisitesComplete request.projectId request.taskId .start tables
  | .complete => assertTaskPrerequisitesComplete request.projectId request.taskId .completion tables
  | _ => .ok ()

def perform (request : TaskLifecycleRequest) (now : Date) (tables : OfficeTables) :
    Except Thrown OfficeTables := do
  let _ ← resolveReason request.operation request.reason
  let task ← requireTask request.projectId request.taskId tables
  assertAdmitted request tables
  let after ← lifecycleMutations request.operation task now
  saveTask after tables

end ManageTaskLifecycle

structure UpdateTask where
  projectId : String
  taskId : String
  description : Option String
  priority : Option Int

namespace UpdateTask

def prioritized (input : UpdateTask) (task : TaskProps) (now : Date) : Except Thrown TaskProps :=
  match input.priority with
  | some priority => Task.updatePriority task priority now
  | none => .ok task

def described (input : UpdateTask) (task : TaskProps) (now : Date) : TaskProps :=
  match input.description with
  | some description => Task.updateDescription task description now
  | none => task

def updated (input : UpdateTask) (task : TaskProps) (now : Date) : Except Thrown TaskProps :=
  (input.prioritized task now).map fun task => input.described task now

def execute (input : UpdateTask) (now : Date) (tables : OfficeTables) : Except Thrown OfficeTables := do
  let task ← requireTask input.projectId input.taskId tables
  let after ← updated input task now
  saveTask after tables

end UpdateTask

/-- An attestation that a task was completed outside its lifecycle, against an approved plan. -/
structure TaskCompletionRecord where
  projectId : String
  taskId : String
  reason : String
  approvedPlanHash : String

namespace RecordTaskCompletion

def approvalError : Thrown :=
  ⟨.taskCompletionApprovalError,
    "Completion record approval does not match the current plan; re-run task:record-completion without --approve and approve the new plan hash"⟩

/-- `planHash` digests the plan for a task in a status, with the reason and the evidence shown. -/
def record (planHash : TaskProps → String → String) (input : TaskCompletionRecord) (now : Date)
    (tables : OfficeTables) : Except Thrown OfficeTables := do
  let reason ← normalizeTaskReason input.reason "completion record reason"
  let task ← requireTask input.projectId input.taskId tables
  if (historicalCompletionRefusal task.status).isSome ∨ planHash task reason ≠ input.approvedPlanHash then
    .error approvalError
  else
    let after ← Task.recordHistoricalCompletion task now
    saveTask after tables

end RecordTaskCompletion

inductive TaskCommand
  | lifecycle (request : TaskLifecycleRequest) (now : Date)
  | update (input : UpdateTask) (now : Date)
  | record (planHash : TaskProps → String → String) (input : TaskCompletionRecord) (now : Date)

def TaskCommand.perform : TaskCommand → OfficeTables → Except Thrown OfficeTables
  | .lifecycle request now => ManageTaskLifecycle.perform request now
  | .update input now => UpdateTask.execute input now
  | .record planHash input now => RecordTaskCompletion.record planHash input now

def TaskCommand.Moves (before after : TaskStatus) : TaskCommand → Prop
  | .lifecycle request _ => after = request.operation.to ∧ after ∈ taskTransitions before
  | .update .. => after = before
  | .record .. => after = .completed ∧ historicalCompletionRefusal before = none

def TaskCommand.taskId : TaskCommand → String
  | .lifecycle request _ => request.taskId
  | .update input _ => input.taskId
  | .record _ input _ => input.taskId

theorem UpdateTask.updated_ok {input : UpdateTask} {task value : TaskProps} {now : Date}
    (accepted : input.updated task now = .ok value) : value.id = task.id ∧ value.status = task.status := by
  obtain ⟨middle, chosen, rfl⟩ := map_ok accepted
  have kept : middle.id = task.id ∧ middle.status = task.status := by
    unfold prioritized at chosen
    split at chosen
    · obtain ⟨priority, -, stored⟩ := bind_ok chosen
      cases stored
      exact ⟨rfl, rfl⟩
    · cases chosen
      exact ⟨rfl, rfl⟩
  unfold described
  split <;> exact kept

/-- A command that commits saves one value over the row of its task. -/
theorem TaskCommand.perform_ok {command : TaskCommand} {tables after : OfficeTables}
    (performed : command.perform tables = .ok after) :
    ∃ row value, tables.findTask command.taskId = some row ∧ value.id = row.id ∧
      command.Moves row.status value.status ∧ saveTask value tables = .ok after := by
  cases command with
  | lifecycle request now =>
    obtain ⟨-, -, performed⟩ := bind_ok performed
    obtain ⟨row, required, performed⟩ := bind_ok performed
    obtain ⟨-, -, performed⟩ := bind_ok performed
    obtain ⟨value, moved, saved⟩ := bind_ok performed
    rw [lifecycleMutations_eq] at moved
    obtain ⟨allowed, rfl⟩ := Task.transition_ok moved
    exact ⟨row, { row with status := request.operation.to, updatedAt := now }, (requireTask_ok required).1, rfl,
      ⟨rfl, allowed⟩, saved⟩
  | update input now =>
    obtain ⟨row, required, performed⟩ := bind_ok performed
    obtain ⟨value, updated, saved⟩ := bind_ok performed
    obtain ⟨sameId, sameStatus⟩ := UpdateTask.updated_ok updated
    exact ⟨row, value, (requireTask_ok required).1, sameId, sameStatus, saved⟩
  | record planHash input now =>
    obtain ⟨reason, -, performed⟩ := bind_ok performed
    obtain ⟨row, required, performed⟩ := bind_ok performed
    obtain ⟨-, performed⟩ := guard_ok performed
    obtain ⟨value, recorded, saved⟩ := bind_ok performed
    unfold Task.recordHistoricalCompletion at recorded
    split at recorded
    · cases recorded
    · next applicable =>
        cases recorded
        exact ⟨row, { row with status := .completed, updatedAt := now }, (requireTask_ok required).1, rfl,
          ⟨rfl, applicable⟩, saved⟩

theorem TaskCommand.Moves.terminal {command : TaskCommand} {before after : TaskStatus}
    (moves : command.Moves before after) (terminal : isTerminalTaskStatus before = true) : after = before := by
  cases command with
  | lifecycle request now =>
    obtain ⟨-, allowed⟩ := moves
    rw [(isTerminalTaskStatus_iff before).mp terminal] at allowed
    exact absurd allowed List.not_mem_nil
  | update input now => exact moves
  | record planHash input now =>
    obtain ⟨-, applicable⟩ := moves
    simp [historicalCompletionRefusal, terminal] at applicable

end AiOffice.Application
