import AiOffice.Application.Pipeline.Consistency

namespace AiOffice.Application.Pipeline

open Data Outcome Domain Domain.PipelineRun Storage.Office ManagePipelineRuns

def Cancellable (tables : OfficeTables) (run : PipelineRunProps) (now synced : Date) : Prop :=
  ∃ cancelled after,
    ManagePipelineRuns.cancel ⟨run.projectId, run.id, localOperatorPrincipal⟩ now synced tables =
      .ok (cancelled, after) ∧
    cancelled.status = .cancelled ∧ after.findPipelineRun run.id run.projectId = some cancelled

def OfficeCommand.EndsTask (tables : OfficeTables) : OfficeCommand → Prop
  | .task command => ∃ row status, tables.findTask command.taskId = some row ∧
      (tables.findActiveByTask row.id row.projectId).isSome = true ∧ command.Moves row.status status ∧
      isTerminalTaskStatus status = true
  | _ => False

def PerformsApart (before : OfficeTables) (command : OfficeCommand) (after : OfficeTables) : Prop :=
  Performs before command after ∧ ¬command.EndsTask before

def TasksOpen (tables : OfficeTables) : Prop :=
  ∀ run ∈ tables.pipelines, run.status = .active → ∀ task, tables.findTask run.taskId = some task →
    isTerminalTaskStatus task.status = false

variable {tables after : OfficeTables} {run changed : PipelineRunProps} {now synced : Date}

theorem cancelled_allowed {status : TaskStatus} (unfinished : isTerminalTaskStatus status = false) :
    TaskStatus.cancelled ∈ taskTransitions status := by
  revert unfinished
  cases status <;> decide

theorem attempt_cancel (active : run.status = .active) (now : Date) :
    Method.attempt (Command.cancel localOperatorPrincipal.id now).perform run =
      .ok (none, closed run PipelineStageRunStatus.isOpen now) := by
  have named : required localOperatorPrincipal.id "Cancellation actor" = .ok "local-operator" := by decide
  rw [Method.attempt_ok_iff]
  simp [Command.perform, PipelineRun.cancel, named, Method.call_bind, active]
  rfl

theorem syncTaskTerminal_cancels {task : TaskProps} (cancelled : run.status = .cancelled)
    (found : tables.findTask run.taskId = some task) (inProject : task.projectId = run.projectId)
    (unfinished : isTerminalTaskStatus task.status = false) :
    ∃ settled, syncTaskTerminal run now tables = .ok settled ∧ settled.pipelines = tables.pipelines := by
  have moved : Task.cancel task now = .ok { task with status := .cancelled, updatedAt := now } := by
    rw [Task.cancel, Task.transition, if_neg (not_not.mpr (cancelled_allowed unfinished))]
  have saved : saveTask { task with status := .cancelled, updatedAt := now } tables =
      .ok (tables.replaceTask { task with status := .cancelled, updatedAt := now }) := by
    have stored : tables.findTask task.id = some task := by rw [(findTask_found found).2, found]
    simp [saveTask, stored, taskUpdateRefused]
  refine ⟨_, ?_, show (tables.replaceTask { task with status := .cancelled, updatedAt := now }).pipelines = _ from rfl⟩
  unfold syncTaskTerminal
  rw [if_neg (by rw [cancelled]; decide), found]
  dsimp only
  rw [if_neg (not_not.mpr inProject), if_neg (by rw [cancelled]; decide), bind_returns moved, saved]

/-- In consistent tables, an active run can be cancelled exactly when its task is open and the clock has not gone back. -/
theorem cancellable_iff (consistent : Consistent tables) (member : run ∈ tables.pipelines)
    (active : run.status = .active) :
    Cancellable tables run now synced ↔
      (∀ task, tables.findTask run.taskId = some task → isTerminalTaskStatus task.status = false) ∧
        run.updatedAt ≤ now := by
  have required : requireRun run.id run.projectId tables = .ok run := by
    rw [requireRun, findPipelineRun_of_mem consistent.runIds member]
  constructor
  · rintro ⟨cancelled, after, returned, -, -⟩
    obtain ⟨-, -, returned⟩ := bind_ok returned
    obtain ⟨read, same, returned⟩ := bind_ok returned
    obtain rfl := Except.ok.inj (required.symm.trans same)
    obtain ⟨⟨performed, persisted⟩, changed, returned⟩ := bind_ok returned
    obtain ⟨settled, sync, -⟩ := bind_ok returned
    obtain ⟨effect, -, inOrder, rfl⟩ := performAndPersist_ok consistent.runIds member (consistent.stored run member) changed
    rw [effect.updatedAt] at inOrder
    refine ⟨fun task found => ?_, inOrder⟩
    rcases syncTaskTerminal_ok sync with ⟨stays, -⟩ | ⟨-, row, value, stored, -, allowed, -⟩
    · rw [effect.cancel_status rfl] at stays
      cases stays
    · rw [(Effect.kept effect).2.2.1] at stored
      obtain rfl : row = task := Option.some.inj (stored.symm.trans found)
      by_contra terminal
      rw [(isTerminalTaskStatus_iff row.status).mp (by simpa using terminal)] at allowed
      exact List.not_mem_nil allowed
  · rintro ⟨unfinished, inOrder⟩
    obtain ⟨task, found, inProject⟩ := consistent.known run member
    have operator : requireOperator localOperatorPrincipal = .ok () := by decide
    have effect : Effect run (.cancel localOperatorPrincipal.id now) none
        (closed run PipelineStageRunStatus.isOpen now) := .cancelled active
    have moves : MovesStatuses now (.cancel localOperatorPrincipal.id now) := rfl
    have changed := performAndPersist_returns consistent.runIds member (attempt_cancel active now) effect
      (Effect.accepted effect (consistent.stored run member) moves inOrder)
    obtain ⟨settled, sync, kept⟩ : ∃ settled, syncTaskTerminal (closed run PipelineStageRunStatus.isOpen now) synced
        { tables with pipelines := replaceRun tables.pipelines (closed run PipelineStageRunStatus.isOpen now) } =
        .ok settled ∧ settled.pipelines = _ := syncTaskTerminal_cancels rfl found inProject (unfinished task found)
    refine ⟨closed run PipelineStageRunStatus.isOpen now, settled, ?_, rfl, ?_⟩
    · rw [ManagePipelineRuns.cancel, bind_returns operator]
      dsimp only
      rw [bind_returns required, bind_returns changed]
      dsimp only
      rw [bind_returns sync]
      rfl
    · unfold OfficeTables.findPipelineRun
      rw [kept]
      exact replaceRun_found consistent.runIds member rfl rfl

theorem findActiveByTask_some (member : run ∈ tables.pipelines) (active : run.status = .active) :
    (tables.findActiveByTask run.taskId run.projectId).isSome = true := by
  rw [OfficeTables.findActiveByTask, List.find?_isSome]
  exact ⟨run, member, by simp [active]⟩

theorem saveTask_open {value task : TaskProps} {id : String} (saved : saveTask value tables = .ok after)
    (before : ∀ row, tables.findTask id = some row → row.id ≠ value.id → isTerminalTaskStatus row.status = false)
    (overwritten : ∀ row, tables.findTask id = some row → row.id = value.id → isTerminalTaskStatus value.status = false)
    (known : (tables.findTask id).isSome = true) (found : after.findTask id = some task) :
    isTerminalTaskStatus task.status = false := by
  obtain ⟨row, stored⟩ := Option.isSome_iff_exists.mp known
  rw [saveTask_findTask saved stored, Option.some.injEq] at found
  subst found
  split
  · next same => exact overwritten row stored same
  · next other => exact before row stored other

theorem Consistent.task_known (consistent : Consistent tables) (member : run ∈ tables.pipelines) :
    (tables.findTask run.taskId).isSome = true := by
  obtain ⟨task, found, -⟩ := consistent.known run member
  rw [found]
  rfl

theorem TasksOpen.advanced (opened : TasksOpen tables) (consistent : Consistent tables)
    (advance : Advanced tables after run changed) : TasksOpen after := by
  obtain ⟨command, record, effect⟩ := advance.effect
  obtain ⟨sameId, sameProject, sameTask, -⟩ := Effect.kept effect
  obtain ⟨now, settled, synced, rest⟩ := advance.synced
  rw [rest]
  intro other also active task found
  rcases syncTaskTerminal_ok synced with ⟨-, rfl⟩ | ⟨ended, row, value, stored, sameKey, -, saved⟩
  · rcases mem_replaceRun also with rfl | ⟨before, -⟩
    · exact opened run advance.member effect.active task (by rw [← sameTask]; exact found)
    · exact opened other before active task found
  · have pipelines : settled.pipelines = replaceRun tables.pipelines changed := by rw [saveTask_tasks saved]
    rw [show _ = settled.pipelines from rfl, pipelines] at also
    rcases mem_replaceRun also with rfl | ⟨before, different⟩
    · exact absurd active ended
    · refine saveTask_open saved (fun row kept _ => opened other before active row kept) ?_
        (consistent.task_known before) found
      intro overwritten kept same
      have sharedTask : other.taskId = run.taskId := by
        rw [← (findTask_found kept).2, same, sameKey, (findTask_found stored).2, sameTask]
      obtain ⟨mine, foundMine, inProject⟩ := consistent.known run advance.member
      obtain ⟨theirs, foundTheirs, alsoInProject⟩ := consistent.known other before
      have sharedProject : other.projectId = run.projectId := by
        rw [sharedTask, foundMine, Option.some.injEq] at foundTheirs
        rw [← inProject, ← alsoInProject, foundTheirs]
      have sameRun := consistent.oneActive other before run advance.member active effect.active sharedTask sharedProject
      exact absurd (sameRun.trans sameId.symm) different

/-- A command that does not end the task of an active run keeps the tasks of active runs open. -/
theorem TasksOpen.committed (opened : TasksOpen tables) (consistent : Consistent tables) {command : OfficeCommand}
    (committed : Committed tables command after) (apart : ¬command.EndsTask tables) : TasksOpen after := by
  cases committed with
  | @created input value _ create saved =>
    intro run also active task found
    have member : run ∈ tables.pipelines := by
      rw [saveTask_tasks saved] at also
      exact also
    refine saveTask_open saved (fun row kept _ => opened run member active row kept) (fun _ _ _ => ?_)
      (consistent.task_known member) found
    rw [(Task.create_ok create).2.2]
    rfl
  | @moved command row value _ found sameId moves saved =>
    intro run also active task later
    have member : run ∈ tables.pipelines := by
      rw [saveTask_tasks saved] at also
      exact also
    refine saveTask_open saved (fun row kept _ => opened run member active row kept) (fun other kept same => ?_)
      (consistent.task_known member) later
    -- The row of the command is that of the run, so its new status is not a terminal one.
    have key : run.taskId = command.taskId := by
      rw [← (findTask_found kept).2, same, sameId, (findTask_found found).2]
    obtain ⟨known, stored, inProject⟩ := consistent.known run member
    rw [key, found, Option.some.injEq] at stored
    subst stored
    have shared := findActiveByTask_some member active
    rw [key, ← (findTask_found found).2, ← inProject] at shared
    by_contra terminal
    exact apart ⟨row, value.status, found, shared, moves, by simpa using terminal⟩
  | @started input _ _ task _ run value settled inserted _ found inProject create sameProject sameTask start saved
      insert rest =>
      obtain ⟨-, rfl⟩ := Task.transition_ok start
      obtain ⟨rfl, -⟩ := insertPipelineRun_ok insert
      rw [rest]
      intro other also active row later
      have tablesKept : settled.pipelines = tables.pipelines := by rw [saveTask_tasks saved]
      rcases List.mem_append.mp also with before | new
      · rw [tablesKept] at before
        exact saveTask_open saved (fun row kept _ => opened other before active row kept) (fun _ _ _ => rfl)
          (consistent.task_known before) later
      · obtain rfl := List.mem_singleton.mp new
        obtain ⟨projectId, taskId⟩ := create_identity create
        obtain ⟨stored, key⟩ := findTask_found found
        obtain ⟨trimmedId, trimmedProject⟩ := consistent.trimmed task stored
        have same : other.taskId = input.taskId := by
          rw [taskId, sameTask, ← key]
          exact trimmedId
        rw [same] at later
        refine saveTask_open saved (fun row kept different => ?_) (fun _ _ _ => rfl) ?_ later
        · rw [found, Option.some.injEq] at kept
          subst kept
          exact absurd rfl different
        · rw [found]
          rfl
  | advanced advance => exact opened.advanced consistent advance
  | replaced known tasks pipelines =>
    intro run also active task found
    rw [pipelines] at also
    refine opened run also active task ?_
    unfold OfficeTables.findTask at found ⊢
    rw [← tasks]
    exact found

theorem Blank.tasksOpen (blank : Blank tables) : TasksOpen tables := by
  intro run member
  rw [blank.pipelines] at member
  exact absurd member List.not_mem_nil

/-- After every run of commands none of which ends the task of an active run, the operator can cancel every active
run, at any time that is not before its last update. -/
theorem active_runs_cancellable {start : OfficeTables} (blank : Blank start)
    (reached : Transition.Reachable PerformsApart start tables) (member : run ∈ tables.pipelines)
    (active : run.status = .active) (inOrder : run.updatedAt ≤ now) : Cancellable tables run now synced := by
  have kept := reached.invariant (fun tables => Consistent tables ∧ TasksOpen tables)
    ⟨blank.consistent, blank.tasksOpen⟩ fun before command after ⟨consistent, opened⟩ ⟨performs, apart⟩ => by
      refine ⟨consistent.performs performs, ?_⟩
      cases performs with
      | committed generated performed =>
        exact opened.committed consistent
          (command.perform_committed consistent.runIds consistent.stored performed) apart
      | refused => exact opened
  exact (cancellable_iff kept.1 member active).mpr ⟨kept.2 run member active, inOrder⟩

theorem active_runs_cancellable_started :
    ∃ tables run, Transition.Reachable PerformsApart emptyOffice tables ∧ run ∈ tables.pipelines ∧
      run.status = .active ∧ Cancellable tables run 5 6 := by
  have reached : Transition.Reachable PerformsApart emptyOffice startedOffice :=
    ((Transition.Reachable.refl emptyOffice).snoc ⟨emptyOffice_creates, nofun⟩).snoc ⟨buildOffice_starts, nofun⟩
  have member : startedRun ∈ startedOffice.pipelines := List.mem_singleton_self _
  exact ⟨startedOffice, startedRun, reached, member, rfl,
    active_runs_cancellable ⟨rfl, rfl, rfl⟩ reached member rfl (by decide)⟩

def completeBuild : OfficeCommand := .task (.lifecycle ⟨"project", "task", .complete, none⟩ 2)

def completedOffice : OfficeTables := { startedOffice with
  tasks := [⟨"task", "project", "Task", none, .completed, 0, 0, 2⟩] }

/-- A run whose task was completed by its lifecycle is still active, and cannot be cancelled. -/
theorem run_outlives_task :
    ¬∀ start tables run now synced, Blank start → Transition.Reachable Performs start tables →
      run ∈ tables.pipelines → run.status = .active → run.updatedAt ≤ now → Cancellable tables run now synced := by
  intro cancellable
  have reached : Transition.Reachable Performs emptyOffice completedOffice :=
    (((Transition.Reachable.refl emptyOffice).snoc emptyOffice_creates).snoc buildOffice_starts).snoc
      (show Performs _ completeBuild _ from .committed trivial (by decide))
  have member : startedRun ∈ completedOffice.pipelines := List.mem_singleton_self _
  have consistent := reachable_consistent ⟨rfl, rfl, rfl⟩ reached
  have cancels := cancellable emptyOffice completedOffice startedRun 5 6 ⟨rfl, rfl, rfl⟩ reached member rfl (by decide)
  have unfinished := ((cancellable_iff consistent member rfl).mp cancels).1 _ rfl
  revert unfinished
  decide

end AiOffice.Application.Pipeline
