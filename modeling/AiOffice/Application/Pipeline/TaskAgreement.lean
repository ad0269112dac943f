import AiOffice.Application.Pipeline.Consistency

namespace AiOffice.Application.Pipeline

open Data Outcome Domain Domain.PipelineRun Storage.Office ManagePipelineRuns

def OfficeCommand.Fresh (tables : OfficeTables) : OfficeCommand → Prop
  | .createTask input => tables.findTask input.id = none
  | _ => True

def PerformsFresh (before : OfficeTables) (command : OfficeCommand) (after : OfficeTables) : Prop :=
  Performs before command after ∧ command.Fresh before

def endedStatus : PipelineRunStatus → Option TaskStatus
  | .active => none
  | .completed => some .completed
  | .cancelled => some .cancelled

def PrerequisitesFinished (tables : OfficeTables) (projectId taskId : String) : Prop :=
  ∀ edge ∈ tables.dependencies, edge.projectId = projectId → edge.taskId = taskId →
    ∃ task, tables.findTask edge.dependsOnTaskId = some task ∧ task.projectId = projectId ∧ task.status = .completed

/-- A completed run has a completed task, and a cancelled run a cancelled one. -/
def TasksAgree (tables : OfficeTables) : Prop :=
  ∀ run ∈ tables.pipelines, ∀ status, endedStatus run.status = some status →
    ∃ task, tables.findTask run.taskId = some task ∧ task.projectId = run.projectId ∧ task.status = status

def EndsTogether (before after : OfficeTables) : Prop :=
  ∀ run ∈ after.pipelines, run.status ≠ .active →
    (∀ earlier ∈ before.pipelines, earlier.id = run.id → earlier.status = .active) →
    ∃ row task, before.findTask run.taskId = some row ∧ isTerminalTaskStatus row.status = false ∧
      after.findTask run.taskId = some task ∧ endedStatus run.status = some task.status

inductive Completion (tables : OfficeTables) : OfficeCommand → PipelineRunProps → Prop
  | submitted {input now synced principal run record changed} (bound : agentPrincipal input tables = .ok principal)
      (found : requireRun principal.pipelineRunId input.projectId tables = .ok run)
      (performed : Method.attempt (Command.completeStage principal.agentId now).perform run = .ok (record, changed))
      (completed : changed.status = .completed) : Completion tables (.completeStage input now synced) run
  | approved {input now synced run record changed}
      (found : requireRun input.pipelineRunId input.projectId tables = .ok run)
      (performed : Method.attempt (Command.approveStage input.principal.id input.rationale now).perform run =
        .ok (record, changed))
      (completed : changed.status = .completed) : Completion tables (.approveStage input now synced) run
  | overridden {input now synced run record changed}
      (found : requireRun input.pipelineRunId input.projectId tables = .ok run)
      (performed : Method.attempt
        (Command.overrideCurrent ⟨input.overrideId, input.principal.id, input.reason, now⟩).perform run =
        .ok (record, changed))
      (completed : changed.status = .completed) : Completion tables (.overrideStage input now synced) run

variable {tables after : OfficeTables} {run changed : PipelineRunProps} {now : Date} {projectId taskId : String}

theorem assertTaskPrerequisitesComplete_ok (unique : (tables.tasks.map TaskProps.id).Nodup)
    (admitted : assertTaskPrerequisitesComplete projectId taskId .completion tables = .ok ()) :
    PrerequisitesFinished tables projectId taskId := by
  obtain ⟨blockedBy, blocked, admitted⟩ := bind_ok admitted
  obtain ⟨none, -⟩ := guard_ok admitted
  rw [not_not.mp none, blockingPrerequisites_none_iff] at blocked
  intro edge member inProject ofTask
  have required : edge.dependsOnTaskId ∈ tables.prerequisites projectId taskId :=
    List.mem_map_of_mem (List.mem_filter.mpr ⟨member, by simp [inProject, ofTask]⟩)
  obtain ⟨status, known, satisfied⟩ := blocked _ required
  obtain ⟨task, found, taskProject, rfl⟩ := statuses_known unique known
  exact ⟨task, found, taskProject, by simpa [PrerequisiteRequirement.satisfied] using satisfied⟩

/-- The end of a run moves its open task to the status of the end. -/
theorem syncTaskTerminal_ended (unique : (tables.tasks.map TaskProps.id).Nodup) (ended : run.status ≠ .active)
    (synced : syncTaskTerminal run now tables = .ok after) :
    ∃ row status, tables.findTask run.taskId = some row ∧ row.projectId = run.projectId ∧
      endedStatus run.status = some status ∧ status ∈ taskTransitions row.status ∧
      saveTask { row with status, updatedAt := now } tables = .ok after ∧
      (run.status = .completed → PrerequisitesFinished tables run.projectId run.taskId) := by
  unfold syncTaskTerminal at synced
  rw [if_neg ended] at synced
  split at synced
  · cases synced
  · next row found =>
      obtain ⟨inProject, synced⟩ := guard_ok synced
      refine ⟨row, ?_⟩
      split at synced
      · next completed =>
          obtain ⟨⟨⟩, admitted, synced⟩ := bind_ok synced
          obtain ⟨value, moved, saved⟩ := bind_ok synced
          obtain ⟨allowed, rfl⟩ := Task.transition_ok moved
          exact ⟨.completed, found, not_not.mp inProject, by rw [completed]; rfl, allowed, saved,
            fun _ => assertTaskPrerequisitesComplete_ok unique admitted⟩
      · next other =>
          obtain ⟨value, moved, saved⟩ := bind_ok synced
          obtain ⟨allowed, rfl⟩ := Task.transition_ok moved
          have cancelled : run.status = .cancelled := by
            cases status : run.status with
            | active => exact absurd status ended
            | completed => exact absurd status other
            | cancelled => rfl
          exact ⟨.cancelled, found, not_not.mp inProject, by rw [cancelled]; rfl, allowed, saved,
            fun completed => absurd completed other⟩

theorem open_of_transition {before status : TaskStatus} (allowed : status ∈ taskTransitions before) :
    isTerminalTaskStatus before = false := by
  by_contra terminal
  rw [(isTerminalTaskStatus_iff before).mp (by simpa using terminal)] at allowed
  exact List.not_mem_nil allowed

/-- What a command may do to the table of tasks: nothing, a new row, or one row written over. -/
inductive TaskWrite (tables : OfficeTables) (tasks : List TaskProps) : Prop
  | kept (same : tasks = tables.tasks)
  | created {value : TaskProps} (fresh : tables.findTask value.id = none) (pending : value.status = .pending)
      (written : tasks = tables.tasks ++ [value])
  | moved {row value : TaskProps} (found : tables.findTask value.id = some row)
      (passed : taskUpdateRefused tables row value = false)
      (terminal : isTerminalTaskStatus row.status = true → value.status = row.status)
      (written : tasks = (tables.replaceTask value).tasks)

theorem TaskWrite.of_saved {settled : OfficeTables} {id : String} {row value : TaskProps}
    (found : tables.findTask id = some row) (sameId : value.id = row.id)
    (terminal : isTerminalTaskStatus row.status = true → value.status = row.status)
    (saved : saveTask value tables = .ok settled) : TaskWrite tables settled.tasks := by
  have located : tables.findTask value.id = some row := by rw [sameId, (findTask_found found).2, found]
  obtain ⟨passed, rfl⟩ := saveTask_overwrites located saved
  exact .moved located passed terminal rfl

theorem terminal_of_transition {before status : TaskStatus} (allowed : status ∈ taskTransitions before)
    (terminal : isTerminalTaskStatus before = true) : status = before := by
  rw [open_of_transition allowed] at terminal
  cases terminal

theorem Committed.taskWrite {command : OfficeCommand} (committed : Committed tables command after)
    (fresh : command.Fresh tables) : TaskWrite tables after.tasks := by
  cases committed with
  | @created input task _ create saved =>
    have absent : tables.findTask task.id = none := by rw [(Task.create_ok create).1]; exact fresh
    simp only [saveTask, absent] at saved
    cases saved
    exact .created absent (Task.create_ok create).2.2 rfl
  | moved found sameId moves saved => exact .of_saved found sameId moves.terminal saved
  | @started _ _ _ row _ run value settled _ _ found _ _ _ _ start saved insert rest =>
    obtain ⟨allowed, started⟩ := Task.transition_ok start
    obtain ⟨rfl, -⟩ := insertPipelineRun_ok insert
    have tasks : after.tasks = settled.tasks := by rw [rest]
    rw [tasks]
    refine .of_saved found (by rw [started]) (fun terminal => ?_) saved
    rw [started]
    exact terminal_of_transition allowed terminal
  | @advanced _ run changed _ advance =>
    obtain ⟨now, settled, synced, rest⟩ := advance.synced
    have tasks : after.tasks = settled.tasks := by rw [rest]
    rw [tasks]
    rcases syncTaskTerminal_ok synced with ⟨-, rfl⟩ | ⟨-, row, value, found, sameId, allowed, saved⟩
    · exact .kept rfl
    · cases TaskWrite.of_saved found sameId (terminal_of_transition allowed) saved with
      | kept same => exact .kept same
      | created absent pending written => exact .created absent pending written
      | moved located passed terminal written => exact .moved located passed terminal written
  | replaced known tasks pipelines => exact .kept tasks

/-- What becomes of a row. -/
theorem TaskWrite.lasting (write : TaskWrite tables after.tasks) {id : String} {row : TaskProps}
    (found : tables.findTask id = some row) :
    ∃ task, after.findTask id = some task ∧ task.projectId = row.projectId ∧
      (task.status = row.status ∨ isTerminalTaskStatus row.status = false ∧
        ∃ value, value.status = task.status ∧ taskUpdateRefused tables row value = false) := by
  cases write with
  | kept same =>
    refine ⟨row, ?_, rfl, .inl rfl⟩
    rw [OfficeTables.findTask, same]
    exact found
  | created fresh pending written =>
    refine ⟨row, ?_, rfl, .inl rfl⟩
    rw [OfficeTables.findTask, written, List.find?_append]
    rw [OfficeTables.findTask] at found
    rw [found]
    rfl
  | @moved other value located passed terminal written =>
    have later : after.findTask id = some (if row.id = value.id then overwriteTask row value else row) := by
      have replaced := @replaceTask_findTask tables value id
      rw [found] at replaced
      rw [OfficeTables.findTask, written]
      exact replaced
    refine ⟨_, later, ?_⟩
    split
    · next same =>
        have key : value.id = id := by rw [← same, (findTask_found found).2]
        rw [key, found, Option.some.injEq] at located
        subst located
        refine ⟨rfl, ?_⟩
        cases ended : isTerminalTaskStatus row.status with
        | true => exact .inl (terminal ended)
        | false => exact .inr ⟨rfl, value, rfl, passed⟩
    · exact ⟨rfl, .inl rfl⟩

theorem TaskWrite.terminal (write : TaskWrite tables after.tasks) {id : String} {row : TaskProps}
    (found : tables.findTask id = some row) (terminal : isTerminalTaskStatus row.status = true) :
    ∃ task, after.findTask id = some task ∧ task.projectId = row.projectId ∧ task.status = row.status := by
  obtain ⟨task, later, inProject, same | ⟨unfinished, -⟩⟩ := write.lasting found
  · exact ⟨task, later, inProject, same⟩
  · rw [terminal] at unfinished
    cases unfinished

theorem Advanced.ended (advance : Advanced tables after run changed) (unique : (tables.tasks.map TaskProps.id).Nodup)
    (ended : changed.status ≠ .active) :
    ∃ row task, tables.findTask changed.taskId = some row ∧ isTerminalTaskStatus row.status = false ∧
      after.findTask changed.taskId = some task ∧ task.projectId = changed.projectId ∧
      endedStatus changed.status = some task.status := by
  obtain ⟨now, settled, synced, rest⟩ := advance.synced
  have keyed : (({ tables with pipelines := replaceRun tables.pipelines changed } : OfficeTables).tasks.map
      TaskProps.id).Nodup := unique
  obtain ⟨row, status, found, inProject, agrees, allowed, saved, -⟩ := syncTaskTerminal_ended keyed ended synced
  have later := saveTask_findTask saved found
  rw [if_pos rfl] at later
  rw [rest]
  exact ⟨row, _, found, open_of_transition allowed, later, inProject, agrees⟩

theorem TasksAgree.committed (agree : TasksAgree tables) (consistent : Consistent tables) {command : OfficeCommand}
    (fresh : command.Fresh tables) (committed : Committed tables command after) :
    TasksAgree after ∧ EndsTogether tables after := by
  -- A run that had ended before keeps its task, so only one that ends now needs its command.
  have earlier : ∀ run ∈ tables.pipelines, ∀ status, endedStatus run.status = some status →
      ∃ task, after.findTask run.taskId = some task ∧ task.projectId = run.projectId ∧ task.status = status := by
    intro run member status agrees
    obtain ⟨row, found, inProject, rfl⟩ := agree run member status agrees
    have terminal : isTerminalTaskStatus row.status = true := by
      revert agrees
      cases run.status <;> simp only [endedStatus, Option.some.injEq, reduceCtorEq, false_implies] <;> rintro same <;>
        rw [← same] <;> rfl
    obtain ⟨task, later, sameProject, sameStatus⟩ := (committed.taskWrite fresh).terminal found terminal
    exact ⟨task, later, sameProject.trans inProject, sameStatus⟩
  have quiet (same : after.pipelines = tables.pipelines) : TasksAgree after ∧ EndsTogether tables after := by
    refine ⟨fun run member => earlier run (same ▸ member), fun run member ended before => ?_⟩
    exact absurd (before run (same ▸ member) rfl) ended
  cases committed with
  | created create saved => exact quiet (by rw [saveTask_tasks saved])
  | moved found sameId moves saved => exact quiet (by rw [saveTask_tasks saved])
  | replaced known tasks pipelines => exact quiet pipelines
  | @started input _ _ task _ run value settled inserted _ found inProject create sameProject sameTask start saved
      insert rest =>
      obtain ⟨rfl, -⟩ := insertPipelineRun_ok insert
      have active := (create_created create).status
      have members : ∀ other ∈ after.pipelines, other ∈ tables.pipelines ∨ other = run := by
        intro other member
        rw [rest] at member
        rcases List.mem_append.mp member with stored | new
        · rw [saveTask_tasks saved] at stored
          exact .inl stored
        · exact .inr (List.mem_singleton.mp new)
      refine ⟨fun other member status agrees => ?_, fun other member ended before => ?_⟩
      · rcases members other member with stored | rfl
        · exact earlier other stored status agrees
        · rw [active] at agrees
          cases agrees
      · rcases members other member with stored | rfl
        · exact absurd (before other stored rfl) ended
        · exact absurd active ended
  | @advanced _ run changed _ advance =>
    obtain ⟨command, record, effect⟩ := advance.effect
    obtain ⟨now, settled, synced, rest⟩ := advance.synced
    have pipelines : after.pipelines = replaceRun tables.pipelines changed := by
      rw [rest]
      rcases syncTaskTerminal_ok synced with ⟨-, rfl⟩ | ⟨-, row, value, -, -, -, saved⟩
      · rfl
      · change settled.pipelines = _
        rw [saveTask_tasks saved]
    refine ⟨fun other member status agrees => ?_, fun other member ended before => ?_⟩ <;> rw [pipelines] at member <;>
      rcases mem_replaceRun member with rfl | ⟨stored, -⟩
    · have ended : other.status ≠ .active := by
        intro active
        rw [active] at agrees
        cases agrees
      obtain ⟨row, task, -, -, later, inProject, same⟩ := advance.ended consistent.taskIds ended
      exact ⟨task, later, inProject, Option.some.inj (same.symm.trans agrees)⟩
    · exact earlier other stored status agrees
    · obtain ⟨row, task, found, unfinished, later, -, same⟩ := advance.ended consistent.taskIds ended
      exact ⟨row, task, found, unfinished, later, same⟩
    · exact absurd (before other stored rfl) ended

theorem Blank.tasksAgree (blank : Blank tables) : TasksAgree tables := by
  intro run member
  rw [blank.pipelines] at member
  exact absurd member List.not_mem_nil

theorem TasksAgree.performs (agree : TasksAgree tables) (consistent : Consistent tables) {command : OfficeCommand}
    (performs : PerformsFresh tables command after) : TasksAgree after ∧ EndsTogether tables after := by
  obtain ⟨performs, fresh⟩ := performs
  cases performs with
  | committed generated performed =>
    exact agree.committed consistent fresh (command.perform_committed consistent.runIds consistent.stored performed)
  | refused =>
    exact ⟨agree, fun run member ended before => absurd (before run member rfl) ended⟩

theorem persisted_completed (consistent : Consistent tables) {operation : Command} {performed : Performed}
    {record : Option PipelineOverrideRecord} {middle settled : OfficeTables} (member : run ∈ tables.pipelines)
    (operated : Method.attempt operation.perform run = .ok (record, changed)) (completed : changed.status = .completed)
    (persisted : performAndPersist operation run tables = .ok (performed, middle))
    (synced : syncTaskTerminal performed.run now middle = .ok settled) :
    PrerequisitesFinished tables run.projectId run.taskId := by
  obtain ⟨effect, -, -, rfl⟩ := performAndPersist_ok consistent.runIds member (consistent.stored run member) persisted
  obtain ⟨⟨again, value⟩, operatedToo, saves⟩ := bind_ok persisted
  obtain ⟨left, -, saves⟩ := bind_ok saves
  cases saves
  obtain ⟨rfl, rfl⟩ := Prod.mk.inj (Except.ok.inj (operatedToo.symm.trans operated))
  have keyed : (({ tables with pipelines := replaceRun tables.pipelines value } : OfficeTables).tasks.map
      TaskProps.id).Nodup := consistent.taskIds
  obtain ⟨row, status, -, -, -, -, -, finished⟩ := syncTaskTerminal_ended keyed (by rw [completed]; nofun) synced
  obtain ⟨-, sameProject, sameTask, -⟩ := Effect.kept effect
  have finished := finished completed
  rw [sameProject, sameTask] at finished
  exact finished

/-- A command that completes a run commits only when the prerequisites of its task are completed. -/
theorem Completion.finished (consistent : Consistent tables) {command : OfficeCommand}
    (completion : Completion tables command run) (performed : command.perform tables = .ok after) :
    PrerequisitesFinished tables run.projectId run.taskId := by
  cases completion with
  | submitted bound found operated completed =>
    obtain ⟨⟨left, final⟩, returned, -⟩ := map_ok performed
    obtain ⟨principal, boundToo, returned⟩ := bind_ok returned
    obtain rfl := Except.ok.inj (boundToo.symm.trans bound)
    obtain ⟨read, foundToo, returned⟩ := bind_ok returned
    obtain rfl := Except.ok.inj (foundToo.symm.trans found)
    obtain ⟨-, -, returned⟩ := bind_ok returned
    obtain ⟨⟨result, middle⟩, persisted, returned⟩ := bind_ok returned
    obtain ⟨settled, synced, -⟩ := bind_ok returned
    exact persisted_completed consistent (requireRun_ok found).1 operated completed persisted synced
  | approved found operated completed =>
    obtain ⟨⟨left, final⟩, returned, -⟩ := map_ok performed
    obtain ⟨-, -, returned⟩ := bind_ok returned
    obtain ⟨read, foundToo, returned⟩ := bind_ok returned
    obtain rfl := Except.ok.inj (foundToo.symm.trans found)
    obtain ⟨⟨result, middle⟩, persisted, returned⟩ := bind_ok returned
    obtain ⟨settled, synced, -⟩ := bind_ok returned
    exact persisted_completed consistent (requireRun_ok found).1 operated completed persisted synced
  | overridden found operated completed =>
    obtain ⟨⟨left, final⟩, returned, -⟩ := map_ok performed
    obtain ⟨-, -, returned⟩ := bind_ok returned
    obtain ⟨read, foundToo, returned⟩ := bind_ok returned
    obtain rfl := Except.ok.inj (foundToo.symm.trans found)
    obtain ⟨⟨result, middle⟩, persisted, returned⟩ := bind_ok returned
    obtain ⟨settled, synced, -⟩ := bind_ok returned
    exact persisted_completed consistent (requireRun_ok found).1 operated completed persisted synced

theorem Completion.refused (consistent : Consistent tables) {command : OfficeCommand}
    (completion : Completion tables command run)
    (unfinished : ¬PrerequisitesFinished tables run.projectId run.taskId)
    (performs : Performs tables command after) : (∃ thrown, command.perform tables = .error thrown) ∧ after = tables := by
  cases performs with
  | committed generated performed => exact absurd (completion.finished consistent performed) unfinished
  | refused threw => exact ⟨⟨_, threw⟩, rfl⟩

theorem terminal_runs_agree {start : OfficeTables} (blank : Blank start)
    (reached : Transition.Reachable PerformsFresh start tables) :
    TasksAgree tables ∧ ∀ command after, PerformsFresh tables command after →
      EndsTogether tables after ∧ ∀ run, Completion tables command run →
        ¬PrerequisitesFinished tables run.projectId run.taskId →
        (∃ thrown, command.perform tables = .error thrown) ∧ after = tables := by
  obtain ⟨consistent, agree⟩ := reached.invariant (fun tables => Consistent tables ∧ TasksAgree tables)
    ⟨blank.consistent, blank.tasksAgree⟩ fun before command after ⟨consistent, agree⟩ performs =>
      ⟨consistent.performs performs.1, (agree.performs consistent performs).1⟩
  refine ⟨agree, fun command after performs => ⟨(agree.performs consistent performs).2, fun run completion unfinished => ?_⟩⟩
  exact completion.refused consistent unfinished performs.1

def otherTask (status : TaskStatus) (updatedAt : Date) : TaskProps :=
  ⟨"other", "project", "Other", none, status, 0, 0, updatedAt⟩

def otherOffice (status : TaskStatus) (updatedAt : Date) : OfficeTables :=
  { emptyOffice with tasks := [otherTask status updatedAt] }

def reviewedOffice : OfficeTables :=
  { emptyOffice with tasks := [otherTask .waitingReview 2, ⟨"task", "project", "Task", none, .pending, 0, 0, 0⟩] }

def dependentOffice : OfficeTables := { reviewedOffice with dependencies := [⟨"project", "task", "other"⟩] }

def reviewingOffice : OfficeTables := { dependentOffice with
  tasks := [otherTask .waitingReview 2, ⟨"task", "project", "Task", none, .running, 0, 0, 1⟩]
  pipelines := [startedRun]
  outbox := [⟨"project", "ii", "i", 1⟩] }

def overrideBuild : OfficeCommand :=
  .overrideStage ⟨"project", "ii", localOperatorPrincipal, "reason", "override"⟩ 3 3

theorem reviewingOffice_reachable : Transition.Reachable PerformsFresh emptyOffice reviewingOffice := by
  have created : PerformsFresh emptyOffice (.createTask ⟨"project", "other", "Other", none, none, 0⟩)
      (otherOffice .pending 0) := ⟨.committed (show Trimmed "other" ∧ Trimmed "project" by decide) (by decide), rfl⟩
  have started : PerformsFresh (otherOffice .pending 0) (.task (.lifecycle ⟨"project", "other", .start, none⟩ 1))
      (otherOffice .running 1) := ⟨.committed trivial (by decide), trivial⟩
  have submitted : PerformsFresh (otherOffice .running 1)
      (.task (.lifecycle ⟨"project", "other", .submitReview, none⟩ 2)) (otherOffice .waitingReview 2) :=
    ⟨.committed trivial (by decide), trivial⟩
  have createdToo : PerformsFresh (otherOffice .waitingReview 2) createBuild reviewedOffice :=
    ⟨.committed (show Trimmed "task" ∧ Trimmed "project" by decide) (by decide), rfl⟩
  have linked : PerformsFresh reviewedOffice (.replaceOthers ⟨["project"], [⟨"project", "task", "other"⟩],
      emptyOffice.manifests, emptyOffice.agents, emptyOffice.roles, [], []⟩) dependentOffice :=
    ⟨.committed trivial (by decide), trivial⟩
  have run : PerformsFresh dependentOffice (.start startBuild false buildSupply) reviewingOffice :=
    ⟨.committed trivial (by decide), trivial⟩
  exact (((((Transition.Reachable.refl emptyOffice).snoc created).snoc started).snoc submitted).snoc createdToo).snoc
    linked |>.snoc run

def overriddenRun : PipelineRunProps := { startedRun with
  status := .completed
  stages := [⟨"i", "build", 0, "developer", .completed, none, none, some 3, none, none, none, none⟩]
  version := 2
  updatedAt := 3
  completedAt := some 3 }

theorem overrideBuild_refused : Performs reviewingOffice overrideBuild reviewingOffice := by
  cases performed : overrideBuild.perform reviewingOffice with
  | error thrown => exact .refused performed
  | ok after =>
    exfalso
    revert performed
    have refused : (overrideBuild.perform reviewingOffice).toOption = none := by decide
    intro performed
    rw [performed] at refused
    cases refused

theorem terminal_runs_agree_reviewing : TasksAgree reviewingOffice ∧ EndsTogether reviewingOffice reviewingOffice ∧
    ∃ thrown, overrideBuild.perform reviewingOffice = .error thrown := by
  obtain ⟨agree, steps⟩ := terminal_runs_agree ⟨rfl, rfl, rfl⟩ reviewingOffice_reachable
  obtain ⟨together, refused⟩ := steps overrideBuild reviewingOffice ⟨overrideBuild_refused, trivial⟩
  have performed : Method.attempt (Command.overrideCurrent ⟨"override", "local-operator", "reason", 3⟩).perform startedRun =
      .ok (some ⟨"override", "project", "ii", "i", "local-operator", "reason", "pipeline_agent_not_assigned",
        "stage_completed", 3⟩, overriddenRun) := by
    decide
  have completion : Completion reviewingOffice overrideBuild startedRun :=
    .overridden (by decide) performed rfl
  have unfinished : ¬PrerequisitesFinished reviewingOffice "project" "task" := by
    intro finished
    obtain ⟨task, found, -, completed⟩ := finished ⟨"project", "task", "other"⟩ List.mem_cons_self rfl rfl
    cases found
    cases completed
  exact ⟨agree, together, (refused startedRun completion unfinished).1⟩

end AiOffice.Application.Pipeline
