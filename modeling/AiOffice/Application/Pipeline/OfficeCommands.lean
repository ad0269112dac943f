import AiOffice.Application.Pipeline.ManagePipelineRuns
import AiOffice.Storage.Office.PipelineRows
import AiOffice.Transition.Run

namespace AiOffice.Application.Pipeline

open Data Outcome Domain Domain.PipelineRun Storage.Office ManagePipelineRuns

structure OtherTables where
  projects : List String
  dependencies : List TaskDependency
  manifests : List OfficeManifestRevision
  agents : List Agent
  roles : List Role
  agentRuns : List AgentRunBinding
  outbox : List OutboxJob

def edgeKnown (tables : OfficeTables) (edge : TaskDependency) : Bool :=
  (tables.statuses edge.projectId edge.taskId).isSome && (tables.statuses edge.projectId edge.dependsOnTaskId).isSome

/-- What other commands may do to the other tables: anything, but for the trigger on prerequisites. -/
def replaceOthers (others : OtherTables) (tables : OfficeTables) : Except Thrown OfficeTables :=
  if !others.dependencies.all (edgeKnown tables) then
    .error (abort "task dependency must remain in one project")
  else .ok { tables with
    projects := others.projects
    dependencies := others.dependencies
    manifests := others.manifests
    agents := others.agents
    roles := others.roles
    agentRuns := others.agentRuns
    outbox := others.outbox }

inductive OfficeCommand
  | createTask (input : CreateTask)
  | task (command : TaskCommand)
  | start (input : StartPipelineRun) (selectsPacks : Bool) (supply : StartSupply)
  | assign (input : AssignStage) (now : Date)
  | completeStage (input : CompleteStageFromAgentRun) (now synced : Date)
  | approveStage (input : ApproveStage) (now synced : Date)
  | rejectStage (input : RejectStage) (now synced : Date)
  | overrideStage (input : OverrideStage) (now synced : Date)
  | cancel (input : CancelPipelineRun) (now synced : Date)
  | replaceOthers (others : OtherTables)

def OfficeCommand.perform (tables : OfficeTables) : OfficeCommand → Except Thrown OfficeTables
  | .createTask input => input.execute tables
  | .task command => command.perform tables
  | .start input selectsPacks supply =>
    (ManagePipelineRuns.start input selectsPacks supply tables).map Prod.snd
  | .assign input now => (ManagePipelineRuns.assign input now tables).map Prod.snd
  | .completeStage input now synced =>
    (ManagePipelineRuns.completeStageFromAgentRun input now synced tables).map Prod.snd
  | .approveStage input now synced => (ManagePipelineRuns.approveStage input now synced tables).map Prod.snd
  | .rejectStage input now synced => (ManagePipelineRuns.rejectStage input now synced tables).map Prod.snd
  | .overrideStage input now synced => (ManagePipelineRuns.overrideStage input now synced tables).map Prod.snd
  | .cancel input now synced => (ManagePipelineRuns.cancel input now synced tables).map Prod.snd
  | .replaceOthers others => Pipeline.replaceOthers others tables

/-- Generated ids, and the ids of projects, have no white space at their ends. -/
def OfficeCommand.Generated : OfficeCommand → Prop
  | .createTask input => Trimmed input.id ∧ Trimmed input.projectId
  | _ => True

/-- A command commits, or throws and leaves the tables as they were. -/
inductive Performs (before : OfficeTables) (command : OfficeCommand) : OfficeTables → Prop
  | committed {after} (generated : command.Generated) (performed : command.perform before = .ok after) :
      Performs before command after
  | refused {thrown} (threw : command.perform before = .error thrown) : Performs before command before

/-- An operation moved a stored run, and ended its task if it ended the run. -/
structure Advanced (tables after : OfficeTables) (run changed : PipelineRunProps) : Prop where
  member : run ∈ tables.pipelines
  effect : ∃ command record, Effect run command record changed
  stored : RunStored changed
  synced : ∃ now synced,
    syncTaskTerminal changed now { tables with pipelines := replaceRun tables.pipelines changed } = .ok synced ∧
      after = { synced with overrides := after.overrides, outbox := after.outbox }

inductive Committed (tables : OfficeTables) : OfficeCommand → OfficeTables → Prop
  | created {input task after}
      (create : Task.create input.id input.projectId input.title input.description input.priority input.now = .ok task)
      (saved : saveTask task tables = .ok after) : Committed tables (.createTask input) after
  | moved {command row value after} (found : tables.findTask command.taskId = some row) (sameId : value.id = row.id)
      (moves : command.Moves row.status value.status) (saved : saveTask value tables = .ok after) :
      Committed tables (.task command) after
  | started {input selectsPacks supply task creation run value settled inserted after}
      (found : tables.findTask input.taskId = some task) (inProject : task.projectId = input.projectId)
      (create : PipelineRun.create creation = .ok run) (sameProject : creation.projectId = input.projectId)
      (sameTask : creation.taskId = input.taskId) (start : Task.start task supply.now = .ok value)
      (saved : saveTask value tables = .ok settled) (insert : insertPipelineRun run settled = .ok inserted)
      (rest : after = { inserted with outbox := after.outbox }) :
      Committed tables (.start input selectsPacks supply) after
  | advanced {command run changed after} (advance : Advanced tables after run changed) : Committed tables command after
  | replaced {others after} (known : ∀ edge ∈ after.dependencies, edgeKnown tables edge = true)
      (tasks : after.tasks = tables.tasks) (pipelines : after.pipelines = tables.pipelines) :
      Committed tables (.replaceOthers others) after

variable {tables after : OfficeTables} {run : PipelineRunProps} {command : Command}

theorem requireRun_ok {id projectId : String} (required : requireRun id projectId tables = .ok run) :
    run ∈ tables.pipelines ∧ run.id = id ∧ run.projectId = projectId := by
  unfold requireRun at required
  split at required
  · cases required
  · next found =>
      cases required
      exact findPipelineRun_found found

theorem attempt_effect (stored : RunStored run) {record : Option PipelineOverrideRecord} {changed : PipelineRunProps}
    (performed : Method.attempt command.perform run = .ok (record, changed)) : Effect run command record changed := by
  rw [Method.attempt_ok_iff] at performed
  obtain ⟨thrown, threw⟩ | ⟨answer, left, returned, effect⟩ := perform_ends stored.wellFormed.indexed command
  · rw [threw] at performed
    cases performed
  · rw [returned] at performed
    cases performed
    exact effect

theorem performAndPersist_ok (unique : (tables.pipelines.map PipelineRunProps.id).Nodup)
    (member : run ∈ tables.pipelines) (stored : RunStored run) {performed : Performed}
    (changed : performAndPersist command run tables = .ok (performed, after)) :
    Effect run command performed.record performed.run ∧ RunStored performed.run ∧
      run.updatedAt ≤ performed.run.updatedAt ∧
      after = { tables with pipelines := replaceRun tables.pipelines performed.run } := by
  obtain ⟨⟨record, value⟩, operated, changed⟩ := bind_ok changed
  obtain ⟨left, persisted, changed⟩ := bind_ok changed
  cases changed
  obtain ⟨saved, saves, persisted⟩ := bind_ok persisted
  have effect := attempt_effect stored operated
  dsimp only at saves ⊢
  rw [savePipelineRun_effect unique member effect] at saves
  cases passed : (runUpdateRefusal run value).or (stagesUpdateRefusal tables run value) with
  | some message =>
    rw [passed] at saves
    cases saves
  | none =>
    rw [passed] at saves
    cases saves
    cases persisted
    exact ⟨effect, Effect.stored effect stored passed, Effect.inOrder passed, rfl⟩

theorem performAndPersist_returns (unique : (tables.pipelines.map PipelineRunProps.id).Nodup)
    (member : run ∈ tables.pipelines) {record : Option PipelineOverrideRecord} {changed : PipelineRunProps}
    (performed : Method.attempt command.perform run = .ok (record, changed))
    (effect : Effect run command record changed)
    (passed : (runUpdateRefusal run changed).or (stagesUpdateRefusal tables run changed) = none) :
    performAndPersist command run tables =
      .ok (⟨record, changed⟩, { tables with pipelines := replaceRun tables.pipelines changed }) := by
  have saved := savePipelineRun_effect unique member effect
  rw [passed] at saved
  have persisted : persist changed run.version tables =
      .ok { tables with pipelines := replaceRun tables.pipelines changed } := by
    rw [persist, bind_returns saved]
    rfl
  rw [performAndPersist, bind_returns performed]
  dsimp only
  rw [bind_returns persisted]
  rfl

theorem appendIssued_ok {record : Option PipelineOverrideRecord} (appended : appendIssued record tables = .ok after) :
    after = { tables with overrides := after.overrides } := by
  cases record with
  | none =>
    cases appended
    rfl
  | some record => exact appendOverride_ok appended

theorem afterAdvance_ok (enqueued : afterAdvance run tables = .ok after) :
    after = { tables with outbox := after.outbox } := by
  unfold afterAdvance at enqueued
  split at enqueued
  · exact enqueueCurrentStage_ok enqueued
  · cases enqueued
    rfl

theorem enqueueNext_ok {before : PipelineRunProps} (enqueued : enqueueNext before run tables = .ok after) :
    after = { tables with outbox := after.outbox } := by
  unfold enqueueNext at enqueued
  split at enqueued
  · exact enqueueCurrentStage_ok enqueued
  · cases enqueued
    rfl

private theorem assign_advanced (unique : (tables.pipelines.map PipelineRunProps.id).Nodup)
    (stored : ∀ run ∈ tables.pipelines, RunStored run) {input : AssignStage} {now : Date}
    (assigned : assign input now tables = .ok (run, after)) : ∃ before, Advanced tables after before run := by
  obtain ⟨-, -, assigned⟩ := bind_ok assigned
  obtain ⟨agent, -, assigned⟩ := bind_ok assigned
  obtain ⟨role, -, assigned⟩ := bind_ok assigned
  obtain ⟨before, required, assigned⟩ := bind_ok assigned
  obtain ⟨⟨performed, persisted⟩, changed, assigned⟩ := bind_ok assigned
  cases assigned
  have member := (requireRun_ok required).1
  obtain ⟨effect, stored, -, rfl⟩ := performAndPersist_ok unique member (stored before member) changed
  have sync : syncTaskTerminal performed.run now
      { tables with pipelines := replaceRun tables.pipelines performed.run } =
      .ok { tables with pipelines := replaceRun tables.pipelines performed.run } := by
    rw [syncTaskTerminal, if_pos (effect.assign_active rfl)]
  exact ⟨before, member, ⟨_, _, effect⟩, stored, ⟨now, _, sync, rfl⟩⟩

theorem completeStage_advanced (unique : (tables.pipelines.map PipelineRunProps.id).Nodup)
    (stored : ∀ run ∈ tables.pipelines, RunStored run) {input : CompleteStageFromAgentRun} {now synced : Date}
    (completed : completeStageFromAgentRun input now synced tables = .ok (run, after)) :
    ∃ principal before, agentPrincipal input tables = .ok principal ∧
      requireRun principal.pipelineRunId input.projectId tables = .ok before ∧ Advanced tables after before run := by
  obtain ⟨principal, bound, completed⟩ := bind_ok completed
  obtain ⟨before, required, completed⟩ := bind_ok completed
  obtain ⟨-, -, completed⟩ := bind_ok completed
  obtain ⟨⟨performed, persisted⟩, changed, completed⟩ := bind_ok completed
  obtain ⟨settled, sync, completed⟩ := bind_ok completed
  obtain ⟨enqueued, enqueue, completed⟩ := bind_ok completed
  cases completed
  have member := (requireRun_ok required).1
  obtain ⟨effect, stored, -, rfl⟩ := performAndPersist_ok unique member (stored before member) changed
  refine ⟨principal, before, bound, required, member, ⟨_, _, effect⟩, stored, ⟨synced, settled, sync, ?_⟩⟩
  rw [enqueueNext_ok enqueue]

private theorem approveStage_advanced (unique : (tables.pipelines.map PipelineRunProps.id).Nodup)
    (stored : ∀ run ∈ tables.pipelines, RunStored run) {input : ApproveStage} {now synced : Date}
    (decided : approveStage input now synced tables = .ok (run, after)) :
    ∃ before, Advanced tables after before run := by
  obtain ⟨-, -, decided⟩ := bind_ok decided
  obtain ⟨before, required, decided⟩ := bind_ok decided
  obtain ⟨⟨performed, persisted⟩, changed, decided⟩ := bind_ok decided
  obtain ⟨settled, sync, decided⟩ := bind_ok decided
  obtain ⟨enqueued, enqueue, decided⟩ := bind_ok decided
  cases decided
  have member := (requireRun_ok required).1
  obtain ⟨effect, stored, -, rfl⟩ := performAndPersist_ok unique member (stored before member) changed
  refine ⟨before, member, ⟨_, _, effect⟩, stored, ⟨synced, settled, sync, ?_⟩⟩
  rw [afterAdvance_ok enqueue]

private theorem rejectStage_advanced (unique : (tables.pipelines.map PipelineRunProps.id).Nodup)
    (stored : ∀ run ∈ tables.pipelines, RunStored run) {input : RejectStage} {now synced : Date}
    (decided : rejectStage input now synced tables = .ok (run, after)) :
    ∃ before, Advanced tables after before run := by
  obtain ⟨-, -, decided⟩ := bind_ok decided
  obtain ⟨before, required, decided⟩ := bind_ok decided
  obtain ⟨⟨performed, persisted⟩, changed, decided⟩ := bind_ok decided
  obtain ⟨settled, sync, decided⟩ := bind_ok decided
  cases decided
  have member := (requireRun_ok required).1
  obtain ⟨effect, stored, -, rfl⟩ := performAndPersist_ok unique member (stored before member) changed
  exact ⟨before, member, ⟨_, _, effect⟩, stored, ⟨synced, _, sync, rfl⟩⟩

private theorem overrideStage_advanced (unique : (tables.pipelines.map PipelineRunProps.id).Nodup)
    (stored : ∀ run ∈ tables.pipelines, RunStored run) {input : OverrideStage} {now synced : Date}
    (overridden : overrideStage input now synced tables = .ok (run, after)) :
    ∃ before, Advanced tables after before run := by
  obtain ⟨-, -, overridden⟩ := bind_ok overridden
  obtain ⟨before, required, overridden⟩ := bind_ok overridden
  obtain ⟨⟨performed, persisted⟩, changed, overridden⟩ := bind_ok overridden
  obtain ⟨settled, sync, overridden⟩ := bind_ok overridden
  obtain ⟨recorded, append, overridden⟩ := bind_ok overridden
  obtain ⟨enqueued, enqueue, overridden⟩ := bind_ok overridden
  cases overridden
  have member := (requireRun_ok required).1
  obtain ⟨effect, stored, -, rfl⟩ := performAndPersist_ok unique member (stored before member) changed
  refine ⟨before, member, ⟨_, _, effect⟩, stored, ⟨synced, settled, sync, ?_⟩⟩
  rw [afterAdvance_ok enqueue, appendIssued_ok append]

private theorem cancel_advanced (unique : (tables.pipelines.map PipelineRunProps.id).Nodup)
    (stored : ∀ run ∈ tables.pipelines, RunStored run) {input : CancelPipelineRun} {now synced : Date}
    (cancelled : cancel input now synced tables = .ok (run, after)) : ∃ before, Advanced tables after before run := by
  obtain ⟨-, -, cancelled⟩ := bind_ok cancelled
  obtain ⟨before, required, cancelled⟩ := bind_ok cancelled
  obtain ⟨⟨performed, persisted⟩, changed, cancelled⟩ := bind_ok cancelled
  obtain ⟨settled, sync, cancelled⟩ := bind_ok cancelled
  cases cancelled
  have member := (requireRun_ok required).1
  obtain ⟨effect, stored, -, rfl⟩ := performAndPersist_ok unique member (stored before member) changed
  exact ⟨before, member, ⟨_, _, effect⟩, stored, ⟨synced, _, sync, rfl⟩⟩

/-- What a command commits is one of the ways to commit. -/
theorem OfficeCommand.perform_committed (unique : (tables.pipelines.map PipelineRunProps.id).Nodup)
    (stored : ∀ run ∈ tables.pipelines, RunStored run) {command : OfficeCommand}
    (performed : command.perform tables = .ok after) : Committed tables command after := by
  cases command with
  | createTask input =>
    obtain ⟨-, performed⟩ := guard_ok performed
    obtain ⟨task, create, saved⟩ := bind_ok performed
    exact .created create saved
  | task command =>
    obtain ⟨row, value, found, sameId, moves, saved⟩ := command.perform_ok performed
    exact .moved found sameId moves saved
  | start input selectsPacks supply =>
    obtain ⟨⟨run, left⟩, started, rfl⟩ := map_ok performed
    obtain ⟨task, read, started⟩ := bind_ok started
    obtain ⟨-, -, started⟩ := bind_ok started
    obtain ⟨-, -, started⟩ := bind_ok started
    obtain ⟨revision, -, started⟩ := bind_ok started
    obtain ⟨-, -, started⟩ := bind_ok started
    obtain ⟨found, inProject⟩ := readTask_ok read
    obtain ⟨creation, value, settled, inserted, create, sameProject, sameTask, -, start, saved, insert, rest⟩ :=
      commitStart_ok started
    exact .started found inProject create sameProject sameTask start saved insert rest
  | assign input now =>
    obtain ⟨⟨run, left⟩, assigned, rfl⟩ := map_ok performed
    exact .advanced (assign_advanced unique stored assigned).choose_spec
  | completeStage input now synced =>
    obtain ⟨⟨run, left⟩, completed, rfl⟩ := map_ok performed
    obtain ⟨principal, before, -, -, advance⟩ := completeStage_advanced unique stored completed
    exact .advanced advance
  | approveStage input now synced =>
    obtain ⟨⟨run, left⟩, decided, rfl⟩ := map_ok performed
    exact .advanced (approveStage_advanced unique stored decided).choose_spec
  | rejectStage input now synced =>
    obtain ⟨⟨run, left⟩, decided, rfl⟩ := map_ok performed
    exact .advanced (rejectStage_advanced unique stored decided).choose_spec
  | overrideStage input now synced =>
    obtain ⟨⟨run, left⟩, overridden, rfl⟩ := map_ok performed
    exact .advanced (overrideStage_advanced unique stored overridden).choose_spec
  | cancel input now synced =>
    obtain ⟨⟨run, left⟩, cancelled, rfl⟩ := map_ok performed
    exact .advanced (cancel_advanced unique stored cancelled).choose_spec
  | replaceOthers others =>
    obtain ⟨known, performed⟩ := guard_ok performed
    cases performed
    exact .replaced (by simpa using known) rfl rfl

def createBuild : OfficeCommand := .createTask ⟨"project", "task", "Task", none, none, 0⟩

/-- The office of `buildOffice` before its task is created. -/
def emptyOffice : OfficeTables := { buildOffice with tasks := [] }

theorem emptyOffice_creates : Performs emptyOffice createBuild buildOffice :=
  .committed (show Trimmed "task" ∧ Trimmed "project" by decide) (by decide)

theorem buildOffice_starts : Performs buildOffice (.start startBuild false buildSupply) startedOffice :=
  .committed trivial (by decide)

end AiOffice.Application.Pipeline
