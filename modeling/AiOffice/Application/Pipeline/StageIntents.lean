import AiOffice.Application.Pipeline.OfficeCommands
import AiOffice.Application.Pipeline.OrchestratePipelineStage

namespace AiOffice.Application.Pipeline

open Data Outcome Domain Domain.PipelineRun Storage.Office ManagePipelineRuns

/-- A transaction on the office. One that its command leads up to with reads takes what they returned, which may have
changed since. -/
inductive OfficeTransaction
  | command (command : OfficeCommand)
  | start (input : StartPipelineRun) (task : TaskProps) (revision : OfficeManifestRevision) (supply : StartSupply)
  | assign (input : AssignStage) (roleKey : String) (now : Date)
  | complete (projectId : String) (principal : AgentExecutionPrincipal) (now synced : Date)

def OfficeTransaction.perform (tables : OfficeTables) : OfficeTransaction → Except Thrown OfficeTables
  | .command issued => issued.perform tables
  | .start input task revision supply => (commitStart input task revision supply tables).map Prod.snd
  | .assign input roleKey now => (commitAssignment input roleKey now tables).map Prod.snd
  | .complete projectId principal now synced => (commitCompletion projectId principal now synced tables).map Prod.snd

def OfficeTransaction.KeepsOutbox (tables : OfficeTables) : OfficeTransaction → Prop
  | .command (.replaceOthers others) => others.outbox = tables.outbox
  | _ => True

def HasIntent (outbox : List OutboxJob) (run : PipelineRunProps) (stage : PipelineStageRunProps) : Prop :=
  ∃ version, ⟨run.projectId, run.id, stage.id, version⟩ ∈ outbox

def StagesIntended (outbox : List OutboxJob) (run : PipelineRunProps) : Prop :=
  run.status = .active → ∀ stage ∈ run.stages, stage.status = .active → HasIntent outbox run stage

/-- The pipelines of an office, the active stages of which have their jobs. -/
structure Intended (tables : OfficeTables) : Prop where
  runIds : (tables.pipelines.map PipelineRunProps.id).Nodup
  stored : ∀ run ∈ tables.pipelines, RunStored run
  intents : ∀ run ∈ tables.pipelines, StagesIntended tables.outbox run

variable {tables after : OfficeTables} {run changed : PipelineRunProps} {stage : PipelineStageRunProps}
  {command : Command} {record : Option PipelineOverrideRecord} {outbox later : List OutboxJob}

theorem HasIntent.more (intent : HasIntent outbox run stage) (kept : outbox ⊆ later) : HasIntent later run stage := by
  obtain ⟨version, member⟩ := intent
  exact ⟨version, kept member⟩

theorem StagesIntended.more (intended : StagesIntended outbox run) (kept : outbox ⊆ later) :
    StagesIntended later run := fun active stage member working => (intended active stage member working).more kept

theorem appendJob_stored {job : OutboxJob} (appended : appendJob job tables = .ok after) :
    job ∈ after.outbox ∧ tables.outbox ⊆ after.outbox := by
  obtain ⟨-, appended⟩ := guard_ok appended
  split at appended
  · next stored =>
      cases appended
      exact ⟨stored, List.Subset.refl _⟩
  · cases appended
    simp

theorem enqueueCurrentStage_stored (enqueued : enqueueCurrentStage run tables = .ok after) :
    tables.outbox ⊆ after.outbox ∧
      ∀ stage, Current run stage → stage.status = .active → HasIntent after.outbox run stage := by
  obtain ⟨found, read, enqueued⟩ := bind_ok enqueued
  cases found with
  | none =>
    cases enqueued
    refine ⟨List.Subset.refl _, fun stage current => ?_⟩
    rw [call_currentStage_current current] at read
    cases read
  | some here =>
    dsimp only at enqueued
    have only {stage : PipelineStageRunProps} (current : Current run stage) : stage = here := by
      rw [call_currentStage_current current] at read
      exact Option.some.inj (Except.ok.inj read)
    split at enqueued
    · next idle =>
        cases enqueued
        exact ⟨List.Subset.refl _, fun stage current active => absurd (only current ▸ active) idle⟩
    · obtain ⟨stored, kept⟩ := appendJob_stored enqueued
      exact ⟨kept, fun stage current _ => ⟨run.version, only current ▸ stored⟩⟩

theorem Effect.activeStage (effect : Effect run command record changed) (wellFormed : WellFormed run)
    (active : changed.status = .active) (member : stage ∈ changed.stages) (working : stage.status = .active) :
    (∃ earlier ∈ run.stages, earlier.id = stage.id ∧ earlier.status = .active) ∨
      Current changed stage ∧ changed.currentStageIndex ≠ run.currentStageIndex := by
  obtain ⟨index, found⟩ := List.getElem?_of_mem member
  obtain ⟨earlier, stood, change⟩ := effect.stageChange wellFormed found
  have inStages := List.mem_of_getElem? stood
  cases change with
  | kept => exact .inl ⟨stage, inStages, rfl, working⟩
  | staffed _ _ before => exact .inl ⟨earlier, inStages, rfl, before⟩
  | submitted | completed | approved | rejected | overridden | cancelled => cases working
  | activated pending next =>
    have here := atWork_current (effect.wellFormed wellFormed).1 found (by simp [atWork, activated])
    refine .inr ⟨⟨active, here ▸ found⟩, ?_⟩
    omega

theorem Intended.replaceRun (intended : Intended tables) (member : run ∈ tables.pipelines)
    (effect : Effect run command record changed) (stored : RunStored changed)
    (pipelines : after.pipelines = replaceRun tables.pipelines changed) (kept : tables.outbox ⊆ after.outbox)
    (moved : changed.currentStageIndex ≠ run.currentStageIndex → ∀ stage, Current changed stage →
      stage.status = .active → HasIntent after.outbox changed stage) : Intended after where
  runIds := by
    rw [pipelines, replaceRun_ids]
    exact intended.runIds
  stored := by
    intro other there
    rw [pipelines] at there
    rcases mem_replaceRun there with rfl | ⟨also, -⟩
    · exact stored
    · exact intended.stored other also
  intents := by
    intro other there
    rw [pipelines] at there
    rcases mem_replaceRun there with rfl | ⟨also, -⟩
    · obtain ⟨sameId, sameProject, -⟩ := Effect.kept effect
      intro active stage inStages working
      rcases Effect.activeStage effect (intended.stored run member).wellFormed active inStages working with
        ⟨earlier, stood, same, before⟩ | ⟨current, onward⟩
      · obtain ⟨version, known⟩ := intended.intents run member effect.active earlier stood before
        exact ⟨version, by rw [sameId, sameProject, ← same]; exact kept known⟩
      · exact moved onward stage current working
    · exact (intended.intents other also).more kept

theorem Intended.congr (intended : Intended tables) (pipelines : after.pipelines = tables.pipelines)
    (kept : tables.outbox ⊆ after.outbox) : Intended after where
  runIds := by rw [pipelines]; exact intended.runIds
  stored := by rw [pipelines]; exact intended.stored
  intents := by
    rw [pipelines]
    exact fun run member => (intended.intents run member).more kept

theorem Intended.saveTask (intended : Intended tables) {value : TaskProps} (saved : saveTask value tables = .ok after) :
    Intended after := by
  rw [saveTask_tasks saved]
  exact intended.congr rfl (List.Subset.refl _)

theorem Intended.performed (intended : Intended tables) {middle : OfficeTables} {performed : Performed}
    (member : run ∈ tables.pipelines) (changes : performAndPersist command run tables = .ok (performed, middle))
    (pipelines : after.pipelines = middle.pipelines) (kept : middle.outbox ⊆ after.outbox)
    (moved : performed.run.currentStageIndex ≠ run.currentStageIndex → ∀ stage, Current performed.run stage →
      stage.status = .active → HasIntent after.outbox performed.run stage) : Intended after := by
  obtain ⟨effect, stored, -, rfl⟩ :=
    performAndPersist_ok intended.runIds member (intended.stored run member) changes
  exact intended.replaceRun member effect stored pipelines kept moved

theorem syncTaskTerminal_keeps {now : Date} (synced : syncTaskTerminal run now tables = .ok after) :
    after.pipelines = tables.pipelines ∧ after.outbox = tables.outbox := by
  unfold syncTaskTerminal at synced
  split at synced
  · cases synced
    exact ⟨rfl, rfl⟩
  · split at synced
    · cases synced
    · obtain ⟨-, synced⟩ := guard_ok synced
      split at synced
      · obtain ⟨-, -, synced⟩ := bind_ok synced
        obtain ⟨completed, -, saved⟩ := bind_ok synced
        rw [saveTask_tasks saved]
        exact ⟨rfl, rfl⟩
      · obtain ⟨cancelled, -, saved⟩ := bind_ok synced
        rw [saveTask_tasks saved]
        exact ⟨rfl, rfl⟩

theorem afterAdvance_stored (advanced : afterAdvance run tables = .ok after) :
    tables.outbox ⊆ after.outbox ∧
      ∀ stage, Current run stage → stage.status = .active → HasIntent after.outbox run stage := by
  unfold afterAdvance at advanced
  split at advanced
  · exact enqueueCurrentStage_stored advanced
  · next ended =>
      cases advanced
      exact ⟨List.Subset.refl _, fun stage current => absurd current.1 ended⟩

theorem enqueueNext_stored {before : PipelineRunProps} (enqueued : enqueueNext before run tables = .ok after) :
    tables.outbox ⊆ after.outbox ∧ (run.currentStageIndex ≠ before.currentStageIndex → ∀ stage, Current run stage →
      stage.status = .active → HasIntent after.outbox run stage) := by
  unfold enqueueNext at enqueued
  split at enqueued
  · obtain ⟨kept, stored⟩ := enqueueCurrentStage_stored enqueued
    exact ⟨kept, fun _ => stored⟩
  · next unmoved =>
      cases enqueued
      exact ⟨List.Subset.refl _, fun onward stage current => absurd ⟨current.1, onward⟩ unmoved⟩

theorem Effect.assign_stays {agentId roleKey : String} {now : Date}
    (effect : Effect run (.assign agentId roleKey now) record changed) :
    changed.currentStageIndex = run.currentStageIndex := by
  cases effect
  rfl

private theorem commitAssignment_intended (intended : Intended tables) {input : AssignStage} {roleKey : String} {now : Date}
    (assigned : commitAssignment input roleKey now tables = .ok (run, after)) : Intended after := by
  obtain ⟨before, required, assigned⟩ := bind_ok assigned
  obtain ⟨⟨performed, persisted⟩, changed, assigned⟩ := bind_ok assigned
  cases assigned
  have member := (requireRun_ok required).1
  refine intended.performed member changed rfl (List.Subset.refl _) fun onward => absurd ?_ onward
  obtain ⟨effect, -⟩ := performAndPersist_ok intended.runIds member (intended.stored before member) changed
  exact Effect.assign_stays effect

private theorem commitCompletion_intended (intended : Intended tables) {projectId : String}
    {principal : AgentExecutionPrincipal} {now synced : Date}
    (completed : commitCompletion projectId principal now synced tables = .ok (run, after)) : Intended after := by
  obtain ⟨before, required, completed⟩ := bind_ok completed
  obtain ⟨-, -, completed⟩ := bind_ok completed
  obtain ⟨⟨performed, persisted⟩, changed, completed⟩ := bind_ok completed
  obtain ⟨settled, sync, completed⟩ := bind_ok completed
  obtain ⟨enqueued, enqueue, completed⟩ := bind_ok completed
  cases completed
  obtain ⟨samePipelines, sameOutbox⟩ := syncTaskTerminal_keeps sync
  obtain ⟨kept, stored⟩ := enqueueNext_stored enqueue
  refine intended.performed (requireRun_ok required).1 changed ?_ (sameOutbox ▸ kept) stored
  rw [enqueueNext_ok enqueue, samePipelines]

private theorem approveStage_intended (intended : Intended tables) {input : ApproveStage} {now synced : Date}
    (decided : approveStage input now synced tables = .ok (run, after)) : Intended after := by
  obtain ⟨-, -, decided⟩ := bind_ok decided
  obtain ⟨before, required, decided⟩ := bind_ok decided
  obtain ⟨⟨performed, persisted⟩, changed, decided⟩ := bind_ok decided
  obtain ⟨settled, sync, decided⟩ := bind_ok decided
  obtain ⟨enqueued, enqueue, decided⟩ := bind_ok decided
  cases decided
  obtain ⟨samePipelines, sameOutbox⟩ := syncTaskTerminal_keeps sync
  obtain ⟨kept, stored⟩ := afterAdvance_stored enqueue
  refine intended.performed (requireRun_ok required).1 changed ?_ (sameOutbox ▸ kept) fun _ => stored
  rw [afterAdvance_ok enqueue, samePipelines]

theorem Intended.ended (intended : Intended tables) {middle : OfficeTables} {performed : Performed}
    (member : run ∈ tables.pipelines) (changes : performAndPersist command run tables = .ok (performed, middle))
    {now : Date} (sync : syncTaskTerminal performed.run now middle = .ok after)
    (closes : ∀ record changed, Effect run command record changed → changed.status ≠ .active) : Intended after := by
  obtain ⟨samePipelines, sameOutbox⟩ := syncTaskTerminal_keeps sync
  obtain ⟨effect, -⟩ := performAndPersist_ok intended.runIds member (intended.stored run member) changes
  exact intended.performed member changes samePipelines (fun _ stored => sameOutbox ▸ stored)
    fun _ stage current => absurd current.1 (closes _ _ effect)

private theorem rejectStage_intended (intended : Intended tables) {input : RejectStage} {now synced : Date}
    (decided : rejectStage input now synced tables = .ok (run, after)) : Intended after := by
  obtain ⟨-, -, decided⟩ := bind_ok decided
  obtain ⟨before, required, decided⟩ := bind_ok decided
  obtain ⟨⟨performed, persisted⟩, changed, decided⟩ := bind_ok decided
  obtain ⟨settled, sync, decided⟩ := bind_ok decided
  cases decided
  refine intended.ended (requireRun_ok required).1 changed sync fun record changed effect => ?_
  cases effect
  simp [closed]

private theorem cancel_intended (intended : Intended tables) {input : CancelPipelineRun} {now synced : Date}
    (decided : cancel input now synced tables = .ok (run, after)) : Intended after := by
  obtain ⟨-, -, decided⟩ := bind_ok decided
  obtain ⟨before, required, decided⟩ := bind_ok decided
  obtain ⟨⟨performed, persisted⟩, changed, decided⟩ := bind_ok decided
  obtain ⟨settled, sync, decided⟩ := bind_ok decided
  cases decided
  refine intended.ended (requireRun_ok required).1 changed sync fun record changed effect => ?_
  rw [effect.cancel_status rfl]
  exact nofun

private theorem overrideStage_intended (intended : Intended tables) {input : OverrideStage} {now synced : Date}
    (overridden : overrideStage input now synced tables = .ok (run, after)) : Intended after := by
  obtain ⟨-, -, overridden⟩ := bind_ok overridden
  obtain ⟨before, required, overridden⟩ := bind_ok overridden
  obtain ⟨⟨performed, persisted⟩, changed, overridden⟩ := bind_ok overridden
  obtain ⟨settled, sync, overridden⟩ := bind_ok overridden
  obtain ⟨recorded, append, overridden⟩ := bind_ok overridden
  obtain ⟨enqueued, enqueue, overridden⟩ := bind_ok overridden
  cases overridden
  obtain ⟨samePipelines, sameOutbox⟩ := syncTaskTerminal_keeps sync
  obtain ⟨kept, stored⟩ := afterAdvance_stored enqueue
  have appended := appendIssued_ok append
  refine intended.performed (requireRun_ok required).1 changed ?_ ?_ fun _ => stored
  · rw [afterAdvance_ok enqueue, appended, samePipelines]
  · rwa [appended, sameOutbox] at kept

private theorem insertPipelineRun_intended (intended : Intended tables) {input : CreatePipelineRun}
    (created : PipelineRun.create input = .ok run) {inserted : OfficeTables}
    (insert : insertPipelineRun run tables = .ok inserted) (enqueue : enqueueCurrentStage run inserted = .ok after) :
    Intended after := by
  obtain ⟨rfl, fresh, -, -, rowValid, stagesValid⟩ := insertPipelineRun_ok insert
  obtain ⟨kept, stored⟩ := enqueueCurrentStage_stored enqueue
  have new := create_created created
  have pipelines : after.pipelines = tables.pipelines ++ [run] := by rw [enqueueCurrentStage_ok enqueue]
  refine ⟨?_, fun other there => ?_, fun other there => ?_⟩
  · rw [pipelines, List.map_append, List.nodup_append]
    refine ⟨intended.runIds, List.nodup_singleton _, fun id member other same => ?_⟩
    obtain ⟨earlier, also, rfl⟩ := List.mem_map.mp member
    obtain rfl := List.mem_singleton.mp same
    exact fresh earlier also
  · rw [pipelines, List.mem_append, List.mem_singleton] at there
    rcases there with earlier | rfl
    · exact intended.stored other earlier
    · exact ⟨new.wellFormed, new.sameLength, rowValid, stagesValid⟩
  · rw [pipelines, List.mem_append, List.mem_singleton] at there
    rcases there with earlier | rfl
    · exact (intended.intents other earlier).more kept
    · intro active stage inStages working
      obtain ⟨index, found⟩ := List.getElem?_of_mem inStages
      have here := atWork_current new.wellFormed found (by simp [atWork, working])
      exact stored stage ⟨active, here ▸ found⟩ working

private theorem commitStart_intended (intended : Intended tables) {input : StartPipelineRun} {task : TaskProps}
    {revision : OfficeManifestRevision} {supply : StartSupply}
    (committed : commitStart input task revision supply tables = .ok (run, after)) : Intended after := by
  obtain ⟨-, -, committed⟩ := bind_ok committed
  obtain ⟨configuration, -, committed⟩ := bind_ok committed
  obtain ⟨definition, -, committed⟩ := bind_ok committed
  obtain ⟨created, create, committed⟩ := bind_ok committed
  obtain ⟨started, -, committed⟩ := bind_ok committed
  obtain ⟨saved, save, committed⟩ := bind_ok committed
  obtain ⟨inserted, insert, committed⟩ := bind_ok committed
  obtain ⟨enqueued, enqueue, committed⟩ := bind_ok committed
  cases committed
  exact insertPipelineRun_intended (intended.saveTask save) create insert enqueue

/-- Every transaction on the office keeps the invariant. -/
theorem Intended.perform (intended : Intended tables) {transaction : OfficeTransaction}
    (keeps : transaction.KeepsOutbox tables) (performed : transaction.perform tables = .ok after) : Intended after := by
  cases transaction with
  | start input task revision supply =>
    obtain ⟨⟨run, left⟩, started, rfl⟩ := map_ok performed
    exact commitStart_intended intended started
  | assign input roleKey now =>
    obtain ⟨⟨run, left⟩, assigned, rfl⟩ := map_ok performed
    exact commitAssignment_intended intended assigned
  | complete projectId principal now synced =>
    obtain ⟨⟨run, left⟩, completed, rfl⟩ := map_ok performed
    exact commitCompletion_intended intended completed
  | command issued =>
    cases issued with
    | createTask input =>
      obtain ⟨-, performed⟩ := guard_ok performed
      obtain ⟨task, -, saved⟩ := bind_ok performed
      exact intended.saveTask saved
    | task moved =>
      obtain ⟨row, value, -, -, -, saved⟩ := moved.perform_ok performed
      exact intended.saveTask saved
    | start input selectsPacks supply =>
      obtain ⟨⟨run, left⟩, started, rfl⟩ := map_ok performed
      obtain ⟨task, -, started⟩ := bind_ok started
      obtain ⟨-, -, started⟩ := bind_ok started
      obtain ⟨-, -, started⟩ := bind_ok started
      obtain ⟨revision, -, started⟩ := bind_ok started
      obtain ⟨-, -, started⟩ := bind_ok started
      exact commitStart_intended intended started
    | assign input now =>
      obtain ⟨⟨run, left⟩, assigned, rfl⟩ := map_ok performed
      rw [assign_parts] at assigned
      obtain ⟨roleKey, -, assigned⟩ := bind_ok assigned
      exact commitAssignment_intended intended assigned
    | completeStage input now synced =>
      obtain ⟨⟨run, left⟩, completed, rfl⟩ := map_ok performed
      rw [completeStage_parts] at completed
      obtain ⟨principal, -, completed⟩ := bind_ok completed
      exact commitCompletion_intended intended completed
    | approveStage input now synced =>
      obtain ⟨⟨run, left⟩, decided, rfl⟩ := map_ok performed
      exact approveStage_intended intended decided
    | rejectStage input now synced =>
      obtain ⟨⟨run, left⟩, decided, rfl⟩ := map_ok performed
      exact rejectStage_intended intended decided
    | overrideStage input now synced =>
      obtain ⟨⟨run, left⟩, overridden, rfl⟩ := map_ok performed
      exact overrideStage_intended intended overridden
    | cancel input now synced =>
      obtain ⟨⟨run, left⟩, cancelled, rfl⟩ := map_ok performed
      exact cancel_intended intended cancelled
    | replaceOthers others =>
      obtain ⟨-, performed⟩ := guard_ok performed
      cases performed
      exact intended.congr rfl fun _ stored => keeps ▸ stored

end AiOffice.Application.Pipeline
