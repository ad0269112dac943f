import AiOffice.Application.Pipeline.OfficeCommands

namespace AiOffice.Application.Pipeline

open Data Outcome Domain Domain.PipelineRun Storage.Office ManagePipelineRuns

structure Consistent (tables : OfficeTables) : Prop where
  taskIds : (tables.tasks.map TaskProps.id).Nodup
  trimmed : ∀ task ∈ tables.tasks, Trimmed task.id ∧ Trimmed task.projectId
  prerequisites : ∀ edge ∈ tables.dependencies, ∃ task,
    tables.findTask edge.dependsOnTaskId = some task ∧ task.projectId = edge.projectId
  runIds : (tables.pipelines.map PipelineRunProps.id).Nodup
  stored : ∀ run ∈ tables.pipelines, RunStored run
  known : ∀ run ∈ tables.pipelines, ∃ task, tables.findTask run.taskId = some task ∧ task.projectId = run.projectId
  oneActive : ∀ first ∈ tables.pipelines, ∀ second ∈ tables.pipelines, first.status = .active →
    second.status = .active → first.taskId = second.taskId → first.projectId = second.projectId → first.id = second.id

variable {tables after : OfficeTables} {run changed : PipelineRunProps} {now : Date}

theorem Consistent.appended (consistent : Consistent tables) (overrides : List PipelineOverrideRecord)
    (outbox : List OutboxJob) : Consistent { tables with overrides, outbox } :=
  ⟨consistent.taskIds, consistent.trimmed, consistent.prerequisites, consistent.runIds, consistent.stored,
    consistent.known, consistent.oneActive⟩

theorem findTask_of_mem (unique : (tables.tasks.map TaskProps.id).Nodup) {task : TaskProps}
    (member : task ∈ tables.tasks) : tables.findTask task.id = some task := by
  cases lookup : tables.findTask task.id with
  | none =>
    have absent := List.find?_eq_none.mp lookup task member
    simp at absent
  | some found =>
    obtain ⟨stored, same⟩ := findTask_found lookup
    rw [List.inj_on_of_nodup_map unique stored member same]

theorem not_fresh {id : String} {row value : TaskProps} (found : tables.findTask id = some row)
    (sameId : value.id = row.id) : tables.findTask value.id ≠ none := by
  rw [sameId, (findTask_found found).2, found]
  exact Option.some_ne_none row

/-- Saving a task keeps every key, and the project of every row. -/
theorem Consistent.saveTask (consistent : Consistent tables) {value : TaskProps}
    (generated : tables.findTask value.id = none → Trimmed value.id ∧ Trimmed value.projectId)
    (saved : saveTask value tables = .ok after) : Consistent after := by
  have rows : after = { tables with tasks := after.tasks } := saveTask_tasks saved
  have pipelines : after.pipelines = tables.pipelines := by rw [rows]
  have dependencies : after.dependencies = tables.dependencies := by rw [rows]
  have lasting : ∀ id task projectId, tables.findTask id = some task → task.projectId = projectId →
      ∃ later, after.findTask id = some later ∧ later.projectId = projectId := by
    intro id task projectId found inProject
    refine ⟨_, saveTask_findTask saved found, ?_⟩
    split <;> exact inProject
  have keys : (after.tasks.map TaskProps.id).Nodup ∧ ∀ task ∈ after.tasks, Trimmed task.id ∧ Trimmed task.projectId := by
    cases found : tables.findTask value.id with
    | none =>
      simp only [Storage.Office.saveTask, found] at saved
      cases saved
      constructor
      · rw [List.map_append, List.nodup_append]
        refine ⟨consistent.taskIds, List.nodup_singleton _, ?_⟩
        intro id member other same
        obtain ⟨task, stored, rfl⟩ := List.mem_map.mp member
        obtain rfl := List.mem_singleton.mp same
        exact by simpa using List.find?_eq_none.mp found task stored
      · intro task member
        rcases List.mem_append.mp member with stored | new
        · exact consistent.trimmed task stored
        · obtain rfl := List.mem_singleton.mp new
          exact generated found
    | some row =>
      obtain ⟨-, rfl⟩ := saveTask_overwrites found saved
      constructor
      · have sameIds : (tables.replaceTask value).tasks.map TaskProps.id = tables.tasks.map TaskProps.id := by
          simp only [OfficeTables.replaceTask, List.map_map]
          refine List.map_congr_left fun task _ => ?_
          simp only [Function.comp_apply]
          split <;> rfl
        rw [sameIds]
        exact consistent.taskIds
      · intro task member
        obtain ⟨before, stored, rfl⟩ := List.mem_map.mp member
        split <;> exact consistent.trimmed before stored
  refine ⟨keys.1, keys.2, ?_, ?_, ?_, ?_, ?_⟩
  · rw [dependencies]
    intro edge member
    obtain ⟨task, found, inProject⟩ := consistent.prerequisites edge member
    exact lasting _ task _ found inProject
  · rw [pipelines]
    exact consistent.runIds
  · rw [pipelines]
    exact consistent.stored
  · rw [pipelines]
    intro run member
    obtain ⟨task, found, inProject⟩ := consistent.known run member
    exact lasting _ task _ found inProject
  · rw [pipelines]
    exact consistent.oneActive

/-- Replacing a run by what an operation made of it. -/
theorem Consistent.replaceRun (consistent : Consistent tables) {command : Command}
    {record : Option PipelineOverrideRecord} (member : run ∈ tables.pipelines)
    (effect : Effect run command record changed) (stored : RunStored changed) :
    Consistent { tables with pipelines := replaceRun tables.pipelines changed } := by
  obtain ⟨sameId, sameProject, sameTask, -⟩ := Effect.kept effect
  refine ⟨consistent.taskIds, consistent.trimmed, consistent.prerequisites, ?_, ?_, ?_, ?_⟩
  · rw [replaceRun_ids]
    exact consistent.runIds
  · intro other also
    rcases mem_replaceRun also with rfl | ⟨also, -⟩
    · exact stored
    · exact consistent.stored other also
  · intro other also
    rcases mem_replaceRun also with rfl | ⟨also, -⟩
    · rw [sameTask, sameProject]
      exact consistent.known run member
    · exact consistent.known other also
  · intro first one second two activeFirst activeSecond sharedTask sharedProject
    have active := effect.active
    rcases mem_replaceRun one with rfl | ⟨left, -⟩ <;> rcases mem_replaceRun two with rfl | ⟨right, -⟩
    · rfl
    · rw [sameTask] at sharedTask
      rw [sameProject] at sharedProject
      rw [sameId]
      exact consistent.oneActive run member second right active activeSecond sharedTask sharedProject
    · rw [sameTask] at sharedTask
      rw [sameProject] at sharedProject
      rw [sameId]
      exact consistent.oneActive first left run member activeFirst active sharedTask sharedProject
    · exact consistent.oneActive first left second right activeFirst activeSecond sharedTask sharedProject

theorem syncTaskTerminal_ok (synced : syncTaskTerminal run now tables = .ok after) :
    (run.status = .active ∧ after = tables) ∨
      (run.status ≠ .active ∧ ∃ row value, tables.findTask run.taskId = some row ∧ value.id = row.id ∧
        value.status ∈ taskTransitions row.status ∧ saveTask value tables = .ok after) := by
  unfold syncTaskTerminal at synced
  split at synced
  · next active => exact .inl ⟨active, (Except.ok.inj synced).symm⟩
  · next ended =>
      refine .inr ⟨ended, ?_⟩
      split at synced
      · cases synced
      · next row found =>
          obtain ⟨-, synced⟩ := guard_ok synced
          split at synced
          · obtain ⟨-, -, synced⟩ := bind_ok synced
            obtain ⟨value, moved, saved⟩ := bind_ok synced
            obtain ⟨allowed, rfl⟩ := Task.transition_ok moved
            exact ⟨row, { row with status := .completed, updatedAt := now }, found, rfl, allowed, saved⟩
          · obtain ⟨value, moved, saved⟩ := bind_ok synced
            obtain ⟨allowed, rfl⟩ := Task.transition_ok moved
            exact ⟨row, { row with status := .cancelled, updatedAt := now }, found, rfl, allowed, saved⟩

theorem Consistent.advanced (consistent : Consistent tables) (advance : Advanced tables after run changed) :
    Consistent after := by
  obtain ⟨command, record, effect⟩ := advance.effect
  have replaced := consistent.replaceRun advance.member effect advance.stored
  obtain ⟨now, settled, synced, rest⟩ := advance.synced
  have kept : Consistent settled := by
    rcases syncTaskTerminal_ok synced with ⟨-, rfl⟩ | ⟨-, row, value, found, sameId, -, saved⟩
    · exact replaced
    · exact replaced.saveTask (fun fresh => absurd fresh (not_fresh found sameId)) saved
  rw [rest]
  exact kept.appended _ _

theorem create_identity {input : CreatePipelineRun} (created : PipelineRun.create input = .ok run) :
    run.projectId = trim input.projectId ∧ run.taskId = trim input.taskId := by
  unfold PipelineRun.create at created
  obtain ⟨-, created⟩ := guard_ok created
  obtain ⟨-, created⟩ := guard_ok created
  obtain ⟨-, created⟩ := guard_ok created
  obtain ⟨stages, -, created⟩ := bind_ok created
  obtain ⟨id, -, created⟩ := bind_ok created
  obtain ⟨projectId, project, created⟩ := bind_ok created
  obtain ⟨taskId, task, created⟩ := bind_ok created
  obtain ⟨manifestRevisionId, -, created⟩ := bind_ok created
  obtain ⟨startedBy, -, created⟩ := bind_ok created
  obtain ⟨configurationPin, -, created⟩ := bind_ok created
  cases created
  exact ⟨(required_ok project).1, (required_ok task).1⟩

/-- Inserting a new run for a task of its project. -/
theorem Consistent.insertPipelineRun (consistent : Consistent tables) {input : CreatePipelineRun}
    (created : PipelineRun.create input = .ok run)
    (known : ∃ task, tables.findTask run.taskId = some task ∧ task.projectId = run.projectId)
    (inserted : insertPipelineRun run tables = .ok after) : Consistent after := by
  obtain ⟨rfl, fresh, noneActive, -, rowValid, stagesValid⟩ := insertPipelineRun_ok inserted
  have new := create_created created
  have alone : ∀ other ∈ tables.pipelines, other.status = .active → other.taskId = run.taskId →
      other.projectId ≠ run.projectId := by
    intro other member active sameTask sameProject
    have absent := List.find?_eq_none.mp (noneActive new.status) other member
    simp [active, sameTask, sameProject] at absent
  refine ⟨consistent.taskIds, consistent.trimmed, consistent.prerequisites, ?_, ?_, ?_, ?_⟩
  · simp only [List.map_append, List.nodup_append]
    refine ⟨consistent.runIds, List.nodup_singleton _, ?_⟩
    intro id member other same
    obtain ⟨stored, also, rfl⟩ := List.mem_map.mp member
    obtain rfl := List.mem_singleton.mp same
    exact fresh stored also
  · intro other member
    rcases List.mem_append.mp member with stored | last
    · exact consistent.stored other stored
    · obtain rfl := List.mem_singleton.mp last
      exact ⟨new.wellFormed, new.sameLength, rowValid, stagesValid⟩
  · intro other member
    rcases List.mem_append.mp member with stored | last
    · exact consistent.known other stored
    · obtain rfl := List.mem_singleton.mp last
      exact known
  · intro first one second two activeFirst activeSecond sharedTask sharedProject
    rcases List.mem_append.mp one with left | last <;> rcases List.mem_append.mp two with right | also
    · exact consistent.oneActive first left second right activeFirst activeSecond sharedTask sharedProject
    · obtain rfl := List.mem_singleton.mp also
      exact absurd sharedProject (alone first left activeFirst sharedTask)
    · obtain rfl := List.mem_singleton.mp last
      exact absurd sharedProject.symm (alone second right activeSecond sharedTask.symm)
    · rw [List.mem_singleton.mp last, List.mem_singleton.mp also]

theorem statuses_known (unique : (tables.tasks.map TaskProps.id).Nodup) {projectId id : String} {status : TaskStatus}
    (found : tables.statuses projectId id = some status) :
    ∃ task, tables.findTask id = some task ∧ task.projectId = projectId ∧ task.status = status := by
  obtain ⟨task, lookup, rfl⟩ := Option.map_eq_some_iff.mp found
  have matched := List.find?_some lookup
  simp only [Bool.and_eq_true, decide_eq_true_eq] at matched
  obtain ⟨inProject, rfl⟩ := matched
  exact ⟨task, findTask_of_mem unique (List.mem_of_find?_eq_some lookup), inProject, rfl⟩

theorem Consistent.rewired (consistent : Consistent tables) (tasks : after.tasks = tables.tasks)
    (pipelines : after.pipelines = tables.pipelines)
    (prerequisites : ∀ edge ∈ after.dependencies, ∃ task,
      tables.findTask edge.dependsOnTaskId = some task ∧ task.projectId = edge.projectId) : Consistent after := by
  have same (id : String) : after.findTask id = tables.findTask id := by
    rw [OfficeTables.findTask, tasks]
    rfl
  refine ⟨?_, ?_, fun edge member => ?_, ?_, ?_, ?_, ?_⟩
  · rw [tasks]
    exact consistent.taskIds
  · rw [tasks]
    exact consistent.trimmed
  · rw [same]
    exact prerequisites edge member
  · rw [pipelines]
    exact consistent.runIds
  · rw [pipelines]
    exact consistent.stored
  · rw [pipelines]
    intro run member
    rw [same]
    exact consistent.known run member
  · rw [pipelines]
    exact consistent.oneActive

/-- Every command that commits keeps the tables consistent. -/
theorem Consistent.committed (consistent : Consistent tables) {command : OfficeCommand} (generated : command.Generated)
    (committed : Committed tables command after) : Consistent after := by
  cases committed with
  | created create saved =>
    obtain ⟨sameId, sameProject, -⟩ := Task.create_ok create
    refine consistent.saveTask (fun _ => ?_) saved
    rw [sameId, sameProject]
    exact generated
  | moved found sameId moves saved =>
    exact consistent.saveTask (fun fresh => absurd fresh (not_fresh found sameId)) saved
  | @started input _ _ task _ run value settled inserted _ found inProject create sameProject sameTask start saved
      insert rest =>
      have sameId : value.id = task.id := by
        rw [(Task.transition_ok start).2]
      have kept := consistent.saveTask (fun fresh => absurd fresh (not_fresh found sameId)) saved
      obtain ⟨projectId, taskId⟩ := create_identity create
      obtain ⟨stored, key⟩ := findTask_found found
      obtain ⟨trimmedId, trimmedProject⟩ := consistent.trimmed task stored
      have known : ∃ row, settled.findTask run.taskId = some row ∧ row.projectId = run.projectId := by
        rw [taskId, sameTask, projectId, sameProject, ← inProject, trimmedProject, ← key, trimmedId]
        refine ⟨_, saveTask_findTask saved (key ▸ found), ?_⟩
        split <;> rfl
      rw [rest]
      exact (kept.insertPipelineRun create known insert).appended _ _
  | advanced advance => exact consistent.advanced advance
  | replaced known tasks pipelines =>
    refine consistent.rewired tasks pipelines fun edge member => ?_
    have joined := known edge member
    simp only [edgeKnown, Bool.and_eq_true] at joined
    obtain ⟨status, found⟩ := Option.isSome_iff_exists.mp joined.2
    obtain ⟨task, lookup, inProject, -⟩ := statuses_known consistent.taskIds found
    exact ⟨task, lookup, inProject⟩

structure Blank (tables : OfficeTables) : Prop where
  tasks : tables.tasks = []
  dependencies : tables.dependencies = []
  pipelines : tables.pipelines = []

theorem Blank.consistent (blank : Blank tables) : Consistent tables := by
  obtain ⟨tasks, dependencies, pipelines⟩ := blank
  constructor <;> simp [tasks, dependencies, pipelines]

theorem Consistent.performs (consistent : Consistent tables) {command : OfficeCommand}
    (performs : Performs tables command after) : Consistent after := by
  cases performs with
  | committed generated performed =>
    exact consistent.committed generated (command.perform_committed consistent.runIds consistent.stored performed)
  | refused => exact consistent

theorem reachable_consistent (blank : Blank tables) (reached : Transition.Reachable Performs tables after) :
    Consistent after :=
  reached.invariant Consistent blank.consistent fun _ _ _ consistent performs => consistent.performs performs

end AiOffice.Application.Pipeline
