import AiOffice.Application.ManageTaskDependencies
import AiOffice.Data.Keyed
import AiOffice.Domain.IsoDate
import AiOffice.Transition.Run

namespace AiOffice.Application.ProjectPortability

open Data Outcome Domain Storage.Office

/-- A row of what is known about the execution of a task: that it was executed, or that nothing is known. -/
structure ExecutionRow where
  taskId : String
  projectId : String
  executed : Bool
  firstKnownAt : Option Date

/-- The tables of the tasks of all projects, with the columns that only an archive reads. -/
structure TaskTables where
  office : OfficeTables
  linkedAt : TaskDependency → Date
  executions : List ExecutionRow

def earliest : Option Date → Option Date → Option Date
  | known, none => known
  | none, excluded => excluded
  | some known, some excluded =>
    if IsoDate.toISOString excluded < IsoDate.toISOString known then some excluded else some known

def startedAt (task : TaskProps) : Option Date := if task.status = .running then some task.updatedAt else none

def markExecuted (task : TaskProps) (executions : List ExecutionRow) : List ExecutionRow :=
  if executions.any fun row => row.taskId = task.id then
    executions.map fun row =>
      if row.taskId = task.id then { row with executed := true, firstKnownAt := earliest row.firstKnownAt (startedAt task) }
      else row
  else executions ++ [⟨task.id, task.projectId, true, startedAt task⟩]

def afterUpdate (taskId : String) (before after : OfficeTables) (executions : List ExecutionRow) : List ExecutionRow :=
  match before.findTask taskId, after.findTask taskId with
  | some row, some task =>
    if task.status ∈ [TaskStatus.running, .waitingReview] ∧ row.status ≠ task.status then markExecuted task executions
    else executions
  | _, _ => executions

namespace TaskTables

variable (tables : TaskTables)

def dependencies : DependencyTables := ⟨tables.office, tables.executions.map fun row => ⟨row.taskId, row.projectId⟩⟩

def withOffice (office : OfficeTables) : TaskTables := { tables with office }

end TaskTables

inductive ProjectCommand
  | create (input : CreateTask)
  | task (command : TaskCommand)
  | link (input : TaskDependency) (now : Date)
  | unlink (input : TaskDependency)

def ProjectCommand.perform (tables : TaskTables) : ProjectCommand → Except Thrown TaskTables
  | .create input => (input.execute tables.office).map tables.withOffice
  | .task command => (command.perform tables.office).map fun office =>
    { tables with office, executions := afterUpdate command.taskId tables.office office tables.executions }
  | .link input now => (ManageTaskDependencies.link input tables.dependencies).map fun linked =>
    { tables with
      office := linked.2.office
      linkedAt := if linked.1 then Function.update tables.linkedAt input now else tables.linkedAt }
  | .unlink input => (ManageTaskDependencies.unlink input tables.dependencies).map fun unlinked =>
    tables.withOffice unlinked.2.office

def generatedChars : List Char :=
  ['-', '0', '1', '2', '3', '4', '5', '6', '7', '8', '9', 'a', 'b', 'c', 'd', 'e', 'f']

/-- The ids that the generator makes: lower-case hexadecimal digits in groups. -/
def Generated (id : String) : Prop := id.toList.length = 36 ∧ id.toList.all generatedChars.contains = true

instance (id : String) : Decidable (Generated id) := inferInstanceAs (Decidable (_ ∧ _))

def updateTime : TaskCommand → Date
  | .lifecycle _ now | .update _ now | .record _ _ now => now

def ProjectCommand.Supplied : ProjectCommand → Prop
  | .create input => Generated input.id ∧ IsoDate.validTime input.now = true
  | .task command => IsoDate.validTime (updateTime command) = true
  | .link _ now => IsoDate.validTime now = true
  | .unlink _ => True

inductive CommandStep (before : TaskTables) (command : ProjectCommand) : TaskTables → Prop
  | committed {after} (supplied : command.Supplied) (performed : command.perform before = .ok after) :
      CommandStep before command after
  | refused {thrown} (threw : command.perform before = .error thrown) : CommandStep before command before

structure TaskStored (task : TaskProps) : Prop where
  id : Generated task.id
  title : Trimmed task.title ∧ task.title ≠ ""
  priority : minTaskPriority ≤ task.priority ∧ task.priority ≤ maxTaskPriority
  createdAt : IsoDate.validTime task.createdAt = true
  updatedAt : IsoDate.validTime task.updatedAt = true

def isExecuting (status : TaskStatus) : Bool := status ∈ [TaskStatus.running, .waitingReview]

structure ExecutionsStored (tasks : List TaskProps) (executions : List ExecutionRow) : Prop where
  keys : (executions.map ExecutionRow.taskId).Nodup
  unknown : ∀ row ∈ executions, row.executed = false → row.firstKnownAt = none
  valid : ∀ row ∈ executions, ∀ time, row.firstKnownAt = some time → IsoDate.validTime time = true
  executing : ∀ task ∈ tasks, isExecuting task.status = true →
    ∃ row ∈ executions, row.taskId = task.id ∧ row.projectId = task.projectId ∧ row.executed = true
  owned : ∀ row ∈ executions, ∃ task ∈ tasks, task.id = row.taskId ∧ task.projectId = row.projectId

structure TasksStored (tables : TaskTables) : Prop where
  wellFormed : DependenciesWellFormed tables.dependencies
  edges : (tables.dependencies.edges).Nodup
  tasks : ∀ task ∈ tables.office.tasks, TaskStored task
  linkedAt : ∀ row ∈ tables.office.dependencies, IsoDate.validTime (tables.linkedAt row) = true
  executions : ExecutionsStored tables.office.tasks tables.executions

variable {tables after : TaskTables} {office later : OfficeTables} {task row value : TaskProps} {now : Date}
  {executions : List ExecutionRow}

theorem validateTaskPriority_ok {priority stored : Int} (accepted : validateTaskPriority priority = .ok stored) :
    minTaskPriority ≤ stored ∧ stored ≤ maxTaskPriority := by
  obtain ⟨within, accepted⟩ := guard_ok accepted
  obtain rfl := Except.ok.inj accepted
  exact ⟨Int.not_lt.mp fun below => within (.inl below), Int.not_lt.mp fun above => within (.inr above)⟩

theorem TaskStored.moved (stored : TaskStored row) (valid : IsoDate.validTime now = true) (status : TaskStatus) :
    TaskStored { row with status, updatedAt := now } := ⟨stored.id, stored.title, stored.priority, stored.createdAt, valid⟩

theorem TaskStored.created {input : CreateTask} (generated : Generated input.id) (valid : IsoDate.validTime input.now = true)
    (created : Task.create input.id input.projectId input.title input.description input.priority input.now = .ok task) :
    TaskStored task := by
  obtain ⟨titled, created⟩ := guard_ok created
  obtain ⟨priority, accepted, created⟩ := bind_ok created
  cases created
  exact ⟨generated, ⟨trim_trimmed input.title, titled⟩, validateTaskPriority_ok accepted, valid, valid⟩

theorem TaskStored.updated {input : UpdateTask} (stored : TaskStored row) (valid : IsoDate.validTime now = true)
    (updated : input.updated row now = .ok value) : TaskStored value := by
  obtain ⟨middle, chosen, rfl⟩ := map_ok updated
  have kept : TaskStored middle := by
    unfold UpdateTask.prioritized at chosen
    split at chosen
    · obtain ⟨priority, accepted, changed⟩ := bind_ok chosen
      cases changed
      exact ⟨stored.id, stored.title, validateTaskPriority_ok accepted, stored.createdAt, valid⟩
    · cases chosen
      exact stored
  unfold UpdateTask.described
  split
  · exact ⟨kept.id, kept.title, kept.priority, kept.createdAt, valid⟩
  · exact kept

theorem taskCommand_value {command : TaskCommand} (performed : command.perform office = .ok later) :
    ∃ row value, office.findTask command.taskId = some row ∧ value.id = row.id ∧ saveTask value office = .ok later ∧
      (TaskStored row → IsoDate.validTime (updateTime command) = true → TaskStored value) := by
  cases command with
  | lifecycle request now =>
    obtain ⟨-, -, performed⟩ := bind_ok performed
    obtain ⟨row, required, performed⟩ := bind_ok performed
    obtain ⟨-, -, performed⟩ := bind_ok performed
    obtain ⟨value, moved, saved⟩ := bind_ok performed
    rw [lifecycleMutations_eq] at moved
    obtain ⟨-, rfl⟩ := Task.transition_ok moved
    exact ⟨row, { row with status := request.operation.to, updatedAt := now }, (requireTask_ok required).1, rfl, saved,
      fun stored valid => stored.moved valid _⟩
  | update input now =>
    obtain ⟨row, required, performed⟩ := bind_ok performed
    obtain ⟨value, updated, saved⟩ := bind_ok performed
    exact ⟨row, value, (requireTask_ok required).1, (UpdateTask.updated_ok updated).1, saved,
      fun stored valid => stored.updated valid updated⟩
  | record planHash input now =>
    obtain ⟨reason, -, performed⟩ := bind_ok performed
    obtain ⟨row, required, performed⟩ := bind_ok performed
    obtain ⟨-, performed⟩ := guard_ok performed
    obtain ⟨value, recorded, saved⟩ := bind_ok performed
    unfold Task.recordHistoricalCompletion at recorded
    split at recorded
    · cases recorded
    · cases recorded
      exact ⟨row, { row with status := .completed, updatedAt := now }, (requireTask_ok required).1, rfl, saved,
        fun stored valid => stored.moved valid _⟩

theorem saveTask_stored (each : ∀ task ∈ office.tasks, TaskStored task) (stored : TaskStored value)
    (saved : saveTask value office = .ok later) : ∀ task ∈ later.tasks, TaskStored task := by
  intro task member
  rcases saveTask_cases saved with ⟨-, rfl⟩ | rfl
  · rcases List.mem_append.mp member with old | new
    · exact each task old
    · rw [List.mem_singleton.mp new]
      exact stored
  · obtain ⟨before, old, rfl⟩ := List.mem_map.mp member
    have kept := each before old
    split
    · exact ⟨kept.id, stored.title, stored.priority, kept.createdAt, stored.updatedAt⟩
    · exact kept

theorem saveTask_keyed (keyed : (office.tasks.map TaskProps.id).Nodup) (saved : saveTask value office = .ok later) :
    (later.tasks.map TaskProps.id).Nodup := by
  rcases saveTask_cases saved with ⟨fresh, rfl⟩ | rfl
  · rw [List.map_append, List.nodup_append']
    refine ⟨keyed, List.nodup_singleton _, fun id old new => ?_⟩
    obtain ⟨task, stored, rfl⟩ := List.mem_map.mp old
    rw [List.map_singleton, List.mem_singleton] at new
    exact by simpa [new] using List.find?_eq_none.mp fresh task stored
  · refine keyed_map (fun task => ?_) keyed
    split <;> rfl

theorem saveTask_lasting (saved : saveTask value office = .ok later) (member : task ∈ office.tasks) :
    ∃ final ∈ later.tasks, final.id = task.id ∧ final.projectId = task.projectId := by
  rcases saveTask_cases saved with ⟨-, rfl⟩ | rfl
  · exact ⟨task, List.mem_append_left _ member, rfl, rfl⟩
  · refine ⟨_, List.mem_map_of_mem member, ?_⟩
    split <;> exact ⟨rfl, rfl⟩

/-- What is known about executions once a task is marked: the rows of the other tasks, and one that it is executed. -/
theorem mem_markExecuted {entry : ExecutionRow} (member : entry ∈ markExecuted task executions) :
    (entry ∈ executions ∧ entry.taskId ≠ task.id) ∨
      entry.taskId = task.id ∧ entry.executed = true ∧ ((entry.projectId = task.projectId ∧
        ∀ time, entry.firstKnownAt = some time → time = task.updatedAt) ∨
          ∃ row ∈ executions, row.taskId = task.id ∧ entry.projectId = row.projectId ∧
            ∀ time, entry.firstKnownAt = some time → time = task.updatedAt ∨ row.firstKnownAt = some time) := by
  have given {time : Date} (known : startedAt task = some time) : time = task.updatedAt := by
    unfold startedAt at known
    split at known <;> cases known
    rfl
  unfold markExecuted at member
  split at member
  · obtain ⟨row, stored, rfl⟩ := List.mem_map.mp member
    by_cases same : row.taskId = task.id
    · rw [if_pos same]
      refine .inr ⟨same, rfl, .inr ⟨row, stored, same, rfl, fun time known => ?_⟩⟩
      dsimp only at known
      unfold earliest at known
      split at known
      · exact .inr known
      · exact .inl (given known)
      · next held excluded heldAt excludedAt =>
        split at known
        · exact .inl (given (excludedAt.trans known))
        · exact .inr (heldAt.trans known)
    · rw [if_neg same]
      exact .inl ⟨stored, same⟩
  · next absent =>
    rcases List.mem_append.mp member with stored | new
    · refine .inl ⟨stored, fun same => absent ?_⟩
      exact List.any_eq_true.mpr ⟨entry, stored, decide_eq_true same⟩
    · obtain rfl := List.mem_singleton.mp new
      exact .inr ⟨rfl, rfl, .inl ⟨rfl, fun time known => given known⟩⟩

theorem markExecuted_keyed (keyed : (executions.map ExecutionRow.taskId).Nodup) :
    ((markExecuted task executions).map ExecutionRow.taskId).Nodup := by
  unfold markExecuted
  split
  · refine keyed_map (fun row => ?_) keyed
    split <;> rfl
  · next absent =>
    rw [List.map_append, List.nodup_append']
    refine ⟨keyed, List.nodup_singleton _, fun id old new => absent ?_⟩
    obtain ⟨row, stored, rfl⟩ := List.mem_map.mp old
    rw [List.map_singleton, List.mem_singleton] at new
    exact List.any_eq_true.mpr ⟨row, stored, decide_eq_true new⟩

theorem markExecuted_marks (task : TaskProps) (executions : List ExecutionRow) :
    ∃ entry ∈ markExecuted task executions, entry.taskId = task.id ∧ entry.executed = true := by
  unfold markExecuted
  split
  · next present =>
    obtain ⟨row, stored, same⟩ := List.any_eq_true.mp present
    refine ⟨_, List.mem_map_of_mem stored, ?_⟩
    rw [if_pos (of_decide_eq_true same)]
    exact ⟨of_decide_eq_true same, rfl⟩
  · exact ⟨_, List.mem_append_right _ (List.mem_singleton_self _), rfl, rfl⟩

theorem markExecuted_lasting {entry : ExecutionRow} (stored : entry ∈ executions) (other : entry.taskId ≠ task.id) :
    entry ∈ markExecuted task executions := by
  unfold markExecuted
  split
  · exact List.mem_map.mpr ⟨entry, stored, if_neg other⟩
  · exact List.mem_append_left _ stored

structure Replaced (tasks final : List TaskProps) (row task : TaskProps) : Prop where
  member : row ∈ tasks
  inFinal : task ∈ final
  id : task.id = row.id
  projectId : task.projectId = row.projectId
  keyed : (tasks.map TaskProps.id).Nodup
  lasting : ∀ old ∈ tasks, ∃ later ∈ final, later.id = old.id ∧ later.projectId = old.projectId
  others : ∀ later ∈ final, later = task ∨ later ∈ tasks ∧ later.id ≠ task.id

theorem replaceTask_replaced (keyed : (office.tasks.map TaskProps.id).Nodup) (found : office.findTask value.id = some row)
    (saved : saveTask value office = .ok later) : Replaced office.tasks later.tasks row (overwriteTask row value) := by
  obtain ⟨member, key⟩ := findTask_found found
  obtain ⟨-, rfl⟩ := saveTask_overwrites found saved
  refine ⟨member, List.mem_map.mpr ⟨row, member, if_pos key⟩, rfl, rfl, keyed, fun old inTasks => saveTask_lasting saved inTasks,
    fun task inFinal => ?_⟩
  obtain ⟨old, inTasks, rfl⟩ := List.mem_map.mp inFinal
  split
  · next same => exact .inl (by rw [keyed_eq keyed member inTasks (same.trans key.symm)])
  · next different => exact .inr ⟨inTasks, fun same => different (same.trans key)⟩

variable {tasks final : List TaskProps}

theorem Replaced.owned (replaced : Replaced tasks final row task) {taskId projectId : String}
    (owned : ∃ old ∈ tasks, old.id = taskId ∧ old.projectId = projectId) :
    ∃ later ∈ final, later.id = taskId ∧ later.projectId = projectId := by
  obtain ⟨old, inTasks, rfl, rfl⟩ := owned
  exact replaced.lasting old inTasks

theorem ExecutionsStored.unmarked (stored : ExecutionsStored tasks executions) (replaced : Replaced tasks final row task)
    (quiet : isExecuting task.status = true → isExecuting row.status = true) : ExecutionsStored final executions where
  keys := stored.keys
  unknown := stored.unknown
  valid := stored.valid
  executing := by
    intro other inFinal executing
    rcases replaced.others other inFinal with rfl | ⟨inTasks, -⟩
    · rw [replaced.id, replaced.projectId]
      exact stored.executing row replaced.member (quiet executing)
    · exact stored.executing other inTasks executing
  owned := fun entry inEntries => replaced.owned (stored.owned entry inEntries)

/-- A task that begins to execute is known to be executed. -/
theorem ExecutionsStored.marked (stored : ExecutionsStored tasks executions) (replaced : Replaced tasks final row task)
    (updatedAt : IsoDate.validTime task.updatedAt = true) : ExecutionsStored final (markExecuted task executions) where
  keys := markExecuted_keyed stored.keys
  unknown := by
    intro entry inEntries unknown
    rcases mem_markExecuted inEntries with ⟨old, -⟩ | ⟨-, executed, -⟩
    · exact stored.unknown entry old unknown
    · rw [executed] at unknown
      cases unknown
  valid := by
    intro entry inEntries time known
    rcases mem_markExecuted inEntries with ⟨old, -⟩ | ⟨-, -, ⟨-, given⟩ | ⟨held, inOld, -, -, given⟩⟩
    · exact stored.valid entry old time known
    · rw [given time known]
      exact updatedAt
    · rcases given time known with rfl | known
      · exact updatedAt
      · exact stored.valid held inOld time known
  executing := by
    intro other inFinal executing
    rcases replaced.others other inFinal with rfl | ⟨inTasks, different⟩
    · obtain ⟨entry, inEntries, ofTask, executed⟩ := markExecuted_marks other executions
      refine ⟨entry, inEntries, ofTask, ?_, executed⟩
      rcases mem_markExecuted inEntries with ⟨-, different⟩ | ⟨-, -, ⟨project, -⟩ | ⟨held, inOld, heldTask, project, -⟩⟩
      · exact absurd ofTask different
      · exact project
      · obtain ⟨owner, inTasks, ownerId, ownerProject⟩ := stored.owned held inOld
        have same := keyed_eq replaced.keyed replaced.member inTasks (ownerId.trans (heldTask.trans replaced.id))
        rw [project, ← ownerProject, same, replaced.projectId]
    · obtain ⟨entry, inOld, ofTask, rest⟩ := stored.executing other inTasks executing
      exact ⟨entry, markExecuted_lasting inOld fun same => different (ofTask.symm.trans same), ofTask, rest⟩
  owned := by
    intro entry inEntries
    rcases mem_markExecuted inEntries with ⟨old, -⟩ | ⟨ofTask, -, ⟨project, -⟩ | ⟨held, inOld, heldTask, project, -⟩⟩
    · exact replaced.owned (stored.owned entry old)
    · exact ⟨task, replaced.inFinal, ofTask.symm, project.symm⟩
    · rw [ofTask, project, ← heldTask]
      exact replaced.owned (stored.owned held inOld)

theorem ExecutionsStored.more (stored : ExecutionsStored tasks executions) (kept : tasks ⊆ final)
    (quiet : ∀ task ∈ final, isExecuting task.status = true → task ∈ tasks) : ExecutionsStored final executions where
  keys := stored.keys
  unknown := stored.unknown
  valid := stored.valid
  executing := fun task inFinal executing => stored.executing task (quiet task inFinal executing) executing
  owned := by
    intro entry inEntries
    obtain ⟨task, inTasks, about⟩ := stored.owned entry inEntries
    exact ⟨task, kept inTasks, about⟩

theorem TasksStored.saved (stored : TasksStored tables) (saved : saveTask value tables.office = .ok later)
    (tasksStored : ∀ task ∈ later.tasks, TaskStored task) {known : List ExecutionRow}
    (executionsStored : ExecutionsStored later.tasks known) :
    TasksStored { tables with office := later, executions := known } := by
  have dependencies : later.dependencies = tables.office.dependencies := by rw [saveTask_tasks saved]
  refine ⟨stored.wellFormed.fewer (fun edge inAfter => dependencies ▸ inAfter)
    (saveTask_keyed stored.wellFormed.keyed saved) fun projectId taskId inside => ?_, ?_, tasksStored, ?_, executionsStored⟩
  · obtain ⟨task, member, about, inProject⟩ := inProject_iff.mp inside
    obtain ⟨final, inFinal, sameId, sameProject⟩ := saveTask_lasting saved member
    exact inProject_iff.mpr ⟨final, inFinal, sameId.trans about, sameProject.trans inProject⟩
  · change (later.dependencies.map TaskDependency.edge).Nodup
    rw [dependencies]
    exact stored.edges
  · change ∀ edge ∈ later.dependencies, _
    rw [dependencies]
    exact stored.linkedAt

theorem TasksStored.commanded (stored : TasksStored tables) {command : TaskCommand}
    (valid : IsoDate.validTime (updateTime command) = true) (performed : command.perform tables.office = .ok later) :
    TasksStored { tables with
      office := later, executions := afterUpdate command.taskId tables.office later tables.executions } := by
  obtain ⟨row, value, found, sameId, saved, kept⟩ := taskCommand_value performed
  obtain ⟨member, key⟩ := findTask_found found
  have overwritten : tables.office.findTask value.id = some row := by rw [sameId, key]; exact found
  have replaced := replaceTask_replaced stored.wellFormed.keyed overwritten saved
  have again : later.findTask command.taskId = some (overwriteTask row value) := by
    rw [saveTask_findTask saved found, if_pos sameId.symm]
  have tasksStored := saveTask_stored stored.tasks (kept (stored.tasks row member) valid) saved
  refine stored.saved saved tasksStored ?_
  rw [afterUpdate, found, again]
  dsimp only
  split
  · exact stored.executions.marked replaced (tasksStored _ replaced.inFinal).updatedAt
  · next quiet =>
    refine stored.executions.unmarked replaced fun executing => ?_
    rw [not_and, not_not] at quiet
    exact quiet (of_decide_eq_true executing) ▸ executing

theorem create_pending {input : CreateTask}
    (created : Task.create input.id input.projectId input.title input.description input.priority input.now = .ok task) :
    task.status = .pending := by
  obtain ⟨-, created⟩ := guard_ok created
  obtain ⟨priority, -, created⟩ := bind_ok created
  cases created
  rfl

theorem TasksStored.created (stored : TasksStored tables) {input : CreateTask} (generated : Generated input.id)
    (valid : IsoDate.validTime input.now = true) (performed : input.execute tables.office = .ok later) :
    TasksStored (tables.withOffice later) := by
  obtain ⟨-, performed⟩ := guard_ok performed
  obtain ⟨task, created, saved⟩ := bind_ok performed
  have pending := create_pending created
  refine stored.saved saved (saveTask_stored stored.tasks (.created generated valid created) saved) ?_
  cases found : tables.office.findTask task.id with
  | none =>
    rcases saveTask_cases saved with ⟨-, rfl⟩ | rfl
    · refine stored.executions.more (List.subset_append_left _ _) fun other inFinal executing => ?_
      rcases List.mem_append.mp inFinal with old | new
      · exact old
      · rw [List.mem_singleton.mp new, pending] at executing
        cases executing
    · exact stored.executions.more (fun other member => List.mem_map.mpr ⟨other, member, if_neg fun same =>
        by simpa [same] using List.find?_eq_none.mp found other member⟩) fun other inFinal executing => by
          obtain ⟨old, member, rfl⟩ := List.mem_map.mp inFinal
          rwa [if_neg fun same => by simpa [same] using List.find?_eq_none.mp found old member]
  | some row =>
    have replaced := replaceTask_replaced stored.wellFormed.keyed found saved
    refine stored.executions.unmarked replaced fun executing => ?_
    change isExecuting task.status = true at executing
    rw [pending] at executing
    cases executing

theorem TasksStored.linked (stored : TasksStored tables) {input : TaskDependency} (valid : IsoDate.validTime now = true)
    {linked : Bool × DependencyTables} (performed : ManageTaskDependencies.link input tables.dependencies = .ok linked) :
    TasksStored { tables with
      office := linked.2.office
      linkedAt := if linked.1 then Function.update tables.linkedAt input now else tables.linkedAt } := by
  obtain ⟨created, after⟩ := linked
  have updated (row : TaskDependency) (old : row = input ∨ row ∈ tables.office.dependencies) :
      IsoDate.validTime (Function.update tables.linkedAt input now row) = true := by
    by_cases same : row = input
    · rw [same, Function.update_self]
      exact valid
    · rw [Function.update_of_ne same]
      exact stored.linkedAt row (old.resolve_left same)
  rcases link_ok performed with rfl | inserted
  · refine ⟨stored.wellFormed, stored.edges, stored.tasks, fun row member => ?_, stored.executions⟩
    dsimp only
    split
    · exact updated row (.inr member)
    · exact stored.linkedAt row member
  rcases tables_link_ok inserted with rfl | ⟨owned, passed, fresh, rfl, rfl⟩
  · refine ⟨stored.wellFormed, stored.edges, stored.tasks, fun row member => ?_, stored.executions⟩
    dsimp only
    split
    · exact updated row (.inr member)
    · exact stored.linkedAt row member
  · refine ⟨stored.wellFormed.link owned passed, ?_, stored.tasks, fun row member => ?_, stored.executions⟩
    · change ((tables.office.dependencies ++ [input]).map TaskDependency.edge).Nodup
      rw [List.map_append, List.nodup_append']
      refine ⟨stored.edges, List.nodup_singleton _, fun edge old new => fresh ?_⟩
      rw [List.map_singleton, List.mem_singleton] at new
      exact new ▸ old
    · exact updated row ((List.mem_append.mp member).symm.imp_left List.mem_singleton.mp)

theorem TasksStored.unlinked (stored : TasksStored tables) {input : TaskDependency} {unlinked : Bool × DependencyTables}
    (performed : ManageTaskDependencies.unlink input tables.dependencies = .ok unlinked) :
    TasksStored (tables.withOffice unlinked.2.office) := by
  obtain ⟨removed, after⟩ := unlinked
  rcases tables_unlink_ok (unlink_ok performed) with rfl | rfl
  · exact stored
  · exact ⟨stored.wellFormed.fewer (fun row member => (List.mem_filter.mp member).1) stored.wellFormed.keyed
        fun _ _ inside => inside, stored.edges.sublist (List.filter_sublist.map _), stored.tasks,
      fun row member => stored.linkedAt row (List.mem_filter.mp member).1, stored.executions⟩

theorem CommandStep.stored {command : ProjectCommand} (step : CommandStep tables command after)
    (stored : TasksStored tables) : TasksStored after := by
  cases step with
  | refused threw => exact stored
  | committed supplied performed =>
    cases command with
    | create input =>
      obtain ⟨later, created, rfl⟩ := map_ok performed
      exact stored.created supplied.1 supplied.2 created
    | task command =>
      obtain ⟨later, commanded, rfl⟩ := map_ok performed
      exact stored.commanded supplied commanded
    | link input now =>
      obtain ⟨linked, made, rfl⟩ := map_ok performed
      exact stored.linked supplied made
    | unlink input =>
      obtain ⟨unlinked, made, rfl⟩ := map_ok performed
      exact stored.unlinked made

structure NoTasks (tables : TaskTables) : Prop where
  tasks : tables.office.tasks = []
  dependencies : tables.office.dependencies = []
  executions : tables.executions = []

theorem NoTasks.stored (start : NoTasks tables) : TasksStored tables where
  wellFormed := NoDependencies.wellFormed ⟨by
    change (tables.office.tasks.map _).Nodup
    rw [start.tasks]
    exact List.nodup_nil, start.dependencies⟩
  edges := by
    change (tables.office.dependencies.map _).Nodup
    rw [start.dependencies]
    exact List.nodup_nil
  tasks := by simp [start.tasks]
  linkedAt := by simp [start.dependencies]
  executions := by
    constructor <;> simp [start.tasks, start.executions]

theorem tasks_stored (start : NoTasks tables) (reached : Transition.Reachable CommandStep tables after) :
    TasksStored after :=
  reached.invariant TasksStored start.stored fun _ _ _ stored step => step.stored stored

end AiOffice.Application.ProjectPortability
