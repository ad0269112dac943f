import AiOffice.Application.ProjectPortability.PortableTasks
import AiOffice.Application.ProjectPortability.StateSchema

namespace AiOffice.Application.ProjectPortability

open Data Domain Domain.Schema Storage.Office
open Application.OfficeManifestSchema

def timeValue (time : Date) : Value := .string (IsoDate.toISOString time)

def taskValue (task : TaskProps) : Value := .object <| present [
  ("id", some (.string task.id)),
  ("title", some (.string task.title)),
  ("description", task.description.map .string),
  ("status", some (.string task.status.text)),
  ("priority", some (.number task.priority)),
  ("createdAt", some (timeValue task.createdAt)),
  ("updatedAt", some (timeValue task.updatedAt))]

def dependencyValue (linkedAt : TaskDependency → Date) (row : TaskDependency) : Value := .object [
  ("taskId", .string row.taskId),
  ("dependsOnTaskId", .string row.dependsOnTaskId),
  ("createdAt", timeValue (linkedAt row))]

/-- What is known about the execution of a task. One without a row was never executed. -/
def executionValue (taskId : String) (row : Option ExecutionRow) : Value := .object <| present [
  ("taskId", some (.string taskId)),
  ("state", some (.string (match row with
    | none => "never"
    | some row => if row.executed then "executed" else "unknown"))),
  ("firstKnownAt", (row.bind ExecutionRow.firstKnownAt).map timeValue)]

/-- The sections of a portable state that are read from the tables of tasks. -/
structure TaskSections where
  tasks : List Value
  taskDependencies : List Value
  taskExecutionHistory : List Value

def TaskSections.record (sections : TaskSections) : Record := [
  ("tasks", .array sections.tasks),
  ("taskDependencies", .array sections.taskDependencies),
  ("taskExecutionHistory", .array sections.taskExecutionHistory)]

namespace TaskTables

variable (tables : TaskTables) (projectId : String)

def portableTasks : List TaskProps :=
  sortOn (fun task => toLex (IsoDate.toISOString task.createdAt, task.id))
    (tables.office.tasks.filter fun task => task.projectId = projectId)

def portableDependencies : List TaskDependency :=
  sortOn (fun row => toLex (row.taskId, row.dependsOnTaskId))
    (tables.office.dependencies.filter fun row => row.projectId = projectId)

def executionOf (taskId : String) : Option ExecutionRow :=
  tables.executions.find? fun row => row.projectId = projectId && row.taskId = taskId

def isExecuted (taskId : String) : Bool := (tables.executionOf projectId taskId).any ExecutionRow.executed

def sections : TaskSections where
  tasks := (tables.portableTasks projectId).map taskValue
  taskDependencies := (tables.portableDependencies projectId).map (dependencyValue tables.linkedAt)
  taskExecutionHistory := (tables.portableTasks projectId).map fun task =>
    executionValue task.id (tables.executionOf projectId task.id)

end TaskTables

structure OtherSections where
  project : Value
  profileEntries : Value
  officeManifests : Value
  packBinding : Value
  definitions : Value
  governance : Value
  agents : Value

def OtherSections.record (sections : OtherSections) : Record := [
  ("project", sections.project),
  ("profileEntries", sections.profileEntries),
  ("officeManifests", sections.officeManifests),
  ("packBinding", sections.packBinding),
  ("definitions", sections.definitions),
  ("governance", sections.governance),
  ("agents", sections.agents)]

def portableState (others : OtherSections) (sections : TaskSections) : Value :=
  .object (others.record ++ sections.record)

def otherFields : List Field := [
  required "project" portableProject,
  required "profileEntries" (boundedArray portableProfileEntry 0 100000),
  required "officeManifests" (boundedArray portableOfficeManifest 0 10000),
  optional "packBinding" portablePackBinding,
  optional "definitions" portableDefinitionState,
  required "governance" (object (portableGovernanceShapeV11 ++ [optional "taskRequirements" taskRequirementLinks])),
  required "agents" portableAgentsShape]

def taskFields : List Field := [
  required "tasks" (boundedArray portableTask 0 100000),
  optional "taskDependencies" taskDependencies,
  optional "taskExecutionHistory" taskExecutionHistory]

def plainTask (id : String) : TaskProps := ⟨id, "", "Task", none, .pending, 0, 0, 0⟩

def plainExecution (executed : String → Bool) (id : String) : Option ExecutionRow :=
  if executed id then some ⟨id, "", true, none⟩ else none

/-- Tasks that have nothing but their ids, and whether they were executed. -/
def plainSections (ids : List String) (executed : String → Bool) : TaskSections where
  tasks := (ids.map plainTask).map taskValue
  taskDependencies := []
  taskExecutionHistory := (ids.map plainTask).map fun task => executionValue task.id (plainExecution executed task.id)

/-- The other sections of a state are accepted, with references to no tasks but those with these ids, and with runs of
no tasks but those that were executed. -/
def OthersAccepted (others : OtherSections) (ids : List String) (executed : String → Bool) : Prop :=
  ∃ parsed, object otherFields (.object others.record) = some (.object parsed) ∧
    referentialClosure (.object (parsed ++ (plainSections ids executed).record)) = []

instance (others : OtherSections) (ids : List String) (executed : String → Bool) :
    Decidable (OthersAccepted others ids executed) :=
  match read : object otherFields (.object others.record) with
  | some (.object parsed) =>
    decidable_of_iff ((referentialClosure (.object (parsed ++ (plainSections ids executed).record))).isEmpty = true)
      (by simp [OthersAccepted, read])
  | some .undefined | some .null | some (.boolean _) | some (.number _) | some .notFinite | some (.string _)
  | some (.array _) | some (.unsupported _) | none => isFalse (by simp [OthersAccepted, read])

/-- The bounds of the archive on the texts and the numbers of tasks. -/
structure WithinBounds (tasks : List TaskProps) (dependencies : List TaskDependency) : Prop where
  titles : ∀ task ∈ tasks, utf16Length task.title ≤ 10000
  descriptions : ∀ task ∈ tasks, ∀ text, task.description = some text → utf16Length text ≤ 256000
  tasks : tasks.length ≤ 100000
  dependencies : dependencies.length ≤ 1000000

section

variable {value : String}

theorem generated_char (generated : Generated value) {char : Char} (member : char ∈ value.toList) :
    char.val ≤ 0xFFFF ∧ isWhiteSpace char = false := by
  have each : (generatedChars.all fun char => char.val ≤ 0xFFFF && !isWhiteSpace char) = true := by decide
  have listed := List.contains_iff_mem.mp (List.all_eq_true.mp generated.2 char member)
  simpa using List.all_eq_true.mp each char listed

theorem trim_plain (plain : ∀ char ∈ value.toList, isWhiteSpace char = false) : trim value = value := by
  have front : value.toList.dropWhile isWhiteSpace = value.toList := by
    rw [List.dropWhile_eq_self_iff]
    intro nonempty
    simp [plain _ (List.getElem_mem nonempty)]
  have back : value.toList.rdropWhile isWhiteSpace = value.toList := by
    rw [List.rdropWhile_eq_self_iff]
    intro nonempty
    simp [plain _ (List.getLast_mem nonempty)]
  rw [trim, front, back, String.ofList_toList]

theorem utf16Length_plain (plain : ∀ char ∈ value.toList, char.val ≤ 0xFFFF) :
    utf16Length value = value.toList.length := by
  have ones : value.toList.map (fun char => if char.val ≤ 0xFFFF then 1 else 2) = value.toList.map fun _ => 1 :=
    List.map_congr_left fun char member => if_pos (plain char member)
  rw [utf16Length, ones, List.map_const', List.sum_replicate_nat, mul_one]

theorem generated_length (generated : Generated value) : utf16Length value = 36 := by
  rw [utf16Length_plain fun char member => (generated_char generated member).1, generated.1]

theorem generated_trimmed (generated : Generated value) : Trimmed value :=
  trim_plain fun _ member => (generated_char generated member).2

theorem id_kept (generated : Generated value) : id (.string value) = some (.string value) := by
  have trimmed := generated_trimmed generated
  rw [Trimmed] at trimmed
  simp [id, trimmedText, Schema.trimmed, trimmed, generated_length generated]

theorem timestamp_kept {time : Date} (valid : IsoDate.validTime time = true) :
    timestamp (timeValue time) = some (timeValue time) := by
  simp [timestamp, timeValue, text, IsoDate.isTimestamp_toISOString valid]

theorem oneOf_kept {texts : List String} (listed : value ∈ texts) : oneOf texts (.string value) = some (.string value) := by
  simp [oneOf, text, listed]

end

section

variable {task : TaskProps} {row : TaskDependency} {linkedAt : TaskDependency → Date} {taskId : String}
  {execution : Option ExecutionRow}

theorem utf16Length_zero {value : String} (none : utf16Length value = 0) : value = "" := by
  rw [← String.toList_eq_nil_iff]
  cases chars : value.toList with
  | nil => rfl
  | cons char rest =>
    rw [utf16Length, chars, List.map_cons, List.sum_cons] at none
    split at none <;> omega

theorem taskValue_title (task : TaskProps) : (taskValue task).get "title" = .string task.title := by
  cases given : task.description <;> simp [taskValue, present, Value.get, Record.get, List.lookup_cons, given]

theorem taskValue_description {text : String} (given : task.description = some text) :
    (taskValue task).get "description" = .string text := by
  simp [taskValue, present, Value.get, Record.get, List.lookup_cons, given]

theorem taskValue_status (task : TaskProps) : (taskValue task).get "status" = .string task.status.text := by
  cases given : task.description <;> simp [taskValue, present, Value.get, Record.get, List.lookup_cons, given]

theorem priority_integer {priority : Int} (low : minTaskPriority ≤ priority) (high : priority ≤ maxTaskPriority) :
    isInteger priority = true := by
  simp only [minTaskPriority, maxTaskPriority] at low high
  simp only [isInteger, Rat.den_intCast, Rat.num_intCast, isSafeInteger, maxSafeInteger, Bool.and_eq_true,
    decide_eq_true_eq, true_and]
  exact ⟨decide_eq_true (by omega), decide_eq_true (by omega)⟩

theorem portableTask_kept (stored : TaskStored task) (title : utf16Length task.title ≤ 10000)
    (description : ∀ text, task.description = some text → utf16Length text ≤ 256000) :
    portableTask (taskValue task) = some (taskValue task) := by
  have nonempty : 1 ≤ utf16Length task.title := by
    by_contra short
    exact stored.title.2 (utf16Length_zero (by omega))
  have trimmed : trim task.title = task.title := stored.title.1
  refine Fits.object ?_ (by decide)
  refine .required nofun (id_kept stored.id) (.required nofun ?_ (.optional ?_ (.required nofun ?_ (.required nofun ?_
    (.required nofun (timestamp_kept stored.createdAt) (.required nofun (timestamp_kept stored.updatedAt) .nil))))))
  · simp [trimmedText, Schema.trimmed, trimmed, nonempty, title]
  · intro value member
    obtain ⟨text, given, rfl⟩ := Option.mem_map.mp member
    exact ⟨nofun, by simp [longText, Schema.text, description text given]⟩
  · cases task.status <;> exact oneOf_kept (by decide)
  · simp [integer, number, priority_integer stored.priority.1 stored.priority.2]

theorem portableTask_bounds {output : Value} (stored : TaskStored task) (read : portableTask (taskValue task) = some output) :
    utf16Length task.title ≤ 10000 ∧ ∀ text, task.description = some text → utf16Length text ≤ 256000 := by
  have trimmed : trim task.title = task.title := stored.title.1
  constructor
  · have titled : trimmedText 10000 ((taskValue task).get "title") = _ := object_required (by decide) read (by simp)
    rw [taskValue_title, trimmedText, Schema.trimmed, trimmed] at titled
    simp only [Bool.and_eq_true, decide_eq_true_eq] at titled
    split at titled
    · next bounded => exact bounded.2
    · cases titled
  · intro value given
    have written : (taskValue task).get "description" = .undefined ∧ output.get "description" = .undefined ∨
        longText ((taskValue task).get "description") = some (output.get "description") :=
      object_optional (by decide) read (by simp)
    rcases written with ⟨absent, -⟩ | described
    · rw [taskValue_description given] at absent
      cases absent
    · rw [taskValue_description given, longText, Schema.text] at described
      split at described
      · next bounded => exact of_decide_eq_true bounded
      · cases described

theorem portableTaskDependency_kept (taskId : Generated row.taskId) (dependsOnTaskId : Generated row.dependsOnTaskId)
    (valid : IsoDate.validTime (linkedAt row) = true) :
    portableTaskDependency (dependencyValue linkedAt row) = some (dependencyValue linkedAt row) := by
  refine Fits.object ?_ (by decide)
  exact .entry nofun (id_kept taskId) (.entry nofun (id_kept dependsOnTaskId)
    (.entry nofun (timestamp_kept valid) .nil))

theorem portableExecution_kept (generated : Generated taskId)
    (valid : ∀ row, execution = some row → ∀ time, row.firstKnownAt = some time → IsoDate.validTime time = true) :
    portableExecution (executionValue taskId execution) = some (executionValue taskId execution) := by
  refine Fits.object ?_ (by decide)
  refine .required nofun (id_kept generated) (.required nofun ?_ (.optional ?_ .nil))
  · cases execution with
    | none => exact oneOf_kept (by decide)
    | some row => cases executed : row.executed <;> simp [executed, oneOf_kept]
  · intro value member
    obtain ⟨time, known, rfl⟩ := Option.mem_map.mp member
    obtain ⟨row, given, knownAt⟩ := Option.bind_eq_some_iff.mp known
    exact ⟨nofun, timestamp_kept (valid row given time knownAt)⟩

end

section

variable {others : OtherSections} {sections : TaskSections} {parsed : Record} {output : Value}

theorem taskFields_read : object taskFields (.object sections.record) = some output ↔
    ∃ tasks dependencies history, boundedArray portableTask 0 100000 (.array sections.tasks) = some tasks ∧
      taskDependencies (.array sections.taskDependencies) = some dependencies ∧
      taskExecutionHistory (.array sections.taskExecutionHistory) = some history ∧
      output = .object [("tasks", tasks), ("taskDependencies", dependencies), ("taskExecutionHistory", history)] := by
  rw [object_iff]
  cases tasks : boundedArray portableTask 0 100000 (.array sections.tasks) <;>
    cases dependencies : taskDependencies (.array sections.taskDependencies) <;>
    cases history : taskExecutionHistory (.array sections.taskExecutionHistory) <;>
    simp [known, taskFields, TaskSections.record, Schema.required, Schema.optional, Field.read, List.lookup_cons, tasks,
      dependencies, history]

/-- The sections of a state are read apart from each other. -/
theorem portableState_read : accepts portableProjectStateSchema (portableState others sections) = true ↔
    ∃ parsed tasks dependencies history, object otherFields (.object others.record) = some (.object parsed) ∧
      boundedArray portableTask 0 100000 (.array sections.tasks) = some tasks ∧
      taskDependencies (.array sections.taskDependencies) = some dependencies ∧
      taskExecutionHistory (.array sections.taskExecutionHistory) = some history ∧
      referentialClosure (.object
        (parsed ++ [("tasks", tasks), ("taskDependencies", dependencies), ("taskExecutionHistory", history)])) = [] := by
  have unique : (portableProjectStateShape.map Field.key).Nodup := by decide
  have uniqueToo : ((otherFields ++ taskFields).map Field.key).Nodup := by decide
  have same (field : Field) : field ∈ portableProjectStateShape ↔ field ∈ otherFields ++ taskFields := by
    simp only [portableProjectStateShape, commonFields, otherFields, taskFields, List.mem_append, List.mem_cons,
      List.not_mem_nil, or_false]
    tauto
  have parts {output : Value} : object (otherFields ++ taskFields) (portableState others sections) = some output ↔
      ∃ parsed rest, object otherFields (.object others.record) = some (.object parsed) ∧
        object taskFields (.object sections.record) = some (.object rest) ∧ output = .object (parsed ++ rest) := by
    refine object_append ?_ ?_ (by decide)
    · simp [OtherSections.record, otherFields, Schema.required, Schema.optional]
    · simp [TaskSections.record, taskFields, Schema.required, Schema.optional]
  rw [accepts_iff]
  constructor
  · rintro ⟨output, read⟩
    obtain ⟨shape, closed⟩ := superRefine_iff.mp read
    obtain ⟨again, other, equal⟩ := object_order unique uniqueToo same shape
    obtain ⟨parsed, rest, first, second, rfl⟩ := parts.mp other
    obtain ⟨tasks, dependencies, history, readTasks, readDependencies, readHistory, made⟩ := taskFields_read.mp second
    cases made
    exact ⟨parsed, tasks, dependencies, history, first, readTasks, readDependencies, readHistory,
      (referentialClosure_congr equal).trans closed⟩
  · rintro ⟨parsed, tasks, dependencies, history, first, readTasks, readDependencies, readHistory, closed⟩
    have second := taskFields_read.mpr ⟨tasks, dependencies, history, readTasks, readDependencies, readHistory, rfl⟩
    obtain ⟨again, shape, equal⟩ := object_order uniqueToo unique (fun field => (same field).symm)
      (parts.mpr ⟨parsed, _, first, second, rfl⟩)
    exact ⟨again, superRefine_iff.mpr ⟨shape, (referentialClosure_congr equal).trans closed⟩⟩

theorem absent_key (read : object otherFields (.object others.record) = some (.object parsed)) {key : String}
    (unknown : (Value.object others.record).has key = false) : parsed.lookup key = none := by
  have none := object_has (by decide) read key
  rw [unknown, Value.has, Value.entries_object] at none
  simpa using none

theorem linkIssues_ids {tasks also : List Value} (same : textsOf "id" tasks = textsOf "id" also)
    (requirements links : List Value) : linkIssues tasks requirements links = linkIssues also requirements links := by
  simp only [linkIssues, same]

theorem runIssues_ids {tasks also : List Value} (same : textsOf "id" tasks = textsOf "id" also)
    (agents runs : List Value) : runIssues tasks agents runs = runIssues also agents runs := by
  simp only [runIssues, same]

theorem closure_sections {plain : TaskSections} (read : object otherFields (.object others.record) = some (.object parsed))
    (same : textsOf "id" sections.tasks = textsOf "id" plain.tasks)
    (closed : referentialClosure (.object (parsed ++ plain.record)) = []) :
    (referentialClosure (.object (parsed ++ sections.record)) = [] ↔
      historyIssues sections.tasks (((Value.object parsed).get "agents").get "terminalRuns").items
        sections.taskExecutionHistory = [] ∧
      dependencyIssues (textsOf "id" sections.tasks) [] 0 (sections.taskDependencies.map dependencyEdge) = []) ∧
    historyIssues plain.tasks (((Value.object parsed).get "agents").get "terminalRuns").items
      plain.taskExecutionHistory = [] := by
  have lookups (part : TaskSections) : (Value.object (parsed ++ part.record)).get "tasks" = .array part.tasks ∧
      (Value.object (parsed ++ part.record)).get "taskDependencies" = .array part.taskDependencies ∧
      (Value.object (parsed ++ part.record)).get "taskExecutionHistory" = .array part.taskExecutionHistory ∧
      (Value.object (parsed ++ part.record)).get "governance" = (Value.object parsed).get "governance" ∧
      (Value.object (parsed ++ part.record)).get "agents" = (Value.object parsed).get "agents" := by
    have none (key : String) (unknown : (Value.object others.record).has key = false) := absent_key read unknown
    simp only [Value.get, Record.get, lookup_append, none "tasks" rfl, none "taskDependencies" rfl,
      none "taskExecutionHistory" rfl, Option.none_or]
    simp [TaskSections.record, List.lookup_cons]
  obtain ⟨tasks, dependencies, history, governance, agents⟩ := lookups sections
  obtain ⟨plainTasks, plainDependencies, plainHistory, plainGovernance, plainAgents⟩ := lookups plain
  simp only [referentialClosure, subjectIssues, subjectIds, plainTasks, plainDependencies, plainHistory, plainGovernance,
    plainAgents, Value.items, Value.isUndefined, List.append_eq_nil_iff] at closed
  simp only [referentialClosure, subjectIssues, subjectIds, tasks, dependencies, history, governance, agents, Value.items,
    Value.isUndefined, List.append_eq_nil_iff, same, linkIssues_ids same, runIssues_ids same]
  tauto

end

section

variable {tasks : List TaskProps} {entries : List ExecutionRow} {runs : List Value} {known : String → Option ExecutionRow}

theorem textsOf_tasks (tasks : List TaskProps) : textsOf "id" (tasks.map taskValue) = tasks.map TaskProps.id := by
  rw [textsOf, List.map_map]
  exact List.map_congr_left fun task _ => rfl

theorem executionValue_executed (taskId : String) (row : Option ExecutionRow) :
    ((executionValue taskId row).get "state").text = "executed" ↔ row.any ExecutionRow.executed = true := by
  cases row with
  | none => simp [executionValue, present, Value.get, Record.get, List.lookup_cons, Value.text]
  | some row =>
    cases known : row.firstKnownAt <;> cases executed : row.executed <;>
      simp [executionValue, present, Value.get, Record.get, List.lookup_cons, Value.text, known, executed]

theorem executionValue_unknown (taskId : String) {row : Option ExecutionRow} (none : row.bind ExecutionRow.firstKnownAt = none) :
    ((executionValue taskId row).get "firstKnownAt").isUndefined = true := by
  simp [executionValue, present, Value.get, Record.get, List.lookup_cons, none, Value.isUndefined]

theorem lastWith_task (keyed : (tasks.map TaskProps.id).Nodup) {task : TaskProps} (member : task ∈ tasks) :
    lastWith (tasks.map taskValue) task.id = some (taskValue task) := by
  cases found : lastWith (tasks.map taskValue) task.id with
  | none =>
    have absent := List.find?_eq_none.mp found (taskValue task) (by simpa using ⟨task, member, rfl⟩)
    exact absurd (decide_eq_true rfl) absent
  | some value =>
    unfold lastWith at found
    obtain ⟨other, inTasks, rfl⟩ := List.mem_map.mp (List.mem_reverse.mp (List.mem_of_find?_eq_some found))
    have chosen := List.find?_some found
    have named : other.id = task.id := of_decide_eq_true chosen
    rw [keyed_eq keyed member inTasks named]

/-- The history of tasks has no issue when it is known of what executes, and of what runs, that it was executed. -/
theorem historyIssues_nil (keyed : (tasks.map TaskProps.id).Nodup)
    (unknown : ∀ id, (known id).any ExecutionRow.executed = false → (known id).bind ExecutionRow.firstKnownAt = none)
    (executing : ∀ task ∈ tasks, isExecuting task.status = true → (known task.id).any ExecutionRow.executed = true) :
    historyIssues (tasks.map taskValue) runs (tasks.map fun task => executionValue task.id (known task.id)) = [] ↔
      ∀ task ∈ tasks, (known task.id).any ExecutionRow.executed = true ∨ task.id ∉ textsOf "taskId" runs := by
  have taskIds (part : List TaskProps) :
      textsOf "taskId" (part.map fun task => executionValue task.id (known task.id)) = part.map TaskProps.id := by
    rw [textsOf, List.map_map]
    exact List.map_congr_left fun task _ => rfl
  have complete : (textsOf "id" (tasks.map taskValue)).eraseDups.flatMap (fun taskId =>
      issueUnless ((textsOf "taskId" (tasks.map fun task => executionValue task.id (known task.id))).contains taskId)
        [.field "taskExecutionHistory"] s!"Task {taskId} lacks explicit execution knowledge") = [] := by
    rw [List.flatMap_eq_nil_iff]
    intro taskId member
    rw [issueUnless_eq_nil, taskIds, List.contains_iff_mem, ← textsOf_tasks]
    exact List.mem_eraseDups.mp member
  rw [historyIssues, complete, List.append_nil, eachIssues, issuesFrom_eq_nil]
  have active {task : TaskProps} (member : task ∈ tasks) :
      activeTask (tasks.map taskValue) task.id = isExecuting task.status := by
    rw [activeTask, lastWith_task keyed member, Option.any_some, taskValue_status]
    cases task.status <;> rfl
  have absent (texts : List String) (text : String) : (!texts.contains text) = true ↔ text ∉ texts := by
    rw [Bool.not_eq_true', ← List.contains_iff_mem, Bool.not_eq_true]
  simp only [List.append_eq_nil_iff, referenceIssues, issueUnless_eq_nil, List.nil_append, Bool.or_eq_true,
    decide_eq_true_eq, absent, List.contains_iff_mem]
  constructor
  · intro all task member
    obtain ⟨before, after, rfl⟩ := List.append_of_mem member
    have issues := all _ _ _ (by rw [List.map_append, List.map_cons])
    exact issues.2.imp_left (executionValue_executed ..).mp
  · intro ran earlier item later divided
    obtain ⟨before, rest, rfl, rfl, others⟩ := List.map_eq_append_iff.mp divided
    obtain ⟨task, after, rfl, rfl, rfl⟩ := List.map_eq_cons_iff.mp others
    have member : task ∈ before ++ task :: after := List.mem_append_right _ List.mem_cons_self
    have named : ((executionValue task.id (known task.id)).get "taskId").text = task.id := rfl
    have executed := executionValue_executed task.id (known task.id)
    rw [named, textsOf_tasks, taskIds, executed]
    refine ⟨⟨⟨⟨List.mem_map_of_mem member, ?_⟩, ?_⟩, ?_⟩, ran task member⟩
    · rw [List.map_append, List.nodup_append'] at keyed
      exact fun inBefore => keyed.2.2 inBefore (List.mem_map_of_mem List.mem_cons_self)
    · cases proved : (known task.id).any ExecutionRow.executed with
      | true => exact .inl rfl
      | false => exact .inr (executionValue_unknown _ (unknown _ proved))
    · rw [active member]
      cases executes : isExecuting task.status with
      | true => exact .inl (executing task member executes)
      | false => exact .inr rfl

end

section

variable {tasks : List String} {validated edges : List TaskDependencyEdge} {index : Nat} {edge other : TaskDependencyEdge}

theorem assertAcyclicDependency_passes {checked : Except Thrown Unit} (ok : checked = .ok ()) : passes checked = true := by
  rw [ok]
  rfl

theorem dependencyIssues_nil (inTasks : ∀ edge ∈ edges, edge.taskId ∈ tasks ∧ edge.dependsOnTaskId ∈ tasks)
    (keys : ((validated ++ edges).map dependencyKey).Nodup) (acyclic : AcyclicDependencies (validated ++ edges)) :
    dependencyIssues tasks validated index edges = [] := by
  induction edges generalizing validated index with
  | nil => rfl
  | cons edge rest ih =>
    rw [List.append_cons] at keys acyclic
    have before : AcyclicDependencies (validated ++ [edge]) := acyclic.mono fun item => List.mem_append_left rest
    have checked := (assertAcyclicDependency_exact (before.mono fun item => List.mem_append_left [edge])).mpr before
    rw [dependencyIssues, ih (fun item member => inTasks item (List.mem_cons_of_mem _ member)) keys acyclic,
      List.append_nil]
    obtain ⟨task, prerequisite⟩ := inTasks edge List.mem_cons_self
    rw [List.map_append, List.map_append, List.map_singleton, List.nodup_append', List.nodup_append'] at keys
    have fresh : dependencyKey edge ∉ validated.map dependencyKey :=
      fun earlier => keys.1.2.2 earlier (List.mem_singleton_self _)
    simp only [dependencyItemIssues, List.append_eq_nil_iff, issueUnless_eq_nil, List.contains_iff_mem,
      Bool.not_eq_true']
    exact ⟨⟨⟨task, prerequisite⟩, by simpa using fresh⟩, assertAcyclicDependency_passes checked⟩

theorem dependencyKey_inj (generated : Generated edge.taskId) (also : Generated other.taskId)
    (same : dependencyKey edge = dependencyKey other) : edge = other := by
  have letters := congrArg String.toList same
  simp only [dependencyKey, String.toList_append, List.append_assoc] at letters
  obtain ⟨first, rest⟩ := List.append_inj letters (generated.1.trans also.1.symm)
  cases edge
  cases other
  obtain rfl := String.toList_inj.mp first
  obtain rfl := String.toList_inj.mp (List.append_cancel_left rest)
  rfl

end

section

variable {tables before after : TaskTables} {projectId taskId : String} {task : TaskProps} {row : TaskDependency}
  {others : OtherSections}

theorem mem_portableTasks :
    task ∈ tables.portableTasks projectId ↔ task ∈ tables.office.tasks ∧ task.projectId = projectId := by
  simp [TaskTables.portableTasks]

theorem mem_portableDependencies :
    row ∈ tables.portableDependencies projectId ↔ row ∈ tables.office.dependencies ∧ row.projectId = projectId := by
  simp [TaskTables.portableDependencies]

theorem portableTasks_keyed (stored : TasksStored tables) :
    ((tables.portableTasks projectId).map TaskProps.id).Nodup :=
  ((sortOn_perm _ _).map TaskProps.id).nodup_iff.mpr
    (stored.wellFormed.keyed.sublist (List.filter_sublist.map TaskProps.id))

theorem mem_portableIds (inProject : tables.dependencies.inProject projectId taskId = true) :
    taskId ∈ (tables.portableTasks projectId).map TaskProps.id := by
  obtain ⟨task, member, rfl, owner⟩ := inProject_iff.mp inProject
  exact List.mem_map_of_mem (mem_portableTasks.mpr ⟨member, owner⟩)

theorem executionOf_member {entry : ExecutionRow} (found : tables.executionOf projectId taskId = some entry) :
    entry ∈ tables.executions := List.mem_of_find?_eq_some found

theorem executionOf_unknown (stored : TasksStored tables) (taskId : String)
    (unknown : (tables.executionOf projectId taskId).any ExecutionRow.executed = false) :
    (tables.executionOf projectId taskId).bind ExecutionRow.firstKnownAt = none := by
  cases found : tables.executionOf projectId taskId with
  | none => rfl
  | some entry =>
    rw [found, Option.any_some] at unknown
    exact stored.executions.unknown entry (executionOf_member found) unknown

theorem executionOf_executing (stored : TasksStored tables) (member : task ∈ tables.portableTasks projectId)
    (executing : isExecuting task.status = true) : tables.isExecuted projectId task.id = true := by
  obtain ⟨inTables, owner⟩ := mem_portableTasks.mp member
  obtain ⟨entry, known, sameTask, sameProject, executed⟩ := stored.executions.executing task inTables executing
  have found : tables.executionOf projectId task.id = some entry := by
    refine find_keyed stored.executions.keys known ?_ fun other _ selected => ?_
    · simp [sameTask, sameProject, owner]
    · rw [Bool.and_eq_true, decide_eq_true_eq, decide_eq_true_eq] at selected
      exact selected.2.trans sameTask.symm
  rw [TaskTables.isExecuted, found, Option.any_some, executed]

/-- The dependencies that are stored for a project are well formed in its archive. -/
theorem portableDependencies_closed (stored : TasksStored tables) :
    dependencyIssues ((tables.portableTasks projectId).map TaskProps.id) [] 0
      (((tables.portableDependencies projectId).map (dependencyValue tables.linkedAt)).map dependencyEdge) = [] := by
  have edges : ((tables.portableDependencies projectId).map (dependencyValue tables.linkedAt)).map dependencyEdge =
      (tables.portableDependencies projectId).map TaskDependency.edge := by
    rw [List.map_map]
    exact List.map_congr_left fun row _ => rfl
  have owned {row : TaskDependency} (member : row ∈ tables.portableDependencies projectId) :
      row.taskId ∈ (tables.portableTasks projectId).map TaskProps.id ∧
        row.dependsOnTaskId ∈ (tables.portableTasks projectId).map TaskProps.id := by
    obtain ⟨inTables, rfl⟩ := mem_portableDependencies.mp member
    obtain ⟨task, prerequisite⟩ := owned_iff.mp (stored.wellFormed.owned row inTables)
    exact ⟨mem_portableIds task, mem_portableIds prerequisite⟩
  have generated {id : String} (member : id ∈ (tables.portableTasks projectId).map TaskProps.id) : Generated id := by
    obtain ⟨task, inProject, rfl⟩ := List.mem_map.mp member
    exact (stored.tasks task (mem_portableTasks.mp inProject).1).id
  rw [edges]
  apply dependencyIssues_nil
  · intro edge member
    obtain ⟨row, inProject, rfl⟩ := List.mem_map.mp member
    exact owned inProject
  · rw [List.nil_append]
    have unique : ((tables.portableDependencies projectId).map TaskDependency.edge).Nodup :=
      ((sortOn_perm _ _).map _).nodup_iff.mpr (stored.edges.sublist (List.filter_sublist.map _))
    refine unique.map_on fun edge member other also same => ?_
    obtain ⟨row, inProject, rfl⟩ := List.mem_map.mp member
    obtain ⟨second, alsoInProject, rfl⟩ := List.mem_map.mp also
    exact dependencyKey_inj (generated (owned inProject).1) (generated (owned alsoInProject).1) same
  · refine stored.wellFormed.acyclic.mono fun edge member => ?_
    obtain ⟨row, inProject, rfl⟩ := List.mem_map.mp member
    exact mem_edges.mpr ⟨row, (mem_portableDependencies.mp inProject).1, rfl⟩

theorem plainTask_ids (ids : List String) : (ids.map plainTask).map TaskProps.id = ids := by
  rw [List.map_map]
  exact List.map_id ids

theorem plainExecution_executed (executed : String → Bool) (id : String) :
    (plainExecution executed id).any ExecutionRow.executed = executed id := by
  unfold plainExecution
  cases executed id <;> rfl

theorem portableHistory_closed (stored : TasksStored tables) {runs : List Value} {ids : List String}
    (same : ids = (tables.portableTasks projectId).map TaskProps.id)
    (plain : historyIssues (plainSections ids (tables.isExecuted projectId)).tasks runs
      (plainSections ids (tables.isExecuted projectId)).taskExecutionHistory = []) :
    historyIssues (tables.sections projectId).tasks runs (tables.sections projectId).taskExecutionHistory = [] := by
  have keyed : ((tables.portableTasks projectId).map TaskProps.id).Nodup := portableTasks_keyed stored
  have plainKeyed : ((ids.map plainTask).map TaskProps.id).Nodup := by rwa [plainTask_ids, same]
  refine (historyIssues_nil keyed (executionOf_unknown stored) fun task => executionOf_executing stored).mpr ?_
  have ran := (historyIssues_nil plainKeyed (fun id unknown => ?_) fun task member executing => ?_).mp plain
  · intro task member
    have each := ran (plainTask task.id) (List.mem_map_of_mem (same ▸ List.mem_map_of_mem member))
    rwa [plainExecution_executed] at each
  · rw [plainExecution_executed] at unknown
    simp [plainExecution, unknown]
  · obtain ⟨id, -, rfl⟩ := List.mem_map.mp member
    cases executing

theorem portableExecutions_kept (stored : TasksStored tables) (few : (tables.portableTasks projectId).length ≤ 100000) :
    taskExecutionHistory (.array (tables.sections projectId).taskExecutionHistory) =
      some (.array (tables.sections projectId).taskExecutionHistory) := by
  unfold taskExecutionHistory
  apply array_kept
  · intro item member
    obtain ⟨task, inProject, rfl⟩ := List.mem_map.mp member
    refine portableExecution_kept (stored.tasks task (mem_portableTasks.mp inProject).1).id fun entry found => ?_
    exact stored.executions.valid entry (executionOf_member found)
  · simpa [TaskTables.sections] using few

theorem portableDependencies_kept (stored : TasksStored tables)
    (few : (tables.portableDependencies projectId).length ≤ 1000000) :
    taskDependencies (.array (tables.sections projectId).taskDependencies) =
      some (.array (tables.sections projectId).taskDependencies) := by
  have generated {projectId id : String} (inProject : tables.dependencies.inProject projectId id = true) :
      Generated id := by
    obtain ⟨task, member, rfl, -⟩ := inProject_iff.mp inProject
    exact (stored.tasks task member).id
  unfold taskDependencies
  apply array_kept
  · intro item member
    obtain ⟨row, inProject, rfl⟩ := List.mem_map.mp member
    have inTables := (mem_portableDependencies.mp inProject).1
    obtain ⟨taskId, dependsOnTaskId⟩ := owned_iff.mp (stored.wellFormed.owned row inTables)
    exact portableTaskDependency_kept (generated taskId) (generated dependsOnTaskId) (stored.linkedAt row inTables)
  · simpa [TaskTables.sections] using few

theorem portableTasks_kept (stored : TasksStored tables)
    (within : WithinBounds (tables.portableTasks projectId) (tables.portableDependencies projectId)) :
    boundedArray portableTask 0 100000 (.array (tables.sections projectId).tasks) =
      some (.array (tables.sections projectId).tasks) := by
  apply array_kept
  · intro item member
    obtain ⟨task, inProject, rfl⟩ := List.mem_map.mp member
    exact portableTask_kept (stored.tasks task (mem_portableTasks.mp inProject).1) (within.titles task inProject)
      (within.descriptions task inProject)
  · simpa [TaskTables.sections] using within.tasks

theorem withinBounds_of_read (stored : TasksStored tables) {tasks dependencies : Value}
    (readTasks : boundedArray portableTask 0 100000 (.array (tables.sections projectId).tasks) = some tasks)
    (readDependencies : taskDependencies (.array (tables.sections projectId).taskDependencies) = some dependencies) :
    WithinBounds (tables.portableTasks projectId) (tables.portableDependencies projectId) := by
  have each {task : TaskProps} (inProject : task ∈ tables.portableTasks projectId) :
      ∃ output, portableTask (taskValue task) = some output := by
    obtain ⟨parsed, readEach, -⟩ := Option.bind_eq_some_iff.mp readTasks
    have isSome := mapM_isSome.mp (Option.isSome_iff_exists.mpr ⟨parsed, readEach⟩)
    exact Option.isSome_iff_exists.mp (isSome (taskValue task) (List.mem_map_of_mem inProject))
  have bounds {task : TaskProps} (inProject : task ∈ tables.portableTasks projectId) :
      utf16Length task.title ≤ 10000 ∧ ∀ text, task.description = some text → utf16Length text ≤ 256000 := by
    obtain ⟨output, read⟩ := each inProject
    exact portableTask_bounds (stored.tasks task (mem_portableTasks.mp inProject).1) read
  constructor
  · exact fun task inProject => (bounds inProject).1
  · exact fun task inProject => (bounds inProject).2
  · simpa [TaskTables.sections] using boundedArray_length readTasks
  · simpa [TaskTables.sections] using boundedArray_length readDependencies

theorem stored_task_portable (stored : TaskStored task) : accepts portableTask (taskValue task) = true ↔
    utf16Length task.title ≤ 10000 ∧ ∀ text, task.description = some text → utf16Length text ≤ 256000 := by
  rw [accepts_iff]
  constructor
  · rintro ⟨output, read⟩
    exact portableTask_bounds stored read
  · rintro ⟨title, description⟩
    exact ⟨_, portableTask_kept stored title description⟩

theorem textsOf_sections (tables : TaskTables) (projectId : String) (executed : String → Bool) :
    textsOf "id" (tables.sections projectId).tasks =
      textsOf "id" (plainSections ((tables.portableTasks projectId).map TaskProps.id) executed).tasks := by
  rw [TaskTables.sections, plainSections, textsOf_tasks, textsOf_tasks, plainTask_ids]

end

def newProject : TaskTables where
  office := {
    projects := ["p"], tasks := [], dependencies := [], manifests := [], pipelines := [], overrides := []
    agents := [], roles := [], agentRuns := [], outbox := [] }
  linkedAt := fun _ => 0
  executions := []

theorem newProject_empty : NoTasks newProject := ⟨rfl, rfl, rfl⟩

def newTask (title : String) : CreateTask := ⟨"p", "00000000-0000-4000-8000-000000000001", title, none, none, 0⟩

def withTask (title : String) : TaskTables :=
  newProject.withOffice { newProject.office with
    tasks := [⟨"00000000-0000-4000-8000-000000000001", "p", title, none, .pending, 0, 0, 0⟩] }

theorem withTask_reached {title : String} (trimmed : trim title = title) (nonempty : title ≠ "") :
    Transition.Reachable CommandStep newProject (withTask title) := by
  have created : (newTask title).execute newProject.office = .ok (withTask title).office := by
    have priority : validateTaskPriority defaultTaskPriority = .ok 0 := by decide
    simp [CreateTask.execute, newTask, newProject, withTask, Task.create, trimmed, nonempty, TaskTables.withOffice,
      saveTask, OfficeTables.findTask, priority]
    rfl
  have performed : (ProjectCommand.create (newTask title)).perform newProject = .ok (withTask title) := by
    rw [ProjectCommand.perform, created]
    rfl
  have supplied : Generated "00000000-0000-4000-8000-000000000001" ∧ IsoDate.validTime 0 = true := by decide
  exact ⟨[.create (newTask title)], Transition.Run.nil.snoc (.committed supplied performed)⟩

def emptyOthers : OtherSections where
  project := .object [("name", .string "office"), ("createdAt", timeValue 0), ("updatedAt", timeValue 0)]
  profileEntries := .array []
  officeManifests := .array []
  packBinding := .object [("configurationRevision", .number 0), ("packs", .array [])]
  definitions := .object [("revision", .number 0), ("owned", .array []), ("overrides", .array [])]
  governance := .object [("milestones", .array []), ("requirements", .array []), ("adrs", .array []),
    ("reviews", .array []), ("approvals", .array []), ("taskRequirements", .array [])]
  agents := .object [("roles", .array []), ("definitions", .array []), ("terminalRuns", .array [])]

theorem emptyOthers_accepted (title : String) : OthersAccepted emptyOthers
    (((withTask title).portableTasks "p").map TaskProps.id) ((withTask title).isExecuted "p") := by
  have ids : ((withTask title).portableTasks "p").map TaskProps.id = ["00000000-0000-4000-8000-000000000001"] := rfl
  have executed : (withTask title).isExecuted "p" = fun _ => false := rfl
  rw [ids, executed]
  decide

end AiOffice.Application.ProjectPortability
