import AiOffice.Application.ManageTaskDependencies
import AiOffice.Application.Pipeline.TaskAgreement

namespace AiOffice.Application.Pipeline

open Data Outcome Domain Storage.Office

def isExecutionStatus (status : TaskStatus) : Bool := status ∈ [TaskStatus.running, .waitingReview]

def insertHistory (row : TaskExecutionHistory) (tables : DependencyTables) : Except Thrown DependencyTables :=
  if !tables.inProject row.projectId row.taskId then
    .error (abort "task execution history must belong to task project")
  else if tables.history.any fun known => known.taskId = row.taskId then .ok tables
  else .ok { tables with history := tables.history ++ [row] }

def begunTasks (before after : OfficeTables) : List TaskProps :=
  after.tasks.filter fun task => isExecutionStatus task.status &&
    (before.findTask task.id).any fun row => row.status ≠ task.status

def newPipelineRuns (before after : OfficeTables) : List PipelineRunProps :=
  after.pipelines.filter fun run => before.pipelines.all fun earlier => earlier.id ≠ run.id

def newAgentRuns (before after : OfficeTables) : List AgentRunBinding :=
  after.agentRuns.filter fun run => before.agentRuns.all fun earlier => earlier.id ≠ run.id

/-- The rows that the triggers on tasks, pipeline runs and agent runs insert. -/
def executionRows (before after : OfficeTables) : List TaskExecutionHistory :=
  (begunTasks before after).map (fun task => ⟨task.id, task.projectId⟩) ++
    (newPipelineRuns before after).map (fun run => ⟨run.taskId, run.projectId⟩) ++
    (newAgentRuns before after).map fun run => ⟨run.taskId, run.projectId⟩

/-- The commands on tasks, their dependencies and their pipelines. -/
inductive WorkCommand
  | office (command : OfficeCommand)
  | link (input : TaskDependency)
  | unlink (input : TaskDependency)

def WorkCommand.perform (tables : DependencyTables) : WorkCommand → Except Thrown DependencyTables
  | .office command => do
    let office ← command.perform tables.office
    (executionRows tables.office office).foldlM (fun tables row => insertHistory row tables) { tables with office }
  | .link input => (ManageTaskDependencies.link input tables).map Prod.snd
  | .unlink input => (ManageTaskDependencies.unlink input tables).map Prod.snd

/-- New ids are new, and no command but those on dependencies writes their table. -/
def WorkCommand.Supplied (tables : DependencyTables) : WorkCommand → Prop
  | .office command => command.Generated ∧ command.Fresh tables.office ∧
      ∀ others, command = .replaceOthers others → others.dependencies = tables.office.dependencies
  | .link _ | .unlink _ => True

/-- A command commits, or throws and leaves the tables as they were. -/
inductive WorkStep (before : DependencyTables) (command : WorkCommand) : DependencyTables → Prop
  | committed {after} (supplied : command.Supplied before) (performed : command.perform before = .ok after) :
      WorkStep before command after
  | refused {thrown} (threw : command.perform before = .error thrown) : WorkStep before command before

structure WorkConsistent (tables : DependencyTables) : Prop where
  office : Consistent tables.office
  owned : ∀ row ∈ tables.history, tables.inProject row.projectId row.taskId = true
  executed : ∀ task ∈ tables.office.tasks, isExecutionStatus task.status = true →
    tables.hasExecutionHistory task.projectId task.id = true

variable {tables before after : DependencyTables} {office later : OfficeTables} {projectId taskId : String}
  {row task value : TaskProps}

theorem hasExecutionHistory_iff : tables.hasExecutionHistory projectId taskId = true ↔
    ⟨taskId, projectId⟩ ∈ tables.history := by
  rw [DependencyTables.hasExecutionHistory, List.any_eq_true]
  constructor
  · rintro ⟨⟨ofTask, ofProject⟩, member, same⟩
    simp only [Bool.and_eq_true, decide_eq_true_eq] at same
    obtain ⟨rfl, rfl⟩ := same
    exact member
  · intro member
    exact ⟨_, member, by simp⟩

theorem mem_prerequisites {id : String} : id ∈ office.prerequisites projectId taskId ↔
    ∃ edge ∈ office.dependencies, edge.projectId = projectId ∧ edge.taskId = taskId ∧ edge.dependsOnTaskId = id := by
  simp [OfficeTables.prerequisites, and_assoc]

theorem insertHistory_ok {entry : TaskExecutionHistory} (inserted : insertHistory entry tables = .ok after) :
    after.office = tables.office ∧ tables.history ⊆ after.history ∧
      (∀ known ∈ after.history, known ∈ tables.history ∨ tables.inProject known.projectId known.taskId = true) ∧
      ∃ known ∈ after.history, known.taskId = entry.taskId := by
  obtain ⟨owned, inserted⟩ := guard_ok inserted
  rw [Bool.not_eq_true', Bool.not_eq_false] at owned
  split at inserted
  · next present =>
      cases inserted
      obtain ⟨known, member, same⟩ := List.any_eq_true.mp present
      exact ⟨rfl, fun _ member => member, fun known member => .inl member, known, member, of_decide_eq_true same⟩
  · cases inserted
    refine ⟨rfl, List.subset_append_left _ _, fun known member => ?_, entry,
      List.mem_append_right _ (List.mem_singleton_self _), rfl⟩
    rcases List.mem_append.mp member with old | new
    · exact .inl old
    · exact .inr (List.mem_singleton.mp new ▸ owned)

theorem insertHistories_ok {rows : List TaskExecutionHistory}
    (inserted : rows.foldlM (fun tables row => insertHistory row tables) tables = .ok after) :
    after.office = tables.office ∧ tables.history ⊆ after.history ∧
      (∀ known ∈ after.history, known ∈ tables.history ∨ tables.inProject known.projectId known.taskId = true) ∧
      ∀ entry ∈ rows, ∃ known ∈ after.history, known.taskId = entry.taskId := by
  induction rows generalizing tables with
  | nil =>
    cases inserted
    exact ⟨rfl, fun _ member => member, fun _ member => .inl member, by simp⟩
  | cons entry rows ih =>
    rw [List.foldlM_cons] at inserted
    obtain ⟨middle, first, rest⟩ := bind_ok inserted
    obtain ⟨sameOffice, grown, origin, present⟩ := insertHistory_ok first
    obtain ⟨restOffice, restGrown, restOrigin, restPresent⟩ := ih rest
    refine ⟨restOffice.trans sameOffice, fun _ member => restGrown (grown member), fun known member => ?_, ?_⟩
    · rcases restOrigin known member with old | owned
      · exact origin known old
      · rw [DependencyTables.inProject, sameOffice] at owned
        exact .inr owned
    · obtain ⟨known, member, same⟩ := present
      exact List.forall_mem_cons.mpr ⟨⟨known, restGrown member, same⟩, restPresent⟩

theorem executed_of_row (unique : (tables.office.tasks.map TaskProps.id).Nodup)
    (owned : ∀ row ∈ tables.history, tables.inProject row.projectId row.taskId = true)
    (member : task ∈ tables.office.tasks) (known : ∃ entry ∈ tables.history, entry.taskId = task.id) :
    tables.hasExecutionHistory task.projectId task.id = true := by
  obtain ⟨⟨ofTask, ofProject⟩, present, rfl⟩ := known
  have inside : tables.inProject task.projectId task.id = true := inProject_iff.mpr ⟨task, member, rfl, rfl⟩
  rw [inProject_unique unique inside (owned _ present)]
  exact hasExecutionHistory_iff.mpr present

theorem Committed.dependencies {command : OfficeCommand} (committed : Committed office command later)
    (other : ∀ others, command ≠ .replaceOthers others) : later.dependencies = office.dependencies := by
  cases committed with
  | created create saved => rw [saveTask_tasks saved]
  | moved found sameId moves saved => rw [saveTask_tasks saved]
  | started found inProject create sameProject sameTask start saved insert rest =>
    obtain ⟨rfl, -⟩ := insertPipelineRun_ok insert
    rw [rest, saveTask_tasks saved]
  | advanced advance =>
    obtain ⟨now, settled, synced, rest⟩ := advance.synced
    rw [rest]
    rcases syncTaskTerminal_ok synced with ⟨-, rfl⟩ | ⟨-, row, value, -, -, -, saved⟩
    · rfl
    · change settled.dependencies = _
      rw [saveTask_tasks saved]
  | @replaced others _ _ _ _ => exact absurd rfl (other others)

theorem office_dependencies {command : OfficeCommand} (consistent : Consistent office)
    (supplied : ∀ others, command = .replaceOthers others → others.dependencies = office.dependencies)
    (performed : command.perform office = .ok later) : later.dependencies = office.dependencies := by
  have committed := command.perform_committed consistent.runIds consistent.stored performed
  cases command with
  | replaceOthers others =>
    obtain ⟨-, performed⟩ := guard_ok performed
    cases performed
    exact supplied others rfl
  | _ => exact committed.dependencies nofun

theorem finished_of_satisfied (consistent : Consistent office)
    (satisfied : office.unsatisfied .completion projectId taskId = false) :
    PrerequisitesFinished office projectId taskId := by
  intro edge member inProject ofTask
  obtain ⟨prerequisite, found, sameProject⟩ := consistent.prerequisites edge member
  have required : edge.dependsOnTaskId ∈ office.prerequisites projectId taskId :=
    mem_prerequisites.mpr ⟨edge, member, inProject, ofTask, rfl⟩
  have clean := List.any_eq_false.mp satisfied _ required
  refine ⟨prerequisite, found, sameProject.trans inProject, ?_⟩
  obtain ⟨stored, key⟩ := findTask_found found
  by_contra unfinished
  exact clean (List.any_eq_true.mpr ⟨prerequisite, stored, by simp [key, PrerequisiteRequirement.satisfied, unfinished]⟩)

theorem TaskWrite.completes (write : TaskWrite office later.tasks) (consistent : Consistent office)
    (found : office.findTask taskId = some row) (executing : isExecutionStatus row.status = true)
    (ends : later.findTask taskId = some task) (completed : task.status = .completed) :
    PrerequisitesFinished office row.projectId taskId := by
  obtain ⟨final, located, -, same | ⟨-, value, status, passed⟩⟩ := write.lasting found
  · rw [ends, Option.some.injEq] at located
    rw [← same, ← located, completed] at executing
    cases executing
  · rw [ends, Option.some.injEq] at located
    rw [← located, completed] at status
    have among : row.status ∈ [TaskStatus.running, .waitingReview] := of_decide_eq_true executing
    simp only [taskUpdateRefused, status, among, decide_true, Bool.true_and, Bool.or_eq_false_iff] at passed
    rw [(findTask_found found).2] at passed
    exact finished_of_satisfied consistent passed.2

theorem TaskWrite.origin {tasks : List TaskProps} (write : TaskWrite office tasks) (member : task ∈ tasks) :
    (office.findTask task.id).isSome = true ∨ task.status = .pending := by
  have held {row : TaskProps} (stored : row ∈ office.tasks) : (office.findTask row.id).isSome = true := by
    rw [OfficeTables.findTask, List.find?_isSome]
    exact ⟨row, stored, decide_eq_true rfl⟩
  cases write with
  | kept same => exact .inl (held (same ▸ member))
  | created fresh pending written =>
    rw [written] at member
    rcases List.mem_append.mp member with old | new
    · exact .inl (held old)
    · exact .inr (List.mem_singleton.mp new ▸ pending)
  | moved found passed terminal written =>
    rw [written] at member
    obtain ⟨row, stored, rfl⟩ := List.mem_map.mp member
    have found := held stored
    refine .inl ?_
    split <;> exact found

/-- A command on the office keeps what holds of the tables, with the rows that the triggers insert. -/
theorem WorkConsistent.office_step (consistent : WorkConsistent before) {command : OfficeCommand}
    (generated : command.Generated) (fresh : command.Fresh before.office) (performed : command.perform before.office = .ok office)
    (inserted : (executionRows before.office office).foldlM (fun tables row => insertHistory row tables)
      { before with office } = .ok after) : WorkConsistent after := by
  have committed := command.perform_committed consistent.office.runIds consistent.office.stored performed
  have kept := consistent.office.committed generated committed
  have write := committed.taskWrite fresh
  obtain ⟨sameOffice, grown, origin, present⟩ := insertHistories_ok inserted
  have lasting : ∀ projectId taskId, before.inProject projectId taskId = true → after.inProject projectId taskId = true := by
    intro projectId taskId inside
    obtain ⟨row, stored, rfl, rfl⟩ := inProject_iff.mp inside
    obtain ⟨task, found, sameProject, -⟩ := write.lasting (findTask_of_mem consistent.office.taskIds stored)
    obtain ⟨member, key⟩ := findTask_found found
    exact inProject_iff.mpr ⟨task, sameOffice ▸ member, key, sameProject⟩
  have owned : ∀ row ∈ after.history, after.inProject row.projectId row.taskId = true := by
    intro row member
    rcases origin row member with old | inside
    · exact lasting _ _ (consistent.owned row old)
    · rw [DependencyTables.inProject, sameOffice]
      exact inside
  refine ⟨sameOffice ▸ kept, owned, fun task member executing => ?_⟩
  rw [sameOffice] at member
  refine executed_of_row (sameOffice ▸ kept.taskIds) owned (sameOffice ▸ member) ?_
  rcases write.origin member with held | pending
  · obtain ⟨row, found⟩ := Option.isSome_iff_exists.mp held
    obtain ⟨stored, key⟩ := findTask_found found
    by_cases same : row.status = task.status
    · have executed := consistent.executed row stored (same ▸ executing)
      exact ⟨_, grown (hasExecutionHistory_iff.mp executed), key⟩
    · have begun : task ∈ begunTasks before.office office :=
        List.mem_filter.mpr ⟨member, by simp [executing, found, same]⟩
      exact present ⟨task.id, task.projectId⟩
        (List.mem_append_left _ (List.mem_append_left _ (List.mem_map.mpr ⟨task, begun, rfl⟩)))
  · rw [pending] at executing
    cases executing

theorem WorkConsistent.rewired (consistent : WorkConsistent before) (tasks : after.office.tasks = before.office.tasks)
    (pipelines : after.office.pipelines = before.office.pipelines) (history : after.history = before.history)
    (prerequisites : ∀ edge ∈ after.office.dependencies, ∃ task,
      before.office.findTask edge.dependsOnTaskId = some task ∧ task.projectId = edge.projectId) : WorkConsistent after where
  office := consistent.office.rewired tasks pipelines prerequisites
  owned := by
    intro row member
    rw [history] at member
    rw [DependencyTables.inProject, tasks]
    exact consistent.owned row member
  executed := by
    intro task member executing
    rw [tasks] at member
    rw [DependencyTables.hasExecutionHistory, history]
    exact consistent.executed task member executing

theorem assertEditable_ok (editable : ManageTaskDependencies.assertEditable projectId taskId tables = .ok ()) :
    tables.hasExecutionHistory projectId taskId = false := by
  obtain ⟨task, -, editable⟩ := bind_ok editable
  obtain ⟨-, editable⟩ := guard_ok editable
  obtain ⟨unknown, -⟩ := guard_ok editable
  simpa using unknown

theorem link_adds {input : TaskDependency} {created : Bool}
    (performed : ManageTaskDependencies.link input before = .ok (created, after)) :
    before.hasExecutionHistory input.projectId input.taskId = false ∧
      (after = before ∨ before.inProject input.projectId input.dependsOnTaskId = true ∧
        after = { before with office.dependencies := before.office.dependencies ++ [input] }) := by
  have linked := link_ok performed
  obtain ⟨⟨⟩, editable, -⟩ := bind_ok performed
  refine ⟨assertEditable_ok editable, ?_⟩
  rcases linked with same | inserted
  · exact .inl same
  · rcases tables_link_ok inserted with same | ⟨owned, -, -, -, same⟩
    · exact .inl same
    · exact .inr ⟨(owned_iff.mp owned).2, same⟩

theorem unlink_removes {input : TaskDependency} {removed : Bool}
    (performed : ManageTaskDependencies.unlink input before = .ok (removed, after)) :
    before.hasExecutionHistory input.projectId input.taskId = false ∧
      (after = before ∨ after = { before with office.dependencies := before.office.dependencies.filter (· ≠ input) }) := by
  have unlinked := unlink_ok performed
  obtain ⟨⟨⟩, editable, -⟩ := bind_ok performed
  exact ⟨assertEditable_ok editable, tables_unlink_ok unlinked⟩

theorem WorkStep.consistent {command : WorkCommand} (step : WorkStep before command after)
    (consistent : WorkConsistent before) : WorkConsistent after := by
  cases step with
  | refused threw => exact consistent
  | committed supplied performed =>
    cases command with
    | office command =>
      obtain ⟨office, performed, inserted⟩ := bind_ok performed
      exact consistent.office_step supplied.1 supplied.2.1 performed inserted
    | link input =>
      obtain ⟨⟨created, left⟩, linked, rfl⟩ := map_ok performed
      rcases (link_adds linked).2 with rfl | ⟨inside, rfl⟩
      · exact consistent
      · refine consistent.rewired rfl rfl rfl fun edge member => ?_
        rcases List.mem_append.mp member with old | new
        · exact consistent.office.prerequisites edge old
        · obtain rfl := List.mem_singleton.mp new
          obtain ⟨task, stored, key, inProject⟩ := inProject_iff.mp inside
          exact ⟨task, key ▸ findTask_of_mem consistent.office.taskIds stored, inProject⟩
    | unlink input =>
      obtain ⟨⟨removed, left⟩, unlinked, rfl⟩ := map_ok performed
      rcases (unlink_removes unlinked).2 with rfl | rfl
      · exact consistent
      · exact consistent.rewired rfl rfl rfl fun edge member =>
          consistent.office.prerequisites edge (List.mem_filter.mp member).1

theorem WorkStep.history {command : WorkCommand} (step : WorkStep before command after) :
    before.history ⊆ after.history := by
  cases step with
  | refused threw => exact fun _ member => member
  | committed supplied performed =>
    cases command with
    | office command =>
      obtain ⟨office, performed, inserted⟩ := bind_ok performed
      exact (insertHistories_ok inserted).2.1
    | link input =>
      obtain ⟨⟨created, left⟩, linked, rfl⟩ := map_ok performed
      rcases (link_adds linked).2 with rfl | ⟨-, rfl⟩ <;> exact fun _ member => member
    | unlink input =>
      obtain ⟨⟨removed, left⟩, unlinked, rfl⟩ := map_ok performed
      rcases (unlink_removes unlinked).2 with rfl | rfl <;> exact fun _ member => member

/-- No command changes the prerequisites of a task with execution history. -/
theorem WorkStep.prerequisites {command : WorkCommand} (step : WorkStep before command after)
    (consistent : WorkConsistent before) (executed : before.hasExecutionHistory projectId taskId = true) :
    after.office.prerequisites projectId taskId = before.office.prerequisites projectId taskId := by
  have apart {input : TaskDependency} (unknown : before.hasExecutionHistory input.projectId input.taskId = false) :
      ¬(input.projectId = projectId ∧ input.taskId = taskId) := by
    rintro ⟨rfl, rfl⟩
    rw [executed] at unknown
    cases unknown
  cases step with
  | refused threw => rfl
  | committed supplied performed =>
    cases command with
    | office command =>
      obtain ⟨office, performed, inserted⟩ := bind_ok performed
      rw [(insertHistories_ok inserted).1, OfficeTables.prerequisites,
        office_dependencies consistent.office supplied.2.2 performed]
      rfl
    | link input =>
      obtain ⟨⟨created, left⟩, linked, rfl⟩ := map_ok performed
      obtain ⟨unknown, rfl | ⟨-, rfl⟩⟩ := link_adds linked
      · rfl
      · have other := apart unknown
        simp [OfficeTables.prerequisites, other]
    | unlink input =>
      obtain ⟨⟨removed, left⟩, unlinked, rfl⟩ := map_ok performed
      obtain ⟨unknown, rfl | rfl⟩ := unlink_removes unlinked
      · rfl
      · have other := apart unknown
        have kept : ∀ edge ∈ before.office.dependencies, (decide (edge ≠ input) &&
            (decide (edge.projectId = projectId) && decide (edge.taskId = taskId))) =
            (decide (edge.projectId = projectId) && decide (edge.taskId = taskId)) := by
          intro edge _
          by_cases same : edge = input
          · subst same
            simpa using other
          · simp [same]
        rw [OfficeTables.prerequisites, OfficeTables.prerequisites, List.filter_filter]
        congr 1
        refine List.filter_congr fun edge member => ?_
        rw [Bool.and_comm, kept edge member]

theorem WorkStep.terminal {command : WorkCommand} (step : WorkStep before command after)
    (consistent : WorkConsistent before) (found : before.office.findTask taskId = some row)
    (terminal : isTerminalTaskStatus row.status = true) :
    ∃ task, after.office.findTask taskId = some task ∧ task.projectId = row.projectId ∧ task.status = row.status := by
  cases step with
  | refused threw => exact ⟨row, found, rfl, rfl⟩
  | committed supplied performed =>
    cases command with
    | office command =>
      obtain ⟨office, performed, inserted⟩ := bind_ok performed
      have committed := command.perform_committed consistent.office.runIds consistent.office.stored performed
      rw [(insertHistories_ok inserted).1]
      exact (committed.taskWrite supplied.2.1).terminal found terminal
    | link input =>
      obtain ⟨⟨created, left⟩, linked, rfl⟩ := map_ok performed
      rcases (link_adds linked).2 with rfl | ⟨-, rfl⟩ <;> exact ⟨row, found, rfl, rfl⟩
    | unlink input =>
      obtain ⟨⟨removed, left⟩, unlinked, rfl⟩ := map_ok performed
      rcases (unlink_removes unlinked).2 with rfl | rfl <;> exact ⟨row, found, rfl, rfl⟩

theorem WorkStep.finished {command : WorkCommand} (step : WorkStep before command after)
    (consistent : WorkConsistent before) (executed : before.hasExecutionHistory projectId taskId = true)
    (finished : PrerequisitesFinished before.office projectId taskId) :
    PrerequisitesFinished after.office projectId taskId := by
  intro edge member inProject ofTask
  have required : edge.dependsOnTaskId ∈ after.office.prerequisites projectId taskId :=
    mem_prerequisites.mpr ⟨edge, member, inProject, ofTask, rfl⟩
  rw [step.prerequisites consistent executed, mem_prerequisites] at required
  obtain ⟨earlier, stored, sameProject, sameTask, same⟩ := required
  obtain ⟨task, found, taskProject, completed⟩ := finished earlier stored sameProject sameTask
  rw [same] at found
  obtain ⟨later, foundLater, laterProject, status⟩ := step.terminal consistent found (by rw [completed]; rfl)
  exact ⟨later, foundLater, laterProject.trans taskProject, status.trans completed⟩

theorem WorkStep.completes {command : WorkCommand} (step : WorkStep before command after)
    (consistent : WorkConsistent before) (found : before.office.findTask taskId = some row)
    (executing : isExecutionStatus row.status = true) (ends : after.office.findTask taskId = some task)
    (completed : task.status = .completed) : PrerequisitesFinished before.office row.projectId taskId := by
  have unmoved (same : after.office.tasks = before.office.tasks) : False := by
    rw [OfficeTables.findTask, same] at ends
    obtain rfl := Option.some.inj (ends.symm.trans found)
    rw [completed] at executing
    cases executing
  cases step with
  | refused threw => exact (unmoved rfl).elim
  | committed supplied performed =>
    cases command with
    | office command =>
      obtain ⟨office, performed, inserted⟩ := bind_ok performed
      have committed := command.perform_committed consistent.office.runIds consistent.office.stored performed
      rw [(insertHistories_ok inserted).1] at ends
      exact (committed.taskWrite supplied.2.1).completes consistent.office found executing ends completed
    | link input =>
      obtain ⟨⟨created, left⟩, linked, rfl⟩ := map_ok performed
      rcases (link_adds linked).2 with rfl | ⟨-, rfl⟩ <;> exact (unmoved rfl).elim
    | unlink input =>
      obtain ⟨⟨removed, left⟩, unlinked, rfl⟩ := map_ok performed
      rcases (unlink_removes unlinked).2 with rfl | rfl <;> exact (unmoved rfl).elim

theorem executed_row (consistent : WorkConsistent tables) (found : tables.office.findTask taskId = some row)
    (executing : isExecutionStatus row.status = true) : tables.hasExecutionHistory row.projectId taskId = true := by
  obtain ⟨stored, rfl⟩ := findTask_found found
  exact consistent.executed row stored executing

theorem executed_run (consistent : WorkConsistent before) (executed : before.hasExecutionHistory projectId taskId = true)
    (reached : Transition.Reachable WorkStep before after) :
    after.office.prerequisites projectId taskId = before.office.prerequisites projectId taskId ∧
      (PrerequisitesFinished before.office projectId taskId → PrerequisitesFinished after.office projectId taskId) := by
  have kept := reached.invariant (fun tables => WorkConsistent tables ∧ tables.hasExecutionHistory projectId taskId = true ∧
      tables.office.prerequisites projectId taskId = before.office.prerequisites projectId taskId ∧
      (PrerequisitesFinished before.office projectId taskId → PrerequisitesFinished tables.office projectId taskId))
    ⟨consistent, executed, rfl, id⟩ fun middle command next ⟨holds, known, same, finished⟩ step => by
      refine ⟨step.consistent holds, ?_, (step.prerequisites holds known).trans same, fun start => ?_⟩
      · exact hasExecutionHistory_iff.mpr (step.history (hasExecutionHistory_iff.mp known))
      · exact step.finished holds known (finished start)
  exact kept.2.2

theorem workConsistent_reachable {start : DependencyTables} (blank : Blank start.office) (none : start.history = [])
    (reached : Transition.Reachable WorkStep start tables) : WorkConsistent tables := by
  refine reached.invariant WorkConsistent ⟨blank.consistent, ?_, ?_⟩ fun _ _ _ holds step => step.consistent holds
  · simp [none]
  · simp [blank.tasks]

theorem completed_work_rests_on_completed {start : DependencyTables} (blank : Blank start.office)
    (none : start.history = []) (reached : Transition.Reachable WorkStep start before) :
    (∀ command middle taskId row task, WorkStep before command middle → before.office.findTask taskId = some row →
      isExecutionStatus row.status = true → middle.office.findTask taskId = some task → task.status = .completed →
      ∀ after, Transition.Reachable WorkStep middle after → PrerequisitesFinished after.office row.projectId taskId) ∧
    ∀ projectId taskId, before.hasExecutionHistory projectId taskId = true →
      ∀ after, Transition.Reachable WorkStep before after →
        after.office.prerequisites projectId taskId = before.office.prerequisites projectId taskId := by
  have consistent := workConsistent_reachable blank none reached
  refine ⟨fun command middle taskId row task step found executing ends completed after later => ?_,
    fun projectId taskId executed after later => (executed_run consistent executed later).1⟩
  have executed := executed_row consistent found executing
  have still : middle.hasExecutionHistory row.projectId taskId = true :=
    hasExecutionHistory_iff.mpr (step.history (hasExecutionHistory_iff.mp executed))
  have finished := step.finished consistent executed (step.completes consistent found executing ends completed)
  exact (executed_run (step.consistent consistent) still later).2 finished

def taskIn (id : String) (status : TaskStatus) (updatedAt : Date) : TaskProps :=
  ⟨id, "project", "Task", none, status, 0, 0, updatedAt⟩

def workTables (tasks : List TaskProps) (dependencies : List TaskDependency) (executed : List String) : DependencyTables :=
  ⟨{ emptyOffice with tasks, dependencies }, executed.map fun taskId => ⟨taskId, "project"⟩⟩

def lifecycleOf (taskId : String) (operation : TaskLifecycleOperation) (now : Date) : WorkCommand :=
  .office (.task (.lifecycle ⟨"project", taskId, operation, none⟩ now))

def secondNeedsFirst : List TaskDependency := [⟨"project", "second", "first"⟩]

def secondRunning : DependencyTables :=
  workTables [taskIn "first" .completed 2, taskIn "second" .running 3] secondNeedsFirst ["first", "second"]

def secondCompleted : DependencyTables :=
  workTables [taskIn "first" .completed 2, taskIn "second" .completed 4] secondNeedsFirst ["first", "second"]

theorem step_of_perform {command : OfficeCommand} (generated : command.Generated) (fresh : command.Fresh before.office)
    (other : ∀ others, command ≠ .replaceOthers others) (performed : (WorkCommand.office command).perform before = .ok after) :
    WorkStep before (.office command) after :=
  .committed ⟨generated, fresh, fun others same => absurd same (other others)⟩ performed

def twoPending (dependencies : List TaskDependency) : DependencyTables :=
  workTables [taskIn "first" .pending 0, taskIn "second" .pending 0] dependencies []

theorem twoPending_unlinked : (twoPending []).projectEdges "project" = [] := by
  simp [DependencyTables.projectEdges, DependencyTables.listByProject, twoPending, workTables, sortOn]

theorem twoPending_silent : (twoPending []).cycleRefusal ⟨"project", "second", "first"⟩ = none := by
  refine (cycleRefusal_iff (NoDependencies.wellFormed ⟨by decide, rfl⟩) (by decide)).mpr ?_
  simp [twoPending_unlinked, assertAcyclicDependency, Reachability.search, Reachability.successors]

theorem second_linked :
    ManageTaskDependencies.link ⟨"project", "second", "first"⟩ (twoPending []) = .ok (true, twoPending secondNeedsFirst) := by
  have editable : ManageTaskDependencies.assertEditable "project" "second" (twoPending []) = .ok () := by decide
  have required : ManageTaskDependencies.requireTask "project" "first" (twoPending []) =
      .ok (taskIn "first" .pending 0) := by decide
  have acyclic : assertAcyclicDependency "second" "first" [] = .ok () := by
    simp [assertAcyclicDependency, Reachability.search, Reachability.successors]
  have linked : (twoPending []).link ⟨"project", "second", "first"⟩ = .ok (true, twoPending secondNeedsFirst) := by
    rw [DependencyTables.link, twoPending_silent]
    decide
  simp [ManageTaskDependencies.link, editable, required, twoPending_unlinked, acyclic, linked, Bind.bind, Except.bind,
    Pure.pure, Except.pure]

theorem secondRunning_reachable : Transition.Reachable WorkStep (workTables [] [] []) secondRunning := by
  have first : WorkStep (workTables [] [] []) (.office (.createTask ⟨"project", "first", "Task", none, none, 0⟩))
      (workTables [taskIn "first" .pending 0] [] []) :=
    step_of_perform (show Trimmed "first" ∧ Trimmed "project" by decide) rfl nofun (by decide)
  have second : WorkStep (workTables [taskIn "first" .pending 0] [] [])
      (.office (.createTask ⟨"project", "second", "Task", none, none, 0⟩))
      (twoPending []) :=
    step_of_perform (show Trimmed "second" ∧ Trimmed "project" by decide) rfl nofun (by decide)
  have linked : WorkStep (twoPending [])
      (.link ⟨"project", "second", "first"⟩)
      (twoPending secondNeedsFirst) :=
    .committed trivial (congrArg (Except.map Prod.snd) second_linked)
  have started : WorkStep (twoPending secondNeedsFirst)
      (lifecycleOf "first" .start 1)
      (workTables [taskIn "first" .running 1, taskIn "second" .pending 0] secondNeedsFirst ["first"]) :=
    step_of_perform trivial trivial nofun (by decide)
  have completed : WorkStep (workTables [taskIn "first" .running 1, taskIn "second" .pending 0] secondNeedsFirst ["first"])
      (lifecycleOf "first" .complete 2)
      (workTables [taskIn "first" .completed 2, taskIn "second" .pending 0] secondNeedsFirst ["first"]) :=
    step_of_perform trivial trivial nofun (by decide)
  have startedToo : WorkStep (workTables [taskIn "first" .completed 2, taskIn "second" .pending 0] secondNeedsFirst ["first"])
      (lifecycleOf "second" .start 3) secondRunning := step_of_perform trivial trivial nofun (by decide)
  exact (((((Transition.Reachable.refl _).snoc first).snoc second).snoc linked).snoc started).snoc completed |>.snoc startedToo

theorem second_task_rests_on_first : PrerequisitesFinished secondCompleted.office "project" "second" ∧
    secondCompleted.office.prerequisites "project" "second" = ["first"] := by
  have completed : WorkStep secondRunning (lifecycleOf "second" .complete 4) secondCompleted :=
    step_of_perform trivial trivial nofun (by decide)
  obtain ⟨rests, frozen⟩ := completed_work_rests_on_completed ⟨rfl, rfl, rfl⟩ rfl secondRunning_reachable
  exact ⟨rests _ _ "second" (taskIn "second" .running 3) (taskIn "second" .completed 4) completed rfl rfl rfl rfl
      secondCompleted (.refl _),
    frozen "project" "second" rfl secondCompleted ((Transition.Reachable.refl _).snoc completed)⟩

end AiOffice.Application.Pipeline
