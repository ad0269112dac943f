import AiOffice.Application.ProjectPortability.TaskDependencies
import AiOffice.Application.TaskCommands
import Mathlib.Data.Prod.Lex
import Mathlib.Data.String.Basic

namespace AiOffice.Application

open Data Outcome Domain Storage.Office

/-- A task whose execution is known to have begun, or is not known not to have. -/
structure TaskExecutionHistory where
  taskId : String
  projectId : String
  deriving DecidableEq

structure DependencyTables where
  office : OfficeTables
  history : List TaskExecutionHistory
  deriving DecidableEq

namespace DependencyTables

variable (tables : DependencyTables)

def hasExecutionHistory (projectId taskId : String) : Bool :=
  tables.history.any fun row => row.projectId = projectId && row.taskId = taskId

def listByProject (projectId : String) : List TaskDependency :=
  sortOn (fun row => toLex (row.taskId, row.dependsOnTaskId))
    (tables.office.dependencies.filter fun row => row.projectId = projectId)

def edges : List TaskDependencyEdge := tables.office.dependencies.map TaskDependency.edge

def projectEdges (projectId : String) : List TaskDependencyEdge :=
  (tables.listByProject projectId).map TaskDependency.edge

def inProject (projectId taskId : String) : Bool :=
  tables.office.tasks.any fun task => task.id = taskId && task.projectId = projectId

def owned (value : TaskDependency) : Bool :=
  tables.inProject value.projectId value.taskId && tables.inProject value.projectId value.dependsOnTaskId

/-- The trigger fires when its recursive query, over the rows of all projects, meets the prerequisite. -/
def cycleTriggerFires (value : TaskDependency) : Bool :=
  value.dependsOnTaskId ∈ Reachability.reachable (tables.edges.map TaskDependencyEdge.outgoing) value.taskId

/-- The trigger or the check of the table that refuses a row for the graph it would make. -/
def cycleRefusal (value : TaskDependency) : Option String :=
  if tables.cycleTriggerFires value then some "task dependency cycle"
  else if value.taskId = value.dependsOnTaskId then some "CHECK constraint failed: task_id <> depends_on_task_id"
  else none

/-- Insert the dependency if both tasks are in its project; a row that is there already is kept. -/
def link (value : TaskDependency) : Except Thrown (Bool × DependencyTables) :=
  if !tables.owned value then .ok (false, tables)
  else if tables.hasExecutionHistory value.projectId value.taskId then
    .error (abort "task dependency cannot change after execution history")
  else
    match tables.cycleRefusal value with
    | some message => .error (abort message)
    | none =>
      if value.edge ∈ tables.edges then .ok (false, tables)
      else .ok (true, { tables with office.dependencies := tables.office.dependencies ++ [value] })

def unlink (value : TaskDependency) : Except Thrown (Bool × DependencyTables) :=
  if value ∉ tables.office.dependencies then .ok (false, tables)
  else if (tables.office.findTask value.taskId).isSome ∧ value.projectId ∈ tables.office.projects ∧
      tables.hasExecutionHistory value.projectId value.taskId then
    .error (abort "task dependency cannot change after execution history")
  else .ok (true, { tables with office.dependencies := tables.office.dependencies.filter (· ≠ value) })

end DependencyTables

namespace ManageTaskDependencies

def requireTask (projectId taskId : String) (tables : DependencyTables) : Except Thrown TaskProps :=
  let missing : Thrown := ⟨.taskDependencyError, s!"Task {taskId} does not exist in project {projectId}"⟩
  if projectId ∉ tables.office.projects then .error (projectNotFound projectId)
  else
    match tables.office.findTask taskId with
    | none => .error missing
    | some task => if task.projectId ≠ projectId then .error missing else .ok task

def assertEditable (projectId taskId : String) (tables : DependencyTables) : Except Thrown Unit := do
  let task ← requireTask projectId taskId tables
  if task.status ∉ [TaskStatus.pending, .blocked] then
    .error ⟨.taskDependencyError, "Prerequisites can change only before task execution begins"⟩
  else if tables.hasExecutionHistory projectId taskId then
    .error ⟨.taskDependencyError,
      "Prerequisites cannot change after task execution begins or when lifetime history is unknown"⟩
  else .ok ()

def link (input : TaskDependency) (tables : DependencyTables) : Except Thrown (Bool × DependencyTables) := do
  assertEditable input.projectId input.taskId tables
  let _ ← requireTask input.projectId input.dependsOnTaskId tables
  let edges := tables.projectEdges input.projectId
  if input.edge ∈ edges then return (false, tables)
  assertAcyclicDependency input.taskId input.dependsOnTaskId edges
  let linked ← tables.link input
  if !linked.1 then .error ⟨.taskDependencyError, "Task dependency changed during linkage"⟩
  else return linked

def unlink (input : TaskDependency) (tables : DependencyTables) : Except Thrown (Bool × DependencyTables) := do
  assertEditable input.projectId input.taskId tables
  let _ ← requireTask input.projectId input.dependsOnTaskId tables
  tables.unlink input

end ManageTaskDependencies

end AiOffice.Application

namespace AiOffice.Application

open Data Outcome Domain Storage.Office Relation

/-- What the keys, checks and triggers of the tables maintain about the dependencies. -/
structure DependenciesWellFormed (tables : DependencyTables) : Prop where
  keyed : (tables.office.tasks.map TaskProps.id).Nodup
  owned : ∀ row ∈ tables.office.dependencies, tables.owned row = true
  acyclic : AcyclicDependencies tables.edges

/-- A command that links or unlinks two tasks, or anything that keeps the dependencies and the owners of tasks. -/
inductive DependencyStep : DependencyTables → DependencyTables → Prop
  | link (input : TaskDependency) {before after : DependencyTables} {created : Bool}
      (performed : ManageTaskDependencies.link input before = .ok (created, after)) : DependencyStep before after
  | unlink (input : TaskDependency) {before after : DependencyTables} {removed : Bool}
      (performed : ManageTaskDependencies.unlink input before = .ok (removed, after)) : DependencyStep before after
  | elsewhere {before after : DependencyTables} (kept : after.office.dependencies = before.office.dependencies)
      (keyed : (after.office.tasks.map TaskProps.id).Nodup)
      (owners : ∀ projectId taskId, before.inProject projectId taskId = true → after.inProject projectId taskId = true) :
      DependencyStep before after

variable {tables before after : DependencyTables} {value : TaskDependency} {projectId taskId : String}

theorem inProject_iff : tables.inProject projectId taskId = true ↔
    ∃ task ∈ tables.office.tasks, task.id = taskId ∧ task.projectId = projectId := by
  simp [DependencyTables.inProject]

theorem owned_iff : tables.owned value = true ↔
    tables.inProject value.projectId value.taskId = true ∧
      tables.inProject value.projectId value.dependsOnTaskId = true := by
  rw [DependencyTables.owned, Bool.and_eq_true]

theorem inProject_unique {other : String} (keyed : (tables.office.tasks.map TaskProps.id).Nodup)
    (here : tables.inProject projectId taskId = true) (there : tables.inProject other taskId = true) :
    projectId = other := by
  obtain ⟨task, stored, sameId, rfl⟩ := inProject_iff.mp here
  obtain ⟨second, also, secondId, rfl⟩ := inProject_iff.mp there
  rw [List.inj_on_of_nodup_map keyed stored also (sameId.trans secondId.symm)]

theorem mem_edges {edge : TaskDependencyEdge} :
    edge ∈ tables.edges ↔ ∃ row ∈ tables.office.dependencies, row.edge = edge := List.mem_map

theorem mem_projectEdges {edge : TaskDependencyEdge} :
    edge ∈ tables.projectEdges projectId ↔
      ∃ row ∈ tables.office.dependencies, row.projectId = projectId ∧ row.edge = edge := by
  simp [DependencyTables.projectEdges, DependencyTables.listByProject, and_assoc]

theorem projectEdges_subset (edge : TaskDependencyEdge) (member : edge ∈ tables.projectEdges projectId) :
    edge ∈ tables.edges := by
  obtain ⟨row, stored, -, same⟩ := mem_projectEdges.mp member
  exact mem_edges.mpr ⟨row, stored, same⟩

theorem reach_project {start node : String} (wellFormed : DependenciesWellFormed tables)
    (inside : tables.inProject projectId start = true)
    (path : ReflTransGen (Reachability.Linked (tables.edges.map TaskDependencyEdge.outgoing)) start node) :
    tables.inProject projectId node = true ∧
      ReflTransGen (Reachability.Linked ((tables.projectEdges projectId).map TaskDependencyEdge.outgoing))
        start node := by
  induction path with
  | refl => exact ⟨inside, .refl⟩
  | tail _ last ih =>
    obtain ⟨here, before⟩ := ih
    obtain ⟨edge, member, linked⟩ := List.mem_map.mp last
    obtain ⟨row, stored, rfl⟩ := mem_edges.mp member
    obtain ⟨rfl, rfl⟩ := Prod.ext_iff.mp linked
    obtain ⟨task, prerequisite⟩ := owned_iff.mp (wellFormed.owned row stored)
    obtain rfl := inProject_unique wellFormed.keyed prerequisite here
    exact ⟨task, before.tail (List.mem_map_of_mem (mem_projectEdges.mpr ⟨row, stored, rfl, rfl⟩))⟩

theorem cycleRefusal_iff (wellFormed : DependenciesWellFormed tables) (owned : tables.owned value = true) :
    tables.cycleRefusal value = none ↔
      assertAcyclicDependency value.taskId value.dependsOnTaskId (tables.projectEdges value.projectId) = .ok () := by
  have inside := (owned_iff.mp owned).1
  have project : ReflTransGen (Reachability.Linked (tables.edges.map TaskDependencyEdge.outgoing)) value.taskId
      value.dependsOnTaskId ↔
      ReflTransGen (Reachability.Linked ((tables.projectEdges value.projectId).map TaskDependencyEdge.outgoing))
        value.taskId value.dependsOnTaskId := by
    refine ⟨fun path => (reach_project wellFormed inside path).2, ReflTransGen.mono ?_ _ _⟩
    intro source target linked
    obtain ⟨edge, member, same⟩ := List.mem_map.mp linked
    exact List.mem_map.mpr ⟨edge, projectEdges_subset edge member, same⟩
  rw [assertAcyclicDependency_iff, ← project, reflTransGen_iff_eq_or_transGen, ← Reachability.mem_reachable]
  unfold DependencyTables.cycleRefusal DependencyTables.cycleTriggerFires
  simp only [decide_eq_true_eq]
  by_cases fires : value.dependsOnTaskId ∈
      Reachability.reachable (tables.edges.map TaskDependencyEdge.outgoing) value.taskId
  · simp [fires]
  · rw [if_neg fires]
    by_cases self : value.taskId = value.dependsOnTaskId
    · simp [self]
    · simp [fires, self, Ne.symm self]

theorem cycleRefusal_acyclic (acyclic : AcyclicDependencies tables.edges) (passed : tables.cycleRefusal value = none) :
    AcyclicDependencies (tables.edges ++ [value.edge]) := by
  unfold DependencyTables.cycleRefusal DependencyTables.cycleTriggerFires at passed
  split at passed
  · cases passed
  · next silent =>
      split at passed
      · cases passed
      · next different =>
          rw [decide_eq_true_eq, Reachability.mem_reachable] at silent
          rw [AcyclicDependencies, List.map_append, List.map_singleton]
          refine (Reachability.acyclic_append acyclic).mpr fun back => ?_
          rcases reflTransGen_iff_eq_or_transGen.mp back with self | path
          · exact different self.symm
          · exact silent path

theorem tables_link_ok {created : Bool} (linked : tables.link value = .ok (created, after)) :
    after = tables ∨ tables.owned value = true ∧ tables.cycleRefusal value = none ∧ value.edge ∉ tables.edges ∧
      created = true ∧ after = { tables with office.dependencies := tables.office.dependencies ++ [value] } := by
  unfold DependencyTables.link at linked
  split at linked
  · cases linked
    exact .inl rfl
  · next owned =>
      obtain ⟨-, linked⟩ := guard_ok linked
      cases refusal : tables.cycleRefusal value with
      | some message => simp [refusal] at linked
      | none =>
        simp only [refusal] at linked
        split at linked
        · cases linked
          exact .inl rfl
        · next fresh =>
          cases linked
          exact .inr ⟨by simpa using owned, rfl, fresh, rfl, rfl⟩

theorem tables_unlink_ok {removed : Bool} (unlinked : tables.unlink value = .ok (removed, after)) :
    after = tables ∨ after = { tables with office.dependencies := tables.office.dependencies.filter (· ≠ value) } := by
  unfold DependencyTables.unlink at unlinked
  split at unlinked
  · cases unlinked
    exact .inl rfl
  · obtain ⟨-, unlinked⟩ := guard_ok unlinked
    cases unlinked
    exact .inr rfl

theorem link_ok {created : Bool} (performed : ManageTaskDependencies.link value tables = .ok (created, after)) :
    after = tables ∨ tables.link value = .ok (created, after) := by
  obtain ⟨-, -, performed⟩ := bind_ok performed
  obtain ⟨-, -, performed⟩ := bind_ok performed
  dsimp only at performed
  split at performed
  · cases performed
    exact .inl rfl
  · obtain ⟨-, -, performed⟩ := bind_ok performed
    obtain ⟨linked, stored, performed⟩ := bind_ok performed
    obtain ⟨-, performed⟩ := guard_ok performed
    cases performed
    exact .inr stored

theorem unlink_ok {removed : Bool} (performed : ManageTaskDependencies.unlink value tables = .ok (removed, after)) :
    tables.unlink value = .ok (removed, after) := by
  obtain ⟨-, -, performed⟩ := bind_ok performed
  obtain ⟨-, -, performed⟩ := bind_ok performed
  exact performed

theorem DependenciesWellFormed.link (wellFormed : DependenciesWellFormed tables) (owned : tables.owned value = true)
    (passed : tables.cycleRefusal value = none) :
    DependenciesWellFormed { tables with office.dependencies := tables.office.dependencies ++ [value] } where
  keyed := wellFormed.keyed
  owned := by
    intro row member
    rcases List.mem_append.mp member with old | new
    · exact wellFormed.owned row old
    · rw [List.mem_singleton.mp new]
      exact owned
  acyclic := by
    rw [DependencyTables.edges, List.map_append, List.map_singleton]
    exact cycleRefusal_acyclic wellFormed.acyclic passed

theorem DependenciesWellFormed.fewer (wellFormed : DependenciesWellFormed before)
    (kept : ∀ row ∈ after.office.dependencies, row ∈ before.office.dependencies)
    (keyed : (after.office.tasks.map TaskProps.id).Nodup)
    (owners : ∀ projectId taskId, before.inProject projectId taskId = true → after.inProject projectId taskId = true) :
    DependenciesWellFormed after where
  keyed := keyed
  owned := by
    intro row member
    obtain ⟨task, prerequisite⟩ := owned_iff.mp (wellFormed.owned row (kept row member))
    exact owned_iff.mpr ⟨owners _ _ task, owners _ _ prerequisite⟩
  acyclic := by
    refine wellFormed.acyclic.mono fun edge member => ?_
    obtain ⟨row, stored, same⟩ := mem_edges.mp member
    exact mem_edges.mpr ⟨row, kept row stored, same⟩

theorem DependencyStep.wellFormed (step : DependencyStep before after) (wellFormed : DependenciesWellFormed before) :
    DependenciesWellFormed after := by
  cases step with
  | link input performed =>
    rcases link_ok performed with rfl | linked
    · exact wellFormed
    · rcases tables_link_ok linked with rfl | ⟨owned, passed, -, -, rfl⟩
      · exact wellFormed
      · exact wellFormed.link owned passed
  | unlink input performed =>
    rcases tables_unlink_ok (unlink_ok performed) with rfl | rfl
    · exact wellFormed
    · exact wellFormed.fewer (fun row member => (List.mem_filter.mp member).1) wellFormed.keyed fun _ _ inside => inside
  | elsewhere kept keyed owners => exact wellFormed.fewer (fun row member => kept ▸ member) keyed owners

theorem dependencies_run (path : ReflTransGen DependencyStep before after) (wellFormed : DependenciesWellFormed before) :
    DependenciesWellFormed after := by
  induction path with
  | refl => exact wellFormed
  | tail _ step ih => exact step.wellFormed ih

structure NoDependencies (tables : DependencyTables) : Prop where
  keyed : (tables.office.tasks.map TaskProps.id).Nodup
  none : tables.office.dependencies = []

theorem NoDependencies.wellFormed (start : NoDependencies tables) : DependenciesWellFormed tables where
  keyed := start.keyed
  owned := by simp [start.none]
  acyclic := by
    rw [DependencyTables.edges, start.none]
    exact acyclicDependencies_nil

def twoTasks : DependencyTables where
  office := {
    projects := ["p"]
    tasks := [⟨"a", "p", "First", none, .pending, 0, 0, 0⟩, ⟨"b", "p", "Second", none, .pending, 0, 0, 0⟩]
    dependencies := []
    manifests := []
    pipelines := []
    overrides := []
    agents := []
    roles := []
    agentRuns := []
    outbox := [] }
  history := []

theorem twoTasks_none : NoDependencies twoTasks := ⟨by decide, rfl⟩

end AiOffice.Application
