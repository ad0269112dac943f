import AiOffice.Data.Reachability
import AiOffice.Domain.Task

namespace AiOffice.Domain

structure TaskDependency where
  projectId : String
  taskId : String
  dependsOnTaskId : String
  deriving DecidableEq

/-- What a task needs of its prerequisites: to start, or to be completed. -/
inductive PrerequisiteRequirement
  | start
  | completion
  deriving DecidableEq

structure BlockingPrerequisite where
  taskId : String
  status : TaskStatus

def PrerequisiteRequirement.satisfied (requirement : PrerequisiteRequirement) (status : TaskStatus) : Bool :=
  status = .completed || (requirement = .start && status = .waitingReview)

def missingPrerequisite (id : String) : Thrown :=
  ⟨.taskDependencyError, s!"Prerequisite task {id} does not exist"⟩

/-- The prerequisites that are not satisfied; each must be a task that is known. -/
def blockingPrerequisites (statuses : String → Option TaskStatus) (requirement : PrerequisiteRequirement) :
    List String → Except Thrown (List BlockingPrerequisite)
  | [] => .ok []
  | id :: ids =>
    match statuses id with
    | none => .error (missingPrerequisite id)
    | some status => do
      let rest ← blockingPrerequisites statuses requirement ids
      return if requirement.satisfied status then rest else ⟨id, status⟩ :: rest

theorem blockingPrerequisites_none_iff {statuses : String → Option TaskStatus}
    {requirement : PrerequisiteRequirement} {ids : List String} :
    blockingPrerequisites statuses requirement ids = .ok [] ↔
      ∀ id ∈ ids, ∃ status, statuses id = some status ∧ requirement.satisfied status = true := by
  induction ids with
  | nil => simp [blockingPrerequisites]
  | cons id ids ih =>
    rw [List.forall_mem_cons, ← ih, blockingPrerequisites]
    cases known : statuses id with
    | none => simp
    | some status =>
      cases rest : blockingPrerequisites statuses requirement ids with
      | error thrown =>
        simp only [Option.some.injEq, exists_eq_left']
        exact ⟨nofun, nofun⟩
      | ok blocked =>
        cases satisfied : requirement.satisfied status <;> simp [bind, Except.bind, pure, Except.pure, satisfied]

theorem blockingPrerequisites_known {statuses : String → Option TaskStatus}
    {requirement : PrerequisiteRequirement} {ids : List String} (known : ∀ id ∈ ids, (statuses id).isSome = true) :
    ∃ blocked, blockingPrerequisites statuses requirement ids = .ok blocked := by
  induction ids with
  | nil => exact ⟨[], rfl⟩
  | cons id ids ih =>
    obtain ⟨first, others⟩ := List.forall_mem_cons.mp known
    obtain ⟨status, found⟩ := Option.isSome_iff_exists.mp first
    obtain ⟨blocked, rest⟩ := ih others
    exact ⟨_, by rw [blockingPrerequisites, found]; dsimp only; rw [rest]; rfl⟩

end AiOffice.Domain

namespace AiOffice.Domain

open Data

structure TaskDependencyEdge where
  taskId : String
  dependsOnTaskId : String
  deriving DecidableEq

def TaskDependency.edge (dependency : TaskDependency) : TaskDependencyEdge where
  taskId := dependency.taskId
  dependsOnTaskId := dependency.dependsOnTaskId

def TaskDependencyEdge.outgoing (edge : TaskDependencyEdge) : String × String := (edge.dependsOnTaskId, edge.taskId)

def selfDependency : Thrown := ⟨.taskDependencyError, "A task cannot depend on itself"⟩

def dependencyCycle : Thrown := ⟨.taskDependencyError, "Task dependency would create a cycle"⟩

/-- Reject a new edge when its prerequisite can already reach its dependent. -/
def assertAcyclicDependency (taskId dependsOnTaskId : String) (edges : List TaskDependencyEdge) :
    Except Thrown Unit :=
  if taskId = dependsOnTaskId then .error selfDependency
  else if Reachability.search (edges.map TaskDependencyEdge.outgoing) dependsOnTaskId [] [taskId] then
    .error dependencyCycle
  else .ok ()

def AcyclicDependencies (edges : List TaskDependencyEdge) : Prop :=
  Reachability.Acyclic (edges.map TaskDependencyEdge.outgoing)

variable {edges others : List TaskDependencyEdge} {taskId dependsOnTaskId : String}

theorem acyclicDependencies_nil : AcyclicDependencies [] := Reachability.acyclic_nil

theorem AcyclicDependencies.mono (acyclic : AcyclicDependencies edges) (part : ∀ edge ∈ others, edge ∈ edges) :
    AcyclicDependencies others := by
  refine Reachability.Acyclic.mono acyclic fun arc member => ?_
  obtain ⟨edge, inside, rfl⟩ := List.mem_map.mp member
  exact List.mem_map_of_mem (part edge inside)

theorem assertAcyclicDependency_iff :
    assertAcyclicDependency taskId dependsOnTaskId edges = .ok () ↔
      ¬Relation.ReflTransGen (Reachability.Linked (edges.map TaskDependencyEdge.outgoing)) taskId dependsOnTaskId := by
  rw [← Reachability.search_iff, assertAcyclicDependency]
  by_cases self : taskId = dependsOnTaskId
  · subst self
    have found : Reachability.search (edges.map TaskDependencyEdge.outgoing) taskId [] [taskId] = true :=
      Reachability.search_iff.mpr .refl
    simp [found]
  · cases Reachability.search (edges.map TaskDependencyEdge.outgoing) dependsOnTaskId [] [taskId] <;> simp [self]

theorem assertAcyclicDependency_exact (acyclic : AcyclicDependencies edges) :
    assertAcyclicDependency taskId dependsOnTaskId edges = .ok () ↔
      AcyclicDependencies (edges ++ [⟨taskId, dependsOnTaskId⟩]) := by
  rw [assertAcyclicDependency_iff, AcyclicDependencies, List.map_append, List.map_singleton]
  exact (Reachability.acyclic_append acyclic).symm

end AiOffice.Domain
