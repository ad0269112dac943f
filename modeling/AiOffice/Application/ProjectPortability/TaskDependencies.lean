import AiOffice.Application.OfficeManifestSchema
import AiOffice.Domain.TaskDependency

namespace AiOffice.Application.ProjectPortability

open Domain Application.OfficeManifestSchema

def dependencyKey (edge : TaskDependencyEdge) : String := edge.taskId ++ "\u0000" ++ edge.dependsOnTaskId

def notPortableTask (id : String) : String := s!"Referenced task {id} is not portable"

def repeatedDependency (edge : TaskDependencyEdge) : String :=
  s!"Task dependency {edge.taskId} -> {edge.dependsOnTaskId} appears more than once"

def cyclicDependencies : String := "Task dependencies contain a cycle"

def passes (checked : Except Thrown Unit) : Bool :=
  match checked with
  | .ok () => true
  | .error _ => false

/-- The issues of one dependency of an archive, after the ones that were looked at before it. -/
def dependencyItemIssues (tasks : List String) (validatedEdges : List TaskDependencyEdge) (index : Nat)
    (item : TaskDependencyEdge) : List Issue :=
  let path := [.field "taskDependencies", .index index]
  issueUnless (tasks.contains item.taskId) (path ++ [.field "taskId"]) (notPortableTask item.taskId) ++
  issueUnless (tasks.contains item.dependsOnTaskId) (path ++ [.field "dependsOnTaskId"])
    (notPortableTask item.dependsOnTaskId) ++
  issueUnless (!(validatedEdges.map dependencyKey).contains (dependencyKey item)) path (repeatedDependency item) ++
  issueUnless (passes (assertAcyclicDependency item.taskId item.dependsOnTaskId validatedEdges)) path
    cyclicDependencies

/-- The issues of the dependencies of an archive. An edge that closes a cycle is kept for the next ones. -/
def dependencyIssues (tasks : List String) (validatedEdges : List TaskDependencyEdge) (index : Nat) :
    List TaskDependencyEdge → List Issue
  | [] => []
  | item :: items =>
    dependencyItemIssues tasks validatedEdges index item ++
      dependencyIssues tasks (validatedEdges ++ [item]) (index + 1) items

variable {tasks : List String} {validatedEdges edges : List TaskDependencyEdge} {index : Nat} {item : TaskDependencyEdge}

def FoundCycle (issues : List Issue) : Prop := ∃ issue ∈ issues, issue.message = cyclicDependencies

theorem foundCycle_append {issues later : List Issue} :
    FoundCycle (issues ++ later) ↔ FoundCycle issues ∨ FoundCycle later := by
  simp only [FoundCycle, List.mem_append, or_and_right, exists_or]

theorem foundCycle_issueUnless {check : Bool} {path : List PathSegment} {message : String} :
    FoundCycle (issueUnless check path message) ↔ check = false ∧ message = cyclicDependencies := by
  cases check <;> simp [FoundCycle, issueUnless]

theorem notPortableTask_ne (id : String) : notPortableTask id ≠ cyclicDependencies := by
  intro same
  have letters := congrArg String.toList same
  simp [notPortableTask, cyclicDependencies, toString] at letters

private theorem dependency_texts (task prerequisite : String) :
    s!"Task dependency {task} -> {prerequisite} appears more than once" ≠ "Task dependencies contain a cycle" := by
  intro same
  have letter := congrArg (fun text => text.toList[14]?) same
  simp only [toString, String.toList_append] at letter
  rw [List.append_assoc, List.append_assoc, List.append_assoc, List.getElem?_append_left (by decide)] at letter
  exact absurd letter (by decide)

theorem repeatedDependency_ne (edge : TaskDependencyEdge) : repeatedDependency edge ≠ cyclicDependencies :=
  dependency_texts edge.taskId edge.dependsOnTaskId

theorem passes_iff {checked : Except Thrown Unit} : passes checked = true ↔ checked = .ok () := by
  cases checked <;> simp [passes]

theorem dependencyItemIssues_cycle :
    FoundCycle (dependencyItemIssues tasks validatedEdges index item) ↔
      assertAcyclicDependency item.taskId item.dependsOnTaskId validatedEdges ≠ .ok () := by
  simp only [dependencyItemIssues, foundCycle_append, foundCycle_issueUnless, notPortableTask_ne,
    repeatedDependency_ne, and_false, false_or, and_true, ne_eq, ← passes_iff, Bool.not_eq_true]

theorem dependencyIssues_cycle (acyclic : AcyclicDependencies validatedEdges) :
    FoundCycle (dependencyIssues tasks validatedEdges index edges) ↔
      ¬AcyclicDependencies (validatedEdges ++ edges) := by
  induction edges generalizing validatedEdges index with
  | nil => simp [dependencyIssues, FoundCycle, acyclic]
  | cons item items ih =>
    rw [dependencyIssues, foundCycle_append, dependencyItemIssues_cycle, ne_eq, assertAcyclicDependency_exact acyclic]
    by_cases kept : AcyclicDependencies (validatedEdges ++ [item])
    · rw [ih kept, List.append_assoc, List.singleton_append]
      exact ⟨fun found => found.resolve_left (not_not.mpr kept), .inr⟩
    · refine ⟨fun _ whole => kept (whole.mono fun edge member => ?_), fun _ => .inl kept⟩
      rcases List.mem_append.mp member with old | new
      · exact List.mem_append_left _ old
      · exact List.mem_append_right _ (List.mem_cons.mpr (.inl (List.mem_singleton.mp new)))

end AiOffice.Application.ProjectPortability
