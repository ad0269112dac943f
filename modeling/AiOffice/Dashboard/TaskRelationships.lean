import AiOffice.Application.ReadModels.TaskGraphProjection
import AiOffice.Data.Reachability

namespace AiOffice.Dashboard

open Application.ReadModels Data.Reachability Relation

/-- The two maps of the dependencies, each as the pairs of a key and a value in the order in which they were added. -/
structure LineageIndex where
  prerequisites : List (String × String)
  dependents : List (String × String)

def LineageIndex.add (index : LineageIndex) (edge : TaskGraphEdge) : LineageIndex where
  prerequisites := index.prerequisites ++ [(edge.taskId, edge.dependsOnTaskId)]
  dependents := index.dependents ++ [(edge.dependsOnTaskId, edge.taskId)]

def buildLineageIndex (edges : List TaskGraphEdge) : LineageIndex := edges.foldl LineageIndex.add ⟨[], []⟩

structure Lineage where
  upstream : List String
  downstream : List String

def lineageFromIndex (index : LineageIndex) (taskId : String) : Lineage where
  upstream := walkFrom index.prerequisites taskId
  downstream := walkFrom index.dependents taskId

def lineage (edges : List TaskGraphEdge) (taskId : String) : Lineage :=
  lineageFromIndex (buildLineageIndex edges) taskId

inductive RelationshipEdgeKind
  | direct
  | transitive
  deriving DecidableEq

def relationshipEdgeKind (edge : TaskGraphEdge) (selectedTaskId : String) (lineage : Lineage) :
    Option RelationshipEdgeKind :=
  if edge.taskId = selectedTaskId ∨ edge.dependsOnTaskId = selectedTaskId then some .direct
  else if edge.taskId ∈ lineage.upstream ∧ edge.dependsOnTaskId ∈ lineage.upstream ∨
      edge.taskId ∈ lineage.downstream ∧ edge.dependsOnTaskId ∈ lineage.downstream then some .transitive
  else none

inductive NeighborhoodMode
  | direct
  | oneHop
  | twoHops
  | fullLineage
  deriving DecidableEq

structure GraphNeighborhood where
  taskIds : List String
  edgeKeys : Option (List (String × String))

def graphNeighborhoodFromIndex (index : LineageIndex) (taskId : String) (mode : NeighborhoodMode)
    (fullLineage : Option Lineage) : GraphNeighborhood :=
  if mode = .fullLineage then
    let whole := fullLineage.getD (lineageFromIndex index taskId)
    ⟨fresh [] (taskId :: whole.upstream ++ whole.downstream), none⟩
  else
    let depth := if mode = .twoHops then 2 else 1
    let before := hops index.prerequisites depth ([taskId], [taskId])
    -- The second walk keeps what the first has seen, and does not go on from it.
    let after := hops index.dependents depth (before.1, [taskId])
    ⟨after.1, if mode ≠ .direct then none else some (fresh []
      ((successors index.prerequisites taskId).map (·, taskId) ++ (successors index.dependents taskId).map (taskId, ·)))⟩

structure TaskRelationships where
  prerequisites : List String
  dependents : List String
  lineage : Lineage

def relationshipsOf (index : LineageIndex) (taskId : String) : TaskRelationships where
  prerequisites := successors index.prerequisites taskId
  dependents := successors index.dependents taskId
  lineage := lineageFromIndex index taskId

/-- The last result, with the neighborhoods that were asked of it. -/
structure PreviousResult where
  taskId : String
  relationships : TaskRelationships
  neighborhoods : List (NeighborhoodMode × GraphNeighborhood)

structure RelationshipMemo where
  edges : List TaskGraphEdge
  index : LineageIndex
  result : Option PreviousResult

structure RelationshipRequest where
  edges : List TaskGraphEdge
  taskId : String
  mode : NeighborhoodMode

def RelationshipMemo.refresh (edges : List TaskGraphEdge) (memo : Option RelationshipMemo) : RelationshipMemo :=
  match memo with
  | some memo => if memo.edges = edges then memo else ⟨edges, buildLineageIndex edges, none⟩
  | none => ⟨edges, buildLineageIndex edges, none⟩

def RelationshipMemo.resultFor (memo : RelationshipMemo) (taskId : String) : PreviousResult :=
  match memo.result with
  | some result => if result.taskId = taskId then result else ⟨taskId, relationshipsOf memo.index taskId, []⟩
  | none => ⟨taskId, relationshipsOf memo.index taskId, []⟩

def PreviousResult.neighborhood (result : PreviousResult) (index : LineageIndex) (mode : NeighborhoodMode) :
    GraphNeighborhood × PreviousResult :=
  match result.neighborhoods.lookup mode with
  | some cached => (cached, result)
  | none =>
    let scope := graphNeighborhoodFromIndex index result.taskId mode (some result.relationships.lineage)
    (scope, { result with neighborhoods := (mode, scope) :: result.neighborhoods })

/-- One call of the memo, and then one for a neighborhood of its result. -/
def askMemo (memo : Option RelationshipMemo) (request : RelationshipRequest) :
    (TaskRelationships × GraphNeighborhood) × Option RelationshipMemo :=
  let current := RelationshipMemo.refresh request.edges memo
  let result := current.resultFor request.taskId
  let scope := result.neighborhood current.index request.mode
  ((result.relationships, scope.1), some { current with result := some scope.2 })

def askAll : Option RelationshipMemo → List RelationshipRequest → List (TaskRelationships × GraphNeighborhood)
  | _, [] => []
  | memo, request :: requests => (askMemo memo request).1 :: askAll (askMemo memo request).2 requests

def answer (request : RelationshipRequest) : TaskRelationships × GraphNeighborhood :=
  let index := buildLineageIndex request.edges
  (relationshipsOf index request.taskId, graphNeighborhoodFromIndex index request.taskId request.mode none)

variable {edges : List TaskGraphEdge} {taskId selected id : String} {mode : NeighborhoodMode}

theorem foldl_add (edges : List TaskGraphEdge) (index : LineageIndex) : edges.foldl LineageIndex.add index =
    ⟨index.prerequisites ++ edges.map (fun edge => (edge.taskId, edge.dependsOnTaskId)),
      index.dependents ++ edges.map fun edge => (edge.dependsOnTaskId, edge.taskId)⟩ := by
  induction edges generalizing index with
  | nil => simp
  | cons edge edges ih => simp [ih, LineageIndex.add]

def DependsOn (edges : List TaskGraphEdge) (id prerequisite : String) : Prop := ⟨id, prerequisite⟩ ∈ edges

theorem linked_prerequisites : Linked (buildLineageIndex edges).prerequisites = DependsOn edges := by
  funext id prerequisite
  simp only [buildLineageIndex, foldl_add, List.nil_append, Linked, DependsOn, List.mem_map, Prod.mk.injEq, eq_iff_iff]
  exact ⟨by rintro ⟨edge, member, rfl, rfl⟩; exact member, fun member => ⟨_, member, rfl, rfl⟩⟩

theorem linked_dependents : Linked (buildLineageIndex edges).dependents = Function.swap (DependsOn edges) := by
  funext id dependent
  simp only [buildLineageIndex, foldl_add, List.nil_append, Linked, Function.swap, DependsOn, List.mem_map, Prod.mk.injEq,
    eq_iff_iff]
  exact ⟨by rintro ⟨edge, member, rfl, rfl⟩; exact member, fun member => ⟨_, member, rfl, rfl⟩⟩

theorem mem_upstream : id ∈ (lineage edges selected).upstream ↔ TransGen (DependsOn edges) selected id := by
  rw [← linked_prerequisites]
  exact mem_walkFrom

theorem mem_downstream : id ∈ (lineage edges selected).downstream ↔ TransGen (DependsOn edges) id selected := by
  rw [← transGen_swap, ← linked_dependents]
  exact mem_walkFrom

def Incident (edge : TaskGraphEdge) (selected : String) : Prop := edge.taskId = selected ∨ edge.dependsOnTaskId = selected

/-- The lineage has every task that is linked to the selected one over any number of dependencies, also where
these have cycles, and the kinds of the edges say how they lie to it. -/
theorem lineage_exact (edges : List TaskGraphEdge) (selected : String) :
    ((lineage edges selected).upstream.Nodup ∧ (lineage edges selected).downstream.Nodup) ∧
    (∀ id, (id ∈ (lineage edges selected).upstream ↔ TransGen (DependsOn edges) selected id) ∧
      (id ∈ (lineage edges selected).downstream ↔ TransGen (DependsOn edges) id selected)) ∧
    ∀ edge ∈ edges,
      (relationshipEdgeKind edge selected (lineage edges selected) = some .direct ↔ Incident edge selected) ∧
      (relationshipEdgeKind edge selected (lineage edges selected) = some .transitive ↔ ¬Incident edge selected ∧
        (TransGen (DependsOn edges) selected edge.taskId ∨ TransGen (DependsOn edges) edge.dependsOnTaskId selected)) := by
  refine ⟨⟨walkFrom_nodup _ _, walkFrom_nodup _ _⟩, fun id => ⟨mem_upstream, mem_downstream⟩, fun edge member => ?_⟩
  by_cases incident : Incident edge selected
  · have kind : relationshipEdgeKind edge selected (lineage edges selected) = some .direct := if_pos incident
    simp [kind, incident]
  · have elsewhere : ¬(edge.taskId = selected ∨ edge.dependsOnTaskId = selected) := incident
    rw [relationshipEdgeKind, if_neg elsewhere]
    by_cases along : TransGen (DependsOn edges) selected edge.taskId ∨ TransGen (DependsOn edges) edge.dependsOnTaskId selected
    · rw [if_pos (along.imp (fun up => ⟨mem_upstream.mpr up, mem_upstream.mpr (up.tail member)⟩)
        fun down => ⟨mem_downstream.mpr (.head member down), mem_downstream.mpr down⟩)]
      simp [incident, along]
    · rw [if_neg fun both => along (both.imp (fun up => mem_upstream.mp up.1) fun down => mem_downstream.mp down.2)]
      simp [incident, along]

section Neighborhood

/-- What a neighborhood is meant to show of the graph. -/
def Nearby (edges : List TaskGraphEdge) (taskId id : String) : NeighborhoodMode → Prop
  | .direct | .oneHop => id = taskId ∨ DependsOn edges taskId id ∨ DependsOn edges id taskId
  | .twoHops => id = taskId ∨ (DependsOn edges taskId id ∨ ∃ middle, DependsOn edges taskId middle ∧ DependsOn edges middle id) ∨
      DependsOn edges id taskId ∨ ∃ middle, DependsOn edges middle taskId ∧ DependsOn edges id middle
  | .fullLineage => id = taskId ∨ TransGen (DependsOn edges) taskId id ∨ TransGen (DependsOn edges) id taskId

theorem within_start {pairs : List (String × String)} (depth : Nat) : Within pairs taskId depth taskId := by
  induction depth with
  | zero => rfl
  | succ depth ih => exact .inl ih

theorem within_one {pairs : List (String × String)} : Within pairs taskId 1 id ↔ id = taskId ∨ Linked pairs taskId id := by
  simp only [Within, exists_eq_left]

theorem within_two {pairs : List (String × String)} : Within pairs taskId 2 id ↔
    id = taskId ∨ Linked pairs taskId id ∨ ∃ middle, Linked pairs taskId middle ∧ Linked pairs middle id := by
  simp only [Within, exists_eq_left, or_and_right, exists_or, or_assoc]
  tauto

theorem mem_neighborhood {depth : Nat} (acyclic : 0 < depth → ∀ id, ¬TransGen (DependsOn edges) id id) :
    id ∈ (hops (buildLineageIndex edges).dependents (depth + 1)
        ((hops (buildLineageIndex edges).prerequisites (depth + 1) ([taskId], [taskId])).1, [taskId])).1 ↔
      Within (buildLineageIndex edges).prerequisites taskId (depth + 1) id ∨
        Within (buildLineageIndex edges).dependents taskId (depth + 1) id := by
  have first (id : String) : id ∈ (hops (buildLineageIndex edges).prerequisites (depth + 1) ([taskId], [taskId])).1 ↔
      Within (buildLineageIndex edges).prerequisites taskId (depth + 1) id := by
    rw [mem_hops (List.mem_singleton_self _) fun steps _ node known _ => List.mem_singleton.mp known ▸ within_start steps]
    exact ⟨fun found => found.elim (fun same => List.mem_singleton.mp same ▸ within_start _) fun within => within, .inr⟩
  rw [mem_hops ((first taskId).mpr (within_start _)), first]
  intro steps less node known below
  have up := ((first node).mp known).reached
  have down := below.reached
  rw [linked_prerequisites, reflTransGen_iff_eq_or_transGen] at up
  rw [linked_dependents, reflTransGen_swap, reflTransGen_iff_eq_or_transGen] at down
  rcases up with rfl | up
  · exact within_start steps
  · rcases down with rfl | down
    · exact within_start steps
    · exact absurd (up.trans down) (acyclic (by omega) taskId)

end Neighborhood

section Memo

/-- The index is that of the edges, and the result holds what a call for its task returns. -/
def Faithful (memo : RelationshipMemo) : Prop :=
  memo.index = buildLineageIndex memo.edges ∧ ∀ result, memo.result = some result →
    result.relationships = relationshipsOf memo.index result.taskId ∧
    ∀ mode scope, result.neighborhoods.lookup mode = some scope →
      scope = graphNeighborhoodFromIndex memo.index result.taskId mode none

theorem faithful_refresh {memo : Option RelationshipMemo} (faithful : ∀ stored, memo = some stored → Faithful stored) :
    Faithful (RelationshipMemo.refresh edges memo) ∧ (RelationshipMemo.refresh edges memo).edges = edges := by
  have new : Faithful ⟨edges, buildLineageIndex edges, none⟩ := ⟨rfl, fun result none => by cases none⟩
  unfold RelationshipMemo.refresh
  split
  · split
    · next same => exact ⟨faithful _ rfl, same⟩
    · exact ⟨new, rfl⟩
  · exact ⟨new, rfl⟩

theorem faithful_resultFor {memo : RelationshipMemo} (faithful : Faithful memo) (taskId : String) :
    (memo.resultFor taskId).taskId = taskId ∧ Faithful { memo with result := some (memo.resultFor taskId) } := by
  have new : Faithful { memo with result := some ⟨taskId, relationshipsOf memo.index taskId, []⟩ } :=
    ⟨faithful.1, fun result same => by cases same; exact ⟨rfl, fun mode scope found => by cases found⟩⟩
  unfold RelationshipMemo.resultFor
  split
  · next result stored =>
    split
    · next same => exact ⟨same, faithful.1, fun other is => by cases is; exact faithful.2 _ stored⟩
    · exact ⟨rfl, new⟩
  · exact ⟨rfl, new⟩

theorem faithful_neighborhood {memo : RelationshipMemo} {result : PreviousResult}
    (faithful : Faithful { memo with result := some result }) (mode : NeighborhoodMode) :
    (result.neighborhood memo.index mode).1 = graphNeighborhoodFromIndex memo.index result.taskId mode none ∧
      Faithful { memo with result := some (result.neighborhood memo.index mode).2 } := by
  obtain ⟨relationships, cached⟩ := faithful.2 _ rfl
  unfold PreviousResult.neighborhood
  split
  · next found => exact ⟨cached _ _ found, faithful⟩
  · have scope : graphNeighborhoodFromIndex memo.index result.taskId mode (some result.relationships.lineage) =
        graphNeighborhoodFromIndex memo.index result.taskId mode none := by
      rw [relationships]
      rfl
    refine ⟨scope, faithful.1, fun other is => ?_⟩
    cases is
    refine ⟨relationships, fun asked found known => ?_⟩
    rw [List.lookup_cons] at known
    split at known
    · next here =>
      cases known
      rw [beq_iff_eq.mp here]
      exact scope
    · exact cached asked found known

theorem askMemo_answer {memo : Option RelationshipMemo} (faithful : ∀ stored, memo = some stored → Faithful stored)
    (request : RelationshipRequest) :
    (askMemo memo request).1 = answer request ∧ ∀ stored, (askMemo memo request).2 = some stored → Faithful stored := by
  obtain ⟨refreshed, sameEdges⟩ := @faithful_refresh request.edges memo faithful
  obtain ⟨sameTask, kept⟩ := faithful_resultFor refreshed request.taskId
  obtain ⟨scope, cached⟩ := faithful_neighborhood kept request.mode
  refine ⟨?_, fun stored same => by cases same; exact cached⟩
  change (_, _) = _
  rw [scope]
  simp only [answer, (kept.2 _ rfl).1, sameTask, refreshed.1, sameEdges]

/-- Whatever was asked before, the memo answers as without its caches. -/
theorem relationshipMemo_transparent (requests : List RelationshipRequest) : askAll none requests = requests.map answer := by
  have all : ∀ memo : Option RelationshipMemo, (∀ stored, memo = some stored → Faithful stored) →
      askAll memo requests = requests.map answer := by
    induction requests with
    | nil => exact fun _ _ => rfl
    | cons request requests ih =>
      intro memo faithful
      obtain ⟨same, kept⟩ := askMemo_answer faithful request
      rw [askAll, List.map_cons, same, ih _ kept]
  exact all none fun stored none => by cases none

end Memo

end AiOffice.Dashboard
