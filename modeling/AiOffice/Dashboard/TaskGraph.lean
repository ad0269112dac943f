import AiOffice.Application.ReadModels.TaskGraphProjection
import AiOffice.Connector.FilesystemPath

namespace AiOffice.Dashboard

open Application.ReadModels Data Domain Std
open Connector.Filesystem (startsWith)

/-- The part of the graph that a view shows, and how many tasks it does not. -/
structure VisibleGraph where
  tasks : List TaskGraphNode
  edges : List TaskGraphEdge
  hiddenTaskCount : Int

def reducedPreviewTaskLimit : Nat := 40

def previewRank (task : TaskGraphNode) : Nat :=
  if task.needsAttention then 0
  else if task.ready then 1
  else if task.operationalStatus = .inProgress then 2
  else if task.waiting then 3
  else if task.terminal then 5
  else 4

def comparePreview (localeCompare : String → String → Ordering) : TaskGraphNode → TaskGraphNode → Ordering :=
  compareLex (compareOn previewRank)
    (compareLex (fun left right => compare right.priority left.priority)
      fun left right => localeCompare left.taskId right.taskId)

def findIndex (matching : TaskGraphNode → Bool) (tasks : List TaskGraphNode) : Nat := tasks.findIdx matching

def reducedOperationalPreview (localeCompare : String → String → Ordering) (visible : VisibleGraph)
    (selectedTaskId : Option String) : VisibleGraph :=
  let ranking := comparePreview localeCompare
  let top := visible.tasks.foldl (keepBest ranking findIndex reducedPreviewTaskLimit) []
  let shown := match selectedTaskId with
    | none => top
    | some id =>
      match visible.tasks.find? fun task => task.taskId = id with
      | none => top
      | some selected =>
        if top.any fun task => task.taskId = id then top
        else
          let kept := if top.length = reducedPreviewTaskLimit then top.dropLast else top
          splice kept (findIndex (fun current => ranking selected current = .lt) kept) selected
  { tasks := shown
    edges := []
    hiddenTaskCount := visible.hiddenTaskCount + visible.tasks.length - shown.length }

def matchesSearch (toLowerCase : String → String) (search : String) (task : TaskGraphNode) : Bool :=
  includes (toLowerCase task.taskId) search || includes (toLowerCase task.title) search

/-- The best match first: the start of a title, then any part of it, then the id. -/
def searchRank (toLowerCase : String → String) (search : String) (task : TaskGraphNode) : Option Nat :=
  let title := toLowerCase task.title
  if startsWith title search then some 0
  else if includes title search then some 1
  else if includes (toLowerCase task.taskId) search then some 2
  else none

structure RankedTask where
  task : TaskGraphNode
  rank : Nat

def compareRanked (localeCompare : String → String → Ordering) : RankedTask → RankedTask → Ordering :=
  compareLex (compareOn RankedTask.rank)
    (compareLex (fun left right => localeCompare left.task.title right.task.title)
      fun left right => localeCompare left.task.taskId right.task.taskId)

structure SearchResult where
  found : List TaskGraphNode
  total : Nat

def searchStep (toLowerCase : String → String) (localeCompare : String → String → Ordering) (search : String) (capacity : Nat)
    (state : List RankedTask × Nat) (task : TaskGraphNode) : List RankedTask × Nat :=
  match searchRank toLowerCase search task with
  | none => state
  | some rank =>
    (if capacity = 0 then state.1 else keepBest (compareRanked localeCompare) binarySearch capacity state.1 ⟨task, rank⟩,
      state.2 + 1)

def searchTasks (toLowerCase : String → String) (localeCompare : String → String → Ordering) (tasks : List TaskGraphNode)
    (text : String) (limit : Int) : SearchResult :=
  let search := toLowerCase (trim text)
  if search = "" then ⟨[], 0⟩
  else
    let best := tasks.foldl (searchStep toLowerCase localeCompare search (max 0 limit).toNat) ([], 0)
    ⟨best.1.map RankedTask.task, best.2⟩

def matchingTasks (toLowerCase : String → String) (tasks : List TaskGraphNode) (text : String) : List TaskGraphNode :=
  if toLowerCase (trim text) = "" then [] else tasks.filter (matchesSearch toLowerCase (toLowerCase (trim text)))

def compareMatches (toLowerCase : String → String) (localeCompare : String → String → Ordering) (search : String) :
    TaskGraphNode → TaskGraphNode → Ordering :=
  compareLex (compareOn (searchRank toLowerCase search))
    (compareLex (fun left right => localeCompare left.title right.title)
      fun left right => localeCompare left.taskId right.taskId)

section Search

variable {toLowerCase : String → String} {localeCompare : String → String → Ordering} {search : String} {capacity : Nat}
  {task : TaskGraphNode} {tasks : List TaskGraphNode}

def ranked (toLowerCase : String → String) (search : String) (task : TaskGraphNode) : Option RankedTask :=
  (searchRank toLowerCase search task).map (RankedTask.mk task)

theorem includes_of_startsWith {value : String} (starts : startsWith value search = true) : includes value search = true := by
  rw [includes, List.any_eq_true]
  refine ⟨value.toList, ?_, starts⟩
  cases value.toList <;> simp

theorem searchRank_isSome : (searchRank toLowerCase search task).isSome = matchesSearch toLowerCase search task := by
  unfold searchRank matchesSearch
  simp only
  split
  · next starts => rw [includes_of_startsWith starts, Bool.or_true]; rfl
  · split
    · next inTitle => rw [inTitle, Bool.or_true]; rfl
    · next outside =>
        rw [Bool.not_eq_true] at outside
        rw [outside, Bool.or_false]
        split
        · next inId => rw [inId]; rfl
        · next outsideId =>
            rw [Bool.not_eq_true] at outsideId
            rw [outsideId]
            rfl

theorem ranked_tasks (tasks : List TaskGraphNode) :
    (tasks.filterMap (ranked toLowerCase search)).map RankedTask.task = tasks.filter (matchesSearch toLowerCase search) := by
  induction tasks with
  | nil => rfl
  | cons task tasks ih =>
    have isMatch := @searchRank_isSome toLowerCase search task
    rw [List.filter_cons, ← isMatch, List.filterMap_cons, ranked]
    cases searchRank toLowerCase search task with
    | none => exact ih
    | some rank => simp [ih]

theorem searchSteps (tasks : List TaskGraphNode) (best : List RankedTask) (total : Nat) :
    tasks.foldl (searchStep toLowerCase localeCompare search capacity) (best, total) =
      (if capacity = 0 then best
        else (tasks.filterMap (ranked toLowerCase search)).foldl
          (keepBest (compareRanked localeCompare) binarySearch capacity) best,
        total + (tasks.filter (matchesSearch toLowerCase search)).length) := by
  induction tasks generalizing best total with
  | nil => simp
  | cons task tasks ih =>
    have isMatch := @searchRank_isSome toLowerCase search task
    rw [List.foldl_cons, searchStep, List.filterMap_cons, List.filter_cons, ← isMatch, ranked]
    cases searchRank toLowerCase search task with
    | none => exact ih best total
    | some rank =>
      simp only [ih, Option.isSome_some, if_true, List.length_cons, Option.map_some, List.foldl_cons, Prod.mk.injEq]
      refine ⟨?_, by omega⟩
      split <;> rfl

theorem ranked_sorted [TransCmp localeCompare] :
    (sortBy (compareRanked localeCompare) (tasks.filterMap (ranked toLowerCase search))).map RankedTask.task =
      sortBy (compareMatches toLowerCase localeCompare search) (tasks.filter (matchesSearch toLowerCase search)) := by
  rw [← ranked_tasks, sortBy, sortBy]
  refine List.map_mergeSort fun left inLeft right inRight => ?_
  have rankOf : ∀ found ∈ tasks.filterMap (ranked toLowerCase search),
      searchRank toLowerCase search found.task = some found.rank := by
    intro found member
    obtain ⟨task, -, isRanked⟩ := List.mem_filterMap.mp member
    obtain ⟨rank, known, rfl⟩ := Option.map_eq_some_iff.mp isRanked
    exact known
  simp only [compareRanked, compareMatches, compareLex, compareOn, rankOf left inLeft, rankOf right inRight]
  rfl

theorem searchTasks_eq [TransCmp localeCompare] (tasks : List TaskGraphNode) (text : String) (limit : Int) :
    searchTasks toLowerCase localeCompare tasks text limit =
      ⟨(sortBy (compareMatches toLowerCase localeCompare (toLowerCase (trim text)))
          (matchingTasks toLowerCase tasks text)).take limit.toNat, (matchingTasks toLowerCase tasks text).length⟩ := by
  rw [searchTasks, matchingTasks]
  by_cases blank : toLowerCase (trim text) = ""
  · simp only [if_pos blank]
    simp [sortBy]
  · have transitive : TransCmp (compareRanked localeCompare) := by
      unfold compareRanked
      infer_instance
    have capacity : (max 0 limit).toNat = limit.toNat := by omega
    simp only [if_neg blank, searchSteps, capacity, Nat.zero_add, SearchResult.mk.injEq, and_true]
    split
    · next none => simp [none]
    · rw [keepBest_spec (compareRanked localeCompare) _ _ fun _ _ => binarySearch_eq, List.map_take, ranked_sorted]

end Search

section Preview

variable {localeCompare : String → String → Ordering} {visible : VisibleGraph} {selectedTaskId : Option String}
  {task : TaskGraphNode}

/-- The selected task is one of the view that the first tasks of the ranking leave out. -/
def SelectedBeyond (localeCompare : String → String → Ordering) (visible : VisibleGraph) (selectedTaskId : Option String)
    (task : TaskGraphNode) : Prop :=
  ∃ id, selectedTaskId = some id ∧ visible.tasks.find? (fun task => task.taskId = id) = some task ∧
    ∀ other ∈ (sortBy (comparePreview localeCompare) visible.tasks).take reducedPreviewTaskLimit, other.taskId ≠ id

variable [TransCmp localeCompare]

theorem comparePreview_transitive : TransCmp (comparePreview localeCompare) := by
  unfold comparePreview
  have byPriority : TransCmp fun left right : TaskGraphNode => compare right.priority left.priority :=
    @comparedBy _ (fun left right : Int => compare right left) _ _ TaskGraphNode.priority
  infer_instance

theorem beyond_notBefore {limit : Nat} (member : task ∈ visible.tasks)
    (outside : task ∉ (sortBy (comparePreview localeCompare) visible.tasks).take limit) :
    ∀ other ∈ (sortBy (comparePreview localeCompare) visible.tasks).take limit,
      ¬Before (comparePreview localeCompare) task other := by
  have transitive := @comparePreview_transitive localeCompare _
  have sorted := @sortBy_sorted _ (comparePreview localeCompare) _ visible.tasks
  rw [← List.take_append_drop limit (sortBy _ _)] at sorted
  have later : task ∈ (sortBy (comparePreview localeCompare) visible.tasks).drop limit := by
    have inSorted := (@sortBy_perm _ (comparePreview localeCompare) visible.tasks).mem_iff.mpr member
    rw [← List.take_append_drop limit (sortBy _ _)] at inSorted
    exact (List.mem_append.mp inSorted).resolve_left outside
  intro other inFront
  rw [before_iff, not_not]
  exact (List.pairwise_append.mp sorted).2.2 other inFront task later

/-- The preview shows the first tasks of the ranking, or all but the last of these and a selected task behind them. -/
theorem previewTasks_eq (visible : VisibleGraph) (selectedTaskId : Option String) :
    (∀ selected, SelectedBeyond localeCompare visible selectedTaskId selected →
      (reducedOperationalPreview localeCompare visible selectedTaskId).tasks =
        (sortBy (comparePreview localeCompare) visible.tasks).take 39 ++ [selected]) ∧
    ((¬∃ selected, SelectedBeyond localeCompare visible selectedTaskId selected) →
      (reducedOperationalPreview localeCompare visible selectedTaskId).tasks =
        (sortBy (comparePreview localeCompare) visible.tasks).take 40) := by
  have transitive := @comparePreview_transitive localeCompare _
  have top : visible.tasks.foldl (keepBest (comparePreview localeCompare) findIndex reducedPreviewTaskLimit) [] =
      (sortBy (comparePreview localeCompare) visible.tasks).take 40 :=
    keepBest_spec _ _ _ fun _ _ _ => rfl
  simp only [reducedOperationalPreview, top]
  constructor
  · rintro selected ⟨id, rfl, found, beyond⟩
    have none : ((sortBy (comparePreview localeCompare) visible.tasks).take 40).any (fun task => task.taskId = id) = false := by
      rw [List.any_eq_false]
      simpa [reducedPreviewTaskLimit] using beyond
    have here : selected.taskId = id := by simpa using List.find?_some found
    have member := List.mem_of_find?_eq_some found
    have outside : selected ∉ (sortBy (comparePreview localeCompare) visible.tasks).take 40 := fun inTop =>
      beyond selected inTop here
    have full : ((sortBy (comparePreview localeCompare) visible.tasks).take 40).length = reducedPreviewTaskLimit := by
      by_contra short
      rw [List.length_take] at short
      refine outside ?_
      rw [List.take_of_length_le (by simp only [reducedPreviewTaskLimit] at short; omega)]
      exact (sortBy_perm visible.tasks).mem_iff.mpr member
    simp only [found, none, Bool.false_eq_true, if_false, if_pos full]
    have last : ∀ other ∈ (sortBy (comparePreview localeCompare) visible.tasks).take 39,
        ¬Before (comparePreview localeCompare) selected other := fun other inFront =>
      beyond_notBefore member outside other (List.take_subset_take_left _ (by omega : 39 ≤ 40) inFront)
    have kept : ((sortBy (comparePreview localeCompare) visible.tasks).take 40).dropLast =
        (sortBy (comparePreview localeCompare) visible.tasks).take 39 := by
      rw [List.dropLast_eq_take, full, List.take_take]
      rfl
    rw [kept, findIndex, splice_findIdx, orderedInsert_last last]
  · intro inside
    cases selectedTaskId with
    | none => rfl
    | some id =>
      simp only
      cases found : visible.tasks.find? fun task => task.taskId = id with
      | none => rfl
      | some selected =>
        have shown : ((sortBy (comparePreview localeCompare) visible.tasks).take 40).any (fun task => task.taskId = id) =
            true := by
          by_contra hidden
          refine inside ⟨selected, id, rfl, found, ?_⟩
          simpa [reducedPreviewTaskLimit] using hidden
        simp only [shown, if_true]

end Preview

/-- Both bounded selections are starts of the stable sort of all that they choose from. -/
theorem boundedSelections_sorted (toLowerCase : String → String) (localeCompare : String → String → Ordering)
    [TransCmp localeCompare] :
    (∀ (tasks : List TaskGraphNode) (text : String) (limit : Nat), searchTasks toLowerCase localeCompare tasks text limit =
      ⟨(sortBy (compareMatches toLowerCase localeCompare (toLowerCase (trim text)))
          (matchingTasks toLowerCase tasks text)).take limit, (matchingTasks toLowerCase tasks text).length⟩) ∧
    ∀ (visible : VisibleGraph) (selectedTaskId : Option String),
      (∀ selected, SelectedBeyond localeCompare visible selectedTaskId selected →
        (reducedOperationalPreview localeCompare visible selectedTaskId).tasks =
          (sortBy (comparePreview localeCompare) visible.tasks).take 39 ++ [selected]) ∧
      ((¬∃ selected, SelectedBeyond localeCompare visible selectedTaskId selected) →
        (reducedOperationalPreview localeCompare visible selectedTaskId).tasks =
          (sortBy (comparePreview localeCompare) visible.tasks).take 40) :=
  ⟨fun tasks text limit => searchTasks_eq tasks text limit, previewTasks_eq⟩

def compareUnits (left right : String) : Ordering := compare (codeUnits left) (codeUnits right)

instance : TransCmp compareUnits := @comparedBy _ (fun left right : List Nat => compare left right) _ _ codeUnits

def listedTask (taskId title : String) : TaskGraphNode where
  taskId
  title
  priority := 0
  recordedStatus := .pending
  operationalStatus := .notStarted
  assignedAgent := none
  milestoneIds := []
  milestoneGap := none
  unmetPrerequisiteIds := []
  ready := true
  terminal := false
  waiting := false
  needsAttention := false
  completionUnblocks := []

def listedTasks : List TaskGraphNode := [listedTask "c" "ba", listedTask "b" "ab", listedTask "a" "ab"]

theorem boundedSelections_sorted_listed : searchTasks id compareUnits listedTasks " a " (2 : Nat) =
      ⟨(sortBy (compareMatches id compareUnits "a") (matchingTasks id listedTasks " a ")).take 2,
        (matchingTasks id listedTasks " a ").length⟩ ∧
    (reducedOperationalPreview compareUnits ⟨listedTasks, [], 0⟩ none).tasks =
      (sortBy (comparePreview compareUnits) listedTasks).take 40 := by
  have both := boundedSelections_sorted id compareUnits
  have blank : trim " a " = "a" := by decide
  refine ⟨?_, (both.2 ⟨listedTasks, [], 0⟩ none).2 ?_⟩
  · have found := both.1 listedTasks " a " 2
    rwa [blank] at found
  · rintro ⟨selected, id, none, -⟩
    cases none

example : ((searchTasks id compareUnits listedTasks " a " 2).found.map TaskGraphNode.taskId,
    (searchTasks id compareUnits listedTasks " a " 2).total) = (["a", "b"], 3) := by decide

end AiOffice.Dashboard
