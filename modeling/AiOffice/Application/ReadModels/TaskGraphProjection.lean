import AiOffice.Application.ReadModels.OperationalProjection
import AiOffice.Application.ScheduleAgentRun

namespace AiOffice.Application.ReadModels

open Data Outcome Domain

structure GraphTask extends TaskOperationalState where
  title : String
  priority : Int
  assignedAgent : Option String
  milestones : List String

structure TaskGraphEdge where
  taskId : String
  dependsOnTaskId : String
  deriving DecidableEq

/-- The tasks that are linked to a requirement, and those that are linked to one with a milestone. -/
structure TaskGraphLinkFacts where
  requirementLinkedTaskIds : List String
  milestoneLinkedTaskIds : List String

inductive TaskMilestoneGap
  | noRequirement
  | requirementWithoutMilestone
  deriving DecidableEq

structure TaskGraphNode where
  taskId : String
  title : String
  priority : Int
  recordedStatus : TaskStatus
  operationalStatus : TaskOperationalStatus
  assignedAgent : Option String
  milestoneIds : List String
  milestoneGap : Option TaskMilestoneGap
  unmetPrerequisiteIds : List String
  ready : Bool
  terminal : Bool
  waiting : Bool
  needsAttention : Bool
  completionUnblocks : List String

def milestoneGap (task : GraphTask) (links : TaskGraphLinkFacts) : Option TaskMilestoneGap :=
  if task.milestones ≠ [] ∨ task.taskId ∈ links.milestoneLinkedTaskIds then none
  else if task.taskId ∈ links.requirementLinkedTaskIds then some .requirementWithoutMilestone
  else some .noRequirement

def statusesOf (tasks : List GraphTask) (id : String) : Option TaskStatus :=
  (tasks.reverse.find? fun task => task.taskId = id).map fun task => task.recordedStatus

def prerequisitesOf (edges : List TaskGraphEdge) (id : String) : List String :=
  (edges.filter fun edge => edge.taskId = id).map TaskGraphEdge.dependsOnTaskId

/-- The prerequisites of a task that block its start, by the rule of the domain. -/
def unmetEntry (tasks : List GraphTask) (edges : List TaskGraphEdge) (task : GraphTask) :
    Except Thrown (String × List String) :=
  (blockingPrerequisites (statusesOf tasks) .start (prerequisitesOf edges task.taskId)).map fun blockers =>
    (task.taskId, sort (blockers.map BlockingPrerequisite.taskId))

def unmetById (entries : List (String × List String)) (id : String) : List String :=
  ((entries.reverse.find? fun entry => entry.1 = id).map Prod.snd).getD []

/-- Whether a task waits for one other only, which can still end well, and could then begin. -/
def unblockedBy (tasks : List GraphTask) (unmet : String → List String) (only : String) (task : GraphTask) : Bool :=
  unmet task.taskId = [only] && isTaskRunnable task.recordedStatus &&
    !isTerminalTaskStatus ((statusesOf tasks only).getD .completed)

def unblocks (tasks : List GraphTask) (unmet : String → List String) (id : String) : List String :=
  (tasks.filter (unblockedBy tasks unmet id)).map fun task => task.taskId

def graphNode (tasks : List GraphTask) (links : TaskGraphLinkFacts) (unmet : String → List String) (task : GraphTask) :
    TaskGraphNode where
  taskId := task.taskId
  title := task.title
  priority := task.priority
  recordedStatus := task.recordedStatus
  operationalStatus := task.operationalStatus
  assignedAgent := task.assignedAgent
  milestoneIds := sort task.milestones
  milestoneGap := milestoneGap task links
  unmetPrerequisiteIds := unmet task.taskId
  ready := isTaskRunnable task.recordedStatus && unmet task.taskId = []
  terminal := task.terminal
  waiting := !task.terminal && unmet task.taskId ≠ []
  needsAttention := task.attentionReasons ≠ []
  completionUnblocks := sort (unblocks tasks unmet task.taskId)

/-- The nodes of the graph, in the order of `localeCompare` on this host. -/
def projectTaskGraphNodes {Key : Type} [LinearOrder Key] (collation : String → Key) (tasks : List GraphTask)
    (edges : List TaskGraphEdge) (links : TaskGraphLinkFacts) : Except Thrown (List TaskGraphNode) := do
  let entries ← tasks.mapM (unmetEntry tasks edges)
  return sortOn (fun node => collation node.taskId) (tasks.map (graphNode tasks links (unmetById entries)))

section

variable {tasks : List GraphTask} {edges : List TaskGraphEdge} {task dependent : GraphTask} {id : String}

theorem statusesOf_task (distinct : (tasks.map fun task => task.taskId).Nodup) (member : task ∈ tasks) :
    statusesOf tasks task.taskId = some task.recordedStatus := by
  have found := @find_reverse_keyed _ _ tasks (fun task => task.taskId) task _ distinct member
  rw [statusesOf, found]
  rfl

/-- The graph of one snapshot: different tasks, and edges between two of them, each at most once. -/
structure Snapshot (tasks : List GraphTask) (edges : List TaskGraphEdge) : Prop where
  distinct : (tasks.map fun task => task.taskId).Nodup
  unique : edges.Nodup
  known : ∀ edge ∈ edges, ∃ task ∈ tasks, task.taskId = edge.dependsOnTaskId
  irreflexive : ∀ edge ∈ edges, edge.taskId ≠ edge.dependsOnTaskId

def unsatisfied (tasks : List GraphTask) (edges : List TaskGraphEdge) (id : String) : List String :=
  (prerequisitesOf edges id).filter fun prerequisite =>
    !(statusesOf tasks prerequisite).any fun status => PrerequisiteRequirement.start.satisfied status

theorem mem_prerequisitesOf {prerequisite : String} :
    prerequisite ∈ prerequisitesOf edges id ↔ ⟨id, prerequisite⟩ ∈ edges := by
  simp only [prerequisitesOf, List.mem_map, List.mem_filter, decide_eq_true_eq]
  constructor
  · rintro ⟨edge, ⟨member, rfl⟩, rfl⟩
    exact member
  · intro member
    exact ⟨_, ⟨member, rfl⟩, rfl⟩

theorem blockers_unsatisfied {statuses : String → Option TaskStatus} {requirement : PrerequisiteRequirement}
    {ids : List String} {blocked : List BlockingPrerequisite}
    (returned : blockingPrerequisites statuses requirement ids = .ok blocked) :
    blocked.map BlockingPrerequisite.taskId =
      ids.filter fun id => !(statuses id).any fun status => requirement.satisfied status := by
  induction ids generalizing blocked with
  | nil =>
    cases returned
    rfl
  | cons id ids ih =>
    rw [blockingPrerequisites] at returned
    cases known : statuses id with
    | none => simp [known] at returned
    | some status =>
      simp only [known] at returned
      obtain ⟨rest, later, returned⟩ := bind_ok returned
      cases returned
      rw [List.filter_cons, known, Option.any_some, ← ih later]
      cases requirement.satisfied status <;> simp

/-- The admission rule of a start: the status of the task allows work, and no prerequisite blocks it. -/
def Startable (tasks : List GraphTask) (edges : List TaskGraphEdge) (id : String) : Prop :=
  ∃ task ∈ tasks, task.taskId = id ∧ isTaskRunnable task.recordedStatus = true ∧
    blockingPrerequisites (statusesOf tasks) .start (prerequisitesOf edges id) = .ok []

def ReadyIn {Key : Type} [LinearOrder Key] (collation : String → Key) (tasks : List GraphTask) (edges : List TaskGraphEdge)
    (links : TaskGraphLinkFacts) (id : String) : Prop :=
  ∃ nodes, projectTaskGraphNodes collation tasks edges links = .ok nodes ∧
    ∃ node ∈ nodes, node.taskId = id ∧ node.ready = true

def completingTask (id : String) (task : GraphTask) : GraphTask :=
  if task.taskId = id then { task with recordedStatus := .completed } else task

/-- The same tasks, but for the recorded status of one that is now completed. -/
def completing (id : String) (tasks : List GraphTask) : List GraphTask := tasks.map (completingTask id)

theorem completingTask_id (id : String) (task : GraphTask) : (completingTask id task).taskId = task.taskId := by
  unfold completingTask
  split <;> rfl

theorem completing_ids (id : String) :
    (completing id tasks).map (fun task => task.taskId) = tasks.map fun task => task.taskId := by
  rw [completing, List.map_map]
  exact List.map_congr_left fun task _ => completingTask_id id task

theorem statusesOf_absent (absent : ¬∃ task ∈ tasks, task.taskId = id) : statusesOf tasks id = none := by
  rw [statusesOf, Option.map_eq_none_iff, List.find?_eq_none]
  intro task member
  simpa using fun same => absent ⟨task, List.mem_reverse.mp member, same⟩

theorem singleton_of_nodup {Item : Type} {items : List Item} {item : Item} (unique : items.Nodup) (some : items ≠ [])
    (only : ∀ other ∈ items, other = item) : items = [item] := by
  cases items with
  | nil => exact absurd rfl some
  | cons first rest =>
    obtain ⟨rfl, later⟩ := List.forall_mem_cons.mp only
    cases rest with
    | nil => rfl
    | cons second rest =>
      obtain rfl := later second List.mem_cons_self
      simp at unique

namespace Snapshot

variable (snapshot : Snapshot tasks edges)
include snapshot

theorem prerequisites_nodup (id : String) : (prerequisitesOf edges id).Nodup := by
  refine (snapshot.unique.filter _).map_on fun left inLeft right inRight same => ?_
  have first : left.taskId = id := by simpa using (List.mem_filter.mp inLeft).2
  have second : right.taskId = id := by simpa using (List.mem_filter.mp inRight).2
  cases left
  cases right
  simp_all

theorem unsatisfied_nodup (id : String) : (unsatisfied tasks edges id).Nodup :=
  (snapshot.prerequisites_nodup id).filter _

theorem unmetEntry_returns (task : GraphTask) : ∃ blocked : List String,
    unmetEntry tasks edges task = .ok (task.taskId, blocked) ∧ blocked = sort (unsatisfied tasks edges task.taskId) := by
  have known : ∀ prerequisite ∈ prerequisitesOf edges task.taskId, (statusesOf tasks prerequisite).isSome = true := by
    intro prerequisite member
    obtain ⟨other, stored, same⟩ := snapshot.known _ (mem_prerequisitesOf.mp member)
    have found := statusesOf_task snapshot.distinct stored
    rw [same] at found
    rw [found]
    rfl
  obtain ⟨blocked, returned⟩ := @blockingPrerequisites_known _ .start _ known
  refine ⟨_, ?_, rfl⟩
  rw [unmetEntry, returned, unsatisfied, ← blockers_unsatisfied returned]
  rfl

theorem projects {Key : Type} [LinearOrder Key] (collation : String → Key) (links : TaskGraphLinkFacts) :
    ∃ unmet : String → List String, (∀ task ∈ tasks, unmet task.taskId = sort (unsatisfied tasks edges task.taskId)) ∧
      projectTaskGraphNodes collation tasks edges links =
        .ok (sortOn (fun node => collation node.taskId) (tasks.map (graphNode tasks links unmet))) := by
  obtain ⟨entries, returned⟩ := @Outcome.mapM_total _ _ _ (unmetEntry tasks edges) tasks fun task _ =>
    ⟨_, (snapshot.unmetEntry_returns task).choose_spec.1⟩
  have keys : entries.map Prod.fst = tasks.map fun task => task.taskId := by
    refine Outcome.mapM_keys returned fun task entry computed => ?_
    obtain ⟨blocked, same, -⟩ := snapshot.unmetEntry_returns task
    rw [same] at computed
    cases computed
    rfl
  refine ⟨unmetById entries, fun task member => ?_, ?_⟩
  · obtain ⟨entry, inEntries, computed⟩ := Outcome.mapM_covers returned member
    obtain ⟨blocked, same, waits⟩ := snapshot.unmetEntry_returns task
    rw [same] at computed
    cases computed
    have found := @find_reverse_keyed _ _ entries Prod.fst (task.taskId, blocked) _ (keys ▸ snapshot.distinct) inEntries
    rw [unmetById, found, ← waits]
    rfl
  · rw [projectTaskGraphNodes, bind_returns returned]
    rfl

theorem completed (id : String) : Snapshot (completing id tasks) edges where
  distinct := by
    rw [completing_ids]
    exact snapshot.distinct
  unique := snapshot.unique
  known edge member := by
    obtain ⟨task, stored, same⟩ := snapshot.known edge member
    refine ⟨_, List.mem_map_of_mem stored, ?_⟩
    rw [completingTask_id, same]
  irreflexive := snapshot.irreflexive

theorem statusesOf_completing (member : task ∈ tasks) (other : String) :
    statusesOf (completing task.taskId tasks) other =
      if other = task.taskId then some .completed else statusesOf tasks other := by
  by_cases stored : ∃ row ∈ tasks, row.taskId = other
  · obtain ⟨row, inTasks, rfl⟩ := stored
    have after := statusesOf_task (snapshot.completed task.taskId).distinct (List.mem_map_of_mem inTasks)
    rw [completingTask_id] at after
    rw [after, statusesOf_task snapshot.distinct inTasks]
    by_cases same : row.taskId = task.taskId <;> simp [completingTask, same]
  · have different : other ≠ task.taskId := fun same => stored ⟨task, member, same.symm⟩
    rw [if_neg different, statusesOf_absent stored, statusesOf_absent]
    rintro ⟨row, inTasks, same⟩
    obtain ⟨before, inBefore, rfl⟩ := List.mem_map.mp inTasks
    exact stored ⟨before, inBefore, by rwa [completingTask_id] at same⟩

theorem unsatisfied_completing (member : task ∈ tasks) (id : String) :
    unsatisfied (completing task.taskId tasks) edges id =
      (unsatisfied tasks edges id).filter fun other => other ≠ task.taskId := by
  rw [unsatisfied, unsatisfied, List.filter_filter]
  refine List.filter_congr fun other _ => ?_
  rw [snapshot.statusesOf_completing member]
  by_cases same : other = task.taskId
  · simp [same, PrerequisiteRequirement.satisfied]
  · simp [same]

theorem startable_iff : Startable tasks edges id ↔
    ∃ task ∈ tasks, task.taskId = id ∧ isTaskRunnable task.recordedStatus = true ∧ unsatisfied tasks edges id = [] := by
  refine exists_congr fun task => and_congr_right fun member => and_congr_right fun same => and_congr_right fun _ => ?_
  obtain ⟨_, entry, waits⟩ := snapshot.unmetEntry_returns task
  obtain ⟨blocked, returned, -⟩ := map_ok entry
  rw [same] at returned
  rw [returned, unsatisfied, ← blockers_unsatisfied returned]
  simp

theorem ready_iff (links : TaskGraphLinkFacts) (unmet : String → List String)
    (waits : ∀ task ∈ tasks, unmet task.taskId = sort (unsatisfied tasks edges task.taskId)) (member : task ∈ tasks) :
    (graphNode tasks links unmet task).ready = true ↔ Startable tasks edges task.taskId := by
  have none : unmet task.taskId = [] ↔ unsatisfied tasks edges task.taskId = [] := by
    rw [waits task member]
    exact sortOn_eq_nil
  rw [snapshot.startable_iff, graphNode, Bool.and_eq_true, decide_eq_true_eq, none]
  constructor
  · rintro ⟨runnable, satisfied⟩
    exact ⟨task, member, rfl, runnable, satisfied⟩
  · rintro ⟨other, stored, same, runnable, satisfied⟩
    obtain rfl := keyed_eq snapshot.distinct member stored same
    exact ⟨runnable, satisfied⟩

theorem readyIn_iff {Key : Type} [LinearOrder Key] (collation : String → Key) (links : TaskGraphLinkFacts) :
    ReadyIn collation tasks edges links id ↔ Startable tasks edges id := by
  obtain ⟨unmet, waits, returned⟩ := snapshot.projects collation links
  simp only [ReadyIn, returned, Except.ok.injEq, exists_eq_left', mem_sortOn]
  constructor
  · rintro ⟨node, inNodes, rfl, ready⟩
    obtain ⟨task, member, rfl⟩ := List.mem_map.mp inNodes
    exact (snapshot.ready_iff links unmet waits member).mp ready
  · rintro ⟨task, member, rfl, admitted⟩
    exact ⟨_, List.mem_map_of_mem member, rfl,
      (snapshot.ready_iff links unmet waits member).mpr ⟨task, member, rfl, admitted⟩⟩

theorem unblocks_iff (unmet : String → List String)
    (waits : ∀ task ∈ tasks, unmet task.taskId = sort (unsatisfied tasks edges task.taskId)) (member : task ∈ tasks) :
    id ∈ sort (unblocks tasks unmet task.taskId) ↔ isTerminalTaskStatus task.recordedStatus = false ∧
      ¬Startable tasks edges id ∧ Startable (completing task.taskId tasks) edges id := by
  have after := snapshot.completed task.taskId
  rw [snapshot.startable_iff, after.startable_iff, snapshot.unsatisfied_completing member]
  simp only [sort, mem_sortOn, unblocks, List.mem_map, List.mem_filter, unblockedBy, statusesOf_task snapshot.distinct member,
    Option.getD_some, Bool.and_eq_true, decide_eq_true_eq, Bool.not_eq_true']
  constructor
  · rintro ⟨dependent, ⟨stored, ⟨only, runnable⟩, unfinished⟩, rfl⟩
    rw [waits dependent stored, sort] at only
    have waitsFor : unsatisfied tasks edges dependent.taskId = [task.taskId] :=
      List.perm_singleton.mp (only ▸ (sortOn_perm codeUnits _).symm)
    have linked : ⟨dependent.taskId, task.taskId⟩ ∈ edges :=
      mem_prerequisitesOf.mp (List.mem_of_mem_filter (waitsFor ▸ List.mem_singleton_self task.taskId))
    refine ⟨unfinished, ?_, _, List.mem_map_of_mem stored, completingTask_id _ _, ?_, ?_⟩
    · rintro ⟨_, _, _, _, none⟩
      rw [waitsFor] at none
      cases none
    · rw [completingTask, if_neg (snapshot.irreflexive _ linked)]
      exact runnable
    · rw [waitsFor]
      simp
  · rintro ⟨unfinished, waiting, changed, inChanged, same, runnable, satisfied⟩
    obtain ⟨dependent, stored, rfl⟩ := List.mem_map.mp inChanged
    rw [completingTask_id] at same
    subst same
    have different : dependent.taskId ≠ task.taskId := by
      intro same
      rw [completingTask, if_pos same] at runnable
      cases runnable
    rw [completingTask, if_neg different] at runnable
    have blocked : unsatisfied tasks edges dependent.taskId ≠ [] := fun none => waiting ⟨dependent, stored, rfl, runnable, none⟩
    have waitsFor : unsatisfied tasks edges dependent.taskId = [task.taskId] := by
      refine singleton_of_nodup (snapshot.unsatisfied_nodup dependent.taskId) blocked fun other inside => ?_
      simpa using List.filter_eq_nil_iff.mp satisfied other inside
    exact ⟨dependent, ⟨stored, ⟨by rw [waits dependent stored, waitsFor]; rfl, runnable⟩, unfinished⟩, rfl⟩

end Snapshot

variable {Key : Type} [LinearOrder Key]

/--
A node is ready exactly when the start of its task would be admitted, and it unblocks exactly those that are not ready
and would be if only its own recorded status became completed.
-/
theorem projectTaskGraphNodes_truthful (collation : String → Key) (links : TaskGraphLinkFacts)
    (snapshot : Snapshot tasks edges) : ∃ nodes,
      projectTaskGraphNodes collation tasks edges links = .ok nodes ∧
      (nodes.map TaskGraphNode.taskId).Perm (tasks.map fun task => task.taskId) ∧
      (∀ node ∈ nodes, node.ready = true ↔ Startable tasks edges node.taskId) ∧
      ∀ node ∈ nodes, ∀ id, id ∈ node.completionUnblocks ↔
        isTerminalTaskStatus node.recordedStatus = false ∧ ¬ReadyIn collation tasks edges links id ∧
          ReadyIn collation (completing node.taskId tasks) edges links id := by
  obtain ⟨unmet, waits, returned⟩ := snapshot.projects collation links
  refine ⟨_, returned, ?_, ?_, ?_⟩
  · have ids : (tasks.map (graphNode tasks links unmet)).map TaskGraphNode.taskId = tasks.map fun task => task.taskId := by
      rw [List.map_map]
      rfl
    rw [← ids]
    exact (sortOn_perm _ _).map _
  · intro node inNodes
    obtain ⟨task, member, rfl⟩ := List.mem_map.mp (mem_sortOn.mp inNodes)
    exact snapshot.ready_iff links unmet waits member
  · intro node inNodes id
    obtain ⟨task, member, rfl⟩ := List.mem_map.mp (mem_sortOn.mp inNodes)
    rw [snapshot.readyIn_iff]
    exact (snapshot.unblocks_iff unmet waits member).trans
      (and_congr_right fun _ => and_congr_right fun _ => ((snapshot.completed task.taskId).readyIn_iff collation links).symm)

def graphTask (id : String) (recordedStatus : TaskStatus) : GraphTask where
  taskId := id
  projectId := "project"
  recordedStatus
  terminal := false
  operationalStatus := .notStarted
  divergesFromRecordedStatus := false
  divergenceReasons := []
  leaseExpired := false
  runsWithoutValidLeaseCount := 0
  pendingReviewCount := 0
  attentionReasons := []
  title := id
  priority := 0
  assignedAgent := none
  milestones := []

def waitingPair : List GraphTask := [graphTask "first" .running, graphTask "second" .pending]

theorem waitingPair_snapshot : Snapshot waitingPair [⟨"second", "first"⟩] where
  distinct := by decide
  unique := by decide
  known edge member := by
    obtain rfl := List.mem_singleton.mp member
    exact ⟨graphTask "first" .running, List.mem_cons_self, rfl⟩
  irreflexive edge member := by
    obtain rfl := List.mem_singleton.mp member
    decide

theorem projectTaskGraphNodes_truthful_waitingPair : ∃ nodes,
    projectTaskGraphNodes codeUnits waitingPair [⟨"second", "first"⟩] ⟨[], []⟩ = .ok nodes ∧
      (nodes.map TaskGraphNode.taskId).Perm (waitingPair.map fun task => task.taskId) ∧
      (∀ node ∈ nodes, node.ready = true ↔ Startable waitingPair [⟨"second", "first"⟩] node.taskId) ∧
      ∀ node ∈ nodes, ∀ id, id ∈ node.completionUnblocks ↔
        isTerminalTaskStatus node.recordedStatus = false ∧
          ¬ReadyIn codeUnits waitingPair [⟨"second", "first"⟩] ⟨[], []⟩ id ∧
          ReadyIn codeUnits (completing node.taskId waitingPair) [⟨"second", "first"⟩] ⟨[], []⟩ id :=
  projectTaskGraphNodes_truthful codeUnits ⟨[], []⟩ waitingPair_snapshot

example : (projectTaskGraphNodes codeUnits waitingPair [⟨"second", "first"⟩] ⟨[], []⟩).toOption.map
    (fun nodes => nodes.map TaskGraphNode.completionUnblocks) = some [["second"], []] := by decide

end

end AiOffice.Application.ReadModels
