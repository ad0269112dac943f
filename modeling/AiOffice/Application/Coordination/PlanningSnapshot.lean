import AiOffice.Application.ReconcileTasks
import AiOffice.Domain.CanonicalJson

namespace AiOffice.Application

def MilestoneStatus.text : MilestoneStatus → String
  | .planned => "planned"
  | .active => "active"
  | .completed => "completed"
  | .cancelled => "cancelled"
  | .archived => "archived"

def RequirementStatus.text : RequirementStatus → String
  | .proposed => "proposed"
  | .accepted => "accepted"
  | .implemented => "implemented"
  | .verified => "verified"
  | .rejected => "rejected"

end AiOffice.Application

namespace AiOffice.Application.Coordination

open Data Domain

structure PlanningTaskRecord where
  id : String
  title : String
  status : TaskStatus
  priority : Int

structure PlanningMilestoneRecord where
  id : String
  title : String
  status : MilestoneStatus
  createdAt : Date

structure PlanningRequirementRecord where
  id : String
  key : String
  title : String
  status : RequirementStatus
  milestoneId : Option String

structure PlanningStateRecord where
  projectId : String
  milestones : List PlanningMilestoneRecord
  tasks : List PlanningTaskRecord
  dependencies : List TaskDependencyEdge
  requirements : List PlanningRequirementRecord
  taskRequirementLinks : List TaskRequirementLink

/-- The classes of planning data: identifiers and relations, which are always there, and titles. -/
inductive PlanningDataClass
  | P
  | T
  deriving DecidableEq

def PlanningDataClass.text : PlanningDataClass → String
  | .P => "P"
  | .T => "T"

structure PlanningSnapshotScope where
  projectId : String
  milestoneId : Option String

structure PlanningMilestone where
  milestoneId : String
  title : Option String
  status : MilestoneStatus

structure PlanningTask where
  taskId : String
  title : Option String
  status : TaskStatus
  priority : Int
  milestoneIds : List String
  requirementIds : List String
  prerequisiteIds : List String

structure PlanningRequirement where
  requirementId : String
  key : String
  title : Option String
  status : RequirementStatus
  milestoneId : Option String
  taskIds : List String

structure PlanningRunnableTask where
  taskId : String
  status : TaskStatus
  priority : Int

structure PlanningActiveTask where
  taskId : String
  status : TaskStatus
  priority : Int

inductive PlanningBlockerReason
  | unmetPrerequisites
  | recordedBlocked
  deriving DecidableEq

def PlanningBlockerReason.text : PlanningBlockerReason → String
  | .unmetPrerequisites => "unmet_prerequisites"
  | .recordedBlocked => "recorded_blocked"

structure PlanningBlocker where
  taskId : String
  status : TaskStatus
  reasons : List PlanningBlockerReason
  unmetPrerequisiteIds : List String

inductive PlanningDecision
  | taskReviewPending (subjectId : String)
  | requirementProposed (subjectId : String)

inductive PlanningInconsistencyCode
  | taskContradictsRequirements
  | completedWithIncompletePrerequisite
  | milestoneClosedWithOpenTask
  deriving DecidableEq

def PlanningInconsistencyCode.text : PlanningInconsistencyCode → String
  | .taskContradictsRequirements => "TASK_CONTRADICTS_REQUIREMENTS"
  | .completedWithIncompletePrerequisite => "COMPLETED_WITH_INCOMPLETE_PREREQUISITE"
  | .milestoneClosedWithOpenTask => "MILESTONE_CLOSED_WITH_OPEN_TASK"

def PlanningInconsistencyCode.subjectType : PlanningInconsistencyCode → String
  | .taskContradictsRequirements | .completedWithIncompletePrerequisite => "task"
  | .milestoneClosedWithOpenTask => "milestone"

structure PlanningInconsistency where
  code : PlanningInconsistencyCode
  subjectId : String
  relatedIds : List String

structure PlanningAuthoritative where
  milestones : List PlanningMilestone
  tasks : List PlanningTask
  requirements : List PlanningRequirement
  dependencies : List TaskDependencyEdge

structure PlanningDerived where
  runnable : List PlanningRunnableTask
  active : List PlanningActiveTask
  blockers : List PlanningBlocker
  decisions : List PlanningDecision
  inconsistencies : List PlanningInconsistency

structure PlanningSnapshotBody where
  scope : PlanningSnapshotScope
  classes : List PlanningDataClass
  authoritative : PlanningAuthoritative
  derived : PlanningDerived

structure PlanningSnapshot extends PlanningSnapshotBody where
  snapshotId : String

namespace PlanningStateRecord

variable (state : PlanningStateRecord)

def sortedTasks : List PlanningTaskRecord :=
  sortOn (fun task => toLex (-task.priority, codeUnits task.id)) state.tasks

def statuses (id : String) : Option TaskStatus :=
  (state.sortedTasks.reverse.find? fun task => task.id = id).map PlanningTaskRecord.status

def requirementById (id : String) : Option PlanningRequirementRecord :=
  state.requirements.reverse.find? fun requirement => requirement.id = id

def prerequisitesOf (taskId : String) : List String :=
  (state.dependencies.filter fun edge => edge.taskId = taskId).map TaskDependencyEdge.dependsOnTaskId

def requirementsOf (taskId : String) : List String :=
  (state.taskRequirementLinks.filter fun link => link.taskId = taskId).map TaskRequirementLink.requirementId

def tasksOfRequirement (requirementId : String) : List String :=
  (state.taskRequirementLinks.filter fun link => link.requirementId = requirementId).map TaskRequirementLink.taskId

/-- The milestones that a task of the project reaches through its requirements. -/
def milestonesOf (taskId : String) : List String :=
  if state.tasks.any fun task => task.id = taskId then
    sortedUnique ((state.requirementsOf taskId).flatMap fun id =>
      ((state.requirementById id).bind PlanningRequirementRecord.milestoneId).toList)
  else []

/-- The prerequisites of a task that do not satisfy a requirement, in order. -/
def unmet (requirement : PrerequisiteRequirement) (taskId : String) : Except Thrown (List String) :=
  (blockingPrerequisites state.statuses requirement (state.prerequisitesOf taskId)).map fun blocked =>
    sort (blocked.map BlockingPrerequisite.taskId)

def inScopeTask (scope : PlanningSnapshotScope) (taskId : String) : Bool :=
  scope.milestoneId.all fun milestoneId => milestoneId ∈ state.milestonesOf taskId

def scopedTasks (scope : PlanningSnapshotScope) : List PlanningTaskRecord :=
  state.sortedTasks.filter fun task => state.inScopeTask scope task.id

def scopedMilestones (scope : PlanningSnapshotScope) : List PlanningMilestoneRecord :=
  sortOn (fun milestone => toLex (milestone.createdAt, codeUnits milestone.id))
    (state.milestones.filter fun milestone => scope.milestoneId.all fun milestoneId => milestone.id = milestoneId)

def scopedRequirements (scope : PlanningSnapshotScope) : List PlanningRequirementRecord :=
  sortOn (fun requirement => toLex (codeUnits requirement.key, codeUnits requirement.id))
    (state.requirements.filter fun requirement => scope.milestoneId.all fun milestoneId =>
      requirement.milestoneId = some milestoneId)

def dependenciesOf (scope : PlanningSnapshotScope) : List TaskDependencyEdge :=
  sortOn (fun edge => toLex (codeUnits edge.taskId, codeUnits edge.dependsOnTaskId))
    (state.dependencies.filter fun edge => state.inScopeTask scope edge.taskId)

end PlanningStateRecord

def notStarted (status : TaskStatus) : Bool := status = .pending || status = .assigned

structure ReadTask where
  task : PlanningTaskRecord
  unmetStart : List String

def runnableOf (tasks : List ReadTask) : List PlanningRunnableTask :=
  (tasks.filter fun read => notStarted read.task.status && read.unmetStart.length = 0).map fun read =>
    ⟨read.task.id, read.task.status, read.task.priority⟩

def activeOf (tasks : List ReadTask) : List PlanningActiveTask :=
  (tasks.filter fun read => read.task.status = .running || read.task.status = .waitingReview).map fun read =>
    ⟨read.task.id, read.task.status, read.task.priority⟩

def blockerReasons (read : ReadTask) : List PlanningBlockerReason :=
  (if 0 < read.unmetStart.length then [.unmetPrerequisites] else []) ++
    if read.task.status = .blocked then [.recordedBlocked] else []

def blockersOf (tasks : List ReadTask) : List PlanningBlocker :=
  tasks.flatMap fun read =>
    if isTerminalTaskStatus read.task.status then []
    else if blockerReasons read = [] then []
    else [⟨read.task.id, read.task.status, blockerReasons read, read.unmetStart⟩]

def decisionsOf (tasks : List ReadTask) (requirements : List PlanningRequirementRecord) : List PlanningDecision :=
  ((tasks.filter fun read => read.task.status = .waitingReview).map fun read => .taskReviewPending read.task.id) ++
    (requirements.filter fun requirement => requirement.status = .proposed).map fun requirement =>
      .requirementProposed requirement.id

namespace PlanningStateRecord

variable (state : PlanningStateRecord)

/-- A task that has not started though all the requirements it is linked to are decided. -/
def contradicting (task : PlanningTaskRecord) : List PlanningInconsistency :=
  let linked := sortedUnique (state.requirementsOf task.id)
  if notStarted task.status ∧ linked ≠ [] ∧
      linked.all fun id => (state.requirementById id).any fun requirement =>
        isTerminalRequirementStatus requirement.status then
    [⟨.taskContradictsRequirements, task.id, linked⟩]
  else []

def completedEarly (task : PlanningTaskRecord) : Except Thrown (List PlanningInconsistency) :=
  if task.status = .completed then
    (state.unmet .completion task.id).map fun incomplete =>
      if incomplete.length = 0 then [] else [⟨.completedWithIncompletePrerequisite, task.id, incomplete⟩]
  else .ok []

def taskInconsistencies (task : PlanningTaskRecord) : Except Thrown (List PlanningInconsistency) :=
  (state.completedEarly task).map fun early => state.contradicting task ++ early

def milestoneInconsistencies (milestone : PlanningMilestoneRecord) : List PlanningInconsistency :=
  if milestone.status ∉ [MilestoneStatus.completed, .cancelled, .archived] then []
  else
    let openTasks := sort ((state.sortedTasks.filter fun task =>
      !isTerminalTaskStatus task.status && milestone.id ∈ state.milestonesOf task.id).map PlanningTaskRecord.id)
    if openTasks.length = 0 then [] else [⟨.milestoneClosedWithOpenTask, milestone.id, openTasks⟩]

def plannedTask (withTitles : Bool) (task : PlanningTaskRecord) : PlanningTask where
  taskId := task.id
  title := if withTitles then some task.title else none
  status := task.status
  priority := task.priority
  milestoneIds := state.milestonesOf task.id
  requirementIds := sortedUnique (state.requirementsOf task.id)
  prerequisiteIds := sortedUnique (state.prerequisitesOf task.id)

def plannedRequirement (withTitles : Bool) (requirement : PlanningRequirementRecord) : PlanningRequirement where
  requirementId := requirement.id
  key := requirement.key
  title := if withTitles then some requirement.title else none
  status := requirement.status
  milestoneId := requirement.milestoneId
  taskIds := sortedUnique (state.tasksOfRequirement requirement.id)

end PlanningStateRecord

def plannedMilestone (withTitles : Bool) (milestone : PlanningMilestoneRecord) : PlanningMilestone where
  milestoneId := milestone.id
  title := if withTitles then some milestone.title else none
  status := milestone.status

/-- The complete projection of one scope. Every task is read before the scope is applied. -/
def snapshotBody (state : PlanningStateRecord) (scope : PlanningSnapshotScope) (classes : List PlanningDataClass) :
    Except Thrown PlanningSnapshotBody := do
  let withTitles := classes.contains .T
  let unmetStart ← state.sortedTasks.mapM fun task => (state.unmet .start task.id).map (ReadTask.mk task)
  let inScope := unmetStart.filter fun read => state.inScopeTask scope read.task.id
  let milestones := state.scopedMilestones scope
  let requirements := state.scopedRequirements scope
  let ofTasks ← (inScope.map ReadTask.task).mapM state.taskInconsistencies
  return {
    scope
    classes := sortOn (codeUnits ·.text) classes.dedup
    authoritative := {
      milestones := milestones.map (plannedMilestone withTitles)
      tasks := inScope.map fun read => state.plannedTask withTitles read.task
      requirements := requirements.map (state.plannedRequirement withTitles)
      dependencies := state.dependenciesOf scope }
    derived := {
      runnable := runnableOf inScope
      active := activeOf inScope
      blockers := blockersOf inScope
      decisions := decisionsOf inScope requirements
      inconsistencies := sortOn (fun item => toLex (codeUnits item.code.text, codeUnits item.subjectId))
        (ofTasks.flatten ++ milestones.flatMap state.milestoneInconsistencies) } }

section Digest

def idValue (id : Option String) : Value := id.elim .null .string

def idsValue (ids : List String) : Value := .array (ids.map .string)

def titleEntry (title : Option String) : Record := (title.map fun text => ("title", Value.string text)).toList

def PlanningSnapshotScope.value (scope : PlanningSnapshotScope) : Value :=
  .object [("projectId", .string scope.projectId), ("milestoneId", idValue scope.milestoneId)]

def PlanningMilestone.value (item : PlanningMilestone) : Value :=
  .object ([("milestoneId", .string item.milestoneId)] ++ titleEntry item.title ++
    [("status", .string item.status.text)])

def PlanningTask.value (item : PlanningTask) : Value :=
  .object ([("taskId", .string item.taskId)] ++ titleEntry item.title ++
    [("status", .string item.status.text), ("priority", .number item.priority),
      ("milestoneIds", idsValue item.milestoneIds), ("requirementIds", idsValue item.requirementIds),
      ("prerequisiteIds", idsValue item.prerequisiteIds)])

def PlanningRequirement.value (item : PlanningRequirement) : Value :=
  .object ([("requirementId", .string item.requirementId), ("key", .string item.key)] ++ titleEntry item.title ++
    [("status", .string item.status.text), ("milestoneId", idValue item.milestoneId), ("taskIds", idsValue item.taskIds)])

def dependencyValue (item : TaskDependencyEdge) : Value :=
  .object [("taskId", .string item.taskId), ("dependsOnTaskId", .string item.dependsOnTaskId)]

def standingValue (taskId : String) (status : TaskStatus) (priority : Int) : Value :=
  .object [("taskId", .string taskId), ("status", .string status.text), ("priority", .number priority)]

def PlanningRunnableTask.value (item : PlanningRunnableTask) : Value :=
  standingValue item.taskId item.status item.priority

def PlanningActiveTask.value (item : PlanningActiveTask) : Value :=
  standingValue item.taskId item.status item.priority

def PlanningBlocker.value (item : PlanningBlocker) : Value :=
  .object [("taskId", .string item.taskId), ("status", .string item.status.text),
    ("reasons", .array (item.reasons.map fun reason => .string reason.text)),
    ("unmetPrerequisiteIds", idsValue item.unmetPrerequisiteIds)]

def PlanningDecision.value : PlanningDecision → Value
  | .taskReviewPending subjectId => .object [("kind", .string "task_review_pending"), ("subjectType", .string "task"),
      ("subjectId", .string subjectId)]
  | .requirementProposed subjectId => .object [("kind", .string "requirement_proposed"),
      ("subjectType", .string "requirement"), ("subjectId", .string subjectId)]

def PlanningInconsistency.value (item : PlanningInconsistency) : Value :=
  .object [("code", .string item.code.text), ("subjectType", .string item.code.subjectType),
    ("subjectId", .string item.subjectId), ("relatedIds", idsValue item.relatedIds)]

def planningSnapshotSchemaVersion : Rat := 1

def classesValue (classes : List PlanningDataClass) : Value := .array (classes.map fun item => .string item.text)

def PlanningAuthoritative.value (items : PlanningAuthoritative) : Value :=
  .object [("milestones", .array (items.milestones.map PlanningMilestone.value)),
    ("tasks", .array (items.tasks.map PlanningTask.value)),
    ("requirements", .array (items.requirements.map PlanningRequirement.value)),
    ("dependencies", .array (items.dependencies.map dependencyValue))]

def PlanningDerived.value (items : PlanningDerived) : Value :=
  .object [("runnable", .array (items.runnable.map PlanningRunnableTask.value)),
    ("active", .array (items.active.map PlanningActiveTask.value)),
    ("blockers", .array (items.blockers.map PlanningBlocker.value)),
    ("decisions", .array (items.decisions.map PlanningDecision.value)),
    ("inconsistencies", .array (items.inconsistencies.map PlanningInconsistency.value))]

def PlanningSnapshotBody.value (body : PlanningSnapshotBody) : Value :=
  .object [("schemaVersion", .number planningSnapshotSchemaVersion), ("scope", body.scope.value),
    ("classes", classesValue body.classes), ("authoritative", body.authoritative.value),
    ("derived", body.derived.value)]

end Digest

section Projection

-- The digest of the canonical text of a value.
variable (sha256 : Value → String)

def projectPlanningSnapshot (state : PlanningStateRecord) (scope : PlanningSnapshotScope)
    (classes : List PlanningDataClass) : Except Thrown PlanningSnapshot :=
  (snapshotBody state scope classes).map fun body =>
    { body with snapshotId := s!"snapshot:sha256:{sha256 body.value}" }

inductive PlanningSnapshotCollection
  | milestones
  | tasks
  | requirements
  | dependencies
  | runnable
  | active
  | blockers
  | decisions
  | inconsistencies
  deriving DecidableEq

def PlanningSnapshotCollection.text : PlanningSnapshotCollection → String
  | .milestones => "milestones"
  | .tasks => "tasks"
  | .requirements => "requirements"
  | .dependencies => "dependencies"
  | .runnable => "runnable"
  | .active => "active"
  | .blockers => "blockers"
  | .decisions => "decisions"
  | .inconsistencies => "inconsistencies"

def planningSnapshotCollections : List PlanningSnapshotCollection :=
  [.milestones, .tasks, .requirements, .dependencies, .runnable, .active, .blockers, .decisions, .inconsistencies]

def authoritativeCollections : List PlanningSnapshotCollection := [.milestones, .tasks, .requirements, .dependencies]

inductive PlanningSnapshotItem
  | milestone (item : PlanningMilestone)
  | task (item : PlanningTask)
  | requirement (item : PlanningRequirement)
  | dependency (item : TaskDependencyEdge)
  | runnable (item : PlanningRunnableTask)
  | active (item : PlanningActiveTask)
  | blocker (item : PlanningBlocker)
  | decision (item : PlanningDecision)
  | inconsistency (item : PlanningInconsistency)

def PlanningSnapshotItem.value : PlanningSnapshotItem → Value
  | .milestone item => item.value
  | .task item => item.value
  | .requirement item => item.value
  | .dependency item => dependencyValue item
  | .runnable item => item.value
  | .active item => item.value
  | .blocker item => item.value
  | .decision item => item.value
  | .inconsistency item => item.value

def collectionItems (snapshot : PlanningSnapshot) : PlanningSnapshotCollection → List PlanningSnapshotItem
  | .milestones => snapshot.authoritative.milestones.map .milestone
  | .tasks => snapshot.authoritative.tasks.map .task
  | .requirements => snapshot.authoritative.requirements.map .requirement
  | .dependencies => snapshot.authoritative.dependencies.map .dependency
  | .runnable => snapshot.derived.runnable.map .runnable
  | .active => snapshot.derived.active.map .active
  | .blockers => snapshot.derived.blockers.map .blocker
  | .decisions => snapshot.derived.decisions.map .decision
  | .inconsistencies => snapshot.derived.inconsistencies.map .inconsistency

structure PageWindow where
  offset : Nat
  limit : Nat
  total : Nat
  truncated : Bool

structure PlanningSnapshotPage where
  snapshotId : String
  scope : PlanningSnapshotScope
  classes : List PlanningDataClass
  counts : List (PlanningSnapshotCollection × Nat)
  collection : PlanningSnapshotCollection
  page : PageWindow
  pageDigest : String
  items : List PlanningSnapshotItem

def pageValue (snapshot : PlanningSnapshot) (counts : List (PlanningSnapshotCollection × Nat))
    (collection : PlanningSnapshotCollection) (page : PageWindow) (items : List PlanningSnapshotItem) : Value :=
  .object [("schemaVersion", .number planningSnapshotSchemaVersion), ("snapshotId", .string snapshot.snapshotId),
    ("scope", snapshot.scope.value), ("classes", classesValue snapshot.classes),
    ("counts", .object (counts.map fun count => (count.1.text, .number count.2))),
    ("collection", .string collection.text),
    ("section", .string (if collection ∈ authoritativeCollections then "authoritative" else "derived")),
    ("page", .object [("offset", .number page.offset), ("limit", .number page.limit), ("total", .number page.total),
      ("truncated", .boolean page.truncated)]),
    ("items", .array (items.map PlanningSnapshotItem.value))]

def planningSnapshotPage (snapshot : PlanningSnapshot) (collection : PlanningSnapshotCollection)
    (offset limit : Nat) : PlanningSnapshotPage :=
  let all := collectionItems snapshot collection
  let items := (all.drop offset).take limit
  let counts := planningSnapshotCollections.map fun name => (name, (collectionItems snapshot name).length)
  let page : PageWindow := {
    offset
    limit
    total := all.length
    truncated := offset + items.length < all.length }
  { snapshotId := snapshot.snapshotId
    scope := snapshot.scope
    classes := snapshot.classes
    counts
    collection
    page
    pageDigest := s!"sha256:{sha256 (pageValue snapshot counts collection page items)}"
    items }

end Projection

end AiOffice.Application.Coordination
