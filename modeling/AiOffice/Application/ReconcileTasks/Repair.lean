import AiOffice.Application.ReconcileTasks.Findings
import AiOffice.Data.Keyed

namespace AiOffice.Application.ReconcileTasks

open Data Outcome Domain Storage.Office

theorem exitClause_length {exit : ReviewExit} (id : utf16Length exit.taskId ≤ 256) :
    utf16Length s!"prerequisite {exit.taskId} exited review to {exit.exitedTo.text}" ≤ 301 := by
  have opening : utf16Length "prerequisite " = 13 := by decide
  have middle : utf16Length " exited review to " = 18 := by decide
  have status : utf16Length exit.exitedTo.text ≤ 14 := by cases exit.exitedTo <;> decide
  simp only [toString, utf16Length_append, opening, middle]
  omega

/-- The reason of a repair stays within the limit of a reason. -/
theorem reviewExitRepairReason_length {exits : List ReviewExit}
    (ids : ∀ exit ∈ exits, utf16Length exit.taskId ≤ 256) (length : exits.length < 2 ^ 32) :
    utf16Length (reviewExitRepairReason exits) ≤ maximumTaskReasonLength := by
  have opening : utf16Length "reconciled: " = 12 := by decide
  have separator : utf16Length ", " = 2 := by decide
  have counted : utf16Length ", and " = 6 := by decide
  have closing : utf16Length " more" = 5 := by decide
  have none : utf16Length "" = 0 := by decide
  let clauses := (exits.take 3).map fun exit => s!"prerequisite {exit.taskId} exited review to {exit.exitedTo.text}"
  have joined : utf16Length (", ".intercalate clauses) ≤ clauses.length * (301 + utf16Length ", ") := by
    refine utf16Length_intercalate_le ", " fun value member => ?_
    obtain ⟨exit, taken, rfl⟩ := List.mem_map.mp member
    exact exitClause_length (ids exit (List.mem_of_mem_take taken))
  have few : clauses.length ≤ 3 := by rw [List.length_map]; exact List.length_take_le 3 exits
  have number : utf16Length (toString (exits.length - (exits.take 3).length)) ≤ 2 * 10 :=
    utf16Length_toString_le _ (by decide) (by omega)
  have rest : utf16Length (if exits.length - (exits.take 3).length = 0 then ""
      else s!", and {exits.length - (exits.take 3).length} more") ≤ 31 := by
    split
    · rw [none]; exact Nat.zero_le _
    · rw [utf16Length_append, utf16Length_append]
      change utf16Length ", and " + _ + utf16Length " more" ≤ 31
      omega
  unfold reviewExitRepairReason maximumTaskReasonLength
  dsimp only
  rw [utf16Length_append, utf16Length_append]
  change utf16Length "reconciled: " + utf16Length (", ".intercalate clauses) + _ ≤ 2000
  rw [separator] at joined
  have bound := Nat.mul_le_mul_right (301 + 2) few
  omega

theorem reviewExitRepairReason_normalized {exits : List ReviewExit} (label : String)
    (ids : ∀ exit ∈ exits, utf16Length exit.taskId ≤ 256) (length : exits.length < 2 ^ 32) :
    ∃ reason, normalizeTaskReason (reviewExitRepairReason exits) label = .ok reason := by
  have nonempty : utf16Length (trim (reviewExitRepairReason exits)) ≠ 0 := by
    have starts : 'r' ∈ (reviewExitRepairReason exits).toList := by
      unfold reviewExitRepairReason
      simp only [String.toList_append, List.mem_append]
      exact .inl (.inl (by decide))
    exact utf16Length_trim_pos starts (by decide)
  have short := (utf16Length_trim_le _).trans (reviewExitRepairReason_length ids length)
  exact ⟨_, by rw [normalizeTaskReason, if_neg nonempty, if_neg (Nat.not_lt.mpr short)]⟩
/-- Task rows as the storage keeps them: an id is the primary key and has at most 256 code units, and an array holds
the edges. -/
structure StoredTasks (office : OfficeTables) : Prop where
  unique : (office.tasks.map TaskProps.id).Nodup
  ids : ∀ task ∈ office.tasks, utf16Length task.id ≤ 256
  edges : office.dependencies.length < 2 ^ 32

variable {office : OfficeTables} {projectId : String} {task : TaskProps} {issue : TaskReconciliationIssue}
  {operation : TaskLifecycleOperation} {now : Date}

theorem StoredTasks.findTask (stored : StoredTasks office) (member : task ∈ office.tasks) :
    office.findTask task.id = some task :=
  find_keyed stored.unique member (decide_eq_true rfl) fun _ _ same => of_decide_eq_true same

theorem statuses_some {id : String} {status : TaskStatus} (known : office.statuses projectId id = some status) :
    ∃ task ∈ office.tasks, task.id = id ∧ task.projectId = projectId ∧ task.status = status := by
  obtain ⟨task, found, rfl⟩ := Option.map_eq_some_iff.mp known
  have selected := List.find?_some found
  rw [Bool.and_eq_true, decide_eq_true_eq, decide_eq_true_eq] at selected
  exact ⟨task, List.mem_of_find?_eq_some found, selected.2, selected.1, rfl⟩

theorem StoredTasks.prerequisite (stored : StoredTasks office) {id : String} {status : TaskStatus}
    (known : office.statuses projectId id = some status) (member : task ∈ office.tasks) (same : task.id = id) :
    task.status = status := by
  obtain ⟨other, also, sameId, -, rfl⟩ := statuses_some known
  rw [keyed_eq stored.unique also member (same.trans sameId.symm)]

def moved (taskId : String) (operation : TaskLifecycleOperation) (now : Date) (task : TaskProps) : TaskProps :=
  if task.id = taskId then { task with status := operation.to, updatedAt := now } else task

def moveTask (office : OfficeTables) (taskId : String) (operation : TaskLifecycleOperation) (now : Date) :
    OfficeTables :=
  { office with tasks := office.tasks.map (moved taskId operation now) }

theorem replaceTask_moves (stored : StoredTasks office) (member : task ∈ office.tasks) :
    office.replaceTask { task with status := operation.to, updatedAt := now } =
      moveTask office task.id operation now := by
  unfold OfficeTables.replaceTask moveTask moved
  congr 1
  refine List.map_congr_left fun row inTasks => ?_
  dsimp only
  split
  · next same =>
    obtain rfl := keyed_eq stored.unique member inTasks same
    rfl
  · rfl

theorem Takes.admitted (stored : StoredTasks office) (takes : Takes office projectId task operation)
    (inProject : task.projectId = projectId) :
    taskUpdateRefused office task { task with status := operation.to, updatedAt := now } = false := by
  have unstarted : operation.to ≠ .running := by
    have notStart := takes.notStart
    cases operation <;> simp [TaskLifecycleOperation.to] at notStart ⊢
  simp only [taskUpdateRefused, unstarted, decide_false, Bool.false_and, Bool.false_or]
  by_cases completes : operation.to = .completed
  · have completing : operation = .complete := by cases operation <;> first | rfl | cases completes
    have satisfied : office.unsatisfied .completion task.projectId task.id = false := by
      rw [OfficeTables.unsatisfied, List.any_eq_false]
      intro id prerequisite
      rw [Bool.not_eq_true, List.any_eq_false]
      intro row inTasks
      rw [inProject] at prerequisite
      have completed := takes.prerequisites completing id (mem_prerequisiteIds.mpr prerequisite)
      simp only [Bool.and_eq_true, decide_eq_true_eq, not_and, Bool.not_eq_true']
      intro same
      rw [stored.prerequisite completed inTasks same]
      decide
    rw [satisfied, Bool.and_false]
  · simp only [completes, decide_false, Bool.false_and]

theorem assertAdmitted_returns {request : TaskLifecycleRequest} {project : String}
    (takes : Takes office project task request.operation) (about : request.taskId = task.id)
    (inProject : request.projectId = project) : ManageTaskLifecycle.assertAdmitted request office = .ok () := by
  unfold ManageTaskLifecycle.assertAdmitted
  split
  · next starts => exact absurd starts takes.notStart
  · next completes =>
    have none : blockingPrerequisites (office.statuses request.projectId) .completion
        (office.prerequisites request.projectId request.taskId) = .ok [] := by
      rw [blockingPrerequisites_none_iff]
      intro id prerequisite
      rw [inProject, about] at prerequisite
      refine ⟨.completed, ?_, by decide⟩
      rw [inProject]
      exact takes.prerequisites completes id (mem_prerequisiteIds.mpr prerequisite)
    rw [assertTaskPrerequisitesComplete, bind_returns none]
    rfl
  · rfl

theorem perform_returns (stored : StoredTasks office) (known : projectId ∈ office.projects)
    (member : task ∈ office.tasks) (inProject : task.projectId = projectId)
    (takes : Takes office projectId task operation) {reason : Option String} {resolved : Option String}
    (accepted : ManageTaskLifecycle.resolveReason operation reason = .ok resolved) :
    ManageTaskLifecycle.perform ⟨projectId, task.id, operation, reason⟩ now office =
      .ok (moveTask office task.id operation now) := by
  have required : requireTask projectId task.id office = .ok task := by
    rw [requireTask, if_neg (not_not.mpr known), stored.findTask member]
    dsimp only
    rw [if_neg (not_not.mpr inProject)]
  have admitted : ManageTaskLifecycle.assertAdmitted ⟨projectId, task.id, operation, reason⟩ office = .ok () :=
    assertAdmitted_returns takes rfl rfl
  have moves : lifecycleMutations operation task now =
      .ok { task with status := operation.to, updatedAt := now } := by
    rw [lifecycleMutations_eq, Task.transition, if_neg (not_not.mpr takes.allowed)]
  unfold ManageTaskLifecycle.perform
  rw [bind_returns accepted, bind_returns required, bind_returns admitted,
    bind_returns moves, saveTask, stored.findTask member]
  dsimp only
  rw [if_neg (by rw [takes.admitted stored inProject]; exact Bool.false_ne_true), replaceTask_moves stored member]

variable {taskId : String} {repairs : List (TaskReconciliationIssue × TaskLifecycleOperation)}

@[simp] theorem moved_id (task : TaskProps) : (moved taskId operation now task).id = task.id := by
  unfold moved
  split <;> rfl

@[simp] theorem moved_projectId (task : TaskProps) : (moved taskId operation now task).projectId = task.projectId := by
  unfold moved
  split <;> rfl

theorem moved_other (other : task.id ≠ taskId) : moved taskId operation now task = task := if_neg other

theorem moveTask_ids : (moveTask office taskId operation now).tasks.map TaskProps.id = office.tasks.map TaskProps.id := by
  rw [moveTask, List.map_map]
  exact List.map_congr_left fun task _ => moved_id task

theorem StoredTasks.moveTask (stored : StoredTasks office) : StoredTasks (moveTask office taskId operation now) where
  unique := by rw [moveTask_ids]; exact stored.unique
  ids := by
    intro task member
    obtain ⟨before, stands, rfl⟩ := List.mem_map.mp member
    rw [moved_id]
    exact stored.ids before stands
  edges := stored.edges

theorem moveTask_statuses {id : String} (other : id ≠ taskId) :
    (moveTask office taskId operation now).statuses projectId id = office.statuses projectId id := by
  have selects : (fun task : TaskProps => decide (task.projectId = projectId) && decide (task.id = id)) ∘
      moved taskId operation now = fun task => decide (task.projectId = projectId) && decide (task.id = id) := by
    funext task
    rw [Function.comp_apply, moved_id, moved_projectId]
  unfold OfficeTables.statuses ReconcileTasks.moveTask
  rw [List.find?_map, selects, Option.map_map]
  cases found : office.tasks.find? fun task => decide (task.projectId = projectId) && decide (task.id = id) with
  | none => rfl
  | some task =>
    have selected := List.find?_some found
    rw [Bool.and_eq_true, decide_eq_true_eq, decide_eq_true_eq] at selected
    rw [Option.map_some, Option.map_some, Function.comp_apply, moved_other (selected.2 ▸ other)]

/-- The repairs of a plan can be applied: each to its own task, and no review exit that one of them answers is moved
by another. -/
structure Applicable (office : OfficeTables) (projectId : String)
    (repairs : List (TaskReconciliationIssue × TaskLifecycleOperation)) : Prop where
  taken : ∀ repair ∈ repairs, ∃ task ∈ office.tasks, task.projectId = projectId ∧ repair.1.taskId = task.id ∧
    repair.1.status = task.status ∧ Takes office projectId task repair.2 ∧
    Answers office projectId task repair.2 repair.1.reviewExits
  once : (repairs.map fun repair => repair.1.taskId).Nodup
  apart : ∀ repair ∈ repairs, repair.1.reviewExits.isSome = true →
    ∀ id ∈ prerequisiteIds office projectId repair.1.taskId, id ∉ repairs.map fun repair => repair.1.taskId

def exitStatus (office : OfficeTables) (id : String) : Option TaskStatus :=
  (office.findTask id).bind fun task => if isReviewExit task.status then some task.status else none

theorem currentExits_cons (id : String) (ids : List String) :
    currentExits office (id :: ids) =
      match exitStatus office id with
      | some status => (id, status) :: currentExits office ids
      | none => currentExits office ids := by
  have first : ((office.findTask id).bind fun task =>
      if isReviewExit task.status then some (id, task.status) else none) =
        (exitStatus office id).map fun status => (id, status) := by
    unfold exitStatus
    cases office.findTask id with
    | none => rfl
    | some task => cases exits : isReviewExit task.status <;> simp [exits]
  unfold currentExits
  rw [List.filterMap_cons, first]
  cases exitStatus office id <;> rfl

theorem lookup_currentExits {ids : List String} {id : String} :
    (currentExits office ids).lookup id = if id ∈ ids then exitStatus office id else none := by
  induction ids with
  | nil => rfl
  | cons first ids ih =>
    rw [currentExits_cons]
    by_cases same : id = first
    · subst same
      rw [if_pos List.mem_cons_self]
      cases exits : exitStatus office id with
      | some status => exact List.lookup_cons_self
      | none => simp only [ih, exits, ite_self]
    · have skips : (id ∈ first :: ids) = (id ∈ ids) := by simp [same]
      rw [if_congr (iff_of_eq skips) rfl rfl, ← ih]
      cases exitStatus office first with
      | none => rfl
      | some status =>
        have unlike : (id == first) = false := beq_false_of_ne same
        simp only [List.lookup_cons, unlike]

/-- The exits that hold when a repair is applied are those that it answers. -/
theorem assertExitsHold_returns (stored : StoredTasks office) {exits : List ReviewExit}
    (answers : ExitsOf office projectId task exits) :
    assertExitsHold office (prerequisiteIds office projectId task.id) exits = .ok ⟨⟩ := by
  have read {id : String} (prerequisite : id ∈ prerequisiteIds office projectId task.id) :
      ∃ status, office.statuses projectId id = some status ∧ (office.findTask id).map TaskProps.status = some status := by
    obtain ⟨status, known⟩ := Option.isSome_iff_exists.mp (answers.known id prerequisite)
    obtain ⟨found, inTasks, rfl, -, rfl⟩ := statuses_some known
    exact ⟨found.status, known, by rw [stored.findTask inTasks]; rfl⟩
  have held : (exits.find? fun exit => (currentExits office (prerequisiteIds office projectId task.id)).lookup
      exit.taskId ≠ some exit.exitedTo) = none := by
    rw [List.find?_eq_none]
    intro exit recorded
    obtain ⟨prerequisite, known, exited⟩ := (answers.exact exit.taskId exit.exitedTo).mp recorded
    obtain ⟨status, also, found⟩ := read prerequisite
    obtain ⟨row, lookup, same⟩ := Option.map_eq_some_iff.mp found
    rw [known, Option.some.injEq] at also
    rw [lookup_currentExits, if_pos prerequisite, exitStatus, lookup]
    simp [same, ← also, exited]
  have complete : ((currentExits office (prerequisiteIds office projectId task.id)).find? fun exit =>
      exit.1 ∉ exits.map ReviewExit.taskId) = none := by
    rw [List.find?_eq_none]
    intro exit current
    obtain ⟨id, prerequisite, listed⟩ := List.mem_filterMap.mp current
    obtain ⟨status, known, found⟩ := read prerequisite
    obtain ⟨row, lookup, same⟩ := Option.map_eq_some_iff.mp found
    rw [lookup, Option.bind_some] at listed
    split at listed
    · next exited =>
      cases listed
      have recorded := (answers.exact id status).mpr ⟨prerequisite, known, same ▸ exited⟩
      simpa using ⟨_, recorded, rfl⟩
    · cases listed
  unfold assertExitsHold
  dsimp only
  rw [held]
  dsimp only
  rw [complete]

theorem prerequisiteIds_length : (prerequisiteIds office projectId taskId).length ≤ office.dependencies.length := by
  rw [prerequisiteIds, List.length_map]
  refine (List.length_filter_le _ _).trans ?_
  rw [dependenciesOf, (sortOn_perm _ _).length_eq]
  exact List.length_filter_le _ _

theorem ExitsOf.normalized (stored : StoredTasks office) {exits : List ReviewExit}
    (answers : ExitsOf office projectId task exits)
    (length : exits.length ≤ (prerequisiteIds office projectId task.id).length) (label : String) :
    ∃ reason, normalizeTaskReason (reviewExitRepairReason exits) label = .ok reason := by
  refine reviewExitRepairReason_normalized label (fun exit recorded => ?_)
    ((length.trans prerequisiteIds_length).trans_lt stored.edges)
  obtain ⟨-, known, -⟩ := (answers.exact exit.taskId exit.exitedTo).mp recorded
  obtain ⟨row, inTasks, same, -, -⟩ := statuses_some known
  exact same ▸ stored.ids row inTasks

theorem resolveReason_returns (stored : StoredTasks office)
    (answers : Answers office projectId task operation issue.reviewExits) :
    ∃ resolved, ManageTaskLifecycle.resolveReason operation (repairReason issue operation) = .ok resolved := by
  unfold repairReason
  cases recorded : issue.reviewExits with
  | none =>
    rw [recorded] at answers
    rcases List.mem_cons.mp answers with rfl | answers
    · exact ⟨none, rfl⟩
    · obtain rfl := List.mem_singleton.mp answers
      exact ⟨some "reconciled with terminal pipeline", by decide⟩
  | some exits =>
    rw [recorded] at answers
    obtain ⟨reason, normalized⟩ := answers.1.normalized stored answers.2.1 s!"{operation.text} reason"
    refine ⟨some reason, ?_⟩
    rcases List.mem_cons.mp answers.2.2 with rfl | cancels
    · dsimp only
      rw [ManageTaskLifecycle.resolveReason, if_neg (by decide), normalized]
      rfl
    · obtain rfl := List.mem_singleton.mp cancels
      dsimp only
      rw [ManageTaskLifecycle.resolveReason, if_neg (by decide), normalized]
      rfl

theorem applyRepair_returns (stored : StoredTasks office) (known : projectId ∈ office.projects)
    (member : task ∈ office.tasks) (inProject : task.projectId = projectId) (about : issue.taskId = task.id)
    (takes : Takes office projectId task operation)
    (answers : Answers office projectId task operation issue.reviewExits) :
    applyRepair projectId now issue operation office = .ok (moveTask office issue.taskId operation now) := by
  have holds : assertRepairHolds projectId issue office = .ok ⟨⟩ := by
    unfold assertRepairHolds
    cases recorded : issue.reviewExits with
    | none => rfl
    | some exits =>
      rw [recorded] at answers
      rw [about]
      exact assertExitsHold_returns stored answers.1
  obtain ⟨resolved, accepted⟩ := resolveReason_returns stored answers
  rw [applyRepair, bind_returns holds, about]
  exact perform_returns stored known member inProject takes accepted

theorem Takes.moveTask (stored : StoredTasks office) (takes : Takes office projectId task operation)
    {other : TaskProps} {earlier : TaskLifecycleOperation} (member : other ∈ office.tasks)
    (moves : Takes office projectId other earlier) :
    Takes (moveTask office other.id earlier now) projectId task operation where
  allowed := takes.allowed
  notStart := takes.notStart
  prerequisites := by
    intro completes id prerequisite
    have completed := takes.prerequisites completes id prerequisite
    refine (moveTask_statuses fun same => ?_).trans completed
    -- A completed task takes no operation, so it is not the one that moved.
    have open_ := moves.allowed
    rw [stored.prerequisite completed member same.symm] at open_
    exact absurd open_ List.not_mem_nil

theorem ExitsOf.moveTask {exits : List ReviewExit} (answers : ExitsOf office projectId task exits)
    (apart : taskId ∉ prerequisiteIds office projectId task.id) :
    ExitsOf (moveTask office taskId operation now) projectId task exits := by
  have kept {id : String} (prerequisite : id ∈ prerequisiteIds office projectId task.id) :
      (ReconcileTasks.moveTask office taskId operation now).statuses projectId id = office.statuses projectId id :=
    moveTask_statuses fun same => apart (same ▸ prerequisite)
  constructor
  · intro id prerequisite
    rw [kept prerequisite]
    exact answers.known id prerequisite
  · intro id status
    rw [answers.exact]
    refine and_congr_right fun prerequisite => ?_
    rw [kept prerequisite]

/-- A repair leaves the later ones applicable: it moves a task that none of them is about, no completed prerequisite
and no prerequisite of a review-exit repair. -/
theorem Applicable.later (stored : StoredTasks office)
    (applicable : Applicable office projectId ((issue, operation) :: repairs)) :
    Applicable (moveTask office issue.taskId operation now) projectId repairs := by
  obtain ⟨⟨first, inTasks, -, about, -, moves, -⟩, taken⟩ := List.forall_mem_cons.mp applicable.taken
  obtain ⟨fresh, once⟩ := List.nodup_cons.mp applicable.once
  refine ⟨fun repair member => ?_, once, fun repair member exits id prerequisite listed => ?_⟩
  · obtain ⟨task, stands, inProject, named, status, takes, answers⟩ := taken repair member
    have other : task.id ≠ issue.taskId := fun same =>
      fresh (List.mem_map.mpr ⟨repair, member, named.trans same⟩)
    refine ⟨task, List.mem_map.mpr ⟨task, stands, moved_other other⟩, inProject, named, status, ?_, ?_⟩
    · rw [about]
      exact takes.moveTask stored inTasks moves
    · cases recorded : repair.1.reviewExits with
      | none => rwa [recorded] at answers
      | some exits =>
        rw [recorded] at answers
        refine ⟨answers.1.moveTask fun prerequisite => ?_, answers.2⟩
        refine applicable.apart repair (List.mem_cons_of_mem _ member) (by rw [recorded]; rfl) issue.taskId ?_
          List.mem_cons_self
        rwa [named]
  · exact applicable.apart repair (List.mem_cons_of_mem _ member) exits id prerequisite
      (List.mem_cons_of_mem _ listed)

def settled : (Nat → Date) → List (TaskReconciliationIssue × TaskLifecycleOperation) → TaskProps → TaskProps
  | _, [], task => task
  | now, (issue, operation) :: repairs, task =>
    settled (fun index => now (index + 1)) repairs (moved issue.taskId operation (now 0) task)

def settle (now : Nat → Date) (repairs : List (TaskReconciliationIssue × TaskLifecycleOperation))
    (office : OfficeTables) : OfficeTables :=
  { office with tasks := office.tasks.map (settled now repairs) }

theorem applyRepairs_returns {now : Nat → Date} (stored : StoredTasks office) (known : projectId ∈ office.projects)
    (applicable : Applicable office projectId repairs) :
    applyRepairs projectId now repairs office = .ok (settle now repairs office) := by
  induction repairs generalizing office now with
  | nil =>
    have kept : office.tasks.map (settled now []) = office.tasks := List.map_id' _
    rw [settle, kept]
    rfl
  | cons repair repairs ih =>
    obtain ⟨issue, operation⟩ := repair
    obtain ⟨task, member, inProject, about, -, takes, answers⟩ := applicable.taken _ List.mem_cons_self
    rw [applyRepairs, bind_returns (applyRepair_returns stored known member inProject about takes answers),
      ih stored.moveTask known (applicable.later stored), settle, settle, moveTask, List.map_map]
    rfl

theorem settled_other {now : Nat → Date} (others : task.id ∉ repairs.map fun repair => repair.1.taskId) :
    settled now repairs task = task := by
  induction repairs generalizing now with
  | nil => rfl
  | cons repair repairs ih =>
    rw [List.map_cons, List.mem_cons, not_or] at others
    rw [settled, moved_other others.1, ih others.2]

theorem settled_repaired {now : Nat → Date} (once : (repairs.map fun repair => repair.1.taskId).Nodup)
    (member : (issue, operation) ∈ repairs) (about : issue.taskId = task.id) :
    ∃ time, settled now repairs task = { task with status := operation.to, updatedAt := time } := by
  induction repairs generalizing now with
  | nil => cases member
  | cons repair repairs ih =>
    obtain ⟨fresh, once⟩ := List.nodup_cons.mp once
    rcases List.mem_cons.mp member with rfl | later
    · have alone : task.id ∉ repairs.map fun repair => repair.1.taskId := about ▸ fresh
      refine ⟨now 0, ?_⟩
      rw [settled, moved, if_pos about.symm]
      exact settled_other alone
    · have other : task.id ≠ repair.1.taskId := fun same =>
        fresh (List.mem_map.mpr ⟨_, later, about.trans same⟩)
      rw [settled, moved_other other]
      exact ih once later

variable {tables : ReconciliationTables} {issues : List TaskReconciliationIssue}

theorem mem_repairsOf : (issue, operation) ∈ repairsOf issues ↔
    issue ∈ issues ∧ issue.repairable = true ∧ issue.repairOperation = some operation := by
  simp only [repairsOf, List.mem_filterMap]
  constructor
  · rintro ⟨other, member, listed⟩
    split at listed
    · next repairable =>
      obtain ⟨found, operates, same⟩ := Option.map_eq_some_iff.mp listed
      cases same
      exact ⟨member, repairable, operates⟩
    · cases listed
  · rintro ⟨member, repairable, operates⟩
    exact ⟨issue, member, by rw [if_pos repairable, operates]; rfl⟩

structure Listed (issue : TaskReconciliationIssue) (repair : TaskReconciliationIssue × TaskLifecycleOperation) :
    Prop where
  same : repair.1 = issue
  operation : issue.repairOperation = some repair.2
  allowed : repair.2.to ∈ taskTransitions issue.status

theorem Plan.listed (plan : Plan office projectId issues) :
    List.Forall₂ Listed (issues.filter (·.repairable)) (repairsOf issues) := by
  have operates (issue : TaskReconciliationIssue) (member : issue ∈ issues) (repairable : issue.repairable = true) :
      ∃ operation, Listed issue (issue, operation) := by
    obtain ⟨task, -, -, grounded⟩ := plan.grounded issue member
    obtain ⟨operation, found, takes, -⟩ := grounded.repair repairable
    exact ⟨operation, rfl, found, grounded.status ▸ takes.allowed⟩
  clear plan
  unfold repairsOf
  induction issues with
  | nil => exact .nil
  | cons issue issues ih =>
    have later := ih fun other member => operates other (List.mem_cons_of_mem _ member)
    cases repairable : issue.repairable with
    | false =>
      rw [List.filter_cons_of_neg (by simp [repairable]), List.filterMap_cons_none (by simp [repairable])]
      exact later
    | true =>
      obtain ⟨operation, listed⟩ := operates issue List.mem_cons_self repairable
      rw [List.filter_cons_of_pos repairable,
        List.filterMap_cons_some (b := (issue, operation)) (by simp [repairable, listed.operation])]
      exact .cons listed later

theorem repairs_taskIds {repaired : List TaskReconciliationIssue} (listed : List.Forall₂ Listed repaired repairs) :
    repairs.map (fun repair => repair.1.taskId) = repaired.map (·.taskId) := by
  induction listed with
  | nil => rfl
  | cons same _ ih => rw [List.map_cons, List.map_cons, ih, same.same]

theorem Plan.applicable (plan : Plan office projectId issues) :
    Applicable office projectId (repairsOf issues) := by
  have ids : (repairsOf issues).map (fun repair => repair.1.taskId) = repairedTasks issues :=
    repairs_taskIds plan.listed
  refine ⟨fun repair member => ?_, by rw [ids]; exact plan.once, fun repair member exits => ?_⟩
  · obtain ⟨issue, operation⟩ := repair
    obtain ⟨inIssues, repairable, found⟩ := mem_repairsOf.mp member
    obtain ⟨task, inTasks, inProject, grounded⟩ := plan.grounded issue inIssues
    obtain ⟨named, same, takes, answers⟩ := grounded.repair repairable
    rw [found, Option.some.injEq] at same
    subst same
    exact ⟨task, inTasks, inProject, grounded.taskId, grounded.status, takes, answers⟩
  · obtain ⟨issue, operation⟩ := repair
    obtain ⟨inIssues, repairable, -⟩ := mem_repairsOf.mp member
    rw [ids]
    exact plan.apart issue inIssues repairable exits

theorem inspect_ok {planHash : PlanHash} {inspectedAt : Date} {report : TaskReconciliationReport}
    (inspected : inspect planHash projectId inspectedAt tables = .ok report) :
    projectId ∈ tables.office.projects ∧ findIssues projectId tables = .ok report.issues ∧
      report.planHash = if report.issues.filter (·.repairable) = [] then none
        else some (planHash projectId ((report.issues.filter (·.repairable)).map planned)) := by
  obtain ⟨known, inspected⟩ := guard_ok inspected
  obtain ⟨issues, found, inspected⟩ := bind_ok inspected
  cases inspected
  exact ⟨not_not.mp known, found, rfl⟩

theorem inspect_again {planHash : PlanHash} {inspectedAt : Date} {report : TaskReconciliationReport}
    (inspected : inspect planHash projectId inspectedAt tables = .ok report) (again : Date) :
    inspect planHash projectId again tables = .ok { report with generatedAt := again } := by
  obtain ⟨known, inspected⟩ := guard_ok inspected
  obtain ⟨issues, found, inspected⟩ := bind_ok inspected
  cases inspected
  rw [inspect, if_neg known, bind_returns found]
  rfl

structure Applied (issue : TaskReconciliationIssue) (repair : AppliedRepair) : Prop where
  taskId : repair.taskId = issue.taskId
  shown : repair.before = issue.status
  operation : issue.repairOperation = some repair.operation
  reaches : repair.after = repair.operation.to
  allowed : repair.after ∈ taskTransitions repair.before

/-- What repairs did to a task: nothing, unless one of them is about it. -/
structure Settled (applied : List AppliedRepair) (before after : TaskProps) : Prop where
  untouched : before.id ∉ applied.map AppliedRepair.taskId → after = before
  repaired : ∀ repair ∈ applied, repair.taskId = before.id → before.status = repair.before ∧
    ∃ time, after = { before with status := repair.after, updatedAt := time }

/-- A repair did what its plan showed: each repairable issue once, and nothing else. -/
structure Performed (issues : List TaskReconciliationIssue) (before : OfficeTables) (result : TaskRepairResult)
    (after : OfficeTables) : Prop where
  applied : List.Forall₂ Applied (issues.filter (·.repairable)) result.applied
  refused : result.refused = issues.filter fun issue => !issue.repairable
  once : (result.applied.map AppliedRepair.taskId).Nodup
  tasks : List.Forall₂ (Settled result.applied) before.tasks after.tasks
  others : after = { before with tasks := after.tasks }

def resultOf (issues : List TaskReconciliationIssue) : TaskRepairResult where
  applied := (repairsOf issues).map fun entry => ⟨entry.1.taskId, entry.1.status, entry.2.to, entry.2⟩
  refused := issues.filter fun issue => !issue.repairable

theorem Plan.performed {now : Nat → Date} (stored : StoredTasks office) (plan : Plan office projectId issues) :
    Performed issues office (resultOf issues) (settle now (repairsOf issues) office) := by
  have applicable := plan.applicable
  have ids : (resultOf issues).applied.map AppliedRepair.taskId = (repairsOf issues).map fun repair => repair.1.taskId := by
    rw [resultOf, List.map_map]
    rfl
  refine ⟨?_, rfl, by rw [ids]; exact applicable.once, ?_, rfl⟩
  · rw [resultOf, List.forall₂_map_right_iff]
    refine plan.listed.imp fun issue repair listed => ?_
    obtain ⟨rfl, operation, allowed⟩ := listed
    exact ⟨rfl, rfl, operation, rfl, allowed⟩
  · rw [settle, List.forall₂_map_right_iff, List.forall₂_same]
    intro task member
    constructor
    · intro others
      rw [ids] at others
      exact settled_other others
    · intro repair listed about
      obtain ⟨⟨issue, operation⟩, inRepairs, rfl⟩ := List.mem_map.mp listed
      obtain ⟨found, inTasks, -, named, status, -⟩ := applicable.taken _ inRepairs
      obtain rfl := keyed_eq stored.unique member inTasks (named.symm.trans about)
      exact ⟨status.symm, settled_repaired applicable.once inRepairs about⟩

theorem repair_returns {planHash : PlanHash} {inspectedAt : Date} {report : TaskReconciliationReport}
    {now : Nat → Date} {hash : String} (stored : StoredTasks tables.office)
    (inspected : inspect planHash projectId inspectedAt tables = .ok report) (shown : report.planHash = some hash)
    (repairedAt : Date) :
    repair planHash projectId hash repairedAt now tables =
      .ok (resultOf report.issues, settle now (repairsOf report.issues) tables.office) := by
  obtain ⟨known, found, -⟩ := inspect_ok inspected
  have plan := findIssues_ok stored.unique found
  have approved : ¬report.planHash ≠ some hash := not_not.mpr shown
  have whole : ¬(repairsOf report.issues).length ≠ (report.issues.filter (·.repairable)).length :=
    not_not.mpr plan.listed.length_eq.symm
  unfold repair
  rw [bind_returns (inspect_again inspected repairedAt)]
  dsimp only
  rw [if_neg approved, if_neg whole, bind_returns (applyRepairs_returns stored known plan.applicable)]
  rfl

/-- A plan is applied as it was shown, under its own hash, and as a whole or not at all. -/
theorem plan_applies_as_shown {planHash : PlanHash} {inspectedAt : Date} {report : TaskReconciliationReport}
    (stored : StoredTasks tables.office) (inspected : inspect planHash projectId inspectedAt tables = .ok report)
    (approvedPlanHash : String) (repairedAt : Date) (now : Nat → Date) :
    (report.planHash = some approvedPlanHash → ∃ result after,
      repairTransaction planHash projectId approvedPlanHash repairedAt now tables = (after, .ok result) ∧
        Performed report.issues tables.office result after) ∧
    (report.planHash ≠ some approvedPlanHash →
      repairTransaction planHash projectId approvedPlanHash repairedAt now tables =
        (tables.office, .error approvalError)) ∧
    ∀ (later : ReconciliationTables) (after : OfficeTables) (thrown : Thrown),
      repairTransaction planHash projectId approvedPlanHash repairedAt now later = (after, .error thrown) →
        after = later.office := by
  refine ⟨fun shown => ?_, fun other => ?_, fun later after thrown refused => ?_⟩
  · obtain ⟨-, found, -⟩ := inspect_ok inspected
    have performed : Performed report.issues tables.office (resultOf report.issues)
        (settle now (repairsOf report.issues) tables.office) := (findIssues_ok stored.unique found).performed stored
    refine ⟨_, _, ?_, performed⟩
    rw [repairTransaction, repair_returns stored inspected shown]
  · have refused : repair planHash projectId approvedPlanHash repairedAt now tables = .error approvalError := by
      unfold repair
      rw [bind_returns (inspect_again inspected repairedAt)]
      exact if_pos other
    rw [repairTransaction, refused]
  · unfold repairTransaction at refused
    split at refused
    · cases refused
    · cases refused
      rfl

def exitedTask : TaskProps := ⟨"prerequisite", "project", "Prerequisite", none, .failed, 0, 0, 3⟩

def dependentTask : TaskProps := ⟨"dependent", "project", "Dependent", none, .running, 0, 1, 2⟩

/-- A task was started while its prerequisite was in review, and the prerequisite failed since. -/
def exitedTables : ReconciliationTables where
  office := {
    projects := ["project"]
    tasks := [exitedTask, dependentTask]
    dependencies := [⟨"project", "dependent", "prerequisite"⟩]
    manifests := []
    pipelines := []
    overrides := []
    agents := []
    roles := []
    agentRuns := []
    outbox := [] }
  requirements := []
  milestones := []
  links := []

def exitedPlanHash : String := "7aa73fb85443d9ace259c877023f6b14b27ff8c4f7195ab699c16bc24549549a"

def exitedReport : TaskReconciliationReport where
  projectId := "project"
  generatedAt := 4
  tasksInspected := 2
  issues := [
    reviewExitIssue dependentTask [⟨"prerequisite", .failed⟩] false,
    reported dependentTask .inFlightTaskWithoutExecution .warning
      "task is running with no active pipeline run and no active agent run"
      "absence of execution does not distinguish finished, abandoned, and blocked work"]
  planHash := some exitedPlanHash

theorem exitedTables_stored : StoredTasks exitedTables.office where
  unique := by decide
  ids := by decide
  edges := by decide

theorem plan_applies_as_shown_cancels : ∃ result after,
    repairTransaction (fun _ _ => exitedPlanHash) "project" exitedPlanHash 5 (fun _ => 6) exitedTables =
      (after, .ok result) ∧ Performed exitedReport.issues exitedTables.office result after :=
  have inspected : inspect (fun _ _ => exitedPlanHash) "project" 4 exitedTables = .ok exitedReport := by decide
  (plan_applies_as_shown exitedTables_stored inspected exitedPlanHash 5 fun _ => 6).1 rfl

end AiOffice.Application.ReconcileTasks
