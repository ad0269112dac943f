import AiOffice.Data.Keyed
import AiOffice.Storage.OperationalRead

namespace AiOffice.Storage.OperationalRead

open Data Domain Domain.IsoDate Application.ReadModels

def LocksOwned (tables : OperationalTables) : Prop :=
  ∀ lock ∈ tables.taskLocks, ∀ run ∈ tables.agentRuns, run.id = lock.runId → run.taskId = lock.taskId

def taskState (tables : OperationalTables) (now : Date) (task : TaskProps) : TaskOperationalState :=
  projectTaskOperationalState (taskFacts tables task.projectId task) now

def leaseReasons (state : TaskOperationalState) : List AttentionReason :=
  state.attentionReasons.filter AttentionReason.isLeaseAnomaly

/-- The counts and the reasons of lease anomalies are the same over SQL and over the projection. -/
structure LeaseAnomaliesAgree (tables : OperationalTables) (now : Date) : Prop where
  number : ∀ projectIds limit, tables.tasks.length ≤ limit → ∀ task ∈ tables.tasks, task.projectId ∈ projectIds →
    (((listTasksWithoutValidRunLease tables now projectIds limit).find? fun row => row.taskId = task.id).map
      TaskLeaseAnomalyRecord.runsWithoutValidLease).getD 0 = (taskState tables now task).runsWithoutValidLeaseCount
  reason : ∀ projectIds limit, tables.tasks.length ≤ limit → ∀ task ∈ tables.tasks, task.projectId ∈ projectIds →
    ((listTasksWithoutValidRunLease tables now projectIds limit).filter fun row => row.taskId = task.id).map
      TaskLeaseAnomalyRecord.attention = leaseReasons (taskState tables now task)
  returned : ∀ projectIds limit, ∀ row ∈ listTasksWithoutValidRunLease tables now projectIds limit,
    ∃ task ∈ tables.tasks, row.taskId = task.id ∧ row.projectId = task.projectId ∧
      row.runsWithoutValidLease = (taskState tables now task).runsWithoutValidLeaseCount ∧
      [row.attention] = leaseReasons (taskState tables now task)
  total : ∀ projectIds, ∀ projectId ∈ projectIds,
    countOf (countTasksWithoutValidRunLease tables now projectIds) projectId =
      (tables.tasks.filter fun task => task.projectId = projectId ∧
        0 < (taskState tables now task).runsWithoutValidLeaseCount).length

/-- The texts of the expiry of a lease and of the instant are in the order of their times, for the tasks in work. -/
def ExpiryTextsAgree (tables : OperationalTables) (now : Date) : Prop :=
  ∀ lock ∈ tables.taskLocks,
    (∃ run ∈ tables.agentRuns, run.taskId = lock.taskId ∧ isActiveAgentRunStatus run.status = true) →
      (toISOString lock.expiresAt ≤ toISOString now ↔ lock.expiresAt ≤ now)

variable {tables : OperationalTables} {now : Date} {task other : TaskProps} {lock : TaskLockRow}
  {run : OperationalAgentRunRecord} {projectIds : List String} {projectId taskId : String} {limit : Nat}

def unleasedCount (tables : OperationalTables) (now : Date) (task : TaskProps) : Nat :=
  (activeRunsOfTask tables task.projectId task.id).countP (invalidLease tables now)

def ownerActive (tables : OperationalTables) (lock : TaskLockRow) : Bool :=
  (findAgentRun tables lock.runId).any fun run => isActiveAgentRunStatus run.status

section Schema

theorem mem_activeRunsOfTask : run ∈ activeRunsOfTask tables projectId taskId ↔
    run ∈ tables.agentRuns ∧ run.projectId = projectId ∧ run.taskId = taskId ∧
      isActiveAgentRunStatus run.status = true := by
  simp [activeRunsOfTask]

theorem findLock_some (found : findLock tables taskId = some lock) :
    lock ∈ tables.taskLocks ∧ lock.taskId = taskId := by
  unfold findLock at found
  have named := List.find?_some found
  exact ⟨List.mem_of_find?_eq_some found, of_decide_eq_true named⟩

theorem runsWithoutValidLease_eq (known : task ∈ tables.tasks) :
    (taskState tables now task).runsWithoutValidLeaseCount =
      (activeRunsOfTask tables task.projectId task.id).length -
        (if (findLock tables task.id).any (fun lock => !decide (lock.expiresAt ≤ now) && ownerActive tables lock) then 1
          else 0) := by
  have listed : (tables.tasks.any fun other => other.id = task.id ∧ other.projectId = task.projectId) = true :=
    List.any_eq_true.mpr ⟨task, known, by simp⟩
  have lease : taskLease tables task.projectId task.id = (findLock tables task.id).map fun lock =>
      ⟨lock.taskId, lock.runId, lock.acquiredAt, lock.expiresAt, (findAgentRun tables lock.runId).map (·.status)⟩ :=
    if_pos listed
  simp only [taskState, projectTaskOperationalState, runsWithoutValidLeaseCount, taskFacts, validLeaseOwnerIsActive,
    leaseExpired, lease]
  cases findLock tables task.id with
  | none => rfl
  | some lock =>
    simp only [Option.map_some, Option.any_some, ownerActive, Option.any_map]
    rfl

variable (consistent : tables.Consistent)
include consistent

theorem findLock_of_mem (stored : lock ∈ tables.taskLocks) : findLock tables lock.taskId = some lock :=
  find_keyed consistent.lockKeys stored (by simp) fun _ _ => of_decide_eq_true

theorem findTask_of_mem (stored : task ∈ tables.tasks) : findTask tables task.id = some task :=
  find_keyed consistent.taskKeys stored (by simp) fun _ _ => of_decide_eq_true

theorem findAgentRun_of_mem (stored : run ∈ tables.agentRuns) : findAgentRun tables run.id = some run :=
  find_keyed consistent.runKeys stored (by simp) fun _ _ => of_decide_eq_true

theorem run_project (stored : run ∈ tables.agentRuns) (known : task ∈ tables.tasks) (same : run.taskId = task.id) :
    run.projectId = task.projectId := by
  obtain ⟨other, member, named, project⟩ := consistent.runTasks run stored
  rw [← project, keyed_eq consistent.taskKeys known member (named.trans same)]

theorem count_owner (owned : LocksOwned tables) (known : task ∈ tables.tasks) (stored : lock ∈ tables.taskLocks)
    (locked : lock.taskId = task.id) :
    (activeRunsOfTask tables task.projectId task.id).countP (fun run => lock.runId = run.id) =
      if ownerActive tables lock then 1 else 0 := by
  obtain ⟨owner, member, named⟩ := consistent.lockRuns lock stored
  have belongs : owner.taskId = task.id := (owned lock stored owner member named).trans locked
  have active : ownerActive tables lock = isActiveAgentRunStatus owner.status := by
    rw [ownerActive, ← named, findAgentRun_of_mem consistent member]
    rfl
  have unique : ((activeRunsOfTask tables task.projectId task.id).map OperationalAgentRunRecord.id).Nodup :=
    consistent.runKeys.sublist (List.filter_sublist.map _)
  have count : (activeRunsOfTask tables task.projectId task.id).countP (fun run => lock.runId = run.id) =
      ((activeRunsOfTask tables task.projectId task.id).map OperationalAgentRunRecord.id).count lock.runId := by
    rw [List.count_eq_countP, List.countP_map]
    refine List.countP_congr fun run _ => ?_
    simp only [Function.comp_apply, decide_eq_true_eq, beq_iff_eq]
    exact eq_comm
  rw [count, active]
  split
  · next status =>
      refine List.count_eq_one_of_mem unique (List.mem_map.mpr ⟨owner, mem_activeRunsOfTask.mpr ?_, named⟩)
      exact ⟨member, run_project consistent member known belongs, belongs, status⟩
  · next status =>
      refine List.count_eq_zero_of_not_mem fun found => status ?_
      obtain ⟨run, inRuns, same⟩ := List.mem_map.mp found
      obtain ⟨stands, _, _, running⟩ := mem_activeRunsOfTask.mp inRuns
      rwa [keyed_eq consistent.runKeys stands member (named.trans same.symm)]

theorem ownerActive_runs (owned : LocksOwned tables) (stored : lock ∈ tables.taskLocks)
    (active : ownerActive tables lock = true) :
    ∃ run ∈ tables.agentRuns, run.taskId = lock.taskId ∧ isActiveAgentRunStatus run.status = true := by
  obtain ⟨owner, member, named⟩ := consistent.lockRuns lock stored
  rw [ownerActive, ← named, findAgentRun_of_mem consistent member] at active
  exact ⟨owner, member, owned lock stored owner member named, active⟩

/-- What SQL counts: all active runs, less the owner of a lease that has not expired by its text. -/
theorem unleasedCount_eq (owned : LocksOwned tables) (known : task ∈ tables.tasks) :
    (unleasedCount tables now task : Int) = (activeRunsOfTask tables task.projectId task.id).length -
      (if (findLock tables task.id).any (fun lock => !expiredText now lock && ownerActive tables lock) then 1
        else 0) := by
  cases found : findLock tables task.id with
  | none =>
    have invalid : ∀ run ∈ activeRunsOfTask tables task.projectId task.id, invalidLease tables now run = true := by
      intro run member
      rw [invalidLease, (mem_activeRunsOfTask.mp member).2.2.1, found]
    rw [unleasedCount, List.countP_eq_length.mpr invalid]
    simp
  | some lock =>
    have invalid : ∀ run ∈ activeRunsOfTask tables task.projectId task.id,
        invalidLease tables now run = (decide (lock.runId ≠ run.id) || expiredText now lock) := by
      intro run member
      rw [invalidLease, (mem_activeRunsOfTask.mp member).2.2.1, found]
    obtain ⟨stored, locked⟩ := findLock_some found
    rw [unleasedCount, List.countP_congr fun run member => by rw [invalid run member]]
    cases expired : expiredText now lock with
    | true => simp [expired]
    | false =>
      have owners := count_owner consistent owned known stored locked
      have parts := @List.length_eq_countP_add_countP _ (fun run : OperationalAgentRunRecord => lock.runId = run.id)
        (activeRunsOfTask tables task.projectId task.id)
      simp only [Option.any_some, expired, Bool.or_false, Bool.not_false, Bool.true_and]
      simp only [decide_not, Bool.decide_eq_true] at parts ⊢
      rw [owners] at parts
      cases active : ownerActive tables lock
      · simp only [active, Bool.false_eq_true, if_false] at parts ⊢
        omega
      · simp only [active, if_true] at parts ⊢
        omega

end Schema

section Rows

def anomalyRow (tables : OperationalTables) (now : Date) (task : TaskProps) : TaskLeaseAnomalyRecord :=
  taskLeaseAnomaly tables now task.projectId task.id (unleasedCount tables now task)

theorem mem_unleasedKeys {key : String × String} : key ∈ unleasedKeys tables now projectIds ↔
    ∃ run ∈ tables.agentRuns, run.projectId ∈ projectIds ∧ isActiveAgentRunStatus run.status = true ∧
      invalidLease tables now run = true ∧ (run.projectId, run.taskId) = key := by
  simp only [unleasedKeys, unleasedRuns, agentRunRows, List.mem_map, List.mem_filter, decide_eq_true_eq,
    isActiveAgentRunStatus, and_assoc]

theorem count_unleasedKeys (queried : task.projectId ∈ projectIds) :
    (unleasedKeys tables now projectIds).count (task.projectId, task.id) = unleasedCount tables now task := by
  rw [List.count_eq_countP, unleasedKeys, List.countP_map, unleasedRuns, agentRunRows, unleasedCount, activeRunsOfTask,
    List.countP_filter, List.countP_filter, List.countP_filter]
  refine List.countP_congr fun run _ => ?_
  simp only [Function.comp_apply, beq_iff_eq, Prod.mk.injEq, Bool.and_eq_true, decide_eq_true_eq, isActiveAgentRunStatus]
  constructor
  · rintro ⟨⟨⟨project, named⟩, invalid⟩, _, active⟩
    exact ⟨invalid, project, named, active⟩
  · rintro ⟨invalid, project, named, active⟩
    exact ⟨⟨⟨project, named⟩, invalid⟩, project ▸ queried, active⟩

theorem unleasedCount_pos (queried : task.projectId ∈ projectIds) :
    0 < unleasedCount tables now task ↔ (task.projectId, task.id) ∈ unleasedKeys tables now projectIds := by
  rw [← count_unleasedKeys queried, List.count_pos_iff]

variable (consistent : tables.Consistent)
include consistent

theorem key_task {key : String × String} (listed : key ∈ unleasedKeys tables now projectIds) :
    ∃ task ∈ tables.tasks, task.projectId ∈ projectIds ∧ key = (task.projectId, task.id) := by
  obtain ⟨run, member, queried, _, _, rfl⟩ := mem_unleasedKeys.mp listed
  obtain ⟨task, known, named, project⟩ := consistent.runTasks run member
  exact ⟨task, known, project ▸ queried, by rw [named, project]⟩

theorem mem_leaseAnomalies {row : TaskLeaseAnomalyRecord} : row ∈ leaseAnomalies tables now projectIds ↔
    ∃ task ∈ tables.tasks, task.projectId ∈ projectIds ∧ 0 < unleasedCount tables now task ∧
      row = anomalyRow tables now task := by
  rw [leaseAnomalies, List.mem_map]
  constructor
  · rintro ⟨key, listed, rfl⟩
    have member := List.mem_dedup.mp listed
    obtain ⟨task, known, queried, rfl⟩ := key_task consistent member
    exact ⟨task, known, queried, (unleasedCount_pos queried).mpr member, by rw [count_unleasedKeys queried]; rfl⟩
  · rintro ⟨task, known, queried, positive, rfl⟩
    refine ⟨(task.projectId, task.id), List.mem_dedup.mpr ((unleasedCount_pos queried).mp positive), ?_⟩
    rw [count_unleasedKeys queried]
    rfl

theorem leaseAnomalies_taskIds : ((leaseAnomalies tables now projectIds).map TaskLeaseAnomalyRecord.taskId).Nodup := by
  rw [leaseAnomalies, List.map_map]
  refine List.Nodup.map_on (fun key listed other also same => ?_) (List.nodup_dedup _)
  obtain ⟨task, known, _, rfl⟩ := key_task consistent (List.mem_dedup.mp listed)
  obtain ⟨second, stored, _, rfl⟩ := key_task consistent (List.mem_dedup.mp also)
  rw [keyed_eq consistent.taskKeys stored known same]

theorem leaseAnomalies_length : (leaseAnomalies tables now projectIds).length ≤ tables.tasks.length := by
  have subset : ((leaseAnomalies tables now projectIds).map TaskLeaseAnomalyRecord.taskId) ⊆
      tables.tasks.map TaskProps.id := by
    intro taskId member
    obtain ⟨row, listed, rfl⟩ := List.mem_map.mp member
    obtain ⟨task, known, _, _, rfl⟩ := (mem_leaseAnomalies consistent).mp listed
    exact List.mem_map.mpr ⟨task, known, rfl⟩
  simpa using (List.subperm_of_subset (leaseAnomalies_taskIds consistent) subset).length_le

/-- A list that is not cut has the row of a task exactly when the task has a run without authority. -/
theorem rows_of_task (whole : tables.tasks.length ≤ limit) (known : task ∈ tables.tasks)
    (queried : task.projectId ∈ projectIds) :
    (listTasksWithoutValidRunLease tables now projectIds limit).filter (fun row => row.taskId = task.id) =
      if 0 < unleasedCount tables now task then [anomalyRow tables now task] else [] := by
  have sorted : (listTasksWithoutValidRunLease tables now projectIds limit).Perm (leaseAnomalies tables now projectIds) := by
    have perm : (rankedLeaseAnomalies tables now projectIds).Perm (leaseAnomalies tables now projectIds) :=
      newestFirst_perm _ _ _
    rw [listTasksWithoutValidRunLease, List.take_of_length_le]
    · exact perm
    · rw [perm.length_eq]
      exact (leaseAnomalies_length consistent).trans whole
  have rows := sorted.filter fun row => decide (row.taskId = task.id)
  have only : ∀ row ∈ leaseAnomalies tables now projectIds, row.taskId = task.id →
      0 < unleasedCount tables now task ∧ row = anomalyRow tables now task := by
    intro row listed named
    obtain ⟨other, stored, _, positive, rfl⟩ := (mem_leaseAnomalies consistent).mp listed
    obtain rfl := keyed_eq consistent.taskKeys known stored named
    exact ⟨positive, rfl⟩
  split
  · next positive =>
      have listed := (mem_leaseAnomalies consistent).mpr ⟨task, known, queried, positive, rfl⟩
      have found : (leaseAnomalies tables now projectIds).filter (fun row => row.taskId = task.id) =
          [anomalyRow tables now task] := by
        refine List.perm_singleton.mp ((List.perm_ext_iff_of_nodup ?_ (List.nodup_singleton _)).mpr fun row => ?_)
        · exact (leaseAnomalies_taskIds consistent).of_map.filter _
        · rw [List.mem_filter, List.mem_singleton, decide_eq_true_eq]
          constructor
          · rintro ⟨member, named⟩
            exact (only row member named).2
          · rintro rfl
            exact ⟨listed, rfl⟩
      rw [found] at rows
      exact List.perm_singleton.mp rows
  · next none =>
      have found : (leaseAnomalies tables now projectIds).filter (fun row => row.taskId = task.id) = [] := by
        rw [List.filter_eq_nil_iff]
        intro row member named
        exact none (only row member (of_decide_eq_true named)).1
      rw [found] at rows
      exact List.perm_nil.mp rows

theorem mem_rows {row : TaskLeaseAnomalyRecord}
    (listed : row ∈ listTasksWithoutValidRunLease tables now projectIds limit) :
    ∃ task ∈ tables.tasks, task.projectId ∈ projectIds ∧ 0 < unleasedCount tables now task ∧
      row = anomalyRow tables now task := by
  exact (mem_leaseAnomalies consistent).mp ((newestFirst_perm _ _ _).mem_iff.mp (List.mem_of_mem_take listed))

theorem countTasks_eq (queried : projectId ∈ projectIds) :
    countOf (countTasksWithoutValidRunLease tables now projectIds) projectId =
      (tables.tasks.filter fun task => task.projectId = projectId ∧ 0 < unleasedCount tables now task).length := by
  rw [countTasksWithoutValidRunLease, countOf_groupedCounts, List.count_eq_countP, List.countP_map,
    List.countP_eq_length_filter]
  have perm : ((unleasedKeys tables now projectIds).dedup.filter ((· == projectId) ∘ Prod.fst)).Perm
      ((tables.tasks.filter fun task => task.projectId = projectId ∧ 0 < unleasedCount tables now task).map
        fun task => (task.projectId, task.id)) := by
    refine (List.perm_ext_iff_of_nodup ((List.nodup_dedup _).filter _) ?_).mpr fun key => ?_
    · refine List.Nodup.map_on (fun task member other also same => ?_) (consistent.taskKeys.of_map.filter _)
      exact keyed_eq consistent.taskKeys (List.mem_of_mem_filter also) (List.mem_of_mem_filter member)
        (congrArg Prod.snd same)
    · simp only [List.mem_filter, List.mem_dedup, List.mem_map, Function.comp_apply, beq_iff_eq, decide_eq_true_eq]
      constructor
      · rintro ⟨listed, project⟩
        obtain ⟨task, known, inside, rfl⟩ := key_task consistent listed
        exact ⟨task, ⟨known, project, (unleasedCount_pos inside).mpr listed⟩, rfl⟩
      · rintro ⟨task, ⟨known, rfl, positive⟩, rfl⟩
        exact ⟨(unleasedCount_pos queried).mp positive, rfl⟩
  rw [perm.length_eq, List.length_map]

end Rows

section Agreement

theorem taskLeaseAttention_kind {runs : Nat} {lease : LeaseTimes} {updatedAt : Date} :
    (taskLeaseAttention projectId taskId runs (some lease) updatedAt).kind = .taskLeaseExpired ↔
      lease.expired = true := by
  unfold taskLeaseAttention
  dsimp only
  split <;> simp [*]

theorem opinion_eq {owner text time : Bool} {runs count : Int} {unleased : Nat} {acquired expires updated : Date}
    (positive : 0 < runs) (sql : (unleased : Int) = runs - if !text && owner then 1 else 0)
    (page : count = runs - if !time && owner then 1 else 0) (number : (unleased : Int) = count)
    (reason : (if 0 < unleased then
        [taskLeaseAttention projectId taskId unleased (some ⟨acquired, expires, text⟩) updated] else []) =
      if 0 < count then
        [taskLeaseAttention projectId taskId count.toNat (some ⟨acquired, expires, time⟩) updated] else []) :
    text = time := by
  cases owner with
  | true =>
    rw [Bool.and_true] at sql page
    cases text <;> cases time <;> simp only [Bool.not_true, Bool.not_false, Bool.false_eq_true, if_true, if_false]
      at sql page ⊢ <;> omega
  | false =>
    rw [Bool.and_false, if_neg Bool.false_ne_true] at sql page
    rw [if_pos (by omega), if_pos (by omega)] at reason
    have kinds := congrArg AttentionReason.kind (List.singleton_inj.mp reason)
    rw [Bool.eq_iff_iff]
    exact (@taskLeaseAttention_kind _ _ unleased ⟨acquired, expires, text⟩ updated).symm.trans
      (kinds ▸ @taskLeaseAttention_kind _ _ count.toNat ⟨acquired, expires, time⟩ updated)

theorem leaseReasons_eq (known : task ∈ tables.tasks) : leaseReasons (taskState tables now task) =
    if 0 < (taskState tables now task).runsWithoutValidLeaseCount then
      [taskLeaseAttention task.projectId task.id (taskState tables now task).runsWithoutValidLeaseCount.toNat
        ((findLock tables task.id).map fun lock => ⟨lock.acquiredAt, lock.expiresAt, lock.expiresAt ≤ now⟩)
        task.updatedAt]
    else [] := by
  have reasons := attentionReasons_lease (taskFacts tables task.projectId task) now
  have listed : (tables.tasks.any fun other => other.id = task.id ∧ other.projectId = task.projectId) = true :=
    List.any_eq_true.mpr ⟨task, known, by simp⟩
  rw [leaseReasons, taskState, projectTaskOperationalState, reasons, taskLeaseReason]
  split
  · simp only [taskFacts, taskLease, if_pos listed, leaseExpired]
    cases findLock tables task.id <;> rfl
  · rfl

theorem expiredText_eq (texts : ExpiryTextsAgree tables now) (stored : lock ∈ tables.taskLocks)
    (active : ∃ run ∈ tables.agentRuns, run.taskId = lock.taskId ∧ isActiveAgentRunStatus run.status = true) :
    expiredText now lock = decide (lock.expiresAt ≤ now) := by
  have same := texts lock stored active
  unfold expiredText
  simp only [same]

variable (consistent : tables.Consistent)
include consistent

theorem anomalyRow_attention (known : task ∈ tables.tasks) : (anomalyRow tables now task).attention =
    taskLeaseAttention task.projectId task.id (unleasedCount tables now task)
      ((findLock tables task.id).map fun lock => ⟨lock.acquiredAt, lock.expiresAt, expiredText now lock⟩)
      task.updatedAt := by
  rw [TaskLeaseAnomalyRecord.attention, anomalyRow, taskLeaseAnomaly, findTask_of_mem consistent known]
  rfl

theorem task_number (owned : LocksOwned tables) (texts : ExpiryTextsAgree tables now) (known : task ∈ tables.tasks) :
    (unleasedCount tables now task : Int) = (taskState tables now task).runsWithoutValidLeaseCount := by
  rw [unleasedCount_eq consistent owned known, runsWithoutValidLease_eq known]
  cases found : findLock tables task.id with
  | none => simp only [Option.any_none]
  | some lock =>
    obtain ⟨stored, _⟩ := findLock_some found
    have flags : (!expiredText now lock && ownerActive tables lock) =
        (!decide (lock.expiresAt ≤ now) && ownerActive tables lock) := by
      by_cases active : ownerActive tables lock = true
      · rw [expiredText_eq texts stored (ownerActive_runs consistent owned stored active)]
      · rw [Bool.eq_false_iff.mpr active, Bool.and_false, Bool.and_false]
    rw [Option.any_some, Option.any_some, flags]

theorem task_reason (owned : LocksOwned tables) (texts : ExpiryTextsAgree tables now) (known : task ∈ tables.tasks) :
    (if 0 < unleasedCount tables now task then [(anomalyRow tables now task).attention] else []) =
      leaseReasons (taskState tables now task) := by
  have number := task_number consistent owned texts known
  rw [leaseReasons_eq known, ← number, anomalyRow_attention consistent known, Int.toNat_natCast]
  by_cases positive : 0 < unleasedCount tables now task
  · rw [if_pos positive, if_pos (by omega)]
    obtain ⟨run, member, _⟩ := List.countP_pos_iff.mp positive
    obtain ⟨inRuns, _, named, active⟩ := mem_activeRunsOfTask.mp member
    cases found : findLock tables task.id with
    | none => simp only [Option.map_none]
    | some lock =>
      obtain ⟨stored, locked⟩ := findLock_some found
      simp only [Option.map_some]
      rw [expiredText_eq texts stored ⟨run, inRuns, named.trans locked.symm, active⟩]
  · rw [if_neg positive, if_neg (by omega)]

theorem LeaseAnomaliesAgree.ofTask (agree : LeaseAnomaliesAgree tables now) (known : task ∈ tables.tasks) :
    (unleasedCount tables now task : Int) = (taskState tables now task).runsWithoutValidLeaseCount ∧
      (if 0 < unleasedCount tables now task then [(anomalyRow tables now task).attention] else []) =
        leaseReasons (taskState tables now task) := by
  have queried : task.projectId ∈ [task.projectId] := List.mem_singleton_self _
  have number := agree.number [task.projectId] _ le_rfl task known queried
  have reason := agree.reason [task.projectId] _ le_rfl task known queried
  rw [← List.head?_filter, rows_of_task consistent le_rfl known queried] at number
  rw [rows_of_task consistent le_rfl known queried] at reason
  by_cases positive : 0 < unleasedCount tables now task
  · rw [if_pos positive] at number reason ⊢
    exact ⟨number, reason⟩
  · rw [if_neg positive] at number reason ⊢
    exact ⟨by rw [← number]; simp at positive; simp [positive], reason⟩

/-- The routes agree exactly when, for every locked task with an active run, the text of the expiry is not after the text
of the instant just when the expiry is not after the instant. -/
theorem leaseAnomalies_agree_iff (owned : LocksOwned tables) (now : Date) :
    LeaseAnomaliesAgree tables now ↔ ExpiryTextsAgree tables now := by
  constructor
  · intro agree lock stored ⟨run, inRuns, locks, active⟩
    obtain ⟨task, known, named, project⟩ := consistent.runTasks run inRuns
    obtain ⟨number, reason⟩ := agree.ofTask consistent known
    have found : findLock tables task.id = some lock := by
      rw [named, locks]
      exact findLock_of_mem consistent stored
    have sql := @unleasedCount_eq tables now task consistent owned known
    have page := @runsWithoutValidLease_eq tables now task known
    rw [found, Option.any_some] at sql page
    rw [leaseReasons_eq known, anomalyRow_attention consistent known, found, Option.map_some, Option.map_some] at reason
    have member : run ∈ activeRunsOfTask tables task.projectId task.id :=
      mem_activeRunsOfTask.mpr ⟨inRuns, project.symm, named.symm, active⟩
    have runs : (0 : Int) < (activeRunsOfTask tables task.projectId task.id).length :=
      Int.natCast_pos.mpr (List.length_pos_of_mem member)
    exact decide_eq_decide.mp (opinion_eq runs sql page number reason)
  · intro texts
    have positive : ∀ task ∈ tables.tasks,
        (0 < unleasedCount tables now task ↔ 0 < (taskState tables now task).runsWithoutValidLeaseCount) := by
      intro task known
      have number := task_number consistent owned texts known
      omega
    refine ⟨fun projectIds limit whole task known queried => ?_, fun projectIds limit whole task known queried => ?_,
      fun projectIds limit row listed => ?_, fun projectIds projectId queried => ?_⟩
    · rw [← task_number consistent owned texts known, ← List.head?_filter, rows_of_task consistent whole known queried]
      split
      · rfl
      · next none =>
          have zero : unleasedCount tables now task = 0 := by omega
          rw [zero]
          rfl
    · rw [← task_reason consistent owned texts known, rows_of_task consistent whole known queried]
      split <;> rfl
    · obtain ⟨task, known, _, counted, rfl⟩ := mem_rows consistent listed
      have reason := task_reason consistent owned texts known
      rw [if_pos counted] at reason
      exact ⟨task, known, rfl, rfl, task_number consistent owned texts known, reason⟩
    · rw [countTasks_eq consistent queried]
      refine congrArg List.length (List.filter_congr fun task known => ?_)
      rw [decide_eq_decide, positive task known]

omit consistent in
theorem expiryTexts_agree (instant : firstPlainTime ≤ now ∧ now ≤ lastPlainTime)
    (leases : ∀ lock ∈ tables.taskLocks, firstPlainTime ≤ lock.expiresAt ∧ lock.expiresAt ≤ lastPlainTime) :
    ExpiryTextsAgree tables now := by
  intro lock stored _
  obtain ⟨low, high⟩ := leases lock stored
  rw [← not_lt, toISOString_lt_iff instant.1 instant.2 low high]
  exact not_lt

end Agreement

section Instances

def tableTask : TaskProps := ⟨"task-1", "project-1", "Ship", none, .running, 1, 0, 0⟩

def tableRun : OperationalAgentRunRecord := ⟨"run-1", "project-1", "task-1", "agent-1", .running, none, none, 0⟩

def leasedTables (acquiredAt expiresAt : Date) : OperationalTables :=
  { projects := [⟨"project-1", "Office"⟩], tasks := [tableTask], agentRuns := [tableRun]
    taskLocks := [⟨"task-1", "run-1", acquiredAt, expiresAt⟩], reviews := [], pipelineRuns := [] }

theorem leasedTables_consistent (acquiredAt expiresAt : Date) : (leasedTables acquiredAt expiresAt).Consistent where
  projectKeys := List.nodup_singleton _
  taskKeys := List.nodup_singleton _
  runKeys := List.nodup_singleton _
  lockKeys := List.nodup_singleton _
  runTasks := by simp [leasedTables, tableRun, tableTask]
  lockRuns := by simp [leasedTables, tableRun]

theorem leasedTables_owned (acquiredAt expiresAt : Date) : LocksOwned (leasedTables acquiredAt expiresAt) := by
  simp [LocksOwned, leasedTables, tableRun]

theorem leaseAnomalies_agree_iff_leased :
    LeaseAnomaliesAgree (leasedTables 1784541600000 1784543400000) 1784542500000 :=
  (leaseAnomalies_agree_iff (leasedTables_consistent _ _) (leasedTables_owned _ _) _).mpr
    (expiryTexts_agree (by decide) (by decide))

/-- A lease of half an hour that is taken in the last minutes of the year 9999. -/
theorem extended_year_disagrees : ∃ tables now, tables.Consistent ∧ LocksOwned tables ∧ ¬LeaseAnomaliesAgree tables now := by
  refine ⟨leasedTables 253402299600000 253402301400000, 253402300500000, leasedTables_consistent _ _,
    leasedTables_owned _ _, fun agree => ?_⟩
  have number := agree.number ["project-1"] 1 (by decide) tableTask (by simp [leasedTables]) (by decide)
  revert number
  decide

end Instances

end AiOffice.Storage.OperationalRead
