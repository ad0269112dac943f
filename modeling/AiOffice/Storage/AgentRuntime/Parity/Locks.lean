import AiOffice.Storage.AgentRuntime.Parity

namespace AiOffice.Storage.AgentRuntime

open Data Domain PostgresStore

variable {Json : Type} {database : Database Json} {codec : AgentRunCodec Json} {around : Surroundings}
  {store : SqliteStore Json} {other : PostgresStore Json}

theorem isUnfinished_eq (status : AgentRunStatus) : isUnfinished status = !AgentRun.isTerminal status := by
  cases status <;> rfl

theorem row_of_id (mirrors : Mirrors database codec store other) {row also : AgentRunState Json}
    (member : row ∈ store.runtime.runs) (stands : also ∈ store.runtime.runs) (same : also.id = row.id) : also = row :=
  keyed_eq mirrors.runIds member stands same

theorem lock_of_run (mirrors : Mirrors database codec store other) {lock : PostgresTaskLock} (member : lock ∈ other.locks)
    {row : AgentRunState Json} (stands : row ∈ store.runtime.runs) (held : lock.runId = row.id) :
    lock.taskId = row.taskId ∧ lock.projectId = row.projectId := by
  obtain ⟨holder, stored, about, task, project⟩ := mirrors.lockRuns lock member
  have same : holder = row := row_of_id mirrors stands stored (about.trans held)
  exact ⟨same ▸ task.symm, same ▸ project.symm⟩

theorem lock_unique (mirrors : Mirrors database codec store other) {lock also : PostgresTaskLock}
    (member : lock ∈ other.locks) (stands : also ∈ other.locks) (same : also.runId = lock.runId) : also = lock := by
  obtain ⟨holder, stored, about, task, -⟩ := mirrors.lockRuns lock member
  have tasks := (lock_of_run mirrors stands stored (same.trans about.symm)).1
  exact keyed_eq mirrors.lockTasks member stands (tasks.trans task)

theorem Mirrors.released (mirrors : Mirrors database codec store other) {runId : String}
    {selected : PostgresTaskLock → Bool}
    (same : ∀ lock ∈ other.locks, selected lock = decide (lock.runId = runId)) :
    Mirrors database codec { store with runtime := store.runtime.releaseTaskLock runId }
      { other with locks := other.locks.filter fun lock => !selected lock } := by
  have kept : (other.locks.filter fun lock => !selected lock) = other.locks.filter fun lock => lock.runId ≠ runId :=
    List.filter_congr fun lock member => by simp [same lock member]
  refine { mirrors with locks := ?_, lockRuns := ?_, lockTasks := ?_ }
  · dsimp only [RuntimeTables.releaseTaskLock]
    rw [kept, ← mirrors.locks, List.filter_map]
    rfl
  · intro lock member
    exact mirrors.lockRuns lock (List.mem_filter.mp member).1
  · exact mirrors.lockTasks.sublist (List.filter_sublist.map _)

section Joins

variable (mirrors : Mirrors database codec store other) (holds : around.Holds store)

include mirrors holds

theorem holdsLock_iff {lock : PostgresTaskLock} (member : lock ∈ other.locks) (runId : String)
    (selects : AgentRunStatus → Bool) :
    other.holdsLock around runId selects lock = true ↔
      lock.runId = runId ∧ ∃ row ∈ store.runtime.runs, row.id = runId ∧ selects row.status = true := by
  unfold holdsLock
  rw [mirrors.runs]
  simp only [Bool.and_eq_true, List.any_eq_true, decide_eq_true_eq]
  constructor
  · rintro ⟨held, row, stands, ⟨⟨about, -⟩, selected⟩, -⟩
    exact ⟨held, row, stands, about, selected⟩
  · rintro ⟨held, row, stands, about, selected⟩
    have project := (lock_of_run mirrors member stands (held.trans about.symm)).2
    exact ⟨held, row, stands, ⟨⟨about, project.symm⟩, selected⟩, holds.runProjects row stands⟩

theorem holdsLock_all {lock : PostgresTaskLock} (member : lock ∈ other.locks) (runId : String) :
    other.holdsLock around runId (fun _ => true) lock = decide (lock.runId = runId) := by
  rw [Bool.eq_iff_iff, holdsLock_iff mirrors holds member, decide_eq_true_eq]
  refine ⟨And.left, fun held => ⟨held, ?_⟩⟩
  obtain ⟨row, stands, about, -, -⟩ := mirrors.lockRuns lock member
  exact ⟨row, stands, about.trans held, rfl⟩

theorem acquireTaskLock_mirrors (taskId runId : String) (acquiredAt expiresAt : Date) :
    (store.runtime.acquireTaskLock taskId runId acquiredAt expiresAt).1 =
        (other.acquireTaskLock around taskId runId acquiredAt expiresAt).1 ∧
      Mirrors database codec
        { store with runtime := (store.runtime.acquireTaskLock taskId runId acquiredAt expiresAt).2 }
        (other.acquireTaskLock around taskId runId acquiredAt expiresAt).2 := by
  have lockable : (other.locks.find? fun lock => lock.taskId = taskId).all
      (fun lock => lock.expiresAt ≤ acquiredAt) = store.runtime.lockable taskId acquiredAt := by
    unfold RuntimeTables.lockable RuntimeTables.findTaskLock
    rw [find_lock mirrors, Option.all_map]
  unfold RuntimeTables.acquireTaskLock PostgresStore.acquireTaskLock
  rw [mirrors.runs]
  cases found : store.runtime.runs.find? fun row =>
      row.id = runId && row.taskId = taskId && isUnfinished row.status && row.projectId ∈ around.projects with
  | none =>
    have idle : store.runtime.occupies runId taskId = false := by
      simp only [RuntimeTables.occupies, List.any_eq_false, ← isUnfinished_eq]
      intro row member
      have refused := List.find?_eq_none.mp found row member
      simpa [holds.runProjects row member] using refused
    rw [idle]
    exact ⟨rfl, mirrors⟩
  | some row =>
    have member := List.mem_of_find?_eq_some found
    have selected := List.find?_some found
    simp only [Bool.and_eq_true, decide_eq_true_eq] at selected
    obtain ⟨⟨⟨about, onTask⟩, unfinished⟩, -⟩ := selected
    have works : store.runtime.occupies runId taskId = true := by
      simp only [RuntimeTables.occupies, List.any_eq_true, ← isUnfinished_eq]
      exact ⟨row, member, by simp [about, onTask, unfinished]⟩
    dsimp only
    rw [lockable, works, Bool.true_and]
    split
    · refine ⟨rfl, { mirrors with runs := rfl, locks := ?_, lockRuns := ?_, lockTasks := ?_ }⟩
      · rw [List.map_append, ← mirrors.locks, List.filter_map]
        rfl
      · intro lock inLocks
        rcases List.mem_append.mp inLocks with kept | new
        · exact mirrors.lockRuns lock (List.mem_filter.mp kept).1
        · rw [List.mem_singleton.mp new]
          exact ⟨row, member, about, onTask, rfl⟩
      · rw [List.map_append, List.nodup_append]
        refine ⟨mirrors.lockTasks.sublist (List.filter_sublist.map _), List.nodup_singleton _, ?_⟩
        rintro task kept fresh new rfl
        obtain ⟨lock, inLocks, rfl⟩ := List.mem_map.mp kept
        rw [List.map_singleton, List.mem_singleton] at new
        exact of_decide_eq_true (List.mem_filter.mp inLocks).2 new
    · exact ⟨rfl, mirrors⟩

omit holds in
theorem countP_eq_one {selected : PostgresTaskLock → Bool} {runId : String}
    (only : ∀ lock ∈ other.locks, selected lock = true → lock.runId = runId) :
    decide (other.locks.countP selected = 1) = other.locks.any selected := by
  rw [Bool.eq_iff_iff, decide_eq_true_eq, List.any_eq_true, List.countP_eq_length_filter]
  constructor
  · intro one
    obtain ⟨lock, only⟩ := List.length_eq_one_iff.mp one
    have member : lock ∈ other.locks.filter selected := by rw [only]; exact List.mem_singleton_self lock
    exact ⟨lock, List.mem_filter.mp member⟩
  · rintro ⟨lock, member, hit⟩
    have same : ∀ also ∈ other.locks.filter selected, also = lock := by
      intro also found
      obtain ⟨stands, hits⟩ := List.mem_filter.mp found
      exact lock_unique mirrors member stands ((only also stands hits).trans (only lock member hit).symm)
    have different : (other.locks.filter selected).Nodup := (List.Nodup.of_map _ mirrors.lockTasks).filter _
    have present : 0 < (other.locks.filter selected).length :=
      List.length_pos_of_mem (List.mem_filter.mpr ⟨member, hit⟩)
    rw [List.eq_replicate_of_mem same, List.nodup_replicate] at different
    omega

theorem renewTaskLock_mirrors (runId : String) (now newExpiresAt : Date) :
    (store.runtime.renewTaskLock runId now newExpiresAt).1 = (other.renewTaskLock around runId now newExpiresAt).1 ∧
      Mirrors database codec { store with runtime := (store.runtime.renewTaskLock runId now newExpiresAt).2 }
        (other.renewTaskLock around runId now newExpiresAt).2 := by
  have renews : ∀ lock ∈ other.locks, now < newExpiresAt →
      (other.holdsLock around runId isUnfinished lock && decide (now < lock.expiresAt) && decide (now < newExpiresAt)) =
        store.runtime.renewable runId now lock.toTaskLock := by
    intro lock member later
    have joined := holdsLock_iff mirrors holds member runId isUnfinished
    rw [Bool.eq_iff_iff]
    simp only [Bool.and_eq_true, decide_eq_true_eq, joined, RuntimeTables.renewable, ← isUnfinished_eq, List.any_eq_true]
    constructor
    · rintro ⟨⟨⟨held, row⟩, lasts⟩, -⟩
      exact ⟨⟨held, lasts⟩, row⟩
    · rintro ⟨⟨held, lasts⟩, row⟩
      exact ⟨⟨⟨held, row⟩, lasts⟩, later⟩
  unfold RuntimeTables.renewTaskLock PostgresStore.renewTaskLock
  dsimp only
  by_cases later : newExpiresAt ≤ now
  · have idle : ∀ lock : PostgresTaskLock, (other.holdsLock around runId isUnfinished lock &&
        decide (now < lock.expiresAt) && decide (now < newExpiresAt)) = false := by
      intro lock
      rw [decide_eq_false (Int.not_lt.mpr later), Bool.and_false]
    simp only [if_pos later, idle, Bool.false_eq_true, if_false, List.map_id']
    exact ⟨by simp, mirrors⟩
  · have same := fun lock member => renews lock member (Int.not_le.mp later)
    rw [if_neg later, any_congr same]
    refine ⟨?_, { mirrors with locks := ?_, lockRuns := ?_, lockTasks := ?_ }⟩
    · have only : ∀ lock ∈ other.locks, store.runtime.renewable runId now lock.toTaskLock = true → lock.runId = runId := by
        intro lock _ renewed
        simp only [RuntimeTables.renewable, Bool.and_eq_true, decide_eq_true_eq] at renewed
        exact renewed.1.1
      rw [← countP_eq_one mirrors only, ← mirrors.locks, List.countP_map]
      rfl
    · dsimp only
      rw [← mirrors.locks, List.map_map, List.map_map]
      refine List.map_congr_left fun lock member => ?_
      simp only [Function.comp_apply, same lock member]
      split <;> rfl
    · intro lock member
      obtain ⟨earlier, stood, rfl⟩ := List.mem_map.mp member
      split <;> exact mirrors.lockRuns earlier stood
    · have kept : (fun lock : PostgresTaskLock => lock.taskId) ∘ (fun lock =>
          if (other.holdsLock around runId isUnfinished lock && decide (now < lock.expiresAt) &&
            decide (now < newExpiresAt)) = true then { lock with expiresAt := newExpiresAt } else lock) =
          fun lock => lock.taskId := by
        funext lock
        rw [Function.comp_apply]
        split <;> rfl
      rw [List.map_map, kept]
      exact mirrors.lockTasks

theorem releaseTaskLock_mirrors (runId : String) :
    decide (store.runtime.locks.countP (fun lock => lock.runId = runId) = 1) = (other.releaseTaskLock around runId).1 ∧
      Mirrors database codec { store with runtime := store.runtime.releaseTaskLock runId }
        (other.releaseTaskLock around runId).2 := by
  have released : ∀ lock ∈ other.locks, other.holdsLock around runId (fun _ => true) lock =
      decide (lock.runId = runId) := fun lock member => holdsLock_all mirrors holds member runId
  refine ⟨?_, mirrors.released released⟩
  have only : ∀ lock ∈ other.locks, decide (lock.runId = runId) = true → lock.runId = runId :=
    fun lock _ => of_decide_eq_true
  rw [PostgresStore.releaseTaskLock, any_congr released, ← countP_eq_one mirrors only, ← mirrors.locks, List.countP_map]
  rfl

end Joins

end AiOffice.Storage.AgentRuntime
