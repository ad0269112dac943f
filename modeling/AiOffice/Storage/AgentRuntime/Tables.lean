import AiOffice.Data.Keyed
import AiOffice.Data.Sorting
import AiOffice.Storage.AgentRuntime.Versions
import Mathlib.Data.Prod.Lex
import Mathlib.Data.String.Basic

namespace AiOffice.Storage.AgentRuntime

open Data Outcome Domain

/-- The rows of all agent runs with their events, and the locks of the tasks that they work on. -/
structure RuntimeTables (Json : Type) where
  runs : List (AgentRunState Json)
  events : List (AgentRunEvent Json)
  locks : List TaskLock
  deriving DecidableEq

variable {Json : Type}

namespace RuntimeTables

variable (tables : RuntimeTables Json)

def findRow (runId : String) : Option (AgentRunState Json) := tables.runs.find? fun row => row.id = runId

def ofRun (runId : String) : RunTables Json where
  row := tables.findRow runId
  events := tables.events.filter fun event => event.runId = runId

def writeRow (runId : String) : Option (AgentRunState Json) → List (AgentRunState Json)
  | none => tables.runs
  | some row =>
    if (tables.findRow runId).isSome then tables.runs.map fun stored => if stored.id = runId then row else stored
    else tables.runs ++ [row]

def withRun (runId : String) (part : RunTables Json) : RuntimeTables Json :=
  { tables with
    runs := tables.writeRow runId part.row
    events := (tables.events.filter fun event => event.runId ≠ runId) ++ part.events }

def findTaskLock (taskId : String) : Option TaskLock := tables.locks.find? fun lock => lock.taskId = taskId

def releaseTaskLock (runId : String) : RuntimeTables Json :=
  { tables with locks := tables.locks.filter fun lock => lock.runId ≠ runId }

def executionOwner (runId : String) : Option String :=
  (tables.events.find? fun event => event.runId = runId && event.status = .preparing).bind AgentRunEvent.ownerId

def occupies (runId taskId : String) : Bool :=
  tables.runs.any fun row => row.id = runId && row.taskId = taskId && !AgentRun.isTerminal row.status

/-- A lock that a run may take: there is none on its task, or that has expired. -/
def lockable (taskId : String) (acquiredAt : Date) : Bool :=
  (tables.findTaskLock taskId).all fun lock => lock.expiresAt ≤ acquiredAt

def acquireTaskLock (taskId runId : String) (acquiredAt expiresAt : Date) : Bool × RuntimeTables Json :=
  if tables.occupies runId taskId && tables.lockable taskId acquiredAt then
    (true, { tables with
      locks := (tables.locks.filter fun lock => lock.taskId ≠ taskId) ++ [⟨taskId, runId, expiresAt⟩] })
  else (false, tables)

def renewable (runId : String) (now : Date) (lock : TaskLock) : Bool :=
  lock.runId = runId && now < lock.expiresAt &&
    tables.runs.any fun row => row.id = runId && !AgentRun.isTerminal row.status

def renewTaskLock (runId : String) (now newExpiresAt : Date) : Bool × RuntimeTables Json :=
  if newExpiresAt ≤ now then (false, tables)
  else
    (tables.locks.countP (tables.renewable runId now) = 1, { tables with
      locks := tables.locks.map fun lock =>
        if tables.renewable runId now lock then { lock with expiresAt := newExpiresAt } else lock })

variable (codec : AgentRunCodec Json)

def findRun (runId : String) : Except Thrown (Option (AgentRunProps Json)) :=
  (tables.findRow runId).mapM (load codec)

def listRuns (projectId : String) : Except Thrown (List (AgentRunProps Json)) :=
  (sortOn (fun row => toLex (row.createdAt, row.id))
    (tables.runs.filter fun row => row.projectId = projectId)).mapM (load codec)

variable [DecidableEq Json]

def saveRun (value : AgentRunProps Json) : Except Thrown (AgentRunProps Json × RuntimeTables Json) :=
  (AgentRuntime.saveRun codec value (tables.ofRun value.id)).map fun saved =>
    (saved.1, tables.withRun value.id saved.2)

variable (errors : AdmissionErrors Json) (authorities : AuthorityTables)

/-- The locks that an authority is checked against are those of the tables. -/
def admitQueuedRun (input : RunAdmission) : Except Thrown (Option (AgentRunProps Json) × RuntimeTables Json) :=
  (AgentRuntime.admitQueuedRun codec errors { authorities with locks := tables.locks } input
    (tables.ofRun input.runId)).map fun admitted =>
      (admitted.1, { tables.withRun input.runId admitted.2.1 with locks := admitted.2.2 })

def acceptWorkerResult (fence : WorkerAuthorityFence Json) (run : AgentRunProps Json) (result : Json)
    (acceptedAt : Date) : Except Thrown (Bool × RuntimeTables Json) :=
  (AgentRuntime.acceptWorkerResult { authorities with locks := tables.locks } fence run result acceptedAt
    (tables.ofRun fence.runId)).map fun accepted => (accepted.1, tables.withRun fence.runId accepted.2)

end RuntimeTables

theorem load_id {codec : AgentRunCodec Json} {row : AgentRunState Json} {value : AgentRunProps Json}
    (loaded : load codec row = .ok value) : value.id = row.id := by
  obtain ⟨execution, -, loaded⟩ := bind_ok loaded
  obtain ⟨actionIntent, -, loaded⟩ := bind_ok loaded
  obtain ⟨roleGuidance, -, loaded⟩ := bind_ok loaded
  obtain ⟨modelRouting, -, loaded⟩ := bind_ok loaded
  obtain rfl := Except.ok.inj loaded
  rfl

/-- A later version of a row: it is of the same run, and no further back. -/
structure Follows (before after : AgentRunState Json) : Prop where
  id : after.id = before.id
  projectId : after.projectId = before.projectId
  taskId : after.taskId = before.taskId
  pipelineRunId : after.pipelineRunId = before.pipelineRunId
  pipelineStageRunId : after.pipelineStageRunId = before.pipelineStageRunId
  status : after.status = before.status ∨ Advances before.status after.status

theorem Follows.refl (row : AgentRunState Json) : Follows row row := ⟨rfl, rfl, rfl, rfl, rfl, .inl rfl⟩

theorem Follows.terminal {before after : AgentRunState Json} (follows : Follows before after)
    (terminal : AgentRun.isTerminal before.status = true) : AgentRun.isTerminal after.status = true := by
  rcases follows.status with same | advances
  · rwa [same]
  · rw [advances.not_terminal] at terminal
    cases terminal

variable {codec : AgentRunCodec Json} {tables : RuntimeTables Json} {part after : RunTables Json}
  {row stored : AgentRunState Json} {runId : String}

section

variable [DecidableEq Json] {errors : AdmissionErrors Json} {authorities : AuthorityTables}

theorem saveRun_follows {value saved : AgentRunProps Json} (present : part.row = some row)
    (returned : saveRun codec value part = .ok (saved, after)) :
    ∃ next, after.row = some next ∧ Follows row next ∧ next.status = value.status ∧
      saved = AgentRun.markPersisted value := by
  unfold saveRun at returned
  rw [present] at returned
  obtain ⟨current, loaded, returned⟩ := bind_ok returned
  obtain ⟨status, -⟩ := load_ok loaded
  obtain ⟨-, returned⟩ := guard_ok returned
  split at returned
  · next same =>
    split at returned
    · cases returned
      exact ⟨row, present, .refl row, status.symm.trans same, rfl⟩
    · cases returned
  · next different =>
    obtain ⟨-, returned⟩ := guard_ok returned
    obtain ⟨permitted, returned⟩ := guard_ok returned
    cases returned
    simp only [not_or, Bool.not_eq_true', Bool.not_eq_false] at permitted
    have advances := advances_of_canPersist permitted.1 different
    rw [status] at advances
    exact ⟨_, rfl, ⟨rfl, rfl, rfl, rfl, rfl, .inr advances⟩, rfl, rfl⟩

theorem admitQueuedRun_follows {input : RunAdmission} {admitted : Option (AgentRunProps Json)} {locks : List TaskLock}
    (present : part.row = some row)
    (returned : admitQueuedRun codec errors authorities input part = .ok (admitted, after, locks)) :
    ∃ next, after.row = some next ∧ Follows row next ∧
      (locks = authorities.locks ∨ locks = (authorities.locks.filter fun lock => lock.runId ≠ input.runId) ∧
        next.status = .cancelled) := by
  unfold admitQueuedRun at returned
  rw [present] at returned
  dsimp only at returned
  split at returned
  · cases returned
    exact ⟨row, present, .refl row, .inl rfl⟩
  · obtain ⟨value, loaded, returned⟩ := bind_ok returned
    obtain ⟨changed, moved, returned⟩ := bind_ok returned
    obtain ⟨events, -, returned⟩ := bind_ok returned
    obtain ⟨allowed, reached, -⟩ := AgentRun.transition_ok moved
    rw [(load_ok loaded).1, ← reached] at allowed
    cases returned
    refine ⟨_, rfl, ⟨rfl, rfl, rfl, rfl, rfl, .inr (.single allowed)⟩, ?_⟩
    split
    · exact .inl rfl
    · next refused => exact .inr ⟨rfl, reached.trans (if_neg refused)⟩

theorem acceptWorkerResult_cases {fence : WorkerAuthorityFence Json} {run : AgentRunProps Json} {result : Json}
    {acceptedAt : Date} {accepted : Bool}
    (returned : acceptWorkerResult authorities fence run result acceptedAt part = .ok (accepted, after)) :
    (accepted = false ∧ after = part) ∨ accepted = true ∧ ∃ row, part.row = some row ∧
      fencedRow row fence run.updatedAt = true ∧ fenced authorities row fence acceptedAt = true := by
  unfold acceptWorkerResult at returned
  split at returned
  · cases returned
    exact .inl ⟨rfl, rfl⟩
  · next row present =>
    split at returned
    · cases returned
      exact .inl ⟨rfl, rfl⟩
    · next holds =>
      obtain ⟨events, -, returned⟩ := bind_ok returned
      cases returned
      simp only [not_or, Bool.not_eq_true', Bool.not_eq_false] at holds
      exact .inr ⟨rfl, row, present, holds⟩

theorem acceptWorkerResult_follows {fence : WorkerAuthorityFence Json} {run : AgentRunProps Json} {result : Json}
    {acceptedAt : Date} {accepted : Bool} (present : part.row = some row)
    (returned : acceptWorkerResult authorities fence run result acceptedAt part = .ok (accepted, after)) :
    ∃ next, after.row = some next ∧ Follows row next := by
  unfold acceptWorkerResult at returned
  rw [present] at returned
  dsimp only at returned
  split at returned
  · cases returned
    exact ⟨row, present, .refl row⟩
  · next holds =>
    obtain ⟨events, -, returned⟩ := bind_ok returned
    cases returned
    simp only [not_or, Bool.not_eq_true', Bool.not_eq_false, fencedRow, Bool.and_eq_true, decide_eq_true_eq] at holds
    have edge : Transition row.status .reviewing := by
      rw [holds.1.1.1.2]
      decide
    exact ⟨_, rfl, rfl, rfl, rfl, rfl, rfl, .inr (.single edge)⟩

end

namespace RuntimeTables

theorem findRow_some (found : tables.findRow runId = some row) : row ∈ tables.runs ∧ row.id = runId := by
  have selected := List.find?_some found
  exact ⟨List.mem_of_find?_eq_some found, of_decide_eq_true selected⟩

theorem findRow_of_mem (unique : (tables.runs.map (·.id)).Nodup) (member : row ∈ tables.runs) :
    tables.findRow row.id = some row :=
  find_keyed unique member (decide_eq_true rfl) fun _ _ same => of_decide_eq_true same

theorem writeRow_follows (unique : (tables.runs.map (·.id)).Nodup) (found : tables.findRow runId = some row)
    {next : AgentRunState Json} (follows : Follows row next) :
    List.Forall₂ Follows tables.runs (tables.writeRow runId (some next)) := by
  rw [writeRow, if_pos (by rw [found]; rfl), List.forall₂_map_right_iff, List.forall₂_same]
  intro stored member
  split
  · next same =>
    obtain ⟨stands, about⟩ := findRow_some found
    rw [keyed_eq unique stands member (same.trans about.symm)]
    exact follows
  · exact .refl stored

theorem writeRow_same (unique : (tables.runs.map (·.id)).Nodup) :
    tables.writeRow runId (tables.findRow runId) = tables.runs := by
  cases found : tables.findRow runId with
  | none => rfl
  | some row =>
    rw [writeRow, if_pos (by rw [found]; rfl)]
    obtain ⟨stands, about⟩ := findRow_some found
    refine (List.map_congr_left fun stored member => ?_).trans (List.map_id _)
    split
    · next same => exact (keyed_eq unique stands member (same.trans about.symm)).symm
    · rfl

theorem mem_of_follows {before after : List (AgentRunState Json)} (each : List.Forall₂ Follows before after)
    (member : row ∈ before) : ∃ next ∈ after, Follows row next := by
  induction each with
  | nil => cases member
  | cons first _ ih =>
    rcases List.mem_cons.mp member with rfl | later
    · exact ⟨_, List.mem_cons_self, first⟩
    · obtain ⟨next, inAfter, follows⟩ := ih later
      exact ⟨next, List.mem_cons_of_mem _ inAfter, follows⟩

theorem follows_mem {before after : List (AgentRunState Json)} (each : List.Forall₂ Follows before after)
    (member : row ∈ after) : ∃ earlier ∈ before, Follows earlier row := by
  induction each with
  | nil => cases member
  | cons first _ ih =>
    rcases List.mem_cons.mp member with rfl | later
    · exact ⟨_, List.mem_cons_self, first⟩
    · obtain ⟨earlier, inBefore, follows⟩ := ih later
      exact ⟨earlier, List.mem_cons_of_mem _ inBefore, follows⟩

theorem follows_ids {before after : List (AgentRunState Json)} (each : List.Forall₂ Follows before after) :
    after.map (·.id) = before.map (·.id) := by
  induction each with
  | nil => rfl
  | cons first _ ih => rw [List.map_cons, List.map_cons, ih, first.id]

/-- The tables after a run moved on: every row follows its own, a lock that is gone was that of a run that has ended,
and one that was renewed has not expired. -/
structure Succeeds (now : Date) (before after : RuntimeTables Json) : Prop where
  rows : List.Forall₂ Follows before.runs after.runs
  lockTasks : (after.locks.map TaskLock.taskId).Sublist (before.locks.map TaskLock.taskId)
  kept : ∀ lock ∈ before.locks,
    (∃ later ∈ after.locks, later.taskId = lock.taskId ∧ later.runId = lock.runId) ∨
      ∃ row ∈ after.runs, row.id = lock.runId ∧ AgentRun.isTerminal row.status = true
  stood : ∀ lock ∈ after.locks, ∃ earlier ∈ before.locks, earlier.taskId = lock.taskId ∧ earlier.runId = lock.runId ∧
    (earlier.expiresAt = lock.expiresAt ∨ now < lock.expiresAt)

theorem Succeeds.refl (now : Date) (tables : RuntimeTables Json) : Succeeds now tables tables where
  rows := List.forall₂_same.mpr fun row _ => .refl row
  lockTasks := .refl _
  kept := fun lock member => .inl ⟨lock, member, rfl, rfl⟩
  stood := fun lock member => ⟨lock, member, rfl, rfl, .inl rfl⟩

theorem Succeeds.of_rows {after : RuntimeTables Json} (now : Date)
    (rows : List.Forall₂ Follows tables.runs after.runs) (same : after.locks = tables.locks) :
    Succeeds now tables after where
  rows := rows
  lockTasks := by rw [same]
  kept := fun lock member => .inl ⟨lock, same ▸ member, rfl, rfl⟩
  stood := fun lock member => ⟨lock, same ▸ member, rfl, rfl, .inl rfl⟩

theorem Succeeds.released {after : RuntimeTables Json} (now : Date)
    (rows : List.Forall₂ Follows tables.runs after.runs) (locks : after.locks = tables.locks.filter fun lock => lock.runId ≠ runId)
    (finished : ∃ row ∈ after.runs, row.id = runId ∧ AgentRun.isTerminal row.status = true) :
    Succeeds now tables after where
  rows := rows
  lockTasks := by rw [locks]; exact List.filter_sublist.map _
  stood := fun lock member => ⟨lock, (List.mem_filter.mp (locks ▸ member)).1, rfl, rfl, .inl rfl⟩
  kept := by
    intro lock member
    by_cases own : lock.runId = runId
    · rw [own]
      exact .inr finished
    · refine .inl ⟨lock, ?_, rfl, rfl⟩
      rw [locks]
      exact List.mem_filter.mpr ⟨member, decide_eq_true own⟩

section

variable [DecidableEq Json] {errors : AdmissionErrors Json} {authorities : AuthorityTables}

theorem saveRun_ok {value saved : AgentRunProps Json} {after : RuntimeTables Json} (now : Date)
    (unique : (tables.runs.map (·.id)).Nodup) (stands : ∃ row ∈ tables.runs, row.id = value.id)
    (returned : tables.saveRun codec value = .ok (saved, after)) :
    saved = AgentRun.markPersisted value ∧ Succeeds now tables after ∧ after.locks = tables.locks ∧
      ∃ next ∈ after.runs, next.id = value.id ∧ next.status = value.status := by
  obtain ⟨row, member, about⟩ := stands
  have found : tables.findRow value.id = some row := about ▸ findRow_of_mem unique member
  obtain ⟨⟨object, part⟩, written, returned⟩ := map_ok returned
  cases returned
  obtain ⟨next, stored, follows, status, same⟩ := saveRun_follows found written
  have rows : List.Forall₂ Follows tables.runs (tables.withRun value.id part).runs := by
    rw [withRun, stored]
    exact writeRow_follows unique found follows
  refine ⟨same, .of_rows now rows rfl, rfl, next, ?_, follows.id.trans about, status⟩
  rw [withRun, stored, writeRow, if_pos (by rw [found]; rfl)]
  exact List.mem_map.mpr ⟨row, member, if_pos about⟩

theorem admitQueuedRun_id {input : RunAdmission} {admitted : AgentRunProps Json} {after : RuntimeTables Json}
    (returned : tables.admitQueuedRun codec errors authorities input = .ok (some admitted, after)) :
    admitted.id = input.runId := by
  obtain ⟨⟨answer, part, locks⟩, written, returned⟩ := map_ok returned
  cases returned
  unfold AgentRuntime.admitQueuedRun at written
  split at written
  · cases written
  · split at written
    · cases written
    · next row found eligible =>
      obtain ⟨value, loaded, written⟩ := bind_ok written
      obtain ⟨changed, moved, written⟩ := bind_ok written
      obtain ⟨events, -, written⟩ := bind_ok written
      cases written
      simp only [not_or, not_not] at eligible
      exact (AgentRun.transition_id moved).trans ((load_id loaded).trans eligible.1)

theorem saveRun_inserts {value saved : AgentRunProps Json} {after : RuntimeTables Json}
    (fresh : ∀ row ∈ tables.runs, row.id ≠ value.id) (returned : tables.saveRun codec value = .ok (saved, after)) :
    after.runs = tables.runs ++ [value.toAgentRunState] ∧ after.locks = tables.locks := by
  have absent : tables.findRow value.id = none :=
    List.find?_eq_none.mpr fun row member => by simpa using fresh row member
  obtain ⟨⟨object, part⟩, written, returned⟩ := map_ok returned
  cases returned
  unfold AgentRuntime.saveRun at written
  rw [show (tables.ofRun value.id).row = none from absent] at written
  cases written
  refine ⟨?_, rfl⟩
  rw [withRun, writeRow, absent]
  rfl

theorem acceptWorkerResult_ok {fence : WorkerAuthorityFence Json} {run : AgentRunProps Json} {result : Json}
    {acceptedAt : Date} {accepted : Bool} {after : RuntimeTables Json} (now : Date)
    (unique : (tables.runs.map (·.id)).Nodup) (stands : ∃ row ∈ tables.runs, row.id = fence.runId)
    (returned : tables.acceptWorkerResult authorities fence run result acceptedAt = .ok (accepted, after)) :
    Succeeds now tables after := by
  obtain ⟨row, member, about⟩ := stands
  have found : tables.findRow fence.runId = some row := about ▸ findRow_of_mem unique member
  obtain ⟨⟨answer, part⟩, written, returned⟩ := map_ok returned
  cases returned
  obtain ⟨next, stored, follows⟩ := acceptWorkerResult_follows found written
  refine .of_rows now ?_ rfl
  rw [withRun, stored]
  exact writeRow_follows unique found follows

theorem acceptWorkerResult_refused {fence : WorkerAuthorityFence Json} {run : AgentRunProps Json} {result : Json}
    {acceptedAt : Date} {after : RuntimeTables Json} (unique : (tables.runs.map (·.id)).Nodup)
    (returned : tables.acceptWorkerResult authorities fence run result acceptedAt = .ok (false, after)) :
    after.runs = tables.runs ∧ after.events.Perm tables.events ∧ after.locks = tables.locks := by
  obtain ⟨⟨answer, part⟩, written, returned⟩ := map_ok returned
  cases returned
  rcases acceptWorkerResult_cases written with ⟨-, rfl⟩ | ⟨impossible, -⟩
  · refine ⟨?_, ?_, rfl⟩
    · exact writeRow_same unique
    · have split := List.filter_append_perm (fun event => decide (event.runId ≠ fence.runId)) tables.events
      simpa [withRun, ofRun] using split
  · cases impossible

theorem acceptWorkerResult_accepted {fence : WorkerAuthorityFence Json} {run : AgentRunProps Json} {result : Json}
    {acceptedAt : Date} {after : RuntimeTables Json}
    (returned : tables.acceptWorkerResult authorities fence run result acceptedAt = .ok (true, after)) :
    ∃ row, tables.findRow fence.runId = some row ∧ fencedRow row fence run.updatedAt = true ∧
      fenced { authorities with locks := tables.locks } row fence acceptedAt = true := by
  obtain ⟨⟨answer, part⟩, written, returned⟩ := map_ok returned
  cases returned
  rcases acceptWorkerResult_cases written with ⟨impossible, -⟩ | ⟨-, row, holds⟩
  · cases impossible
  · exact ⟨row, holds⟩

theorem acceptWorkerResult_ids {fence : WorkerAuthorityFence Json} {run : AgentRunProps Json} {result : Json}
    {acceptedAt : Date} {accepted : Bool} {after : RuntimeTables Json} (unique : (tables.runs.map (·.id)).Nodup)
    (returned : tables.acceptWorkerResult authorities fence run result acceptedAt = .ok (accepted, after)) :
    after.runs.map (·.id) = tables.runs.map (·.id) := by
  cases accepted with
  | false => rw [(acceptWorkerResult_refused unique returned).1]
  | true =>
    obtain ⟨row, found, -⟩ := acceptWorkerResult_accepted returned
    exact follows_ids (acceptWorkerResult_ok acceptedAt unique ⟨row, findRow_some found⟩ returned).rows

theorem admitQueuedRun_ok {input : RunAdmission} {admitted : Option (AgentRunProps Json)} {after : RuntimeTables Json}
    (now : Date) (unique : (tables.runs.map (·.id)).Nodup) (stands : ∃ row ∈ tables.runs, row.id = input.runId)
    (returned : tables.admitQueuedRun codec errors authorities input = .ok (admitted, after)) :
    Succeeds now tables after := by
  obtain ⟨row, member, about⟩ := stands
  have found : tables.findRow input.runId = some row := about ▸ findRow_of_mem unique member
  obtain ⟨⟨answer, part, locks⟩, written, returned⟩ := map_ok returned
  cases returned
  obtain ⟨next, stored, follows, freed⟩ := admitQueuedRun_follows found written
  have rows : List.Forall₂ Follows tables.runs (tables.withRun input.runId part).runs := by
    rw [withRun, stored]
    exact writeRow_follows unique found follows
  rcases freed with same | ⟨freed, ended⟩
  · exact .of_rows now rows same
  · refine .released now rows freed ⟨next, ?_, follows.id.trans about, by rw [ended]; rfl⟩
    change next ∈ (tables.withRun input.runId part).runs
    rw [withRun, stored, writeRow, if_pos (by rw [found]; rfl)]
    exact List.mem_map.mpr ⟨row, member, if_pos about⟩

end

theorem acquireTaskLock_acquired {taskId : String} {acquiredAt expiresAt : Date}
    (acquired : (tables.acquireTaskLock taskId runId acquiredAt expiresAt).1 ≠ false) :
    tables.lockable taskId acquiredAt = true ∧
      (tables.acquireTaskLock taskId runId acquiredAt expiresAt).2 = { tables with
        locks := (tables.locks.filter fun lock => lock.taskId ≠ taskId) ++ [⟨taskId, runId, expiresAt⟩] } := by
  unfold acquireTaskLock at acquired ⊢
  split at acquired
  · next may =>
    rw [if_pos may]
    exact ⟨(Bool.and_eq_true _ _ ▸ may).2, rfl⟩
  · exact absurd rfl acquired

theorem renewTaskLock_ok (tables : RuntimeTables Json) (runId : String) (now newExpiresAt : Date) :
    Succeeds now tables (tables.renewTaskLock runId now newExpiresAt).2 := by
  unfold renewTaskLock
  split
  · exact .refl now tables
  · next later =>
    refine ⟨List.forall₂_same.mpr fun row _ => .refl row, ?_, fun lock member => .inl ⟨_, List.mem_map_of_mem member, ?_⟩,
      fun lock member => ?_⟩
    · have same : TaskLock.taskId ∘ (fun lock : TaskLock =>
          if tables.renewable runId now lock then { lock with expiresAt := newExpiresAt } else lock) =
          TaskLock.taskId := by
        funext lock
        rw [Function.comp_apply]
        split <;> rfl
      rw [List.map_map, same]
    · split <;> exact ⟨rfl, rfl⟩
    · obtain ⟨earlier, stood, rfl⟩ := List.mem_map.mp member
      refine ⟨earlier, stood, ?_⟩
      split
      · exact ⟨rfl, rfl, .inr (Int.not_le.mp later)⟩
      · exact ⟨rfl, rfl, .inl rfl⟩

end RuntimeTables

end AiOffice.Storage.AgentRuntime
