import AiOffice.Application.ManageAgentRuns.Effects
import AiOffice.Application.ScheduleAgentRun.Interleaving

namespace AiOffice.Application.ScheduleAgentRun

open Data Outcome Domain Storage Storage.AgentRuntime Storage.AgentRuntime.RuntimeTables
  Storage.Office

variable {Json : Type}

def SchedulingPhase.listed : SchedulingPhase → List String
  | .agent listed | .admission listed _ _ => listed
  | _ => []

def Holds (tables : RuntimeTables Json) (row : AgentRunState Json) : Prop :=
  ∃ lock ∈ tables.locks, lock.taskId = row.taskId ∧ lock.runId = row.id

/-- A run that lost the lock of its task, after the lock had expired, to a call that had not listed it. -/
def Lost (takeovers : List Takeover) (row : AgentRunState Json) : Prop :=
  ∃ takeover ∈ takeovers, takeover.taskId = row.taskId ∧ takeover.lost = row.id ∧
    takeover.expiresAt ≤ takeover.acquiredAt ∧ row.id ∉ takeover.listed

def Dispatch.runId : Dispatch Json → String
  | .listed run | .reserved run => run.id
  | .executing execution => execution.run.id

def ExecutionPhase.isReleasing : ExecutionPhase Json → Bool
  | .releasing => true
  | _ => false

def Dispatch.isReleasing : Dispatch Json → Bool
  | .executing execution => ExecutionPhase.isReleasing execution.phase
  | _ => false

/-- A run that has a row, one that has ended if its lock is about to be released. -/
def Backed (tables : RuntimeTables Json) (dispatch : Dispatch Json) : Prop :=
  ∃ row ∈ tables.runs, row.id = dispatch.runId ∧
    (dispatch.isReleasing = true → AgentRun.isTerminal row.status = true)

/-- The invariant of a runtime: every open run holds the lock of its task or has lost it to a takeover. -/
structure Exclusive (runtime : Runtime Json) : Prop where
  runIds : (runtime.host.tables.runs.map (·.id)).Nodup
  lockTasks : (runtime.host.tables.locks.map TaskLock.taskId).Nodup
  held : ∀ row ∈ runtime.host.tables.runs, AgentRun.isTerminal row.status = false →
    Holds runtime.host.tables row ∨ Lost runtime.takeovers row
  listed : ∀ caller call, runtime.scheduling caller = some call → ∀ id ∈ call.phase.listed,
    ∃ row ∈ runtime.host.tables.runs, row.id = id ∧ AgentRun.isTerminal row.status = true
  fresh : ∀ caller input listed id now, runtime.scheduling caller = some ⟨input, .admission listed id now⟩ →
    ∀ row ∈ runtime.host.tables.runs, row.id ≠ id
  distinct : ∀ caller other input others listed also id now later,
    runtime.scheduling caller = some ⟨input, .admission listed id now⟩ →
      runtime.scheduling other = some ⟨others, .admission also id later⟩ → caller = other
  backed : ∀ caller dispatch, runtime.dispatches caller = some dispatch → Backed runtime.host.tables dispatch

variable {runtime : Runtime Json} {tables after : RuntimeTables Json} {row : AgentRunState Json} {id runId : String}
  {caller : Nat} {now : Date}

theorem Backed.succeeds {dispatch : Dispatch Json} (backed : Backed tables dispatch)
    (succeeds : Succeeds now tables after) : Backed after dispatch := by
  obtain ⟨row, member, about, ended⟩ := backed
  obtain ⟨next, inAfter, follows⟩ := mem_of_follows succeeds.rows member
  exact ⟨next, inAfter, follows.id.trans about, fun releasing => follows.terminal (ended releasing)⟩

theorem Holds.succeeds {earlier : AgentRunState Json} (unique : (after.runs.map (·.id)).Nodup)
    (holds : Holds tables earlier) (succeeds : Succeeds now tables after) (member : row ∈ after.runs)
    (follows : Follows earlier row) (opened : AgentRun.isTerminal row.status = false) : Holds after row := by
  obtain ⟨lock, inLocks, task, run⟩ := holds
  rcases succeeds.kept lock inLocks with ⟨later, inAfter, sameTask, sameRun⟩ | ⟨other, also, about, ended⟩
  · exact ⟨later, inAfter, sameTask.trans (task.trans follows.taskId.symm), sameRun.trans (run.trans follows.id.symm)⟩
  · have same := keyed_eq unique member also (about.trans (run.trans follows.id.symm))
    rw [same, opened] at ended
    cases ended

/-- Moving runs on keeps the invariant. -/
theorem Exclusive.succeeds (exclusive : Exclusive runtime) (succeeds : Succeeds now runtime.host.tables after) :
    Exclusive (runtime.setTables after) where
  runIds := by
    change (after.runs.map (·.id)).Nodup
    rw [follows_ids succeeds.rows]
    exact exclusive.runIds
  lockTasks := exclusive.lockTasks.sublist succeeds.lockTasks
  held := by
    intro row member opened
    have unique : (after.runs.map (·.id)).Nodup := by rw [follows_ids succeeds.rows]; exact exclusive.runIds
    obtain ⟨earlier, stood, follows⟩ := follows_mem succeeds.rows member
    have openedBefore : AgentRun.isTerminal earlier.status = false := by
      rw [← Bool.not_eq_true]
      intro terminal
      rw [follows.terminal terminal] at opened
      cases opened
    rcases exclusive.held earlier stood openedBefore with holds | ⟨takeover, happened, task, lost, expired, unlisted⟩
    · exact .inl (holds.succeeds unique succeeds member follows opened)
    · refine .inr ⟨takeover, happened, task.trans follows.taskId.symm, lost.trans follows.id.symm, expired, ?_⟩
      rw [follows.id]
      exact unlisted
  listed := by
    intro caller call here id member
    obtain ⟨row, stood, about, ended⟩ := exclusive.listed caller call here id member
    obtain ⟨next, inAfter, follows⟩ := mem_of_follows succeeds.rows stood
    exact ⟨next, inAfter, follows.id.trans about, follows.terminal ended⟩
  fresh := by
    intro caller input listed id now here row member same
    obtain ⟨earlier, stood, follows⟩ := follows_mem succeeds.rows member
    exact exclusive.fresh caller input listed id now here earlier stood (follows.id.symm.trans same)
  distinct := exclusive.distinct
  backed := fun caller dispatch here => (exclusive.backed caller dispatch here).succeeds succeeds

section

variable [DecidableEq Json] {codec : AgentRunCodec Json} {run : AgentRunProps Json}

/-- What a step of an execution leaves: the runs have moved on, and the execution is still backed. -/
def Proceeds (now : Date) (tables : RuntimeTables Json) (runId : String) (left : Execution Json × RuntimeTables Json) : Prop :=
  Succeeds now tables left.2 ∧ left.1.run.id = runId ∧ Backed left.2 (.executing left.1)

omit [DecidableEq Json] in
theorem Proceeds.idle {phase : ExecutionPhase Json} (stands : ∃ row ∈ tables.runs, row.id = run.id)
    (holding : ExecutionPhase.isReleasing phase = false) : Proceeds now tables run.id (⟨run, phase⟩, tables) := by
  obtain ⟨row, member, about⟩ := stands
  refine ⟨.refl now tables, rfl, row, member, about, fun releasing => ?_⟩
  rw [Dispatch.isReleasing, holding] at releasing
  cases releasing

theorem persist_proceeds {status : AgentRunStatus} {details : AgentRunDetails Json} {next : ExecutionPhase Json}
    (unique : (tables.runs.map (·.id)).Nodup) (stands : ∃ row ∈ tables.runs, row.id = run.id)
    (ends : ExecutionPhase.isReleasing next = true → AgentRun.isTerminal status = true) :
    Proceeds now tables run.id (ExecuteAgentRun.persist codec run status now details next tables) := by
  unfold ExecuteAgentRun.persist
  cases transitioned : AgentRun.transition codec run status now details with
  | error thrown => exact .idle stands rfl
  | ok moved =>
    have same := AgentRun.transition_id transitioned
    have standsStill : ∃ row ∈ tables.runs, row.id = moved.id := by rwa [same]
    dsimp only
    cases written : tables.saveRun codec moved with
    | error thrown => exact same ▸ .idle standsStill rfl
    | ok saved =>
      obtain ⟨object, after⟩ := saved
      obtain ⟨rfl, succeeds, -, stored, member, about, reached⟩ := saveRun_ok now unique standsStill written
      refine ⟨succeeds, same, stored, member, about, fun releasing => ?_⟩
      rw [reached, (AgentRun.transition_ok transitioned).2.1]
      exact ends releasing

theorem accept_proceeds {fence : WorkerAuthorityFence Json} {result : Json} {authorities : AuthorityTables}
    (unique : (tables.runs.map (·.id)).Nodup) (stands : ∃ row ∈ tables.runs, row.id = run.id) :
    Proceeds now tables run.id (ExecuteAgentRun.accept codec run fence result now authorities tables) := by
  unfold ExecuteAgentRun.accept
  split
  · exact .idle stands rfl
  · exact .idle stands rfl
  · next after accepted =>
    have succeeds := acceptWorkerResult_ok now unique stands accepted
    obtain ⟨row, member, about⟩ := stands
    obtain ⟨later, inAfter, follows⟩ := mem_of_follows succeeds.rows member
    split
    · exact ⟨succeeds, rfl, later, inAfter, follows.id.trans about, nofun⟩
    · next moved transitioned =>
      have same := AgentRun.transition_id transitioned
      exact ⟨succeeds, same, later, inAfter, (follows.id.trans about).trans same.symm, nofun⟩

theorem handle_proceeds {cancelled : Bool} {error : Json} (unique : (tables.runs.map (·.id)).Nodup)
    (stands : ∃ row ∈ tables.runs, row.id = run.id) :
    Proceeds now tables run.id (ExecuteAgentRun.handle codec run cancelled error now tables) := by
  unfold ExecuteAgentRun.handle
  split
  · exact .idle stands rfl
  · have proceeds : Proceeds now tables run.id (ExecuteAgentRun.persist codec run
        (if cancelled then .cancelled else .failed) now { error := some error } .releasing tables) :=
      persist_proceeds unique stands fun _ => by cases cancelled <;> rfl
    split
    · next moved after persisted =>
      rw [persisted] at proceeds
      obtain ⟨succeeds, same, row, member, about, -⟩ := proceeds
      exact ⟨succeeds, same, row, member, about, nofun⟩
    · exact proceeds

theorem step_proceeds {execution : Execution Json} {event : ExecutionEvent Json} {authorities : AuthorityTables}
    (unique : (tables.runs.map (·.id)).Nodup) (backed : Backed tables (.executing execution)) :
    Proceeds now tables execution.run.id (ExecuteAgentRun.step codec execution event now authorities tables) := by
  obtain ⟨row, member, about, ended⟩ := backed
  have stands : ∃ row ∈ tables.runs, row.id = execution.run.id := ⟨row, member, about⟩
  unfold ExecuteAgentRun.step
  split
  · exact persist_proceeds unique stands fun _ => rfl
  · split
    · exact persist_proceeds unique stands nofun
    · exact .idle stands rfl
  · exact persist_proceeds unique stands nofun
  · exact persist_proceeds unique stands nofun
  · exact accept_proceeds unique stands
  · exact persist_proceeds unique stands fun _ => rfl
  · exact .idle stands rfl
  · exact .idle stands rfl
  · exact handle_proceeds unique stands
  · next releasing =>
    have finished : ∃ row ∈ tables.runs, row.id = execution.run.id ∧ AgentRun.isTerminal row.status = true :=
      ⟨row, member, about, ended (by rw [Dispatch.isReleasing, releasing]; rfl)⟩
    refine ⟨.released now (List.forall₂_same.mpr fun row _ => .refl row) rfl finished, rfl, row, member, about, nofun⟩
  · exact ⟨.refl now tables, rfl, row, member, about, ended⟩

end

open ManageAgentRuns in
section

variable [DecidableEq Json] {recovery : RunRecovery Json} {host : RuntimeHost Json} {run : AgentRunProps Json}

theorem resolve_succeeds {error : Json} (unique : (tables.runs.map (·.id)).Nodup)
    (stands : ∃ row ∈ tables.runs, row.id = run.id) (resolved : resolve recovery run now error tables = .ok after) :
    Succeeds now tables after := by
  obtain ⟨cancelled, transitioned, resolved⟩ := bind_ok resolved
  obtain ⟨⟨object, saved⟩, written, resolved⟩ := bind_ok resolved
  cases resolved
  have same := AgentRun.transition_id transitioned
  obtain ⟨-, succeeds, locks, row, member, about, reached⟩ := saveRun_ok now unique (same ▸ stands) written
  refine .released now succeeds.rows ?_ ⟨row, member, about.trans same, ?_⟩
  · change saved.locks.filter _ = _
    rw [locks]
  · rw [reached, (AgentRun.transition_ok transitioned).2.1]
    rfl

omit [DecidableEq Json] in
theorem requireRun_stands {projectId : String} (required : requireRun recovery host projectId runId = .ok run) :
    ∃ row ∈ host.tables.runs, row.id = run.id ∧ run.status = row.status := by
  obtain ⟨row, found, loaded, -⟩ := requireRun_ok required
  have fields := loaded_ok loaded
  exact ⟨row, (findRow_some found).1, fields.id.symm, fields.status⟩

theorem cancelQueued_succeeds {projectId : String} (unique : (host.tables.runs.map (·.id)).Nodup)
    (committed : cancelQueued recovery projectId runId now host = .ok after) : Succeeds now host.tables after := by
  obtain ⟨run, required, committed⟩ := bind_ok committed
  obtain ⟨-, resolved⟩ := guard_ok committed
  obtain ⟨row, member, about, -⟩ := requireRun_stands required
  exact resolve_succeeds unique ⟨row, member, about⟩ resolved

theorem reconcile_succeeds {input : RunCommand} {approve : String} (unique : (host.tables.runs.map (·.id)).Nodup)
    (committed : reconcile recovery input approve now host = .ok after) : Succeeds now host.tables after := by
  obtain ⟨report, inspected, committed⟩ := bind_ok committed
  obtain ⟨-, committed⟩ := guard_ok committed
  obtain ⟨run, required, committed⟩ := bind_ok committed
  obtain ⟨row, member, about, status⟩ := requireRun_stands required
  split at committed
  · exact resolve_succeeds unique ⟨row, member, about⟩ committed
  · next cleanup =>
    cases committed
    obtain ⟨also, given, again, rfl⟩ := inspect_ok inspected
    rw [required] at again
    cases again
    have ended : AgentRun.isTerminal run.status = true := by
      have classified : classify recovery host run = .terminalCleanup := not_not.mp cleanup
      unfold classify at classified
      split at classified
      · cases classified
      · split at classified
        · cases classified
        · split at classified
          · next terminal => exact terminal
          · split at classified <;> cases classified
    exact .released now (List.forall₂_same.mpr fun row _ => .refl row) rfl ⟨row, member, about, status ▸ ended⟩

end

/-- What an admission commits: a new queued run, and its lock on a task that was free or whose lock had expired. -/
structure Admitted (tables : RuntimeTables Json) (taskId id : String) (now : Date) (after : RuntimeTables Json) :
    Prop where
  run : ∃ row : AgentRunState Json, row.id = id ∧ row.taskId = taskId ∧ after.runs = tables.runs ++ [row]
  lock : ∃ expiresAt, after.locks = (tables.locks.filter fun lock => lock.taskId ≠ taskId) ++ [⟨taskId, id, expiresAt⟩]
  expired : ∀ lock, tables.findTaskLock taskId = some lock → lock.expiresAt ≤ now

theorem createRun_ok {services : ScheduleServices Json} {input : ScheduleInput Json} {now : Date} {office : OfficeTables}
    {run : AgentRunProps Json} (created : createRun services input id now office = .ok run) :
    run.id = id ∧ run.taskId = input.taskId := by
  obtain ⟨agent, -, created⟩ := bind_ok created
  obtain ⟨role, -, created⟩ := bind_ok created
  obtain ⟨stage, -, created⟩ := bind_ok created
  obtain ⟨modelRouting, -, created⟩ := bind_ok created
  obtain ⟨named, task, -⟩ := AgentRun.create_ok created
  exact ⟨named, task⟩

theorem commitAdmission_ok [DecidableEq Json] {services : ScheduleServices Json} {input : ScheduleInput Json} {now : Date}
    {office : OfficeTables} {jobs later : List AgentRunJob} (fresh : ∀ row ∈ tables.runs, row.id ≠ id)
    (committed : commitAdmission services input id now office tables jobs = .ok (after, later)) :
    ∃ run, createRun services input id now office = .ok run ∧ after.runs = tables.runs ++ [run.toAgentRunState] ∧
      after.locks = (tables.locks.filter fun lock => lock.taskId ≠ input.taskId) ++
        [⟨input.taskId, id, now + taskRunLeaseDurationMs⟩] ∧
      ∀ lock, tables.findTaskLock input.taskId = some lock → lock.expiresAt ≤ now := by
  obtain ⟨-, -, committed⟩ := bind_ok committed
  obtain ⟨run, created, committed⟩ := bind_ok committed
  obtain ⟨⟨object, saved⟩, written, committed⟩ := bind_ok committed
  dsimp only at committed
  obtain ⟨locked, committed⟩ := guard_ok committed
  obtain ⟨appended, -, committed⟩ := bind_ok committed
  have named := (createRun_ok created).1
  obtain ⟨runs, locks⟩ := saveRun_inserts (named ▸ fresh) written
  obtain ⟨lockable, acquired⟩ := acquireTaskLock_acquired locked
  have same : after = (saved.acquireTaskLock input.taskId run.id now (now + taskRunLeaseDurationMs)).2 := by
    cases committed
    rfl
  rw [same, acquired]
  refine ⟨run, created, runs, by rw [locks, named], fun lock found => ?_⟩
  rw [RuntimeTables.lockable, RuntimeTables.findTaskLock, locks] at lockable
  rw [RuntimeTables.findTaskLock] at found
  rw [found] at lockable
  exact of_decide_eq_true lockable

theorem commitAdmission_admitted [DecidableEq Json] {services : ScheduleServices Json} {input : ScheduleInput Json} {now : Date}
    {office : OfficeTables} {jobs later : List AgentRunJob} (fresh : ∀ row ∈ tables.runs, row.id ≠ id)
    (committed : commitAdmission services input id now office tables jobs = .ok (after, later)) :
    Admitted tables input.taskId id now after := by
  obtain ⟨run, created, runs, locks, expired⟩ := commitAdmission_ok fresh committed
  obtain ⟨named, task⟩ := createRun_ok created
  exact ⟨⟨run.toAgentRunState, named, task, runs⟩, ⟨_, locks⟩, expired⟩

variable {call : Scheduling Json}

theorem Exclusive.congr {other : Runtime Json} (exclusive : Exclusive runtime)
    (tables : other.host.tables = runtime.host.tables) (scheduling : other.scheduling = runtime.scheduling)
    (dispatches : other.dispatches = runtime.dispatches) (takeovers : other.takeovers = runtime.takeovers) :
    Exclusive other where
  runIds := by rw [tables]; exact exclusive.runIds
  lockTasks := by rw [tables]; exact exclusive.lockTasks
  held := by rw [tables, takeovers]; exact exclusive.held
  listed := by rw [tables, scheduling]; exact exclusive.listed
  fresh := by rw [tables, scheduling]; exact exclusive.fresh
  distinct := by rw [scheduling]; exact exclusive.distinct
  backed := by rw [tables, dispatches]; exact exclusive.backed

theorem setScheduling_cases {other : Nat} {found : Scheduling Json}
    (here : (runtime.setScheduling caller call).scheduling other = some found) :
    other = caller ∧ found = call ∨ other ≠ caller ∧ runtime.scheduling other = some found := by
  by_cases same : other = caller
  · subst same
    rw [Runtime.scheduling_self] at here
    exact .inl ⟨rfl, (Option.some.inj here).symm⟩
  · rw [Runtime.scheduling_other _ _ same] at here
    exact .inr ⟨same, here⟩

theorem Exclusive.reserve (exclusive : Exclusive runtime) : Exclusive (runtime.reserve runId) :=
  exclusive.congr rfl rfl rfl rfl

theorem Fresh.setScheduling (fresh : Fresh runtime id) (early : ∀ listed now, call.phase ≠ .admission listed id now) :
    Fresh (runtime.setScheduling caller call) id := by
  refine ⟨fresh.1, fun other input listed now here => ?_⟩
  rcases setScheduling_cases here with ⟨-, rfl⟩ | ⟨-, earlier⟩
  · exact early listed now rfl
  · exact fresh.2 other input listed now earlier

theorem Exclusive.release (exclusive : Exclusive runtime) : Exclusive (runtime.release runId) :=
  exclusive.congr rfl rfl rfl rfl

theorem Exclusive.crashed (exclusive : Exclusive runtime) :
    Exclusive { runtime with
      host := { runtime.host with live := [] }
      scheduling := fun _ => none
      dispatches := fun _ => none } where
  runIds := exclusive.runIds
  lockTasks := exclusive.lockTasks
  held := exclusive.held
  listed := fun _ _ here => absurd here (Option.some_ne_none _).symm
  fresh := fun _ _ _ _ _ here => absurd here (Option.some_ne_none _).symm
  distinct := fun _ _ _ _ _ _ _ _ _ here => absurd here (Option.some_ne_none _).symm
  backed := fun _ _ here => absurd here (Option.some_ne_none _).symm

theorem Exclusive.setScheduling (exclusive : Exclusive runtime)
    (listed : ∀ id ∈ call.phase.listed, ∃ row ∈ runtime.host.tables.runs, row.id = id ∧
      AgentRun.isTerminal row.status = true)
    (fresh : ∀ listed id now, call.phase = .admission listed id now → Fresh runtime id) :
    Exclusive (runtime.setScheduling caller call) where
  runIds := exclusive.runIds
  lockTasks := exclusive.lockTasks
  held := exclusive.held
  listed := by
    intro other found here
    rcases setScheduling_cases here with ⟨-, rfl⟩ | ⟨-, earlier⟩
    · exact listed
    · exact exclusive.listed other found earlier
  fresh := by
    intro other input also id now here
    rcases setScheduling_cases here with ⟨-, rfl⟩ | ⟨-, earlier⟩
    · exact (fresh also id now rfl).1
    · exact exclusive.fresh other input also id now earlier
  distinct := by
    intro first second input others also more id now later here there
    rcases setScheduling_cases here with ⟨rfl, rfl⟩ | ⟨-, earlier⟩
    · rcases setScheduling_cases there with ⟨rfl, -⟩ | ⟨-, before⟩
      · rfl
      · exact absurd before ((fresh also id now rfl).2 second others more later)
    · rcases setScheduling_cases there with ⟨rfl, rfl⟩ | ⟨-, before⟩
      · exact absurd earlier ((fresh more id later rfl).2 first input also now)
      · exact exclusive.distinct first second input others also more id now later earlier before
  backed := exclusive.backed

theorem Exclusive.setDispatch {dispatch : Option (Dispatch Json)} (exclusive : Exclusive runtime)
    (backed : ∀ value, dispatch = some value → Backed runtime.host.tables value) :
    Exclusive (runtime.setDispatch caller dispatch) :=
  { exclusive with
    backed := by
      intro other value here
      by_cases same : other = caller
      · subst same
        rw [Runtime.dispatch_self] at here
        exact backed value here
      · rw [Runtime.dispatch_other _ _ same] at here
        exact exclusive.backed other value here }

theorem Exclusive.dismiss (exclusive : Exclusive runtime) : Exclusive (runtime.setDispatch caller none) :=
  exclusive.setDispatch fun value same => absurd same (Option.some_ne_none value).symm

theorem Exclusive.proceeds {left : Execution Json × RuntimeTables Json} (exclusive : Exclusive runtime)
    (proceeds : Proceeds now runtime.host.tables runId left) :
    Exclusive ((runtime.setTables left.2).setDispatch caller (some (.executing left.1))) := by
  obtain ⟨succeeds, -, backed⟩ := proceeds
  refine (exclusive.succeeds succeeds).setDispatch fun dispatch same => ?_
  cases same
  exact backed

theorem findTaskLock_of_mem {lock : TaskLock} (unique : (tables.locks.map TaskLock.taskId).Nodup)
    (member : lock ∈ tables.locks) : tables.findTaskLock lock.taskId = some lock :=
  find_keyed unique member (decide_eq_true rfl) fun _ _ same => of_decide_eq_true same

/-- An admission keeps the invariant: the run that held the lock of the task has ended, or loses it to the takeover. -/
theorem Exclusive.admitted {input : ScheduleInput Json} {listed : List String} {now : Date} {jobs : List AgentRunJob}
    (exclusive : Exclusive runtime) (here : runtime.scheduling caller = some ⟨input, .admission listed id now⟩)
    (admitted : Admitted runtime.host.tables input.taskId id now after) :
    Exclusive { (runtime.setTables after).setScheduling caller ⟨input, .scheduled id⟩ with
      jobs
      takeovers := (takeover input listed id now runtime.host.tables).toList ++ runtime.takeovers } := by
  obtain ⟨added, named, task, runs⟩ := admitted.run
  obtain ⟨expiresAt, locks⟩ := admitted.lock
  have fresh := exclusive.fresh caller input listed id now here
  have kept {row : AgentRunState Json} (member : row ∈ runtime.host.tables.runs) : row ∈ after.runs := by
    rw [runs]
    exact List.mem_append_left _ member
  refine ⟨?_, ?_, ?_, ?_, ?_, ?_, ?_⟩
  · change (after.runs.map (·.id)).Nodup
    rw [runs, List.map_append, List.nodup_append']
    refine ⟨exclusive.runIds, List.nodup_singleton _, fun value earlier later => ?_⟩
    obtain ⟨row, member, rfl⟩ := List.mem_map.mp earlier
    rw [List.map_singleton, List.mem_singleton, named] at later
    exact fresh row member later
  · change (after.locks.map TaskLock.taskId).Nodup
    rw [locks, List.map_append, List.nodup_append']
    refine ⟨exclusive.lockTasks.sublist (List.filter_sublist.map _), List.nodup_singleton _, fun value earlier later => ?_⟩
    obtain ⟨lock, member, rfl⟩ := List.mem_map.mp earlier
    rw [List.map_singleton, List.mem_singleton] at later
    simp [later] at member
  · intro row member opened
    change row ∈ after.runs at member
    rw [runs, List.mem_append, List.mem_singleton] at member
    rcases member with stood | rfl
    · rcases exclusive.held row stood opened with ⟨lock, inLocks, lockTask, lockRun⟩ | ⟨earlier, happened, lost⟩
      · by_cases same : lock.taskId = input.taskId
        · have found : runtime.host.tables.findTaskLock input.taskId = some lock :=
            same ▸ findTaskLock_of_mem exclusive.lockTasks inLocks
          refine .inr ⟨⟨input.taskId, lock.runId, lock.expiresAt, id, now, listed⟩, ?_, same.symm.trans lockTask, lockRun,
            admitted.expired lock found, fun checked => ?_⟩
          · refine List.mem_append_left _ ?_
            rw [takeover, found]
            exact List.mem_singleton_self _
          · obtain ⟨ended, also, about, terminal⟩ := exclusive.listed caller _ here row.id checked
            rw [keyed_eq exclusive.runIds stood also about, opened] at terminal
            cases terminal
        · refine .inl ⟨lock, ?_, lockTask, lockRun⟩
          change lock ∈ after.locks
          rw [locks]
          exact List.mem_append_left _ (List.mem_filter.mpr ⟨inLocks, decide_eq_true same⟩)
      · exact .inr ⟨earlier, List.mem_append_right _ happened, lost⟩
    · refine .inl ⟨⟨input.taskId, id, expiresAt⟩, ?_, task.symm, named.symm⟩
      change _ ∈ after.locks
      rw [locks]
      exact List.mem_append_right _ (List.mem_singleton_self _)
  · intro other found there value member
    rcases setScheduling_cases there with ⟨-, rfl⟩ | ⟨-, earlier⟩
    · cases member
    · obtain ⟨row, stood, about, ended⟩ := exclusive.listed other found earlier value member
      exact ⟨row, kept stood, about, ended⟩
  · intro other others also value later there row member
    change row ∈ after.runs at member
    rcases setScheduling_cases there with ⟨-, same⟩ | ⟨different, earlier⟩
    · cases same
    · rw [runs, List.mem_append, List.mem_singleton] at member
      rcases member with stood | rfl
      · exact exclusive.fresh other others also value later earlier row stood
      · intro same
        rw [← same, named] at earlier
        exact different (exclusive.distinct other caller others input also listed id later now earlier here)
  · intro first second inputs others also more value later last there elsewhere
    rcases setScheduling_cases there with ⟨-, same⟩ | ⟨-, earlier⟩
    · cases same
    · rcases setScheduling_cases elsewhere with ⟨-, same⟩ | ⟨-, before⟩
      · cases same
      · exact exclusive.distinct first second inputs others also more value later last earlier before
  · intro other dispatch there
    obtain ⟨row, stood, about⟩ := exclusive.backed other dispatch there
    exact ⟨row, kept stood, about⟩

theorem readRuns_ok {services : ScheduleServices Json} {input : ScheduleInput Json} {listed : List String}
    (read : readRuns services input tables = .ok listed) :
    ∀ id ∈ listed, ∃ row ∈ tables.runs, row.id = id ∧ AgentRun.isTerminal row.status = true := by
  obtain ⟨runs, loaded, read⟩ := bind_ok read
  obtain ⟨ended, read⟩ := guard_ok read
  cases read
  intro id member
  obtain ⟨run, chosen, rfl⟩ := List.mem_map.mp member
  obtain ⟨inRuns, sameTask⟩ := List.mem_filter.mp chosen
  obtain ⟨row, inRows, stored⟩ := Outcome.mapM_mem loaded inRuns
  have fields := ManageAgentRuns.loaded_ok stored
  rw [mem_sortOn, List.mem_filter] at inRows
  refine ⟨row, inRows.1, fields.id.symm, ?_⟩
  rw [← fields.status, ← Bool.not_eq_false]
  intro opened
  refine ended (List.any_eq_true.mpr ⟨run, inRuns, ?_⟩)
  rw [Bool.and_eq_true, opened]
  exact ⟨sameTask, rfl⟩

theorem check_listed {services : ScheduleServices Json} {input : ScheduleInput Json} {office : OfficeTables}
    {phase next : SchedulingPhase} (read : check services input office tables phase = some next) :
    (∀ id ∈ next.listed, ∃ row ∈ tables.runs, row.id = id ∧ AgentRun.isTerminal row.status = true) ∧
      ∀ listed id now, next ≠ .admission listed id now := by
  have silent {Result : Type} (outcome : Except Thrown Result) (later : SchedulingPhase) (empty : later.listed = [])
      (early : ∀ listed id now, later ≠ .admission listed id now) :
      (∀ id ∈ (checked outcome fun _ => later).listed, ∃ row ∈ tables.runs, row.id = id ∧
        AgentRun.isTerminal row.status = true) ∧
        ∀ listed id now, (checked outcome fun _ => later) ≠ .admission listed id now := by
    cases outcome with
    | ok result => exact ⟨fun id member => absurd (empty ▸ member) List.not_mem_nil, early⟩
    | error thrown => exact ⟨fun id member => absurd member List.not_mem_nil, nofun⟩
  cases phase with
  | project => cases read; exact silent _ _ rfl nofun
  | task => cases read; exact silent _ _ rfl nofun
  | prerequisites => cases read; exact silent _ _ rfl nofun
  | runs =>
    cases read
    cases outcome : readRuns services input tables with
    | ok listed => exact ⟨readRuns_ok outcome, nofun⟩
    | error thrown => exact ⟨fun id member => absurd member List.not_mem_nil, nofun⟩
  | agent | admission | scheduled | refused => cases read

def Runtime.initial (clock : Date) (office : OfficeTables) (actions : List ControlledAction) : Runtime Json where
  clock
  office
  host := ⟨⟨[], [], []⟩, actions, []⟩
  jobs := []
  scheduling := fun _ => none
  dispatches := fun _ => none
  takeovers := []

theorem Exclusive.initial (clock : Date) (office : OfficeTables) (actions : List ControlledAction) :
    Exclusive (Runtime.initial clock office actions : Runtime Json) where
  runIds := List.nodup_nil
  lockTasks := List.nodup_nil
  held := fun _ member => absurd member List.not_mem_nil
  listed := fun _ _ here => absurd here (Option.some_ne_none _).symm
  fresh := fun _ _ _ _ _ here => absurd here (Option.some_ne_none _).symm
  distinct := fun _ _ _ _ _ _ _ _ _ here => absurd here (Option.some_ne_none _).symm
  backed := fun _ _ here => absurd here (Option.some_ne_none _).symm

theorem Exclusive.holds_unique {other : AgentRunState Json} (exclusive : Exclusive runtime)
    (member : row ∈ runtime.host.tables.runs) (also : other ∈ runtime.host.tables.runs)
    (sameTask : row.taskId = other.taskId) (holds : Holds runtime.host.tables row)
    (holdsToo : Holds runtime.host.tables other) : row = other := by
  obtain ⟨lock, inLocks, task, run⟩ := holds
  obtain ⟨second, inLocksToo, taskToo, runToo⟩ := holdsToo
  have same : lock = second :=
    keyed_eq exclusive.lockTasks inLocksToo inLocks (task.trans (sameTask.trans taskToo.symm))
  exact keyed_eq exclusive.runIds also member (run.symm.trans (same ▸ runToo))

variable [DecidableEq Json] {services : ScheduleServices Json} {recovery : RunRecovery Json}
  {errors : AdmissionErrors Json} {label : Label Json} {later : Runtime Json}

/-- Every step keeps the invariant. -/
theorem Exclusive.step (exclusive : Exclusive runtime) (step : Step services recovery errors runtime label later) :
    Exclusive later := by
  cases step with
  | called => exact exclusive.setScheduling (fun id member => absurd member List.not_mem_nil) nofun
  | checked here read =>
    obtain ⟨listed, early⟩ := check_listed read
    exact exclusive.setScheduling listed fun also id now same => absurd same (early also id now)
  | named here found fresh =>
    refine exclusive.setScheduling (fun id member => exclusive.listed _ _ here id member) fun listed id now same => ?_
    cases same
    exact fresh
  | unknown | rejected => exact exclusive.setScheduling (fun id member => absurd member List.not_mem_nil) nofun
  | admitted here committed =>
    exact exclusive.admitted here (commitAdmission_admitted (exclusive.fresh _ _ _ _ _ here) committed)
  | listed absent found queued loaded =>
    refine exclusive.setDispatch fun dispatch same => ?_
    cases same
    exact ⟨_, (findRow_some found).1, (ManageAgentRuns.loaded_ok loaded).id.symm, nofun⟩
  | reserved here free =>
    refine exclusive.reserve.setDispatch fun dispatch same => ?_
    cases same
    obtain ⟨row, member, about, -⟩ := exclusive.backed _ _ here
    exact ⟨row, member, about, nofun⟩
  | taken => exact exclusive.dismiss
  | claimed here committed kept =>
    obtain ⟨row, member, about, holding⟩ := exclusive.backed _ _ here
    have succeeds := admitQueuedRun_ok runtime.clock exclusive.runIds ⟨row, member, about⟩ committed
    refine (exclusive.succeeds succeeds).setDispatch fun dispatch same => ?_
    cases same
    obtain ⟨next, inAfter, follows⟩ := mem_of_follows succeeds.rows member
    exact ⟨next, inAfter, (follows.id.trans about).trans (admitQueuedRun_id committed).symm, nofun⟩
  | dropped here committed refused =>
    obtain ⟨row, member, about, -⟩ := exclusive.backed _ _ here
    have succeeds := admitQueuedRun_ok runtime.clock exclusive.runIds ⟨row, member, about⟩ committed
    exact (exclusive.succeeds succeeds).release.dismiss
  | unclaimed => exact exclusive.release.dismiss
  | executed here => exact exclusive.proceeds (step_proceeds exclusive.runIds (exclusive.backed _ _ here))
  | left => exact exclusive.release.dismiss
  | cancelled committed => exact exclusive.succeeds (cancelQueued_succeeds exclusive.runIds committed)
  | stopped => exact exclusive.congr rfl rfl rfl rfl
  | reconciled committed => exact exclusive.succeeds (reconcile_succeeds exclusive.runIds committed)
  | renewed => exact exclusive.succeeds (renewTaskLock_ok ..)
  | advanced | changed => exact exclusive.congr rfl rfl rfl rfl
  | crashed => exact exclusive.crashed

/-- Of two open runs of a task, one lost the lock of the task, after it had expired, to a call that had checked the
runs of the task before that run was there. -/
theorem open_runs_of_task {clock : Date} {office : OfficeTables} {actions : List ControlledAction}
    {other : AgentRunState Json}
    (reached : Transition.Reachable (Step services recovery errors) (Runtime.initial clock office actions) runtime)
    (member : row ∈ runtime.host.tables.runs) (also : other ∈ runtime.host.tables.runs) (different : row ≠ other)
    (sameTask : row.taskId = other.taskId) (opened : AgentRun.isTerminal row.status = false)
    (openedToo : AgentRun.isTerminal other.status = false) :
    (Lost runtime.takeovers row ∨ Lost runtime.takeovers other) ∧
      ¬(Holds runtime.host.tables row ∧ Holds runtime.host.tables other) := by
  have exclusive : Exclusive runtime :=
    reached.invariant Exclusive (.initial clock office actions) fun _ _ _ holds step => holds.step step
  have alone : ¬(Holds runtime.host.tables row ∧ Holds runtime.host.tables other) :=
    fun ⟨holds, holdsToo⟩ => different (exclusive.holds_unique member also sameTask holds holdsToo)
  refine ⟨?_, alone⟩
  rcases exclusive.held row member opened with holds | lost
  · rcases exclusive.held other also openedToo with holdsToo | lostToo
    · exact absurd ⟨holds, holdsToo⟩ alone
    · exact .inr lostToo
  · exact .inl lost

def plainServices : ScheduleServices String where
  codec := ⟨"null", .ok, .ok, .ok, .ok⟩
  guidance := fun text _ => text
  resolveAgentRunModel := fun _ _ _ => .ok "model"

def plainRunRecovery : RunRecovery String where
  codec := plainServices.codec
  planHash := fun evidence => evidence.reason
  localeCompare := fun left right => if left < right then -1 else if left = right then 0 else 1
  isWorker := fun execution => execution = "worker"
  operatorCancelled := "OPERATOR_CANCELLED"
  interruptedRunResolved := "INTERRUPTED_RUN_RESOLVED"

def taskInput : ScheduleInput String := ⟨"project", "task", "agent", none⟩

def queuedRow (id : String) (now : Date) : AgentRunState String where
  id
  projectId := "project"
  taskId := "task"
  agentId := "agent"
  pipelineRunId := none
  pipelineStageRunId := none
  actionIntent := none
  roleGuidance := none
  execution := none
  modelRouting := some "model"
  status := .queued
  worktreePath := none
  result := none
  error := none
  createdAt := now
  startedAt := none
  completedAt := none
  updatedAt := now

def queuedEvent (id : String) (now : Date) : AgentRunEvent String :=
  ⟨id, .queued, false, false, none, some "model", none, now⟩

def secondTables : RuntimeTables String where
  runs := [queuedRow "second" 0]
  events := [queuedEvent "second" 0]
  locks := [⟨"task", "second", taskRunLeaseDurationMs⟩]

/-- Its run stayed queued for as long as the lease lasts, and then the first call went on. -/
def overtakenTables : RuntimeTables String where
  runs := [queuedRow "second" 0, queuedRow "first" taskRunLeaseDurationMs]
  events := [queuedEvent "second" 0, queuedEvent "first" taskRunLeaseDurationMs]
  locks := [⟨"task", "first", taskRunLeaseDurationMs + taskRunLeaseDurationMs⟩]

def overtakenJobs : List AgentRunJob := [⟨"project", "second", none⟩, ⟨"project", "first", none⟩]

def plainErrors : AdmissionErrors String := ⟨"RUN_NOT_ELIGIBLE"⟩

abbrev PlainStep := Step plainServices plainRunRecovery plainErrors

theorem check_run {start runtime : Runtime String} {phase : SchedulingPhase} (next : SchedulingPhase)
    (reached : Transition.Reachable PlainStep start (runtime.setScheduling caller ⟨taskInput, phase⟩))
    (read : check plainServices taskInput runtime.office runtime.host.tables phase = some next) :
    Transition.Reachable PlainStep start (runtime.setScheduling caller ⟨taskInput, next⟩) := by
  have last : PlainStep (runtime.setScheduling caller ⟨taskInput, phase⟩) (.check caller) _ :=
    .checked (Runtime.scheduling_self ..) read
  rw [Runtime.setScheduling_again] at last
  exact reached.snoc last

theorem checks_run {start runtime : Runtime String} (caller : Nat)
    (reached : Transition.Reachable PlainStep start runtime) (absent : runtime.scheduling caller = none)
    (office : runtime.office = Pipeline.buildOffice) (tables : runtime.host.tables = ⟨[], [], []⟩) :
    Transition.Reachable PlainStep start (runtime.setScheduling caller ⟨taskInput, .agent []⟩) := by
  have called : Transition.Reachable PlainStep start (runtime.setScheduling caller ⟨taskInput, .project⟩) :=
    reached.snoc (.called absent)
  have project := check_run .task called (by rw [office, tables]; decide)
  have task := check_run .prerequisites project (by rw [office, tables]; decide)
  have prerequisites := check_run .runs task (by rw [office, tables]; decide)
  exact check_run (.agent []) prerequisites (by rw [office, tables]; decide)

theorem buildOffice_agent :
    readAgent taskInput Pipeline.buildOffice = .ok ⟨"agent", "project", "Agent", "role", true, 0, 0⟩ := by
  decide

def racing : Runtime String := .initial 0 Pipeline.buildOffice []

/-- The first call has checked the runs of the task, and the second one has admitted its run. -/
def admittedSecond : Runtime String :=
  { (((racing.setScheduling 0 ⟨taskInput, .agent []⟩).setScheduling 1 ⟨taskInput, .admission [] "second" 0⟩).setTables
      secondTables).setScheduling 1 ⟨taskInput, .scheduled "second"⟩ with
    jobs := [⟨"project", "second", none⟩] }

theorem racing_fresh : Fresh racing id :=
  ⟨fun _ member => absurd member List.not_mem_nil, fun _ _ _ _ here => absurd here (Option.some_ne_none _).symm⟩

theorem admittedSecond_reachable : Transition.Reachable PlainStep racing admittedSecond := by
  have first := checks_run 0 (.refl racing) rfl rfl rfl
  have second := checks_run 1 first rfl rfl rfl
  have unused : Fresh ((racing.setScheduling 0 ⟨taskInput, .agent []⟩).setScheduling 1 ⟨taskInput, .agent []⟩) "second" :=
    (racing_fresh.setScheduling fun _ _ same => by cases same).setScheduling fun _ _ same => by cases same
  have named := second.snoc (.named (Runtime.scheduling_self ..) buildOffice_agent unused)
  rw [Runtime.setScheduling_again] at named
  exact named.snoc (.admitted (Runtime.scheduling_self ..) (by decide))

def lapsed : Runtime String := { admittedSecond with clock := taskRunLeaseDurationMs }

def overtaken : Runtime String :=
  { ((lapsed.setScheduling 0 ⟨taskInput, .admission [] "first" taskRunLeaseDurationMs⟩).setTables
      overtakenTables).setScheduling 0 ⟨taskInput, .scheduled "first"⟩ with
    jobs := overtakenJobs
    takeovers := (takeover taskInput [] "first" taskRunLeaseDurationMs secondTables).toList }

theorem lapsed_fresh : Fresh lapsed "first" := by
  refine ⟨fun row member => ?_, fun caller input listed now here => ?_⟩
  · obtain rfl := List.mem_singleton.mp member
    decide
  · rcases setScheduling_cases here with ⟨-, same⟩ | ⟨-, here⟩
    · cases same
    · rcases setScheduling_cases here with ⟨-, same⟩ | ⟨-, here⟩
      · simp at same
      · rcases setScheduling_cases here with ⟨-, same⟩ | ⟨-, here⟩
        · cases same
        · exact racing_fresh.2 caller input listed now here

theorem overtaken_reachable : Transition.Reachable PlainStep racing overtaken := by
  have late : Transition.Reachable PlainStep racing lapsed :=
    admittedSecond_reachable.snoc (.advanced (by decide))
  have waiting : lapsed.scheduling 0 = some ⟨taskInput, .agent []⟩ := rfl
  have named := late.snoc (.named waiting buildOffice_agent lapsed_fresh)
  exact named.snoc (.admitted (Runtime.scheduling_self ..) (by decide))

theorem open_runs_of_task_overtaken :
    (Lost overtaken.takeovers (queuedRow "second" 0) ∨ Lost overtaken.takeovers (queuedRow "first" taskRunLeaseDurationMs)) ∧
      ¬(Holds overtaken.host.tables (queuedRow "second" 0) ∧
        Holds overtaken.host.tables (queuedRow "first" taskRunLeaseDurationMs)) :=
  open_runs_of_task overtaken_reachable List.mem_cons_self (List.mem_cons_of_mem _ List.mem_cons_self) (by decide)
    rfl rfl rfl

/-- Two calls on one task, the first of which goes on when the lease of the run of the second one has ended. -/
theorem two_open_runs_of_task :
    ∃ runtime, Transition.Reachable PlainStep (.initial 0 Pipeline.buildOffice []) runtime ∧
      ∃ row ∈ runtime.host.tables.runs, ∃ other ∈ runtime.host.tables.runs, row.id ≠ other.id ∧
        row.taskId = other.taskId ∧ AgentRun.isTerminal row.status = false ∧
        AgentRun.isTerminal other.status = false :=
  ⟨overtaken, overtaken_reachable, queuedRow "second" 0, List.mem_cons_self, queuedRow "first" taskRunLeaseDurationMs,
    List.mem_cons_of_mem _ List.mem_cons_self, by decide, rfl, rfl, rfl⟩

end AiOffice.Application.ScheduleAgentRun
