import AiOffice.Application.Pipeline.OrchestratePipelineStage.Reads

namespace AiOffice.Application.Pipeline.OrchestratePipelineStage

open Data Domain Domain.PipelineRun Storage.AgentRuntime
  Storage.AgentRuntime.RuntimeTables Storage.Office Application.ScheduleAgentRun
  ManagePipelineRuns

variable {Json : Type}

def Known (office : OfficeTables) (projectId taskId : String) : Prop :=
  ∃ run ∈ office.pipelines, run.projectId = projectId ∧ run.taskId = taskId

def hasListed : SchedulingPhase → Bool
  | .agent _ | .admission _ _ _ => true
  | _ => false

/-- What a step of the runtime other than a call, a change of the office and the stop of the host does. -/
inductive Progress (services : ScheduleServices Json) [DecidableEq Json] (runtime : Runtime Json) (label : ScheduleAgentRun.Label Json)
    (later : Runtime Json) : Prop
  | moved (succeeds : Succeeds runtime.clock runtime.host.tables later.host.tables) (clock : later.clock = runtime.clock)
      (scheduling : later.scheduling = runtime.scheduling) (takeovers : later.takeovers = runtime.takeovers)
  | proceeded {caller input phase next} (here : runtime.scheduling caller = some ⟨input, phase⟩)
      (same : later = runtime.setScheduling caller ⟨input, next⟩)
      (listed : hasListed next = true → hasListed phase = true ∧ next.listed = phase.listed ∨
        ScheduleAgentRun.readRuns services input runtime.host.tables = .ok next.listed)
      (named : ∀ listed id now, next = .admission listed id now → now = runtime.clock)
  | admitted {caller input listed id now tables jobs} (committing : label = .commit caller)
      (here : runtime.scheduling caller = some ⟨input, .admission listed id now⟩)
      (committed : commitAdmission services input id now runtime.office runtime.host.tables runtime.jobs = .ok (tables, jobs))
      (same : later = { (runtime.setTables tables).setScheduling caller ⟨input, .scheduled id⟩ with
        jobs
        takeovers := (takeover input listed id now runtime.host.tables).toList ++ runtime.takeovers })
  | advanced {clock : Date} (onward : runtime.clock ≤ clock) (same : later = { runtime with clock })

section

variable {services : ScheduleServices Json}

theorem check_hasListed {input : ScheduleInput Json} {office : OfficeTables} {tables : RuntimeTables Json}
    {phase next : SchedulingPhase} (read : check services input office tables phase = some next)
    (listed : hasListed next = true) : ScheduleAgentRun.readRuns services input tables = .ok next.listed := by
  have silent {Result : Type} {outcome : Except Thrown Result} {after : SchedulingPhase} (early : hasListed after = false)
      (same : checked outcome (fun _ => after) = next) : False := by
    subst same
    cases outcome with
    | ok result => exact absurd (early.symm.trans listed) Bool.false_ne_true
    | error thrown => cases listed
  cases phase with
  | project => exact (silent rfl (Option.some.inj read)).elim
  | task => exact (silent rfl (Option.some.inj read)).elim
  | prerequisites => exact (silent rfl (Option.some.inj read)).elim
  | runs =>
    cases read
    cases outcome : ScheduleAgentRun.readRuns services input tables with
    | ok ids => rfl
    | error thrown =>
      rw [outcome] at listed
      cases listed
  | agent | admission | scheduled | refused => cases read

variable [DecidableEq Json] {recovery : RunRecovery Json} {errors : AdmissionErrors Json}
  {label : ScheduleAgentRun.Label Json} {runtime later : Runtime Json}

/-- Every step of the runtime that a delivery does not stand for is one of these. -/
theorem Progress.of_step (exclusive : Exclusive runtime) (allowed : isRuntimeLabel label = true)
    (step : ScheduleAgentRun.Step services recovery errors runtime label later) (office : later.office = runtime.office) :
    Progress services runtime label later := by
  have unmoved : Succeeds runtime.clock runtime.host.tables runtime.host.tables := .refl _ _
  cases step with
  | called | crashed => cases allowed
  | checked here read =>
    exact .proceeded here rfl (fun listed => .inr (check_hasListed read listed)) fun also id now same =>
      absurd same ((check_listed read).2 also id now)
  | named here found fresh =>
    refine .proceeded here rfl (fun listed => .inl ⟨rfl, rfl⟩) fun listed id now same => ?_
    cases same
    rfl
  | unknown here => exact .proceeded here rfl nofun nofun
  | rejected here => exact .proceeded here rfl nofun nofun
  | admitted here committed => exact .admitted rfl here committed rfl
  | advanced onward => exact .advanced onward rfl
  | listed | reserved | taken | unclaimed | left | stopped => exact .moved unmoved rfl rfl rfl
  | changed =>
    cases office
    exact .moved unmoved rfl rfl rfl
  | claimed here committed =>
    obtain ⟨row, member, about, -⟩ := exclusive.backed _ _ here
    exact .moved (admitQueuedRun_ok _ exclusive.runIds ⟨row, member, about⟩ committed) rfl rfl rfl
  | dropped here committed =>
    obtain ⟨row, member, about, -⟩ := exclusive.backed _ _ here
    exact .moved (admitQueuedRun_ok _ exclusive.runIds ⟨row, member, about⟩ committed) rfl rfl rfl
  | executed here => exact .moved (step_proceeds exclusive.runIds (exclusive.backed _ _ here)).1 rfl rfl rfl
  | cancelled committed => exact .moved (cancelQueued_succeeds exclusive.runIds committed) rfl rfl rfl
  | reconciled committed => exact .moved (reconcile_succeeds exclusive.runIds committed) rfl rfl rfl
  | renewed => exact .moved (renewTaskLock_ok ..) rfl rfl rfl

end

/-- What the clock and the locks are to the calls of a runtime: whoever has a lock of the task of a call has been listed by
the call, or holds its lease. -/
structure Leased (runtime : Runtime Json) : Prop where
  locked : ∀ lock ∈ runtime.host.tables.locks, ∃ row ∈ runtime.host.tables.runs, row.id = lock.runId ∧
    row.taskId = lock.taskId
  rows : ∀ row ∈ runtime.host.tables.runs, Known runtime.office row.projectId row.taskId
  calls : ∀ caller call, runtime.scheduling caller = some call →
    Known runtime.office call.input.projectId call.input.taskId
  recent : ∀ caller input listed id now, runtime.scheduling caller = some ⟨input, .admission listed id now⟩ →
    now ≤ runtime.clock ∧ runtime.clock < now + taskRunLeaseDurationMs
  seen : ∀ caller call, runtime.scheduling caller = some call → hasListed call.phase = true →
    ∀ lock ∈ runtime.host.tables.locks, lock.taskId = call.input.taskId →
      lock.runId ∈ call.phase.listed ∨ runtime.clock < lock.expiresAt
  lost : ∀ takeover ∈ runtime.takeovers, takeover.lost ∈ takeover.listed

section

variable {runtime later : Runtime Json} {office after : OfficeTables} {projectId other taskId : String}

theorem Known.kept (known : Known office projectId taskId) (kept : PipelinesKept office after) :
    Known after projectId taskId := by
  obtain ⟨run, member, inProject, ofTask⟩ := known
  obtain ⟨final, inAfter, same⟩ := kept.lasting run member
  exact ⟨final, inAfter, same.projectId.trans inProject, same.taskId.trans ofTask⟩

theorem Known.unique (consistent : Consistent office) (known : Known office projectId taskId)
    (also : Known office other taskId) : projectId = other := by
  obtain ⟨run, member, rfl, rfl⟩ := known
  obtain ⟨second, alsoMember, rfl, same⟩ := also
  obtain ⟨task, found, inProject⟩ := consistent.known run member
  obtain ⟨_, again, inOther⟩ := consistent.known second alsoMember
  rw [same, found] at again
  cases again
  exact inProject.symm.trans inOther

theorem Leased.never_lost (leased : Leased runtime) (row : AgentRunState Json) : ¬Lost runtime.takeovers row := by
  rintro ⟨takeover, happened, -, lost, -, unlisted⟩
  exact unlisted (lost ▸ leased.lost takeover happened)

theorem Leased.congr (leased : Leased runtime) (kept : PipelinesKept runtime.office later.office)
    (tables : later.host.tables = runtime.host.tables) (clock : later.clock = runtime.clock)
    (calls : ∀ caller call, later.scheduling caller = some call → runtime.scheduling caller = some call)
    (takeovers : later.takeovers = runtime.takeovers) : Leased later where
  locked := by rw [tables]; exact leased.locked
  rows := by rw [tables]; exact fun row member => (leased.rows row member).kept kept
  calls := fun caller call here => (leased.calls caller call (calls caller call here)).kept kept
  recent := by
    rw [clock]
    exact fun caller input listed id now here => leased.recent caller input listed id now (calls _ _ here)
  seen := by
    rw [clock, tables]
    exact fun caller call here => leased.seen caller call (calls _ _ here)
  lost := by rw [takeovers]; exact leased.lost

theorem Leased.moved (leased : Leased runtime) (succeeds : Succeeds runtime.clock runtime.host.tables later.host.tables)
    (office : later.office = runtime.office) (clock : later.clock = runtime.clock)
    (scheduling : later.scheduling = runtime.scheduling) (takeovers : later.takeovers = runtime.takeovers) :
    Leased later where
  locked := by
    intro lock member
    obtain ⟨earlier, stood, sameTask, sameRun, -⟩ := succeeds.stood lock member
    obtain ⟨row, inRuns, about, ofTask⟩ := leased.locked earlier stood
    obtain ⟨next, inAfter, follows⟩ := mem_of_follows succeeds.rows inRuns
    exact ⟨next, inAfter, follows.id.trans (about.trans sameRun), follows.taskId.trans (ofTask.trans sameTask)⟩
  rows := by
    intro row member
    obtain ⟨earlier, stood, follows⟩ := follows_mem succeeds.rows member
    rw [office, follows.projectId, follows.taskId]
    exact leased.rows earlier stood
  calls := by rw [scheduling, office]; exact leased.calls
  recent := by rw [scheduling, clock]; exact leased.recent
  seen := by
    rw [scheduling, clock]
    intro caller call here listed lock member ofTask
    obtain ⟨earlier, stood, sameTask, sameRun, lease⟩ := succeeds.stood lock member
    rw [← sameRun]
    rcases leased.seen caller call here listed earlier stood (sameTask.trans ofTask) with known | held
    · exact .inl known
    · exact .inr (lease.elim (fun same => same ▸ held) fun renewed => renewed)
  lost := by rw [takeovers]; exact leased.lost

theorem readRuns_covers {services : ScheduleServices Json} {input : ScheduleInput Json} {tables : RuntimeTables Json}
    {listed : List String} (read : ScheduleAgentRun.readRuns services input tables = .ok listed)
    {row : AgentRunState Json} (member : row ∈ tables.runs) (inProject : row.projectId = input.projectId)
    (ofTask : row.taskId = input.taskId) : row.id ∈ listed := by
  obtain ⟨runs, loaded, read⟩ := Outcome.bind_ok read
  obtain ⟨-, read⟩ := Outcome.guard_ok read
  cases read
  have inRows : row ∈ sortOn (fun row => toLex (row.createdAt, row.id))
      (tables.runs.filter fun row => row.projectId = input.projectId) := by
    rw [mem_sortOn, List.mem_filter]
    exact ⟨member, decide_eq_true inProject⟩
  obtain ⟨run, inRuns, stored⟩ := Outcome.mapM_covers loaded inRows
  have fields := ManageAgentRuns.loaded_ok stored
  exact List.mem_map.mpr ⟨run, List.mem_filter.mpr ⟨inRuns, decide_eq_true (fields.taskId.trans ofTask)⟩, fields.id⟩

/-- A call goes on. If it lists the runs of its task now, it lists whoever has a lock of it. -/
theorem Leased.proceeded (leased : Leased runtime) (services : ScheduleServices Json) {caller : Nat}
    {input : ScheduleInput Json} {next : SchedulingPhase} (consistent : Consistent runtime.office)
    (known : Known runtime.office input.projectId input.taskId)
    (listed : hasListed next = true →
      (∃ phase, runtime.scheduling caller = some ⟨input, phase⟩ ∧ hasListed phase = true ∧ next.listed = phase.listed) ∨
        ScheduleAgentRun.readRuns services input runtime.host.tables = .ok next.listed)
    (named : ∀ listed id now, next = .admission listed id now → now = runtime.clock) :
    Leased (runtime.setScheduling caller ⟨input, next⟩) where
  locked := leased.locked
  rows := leased.rows
  calls := by
    intro other call here
    rcases setScheduling_cases here with ⟨-, rfl⟩ | ⟨-, earlier⟩
    · exact known
    · exact leased.calls other call earlier
  recent := by
    intro other also found id now here
    rcases setScheduling_cases here with ⟨-, same⟩ | ⟨-, earlier⟩
    · cases same
      obtain rfl := named found id now rfl
      exact ⟨le_refl _, Int.lt_add_of_pos_right _ (by decide : 0 < taskRunLeaseDurationMs)⟩
    · exact leased.recent other also found id now earlier
  seen := by
    intro other call here
    rcases setScheduling_cases here with ⟨rfl, rfl⟩ | ⟨-, earlier⟩
    · intro hasLooked lock member ofTask
      rcases listed hasLooked with ⟨phase, before, looked, same⟩ | read
      · rw [show SchedulingPhase.listed _ = phase.listed from same]
        exact leased.seen other _ before looked lock member ofTask
      · obtain ⟨row, inRuns, about, sameTask⟩ := leased.locked lock member
        have inTask : row.taskId = input.taskId := sameTask.trans ofTask
        have inProject := Known.unique consistent (leased.rows row inRuns) (inTask ▸ known)
        exact .inl (about ▸ readRuns_covers read inRuns inProject inTask)
    · exact leased.seen other call earlier
  lost := leased.lost

/-- An admission takes the lock of a task over from a run that it had listed. -/
theorem Leased.admitted [DecidableEq Json] (leased : Leased runtime) (exclusive : Exclusive runtime)
    {services : ScheduleServices Json} {caller : Nat} {input : ScheduleInput Json} {listed : List String} {id : String}
    {now : Date} {tables : RuntimeTables Json} {jobs : List AgentRunJob}
    (here : runtime.scheduling caller = some ⟨input, .admission listed id now⟩)
    (committed : commitAdmission services input id now runtime.office runtime.host.tables runtime.jobs = .ok (tables, jobs)) :
    Leased { (runtime.setTables tables).setScheduling caller ⟨input, .scheduled id⟩ with
      jobs
      takeovers := (takeover input listed id now runtime.host.tables).toList ++ runtime.takeovers } := by
  obtain ⟨run, created, runs, locks, expired⟩ :=
    commitAdmission_ok (exclusive.fresh caller input listed id now here) committed
  obtain ⟨named, ofTask⟩ := createRun_ok created
  obtain ⟨inProject, -⟩ := createRun_bound created
  obtain ⟨past, ahead⟩ := leased.recent caller input listed id now here
  have known := leased.calls caller _ here
  refine ⟨fun lock member => ?_, fun row member => ?_, fun other call found => ?_, fun other also more name time found => ?_,
    fun other call found looked lock member sameTask => ?_, fun takeover member => ?_⟩
  · change lock ∈ tables.locks at member
    change ∃ row ∈ tables.runs, _
    rw [locks, List.mem_append, List.mem_singleton] at member
    rw [runs]
    rcases member with stood | rfl
    · obtain ⟨row, inRuns, about⟩ := leased.locked lock (List.mem_filter.mp stood).1
      exact ⟨row, List.mem_append_left _ inRuns, about⟩
    · exact ⟨run.toAgentRunState, List.mem_append_right _ (List.mem_singleton_self _), named, ofTask⟩
  · change row ∈ tables.runs at member
    rw [runs, List.mem_append, List.mem_singleton] at member
    rcases member with stood | rfl
    · exact leased.rows row stood
    · rw [inProject, ofTask]
      exact known
  · rcases setScheduling_cases found with ⟨-, rfl⟩ | ⟨-, earlier⟩
    · exact known
    · exact leased.calls other call earlier
  · rcases setScheduling_cases found with ⟨-, same⟩ | ⟨-, earlier⟩
    · cases same
    · exact leased.recent other also more name time earlier
  · change lock ∈ tables.locks at member
    rcases setScheduling_cases found with ⟨-, rfl⟩ | ⟨-, earlier⟩
    · cases looked
    · rw [locks, List.mem_append, List.mem_singleton] at member
      rcases member with stood | rfl
      · exact leased.seen other call earlier looked lock (List.mem_filter.mp stood).1 sameTask
      · exact .inr ahead
  · rcases List.mem_append.mp member with new | earlier
    · obtain ⟨lock, found, rfl⟩ := Option.map_eq_some_iff.mp (Option.mem_toList.mp new)
      have stood := List.mem_of_find?_eq_some found
      have matched := List.find?_some found
      have ofLock : lock.taskId = input.taskId := of_decide_eq_true matched
      rcases leased.seen caller _ here rfl lock stood ofLock with known | held
      · exact known
      · exact absurd (expired lock found) (Int.not_le.mpr (lt_of_le_of_lt past held))
    · exact leased.lost takeover earlier

theorem Leased.advanced (leased : Leased runtime) {clock : Date} (onward : runtime.clock ≤ clock)
    (holds : ∀ time, LeaseEnds runtime time → runtime.clock < time → time ≤ clock → ∀ caller call,
      runtime.scheduling caller = some call → hasListed call.phase = false) :
    Leased { runtime with clock } where
  locked := leased.locked
  rows := leased.rows
  calls := leased.calls
  recent := by
    intro caller input listed id now here
    obtain ⟨past, ahead⟩ := leased.recent caller input listed id now here
    refine ⟨past.trans onward, Int.not_le.mp fun passed => ?_⟩
    cases holds _ (.inr ⟨caller, input, listed, id, now, here, rfl⟩) ahead passed caller _ here
  seen := by
    intro caller call here looked lock member ofTask
    rcases leased.seen caller call here looked lock member ofTask with known | held
    · exact .inl known
    · refine .inr (Int.not_le.mp fun passed => ?_)
      have early := holds _ (.inl ⟨lock, member, rfl⟩) held passed caller call here
      rw [looked] at early
      cases early
  lost := leased.lost

end

end AiOffice.Application.Pipeline.OrchestratePipelineStage
