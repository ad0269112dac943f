import AiOffice.Application.Pipeline.OrchestratePipelineStage.Reads
import AiOffice.Application.Queue.DispatchJobOutbox.Interleaving

namespace AiOffice.Application.Queue

open Data Outcome Domain Domain.PipelineRun Storage.AgentRuntime
  Storage.AgentRuntime.RuntimeTables Storage.Office Application.Pipeline
  Application.ScheduleAgentRun

variable {Json : Type}

def jobOf (row : AgentRunState Json) : AgentRunJob := ⟨row.projectId, row.id, row.pipelineStageRunId⟩

/-- The runs of a runtime, the queued ones of which have their jobs. -/
structure Scheduled (runtime : Runtime Json) : Prop where
  exclusive : Exclusive runtime
  queued : ∀ row ∈ runtime.host.tables.runs, row.status = .queued → jobOf row ∈ runtime.jobs
  known : ∀ job ∈ runtime.jobs, ∃ row ∈ runtime.host.tables.runs, row.id = job.runId

variable {runtime later : Runtime Json} {row : AgentRunState Json} {jobs after : List AgentRunJob}

theorem Follows.queued {earlier : AgentRunState Json} (follows : Follows earlier row) (queued : row.status = .queued) :
    earlier.status = .queued := by
  rcases follows.status with same | advances
  · exact same ▸ queued
  · have onward := advances.rank
    rw [queued] at onward
    exact absurd onward (Nat.not_lt_zero _)

theorem jobOf_follows {earlier : AgentRunState Json} (follows : Follows earlier row) : jobOf row = jobOf earlier := by
  simp [jobOf, follows.id, follows.projectId, follows.pipelineStageRunId]

theorem appendJob_stored {job : AgentRunJob} (appended : ScheduleAgentRun.appendJob job jobs = .ok after)
    (new : ∀ stored ∈ jobs, stored.runId ≠ job.runId) : after = jobs ++ [job] := by
  obtain ⟨-, appended⟩ := guard_ok appended
  split at appended
  · next present =>
      obtain ⟨stored, member, same⟩ := List.any_eq_true.mp present
      exact absurd (of_decide_eq_true same) (new stored member)
  · cases appended
    rfl

theorem Scheduled.moved (scheduled : Scheduled runtime) (exclusive : Exclusive later)
    (rows : List.Forall₂ Follows runtime.host.tables.runs later.host.tables.runs) (jobs : later.jobs = runtime.jobs) :
    Scheduled later where
  exclusive := exclusive
  queued := by
    intro row member queued
    obtain ⟨earlier, stood, follows⟩ := follows_mem rows member
    rw [jobs, jobOf_follows follows]
    exact scheduled.queued earlier stood (Follows.queued follows queued)
  known := by
    rw [jobs]
    intro job member
    obtain ⟨row, stood, about⟩ := scheduled.known job member
    obtain ⟨next, inAfter, follows⟩ := mem_of_follows rows stood
    exact ⟨next, inAfter, follows.id.trans about⟩

section

variable [DecidableEq Json] {services : ScheduleServices Json} {recovery : RunRecovery Json}
  {errors : AdmissionErrors Json} {label : ScheduleAgentRun.Label Json}

/-- A run that is admitted gets its job. -/
theorem Scheduled.admitted (scheduled : Scheduled runtime) (exclusive : Exclusive later) {input : ScheduleInput Json}
    {id : String} {now : Date} {tables : RuntimeTables Json} (fresh : ∀ row ∈ runtime.host.tables.runs, row.id ≠ id)
    (committed : commitAdmission services input id now runtime.office runtime.host.tables runtime.jobs =
      .ok (tables, after)) (runs : later.host.tables = tables) (jobs : later.jobs = after) : Scheduled later := by
  obtain ⟨run, created, appendedRuns, -⟩ := commitAdmission_ok fresh committed
  obtain ⟨named, -⟩ := createRun_ok created
  obtain ⟨inProject, -⟩ := OrchestratePipelineStage.createRun_bound created
  have appended : after = runtime.jobs ++ [jobOf run.toAgentRunState] := by
    obtain ⟨-, -, committed⟩ := bind_ok committed
    obtain ⟨again, creates, committed⟩ := bind_ok committed
    obtain rfl := Except.ok.inj (created.symm.trans creates)
    obtain ⟨saved, -, committed⟩ := bind_ok committed
    obtain ⟨-, committed⟩ := guard_ok committed
    obtain ⟨stored, append, committed⟩ := bind_ok committed
    cases committed
    rw [appendJob_stored append, jobOf, inProject]
    intro job member same
    obtain ⟨row, stood, about⟩ := scheduled.known job member
    exact fresh row stood (about.trans (same.trans named))
  refine ⟨exclusive, fun row member queued => ?_, fun job member => ?_⟩
  · rw [runs, appendedRuns, List.mem_append, List.mem_singleton] at member
    rw [jobs, appended, List.mem_append, List.mem_singleton]
    rcases member with stood | rfl
    · exact .inl (scheduled.queued row stood queued)
    · exact .inr rfl
  · rw [jobs, appended, List.mem_append, List.mem_singleton] at member
    rw [runs, appendedRuns]
    rcases member with stored | rfl
    · obtain ⟨row, stood, about⟩ := scheduled.known job stored
      exact ⟨row, List.mem_append_left _ stood, about⟩
    · exact ⟨_, List.mem_append_right _ (List.mem_singleton_self _), rfl⟩

theorem Scheduled.step (scheduled : Scheduled runtime)
    (step : ScheduleAgentRun.Step services recovery errors runtime label later) : Scheduled later := by
  have exclusive := scheduled.exclusive
  have kept := exclusive.step step
  have unmoved : Succeeds runtime.clock runtime.host.tables runtime.host.tables := .refl _ _
  cases step with
  | admitted here committed =>
    exact scheduled.admitted kept (exclusive.fresh _ _ _ _ _ here) committed rfl rfl
  | claimed here committed =>
    obtain ⟨row, member, about, -⟩ := exclusive.backed _ _ here
    exact scheduled.moved kept (admitQueuedRun_ok runtime.clock exclusive.runIds ⟨row, member, about⟩ committed).rows rfl
  | dropped here committed =>
    obtain ⟨row, member, about, -⟩ := exclusive.backed _ _ here
    exact scheduled.moved kept (admitQueuedRun_ok runtime.clock exclusive.runIds ⟨row, member, about⟩ committed).rows rfl
  | executed here =>
    exact scheduled.moved kept (step_proceeds exclusive.runIds (exclusive.backed _ _ here)).1.rows rfl
  | cancelled committed => exact scheduled.moved kept (cancelQueued_succeeds exclusive.runIds committed).rows rfl
  | reconciled committed => exact scheduled.moved kept (reconcile_succeeds exclusive.runIds committed).rows rfl
  | renewed => exact scheduled.moved kept (renewTaskLock_ok ..).rows rfl
  | called | checked | named | unknown | rejected | listed | reserved | taken | unclaimed | left | stopped | advanced
  | changed | crashed => exact scheduled.moved kept unmoved.rows rfl

end

/-- The invariant of an outbox: every intent has its record, and a record that is marked was accepted. -/
structure Recorded (outbox : Outbox Json) : Prop where
  scheduled : Scheduled outbox.runtime
  intended : Intended outbox.runtime.office
  recorded : ∀ intent ∈ intents outbox.runtime, ∃ record ∈ outbox.records, record.intent = intent
  accepted : ∀ record ∈ outbox.records, record.dispatchedAt.isSome = true → record.acceptance ∈ outbox.accepted
  marking : ∀ caller record rest dispatched,
    outbox.dispatchers caller = some (.marking record rest dispatched) → record.acceptance ∈ outbox.accepted

variable {outbox before final : Outbox Json} {caller : Nat} {now : Date}

theorem bound_intended (intended : Intended outbox.runtime.office) : Intended outbox.tables :=
  ⟨intended.runIds, intended.stored, intended.intents⟩

theorem Recorded.setRuntime (recorded : Recorded outbox) (scheduled : Scheduled later) (intended : Intended later.office) :
    Recorded (outbox.setRuntime later now) := by
  refine ⟨scheduled, intended, fun intent member => ?_, fun record member marked => ?_, recorded.marking⟩
  · by_cases earlier : intent ∈ intents outbox.runtime
    · obtain ⟨record, stored, same⟩ := recorded.recorded intent earlier
      exact ⟨record, List.mem_append_left _ stored, same⟩
    · refine ⟨.appended now intent, List.mem_append_right _ (List.mem_map_of_mem ?_), rfl⟩
      exact List.mem_filter.mpr ⟨member, decide_eq_true earlier⟩
  · rcases List.mem_append.mp member with stored | new
    · exact recorded.accepted record stored marked
    · obtain ⟨intent, -, rfl⟩ := List.mem_map.mp new
      cases marked

theorem Recorded.setDispatcher (recorded : Recorded outbox) {phase : Option DispatcherPhase}
    (marking : ∀ record rest dispatched, phase = some (.marking record rest dispatched) →
      record.acceptance ∈ outbox.accepted) : Recorded (outbox.setDispatcher caller phase) := by
  refine ⟨recorded.scheduled, recorded.intended, recorded.recorded, recorded.accepted, ?_⟩
  intro other record rest dispatched here
  simp only [Outbox.setDispatcher, Function.update_apply] at here
  split at here
  · exact marking record rest dispatched here
  · exact recorded.marking other record rest dispatched here

theorem Recorded.accept (recorded : Recorded outbox) (record : JobOutboxRecord) : Recorded (outbox.accept record) := by
  refine ⟨recorded.scheduled, recorded.intended, recorded.recorded, ?_, ?_⟩
  · exact fun stored member marked => List.mem_append_left _ (recorded.accepted stored member marked)
  · exact fun other marked rest dispatched here =>
      List.mem_append_left _ (recorded.marking other marked rest dispatched here)

theorem Recorded.setRecords (recorded : Recorded outbox) {records : List JobOutboxRecord}
    (same : records.map JobOutboxRecord.intent = outbox.records.map JobOutboxRecord.intent)
    (accepted : ∀ record ∈ records, record.dispatchedAt.isSome = true → record.acceptance ∈ outbox.accepted) :
    Recorded (outbox.setRecords records) := by
  refine ⟨recorded.scheduled, recorded.intended, fun intent member => ?_, accepted, recorded.marking⟩
  obtain ⟨stored, inRecords, about⟩ := recorded.recorded intent member
  have present : intent ∈ records.map JobOutboxRecord.intent := by
    rw [same]
    exact List.mem_map.mpr ⟨stored, inRecords, about⟩
  exact List.mem_map.mp present

theorem acceptance_of_intent {record other : JobOutboxRecord} (same : record.intent = other.intent) :
    record.acceptance = other.acceptance := by
  simp [JobOutboxRecord.acceptance, same]

theorem Recorded.marks (recorded : Recorded outbox) {record : JobOutboxRecord}
    (accepted : record.acceptance ∈ outbox.accepted) :
    Recorded (outbox.setRecords (markDispatched record.intent now outbox.records).2) := by
  refine recorded.setRecords markDispatched_intents fun later member marked => ?_
  obtain ⟨stored, inRecords, about, unchanged | chosen⟩ := mem_markDispatched member
  · rw [acceptance_of_intent about]
    exact recorded.accepted stored inRecords (unchanged ▸ marked)
  · rwa [acceptance_of_intent chosen]

theorem Recorded.postpones (recorded : Recorded outbox) (intent : JobIntent) :
    Recorded (outbox.setRecords (markFailed intent now outbox.records).2) := by
  refine recorded.setRecords markFailed_intents fun later member marked => ?_
  obtain ⟨stored, inRecords, about, unchanged⟩ := mem_markFailed member
  rw [acceptance_of_intent about]
  exact recorded.accepted stored inRecords (unchanged ▸ marked)

theorem began_silent {read : Except Thrown (List JobOutboxRecord)} {next : List JobOutboxRecord → DispatcherPhase}
    {record : JobOutboxRecord} {rest : List JobOutboxRecord} {dispatched : Nat}
    (silent : ∀ records, next records ≠ .marking record rest dispatched) :
    some (began read next) ≠ some (.marking record rest dispatched) := by
  cases read with
  | ok records => simpa [began] using silent records
  | error thrown => simp [began]

/-- An office over which nothing runs yet, with an outbox that has no records. -/
def Outbox.initial (clock : Date) (office : OfficeTables) (actions : List ControlledAction) : Outbox Json :=
  ⟨.initial clock office actions, [], [], fun _ => none⟩

theorem Recorded.initial (clock : Date) {office : OfficeTables} (actions : List ControlledAction)
    (pipelines : office.pipelines = []) (outbox : office.outbox = []) :
    Recorded (Outbox.initial clock office actions : Outbox Json) where
  scheduled := ⟨.initial clock office actions, fun row member => absurd member List.not_mem_nil,
    fun job member => absurd member List.not_mem_nil⟩
  intended := by constructor <;> simp [Outbox.initial, Runtime.initial, pipelines]
  recorded := by simp [Outbox.initial, intents, Runtime.initial, outbox]
  accepted := fun record member => absurd member List.not_mem_nil
  marking := fun _ _ _ _ here => absurd here (Option.some_ne_none _).symm

section

variable [DecidableEq Json] {services : ScheduleServices Json} {recovery : RunRecovery Json}
  {errors : AdmissionErrors Json} {label : Label Json}

theorem Recorded.step (recorded : Recorded before) (step : Step services recovery errors before label final) :
    Recorded final := by
  cases step with
  | office keeps committed =>
    refine recorded.setRuntime ?_ ((bound_intended recorded.intended).perform keeps committed)
    exact ⟨recorded.scheduled.exclusive.congr rfl rfl rfl rfl, recorded.scheduled.queued, recorded.scheduled.known⟩
  | runtime step office =>
    exact recorded.setRuntime (recorded.scheduled.step step) (office ▸ recorded.intended)
  | dispatched | replayed =>
    exact recorded.setDispatcher fun record rest dispatched same => absurd same (began_silent nofun)
  | @published caller record rest dispatched here =>
    refine (recorded.accept record).setDispatcher fun marked _ _ same => ?_
    cases same
    exact List.mem_append_right _ (List.mem_singleton_self _)
  | marked here => exact (recorded.marks (recorded.marking _ _ _ _ here)).setDispatcher nofun
  | postponed here => exact (recorded.postpones _).setDispatcher nofun
  | unconfirmed | republished | unreconfirmed => exact (recorded.accept _).setDispatcher nofun
  | unpublished | unmarked | abandoned | unrepublished | crashed => exact recorded.setDispatcher nofun

end

def Deliverable (outbox : Outbox Json) (record : JobOutboxRecord) : Prop :=
  record ∈ outbox.records ∧
    (record.dispatchedAt = none ∨ isReplayable outbox.tables outbox.rows record = true)

def Awaiting (rows : List (AgentRunState Json)) (projectId stageRunId : String) : Prop :=
  (∀ row ∈ rows, isBoundRow projectId stageRunId row = false) ∨
    ∃ row ∈ rows, isBoundRow projectId stageRunId row = true ∧ row.status = .completed

structure IntentsKept (outbox : Outbox Json) : Prop where
  stages : ∀ run ∈ outbox.tables.pipelines, run.status = .active → ∀ stage ∈ run.stages, stage.status = .active →
    Awaiting outbox.rows run.projectId stage.id → ∃ record, Deliverable outbox record ∧
      ∃ version, record.intent = .orchestratePipeline ⟨run.projectId, run.id, stage.id, version⟩
  runs : ∀ row ∈ outbox.rows, row.status = .queued → ∃ record, Deliverable outbox record ∧
    record.intent = .executeAgentRun ⟨row.projectId, row.id, row.pipelineStageRunId⟩
  accepted : ∀ record ∈ outbox.records, record.dispatchedAt.isSome = true → record.acceptance ∈ outbox.accepted

theorem stageAwaits_iff {rows : List (AgentRunState Json)} {projectId stageRunId : String} :
    stageAwaits rows projectId stageRunId = true ↔ Awaiting rows projectId stageRunId := by
  simp [stageAwaits, Awaiting]

theorem Deliverable.of_awaited {record : JobOutboxRecord} (stored : record ∈ outbox.records)
    (awaited : isAwaited outbox.tables outbox.rows record.intent = true) : Deliverable outbox record := by
  refine ⟨stored, ?_⟩
  cases marked : record.dispatchedAt with
  | none => exact .inl rfl
  | some time => exact .inr (by simp [isReplayable, marked, awaited])

theorem Recorded.intentsKept (recorded : Recorded outbox) : IntentsKept outbox where
  stages := by
    intro run member active stage inStages working awaiting
    obtain ⟨version, intent⟩ := recorded.intended.intents run member active stage inStages working
    obtain ⟨record, stored, about⟩ := recorded.recorded (.orchestratePipeline ⟨run.projectId, run.id, stage.id, version⟩)
      (List.mem_append_left _ (List.mem_map_of_mem intent))
    refine ⟨record, .of_awaited stored ?_, version, about⟩
    rw [about]
    refine List.any_eq_true.mpr ⟨run, member, ?_⟩
    have found : (run.stages.any fun other => other.id = stage.id && other.status = .active) = true :=
      List.any_eq_true.mpr ⟨stage, inStages, by simp [working]⟩
    simp [active, found, stageAwaits_iff.mpr awaiting]
  runs := by
    intro row member queued
    have intent := recorded.scheduled.queued row member queued
    obtain ⟨record, stored, about⟩ := recorded.recorded (.executeAgentRun (jobOf row))
      (List.mem_append_right _ (List.mem_map_of_mem intent))
    refine ⟨record, .of_awaited stored ?_, about⟩
    rw [about]
    exact List.any_eq_true.mpr ⟨row, member, by simp [jobOf, queued]⟩
  accepted := recorded.accepted

variable [DecidableEq Json] {services : ScheduleServices Json} {recovery : RunRecovery Json}
  {errors : AdmissionErrors Json}

/-- In every state that commands, runs and dispatchers reach, whatever is left to do can still be delivered. -/
theorem intents_kept {clock : Date} {office : OfficeTables} {actions : List ControlledAction}
    (pipelines : office.pipelines = []) (jobs : office.outbox = [])
    (reached : Transition.Reachable (Step services recovery errors) (.initial clock office actions) outbox) :
    IntentsKept outbox := by
  have recorded : Recorded outbox := reached.invariant Recorded (.initial clock actions pipelines jobs)
    fun _ _ _ holds step => holds.step step
  exact recorded.intentsKept

def startedRecord : JobOutboxRecord := .appended 1 (.orchestratePipeline ⟨"project", "ii", "i", 1⟩)

def dispatching (record : JobOutboxRecord) (accepted : List Acceptance) (phase : Option DispatcherPhase) : Outbox String where
  runtime := .initial 1 startedOffice []
  records := [record]
  accepted
  dispatchers := Function.update (fun _ => none) 0 phase

abbrev PlainStep := Step plainServices plainRunRecovery plainErrors

def dispatchedRecord : JobOutboxRecord := { startedRecord with dispatchedAt := some 1 }

theorem dispatched_reachable : Transition.Reachable PlainStep (.initial 1 emptyOffice [])
    (dispatching dispatchedRecord [startedRecord.acceptance] (some (.publishing [] 1))) := by
  have created : PlainStep (.initial 1 emptyOffice []) (.office (.command createBuild) 1)
      (.initial 1 buildOffice []) := .office trivial (by decide)
  have started : PlainStep (.initial 1 buildOffice []) (.office (.command (.start startBuild false buildSupply)) 1)
      ⟨.initial 1 startedOffice [], [startedRecord], [], fun _ => none⟩ := .office trivial (by decide)
  have read : PlainStep ⟨.initial 1 startedOffice [], [startedRecord], [], fun _ => none⟩ (.dispatch 0 1 none)
      (dispatching startedRecord [] (some (.publishing [startedRecord] 0))) := .dispatched rfl
  have published : PlainStep (dispatching startedRecord [] (some (.publishing [startedRecord] 0))) (.enqueue 0 .accepted) _ :=
    .published rfl
  have marked : PlainStep (dispatching startedRecord [startedRecord.acceptance] (some (.marking startedRecord [] 0)))
      (.mark 0 1) _ := .marked rfl
  simp only [Outbox.setDispatcher, Outbox.accept, Outbox.setRecords, dispatching, Function.update_idem] at published marked
  exact ((((Transition.Reachable.refl _).snoc created).snoc started).snoc read).snoc published |>.snoc marked

theorem intents_kept_dispatched :
    IntentsKept (dispatching dispatchedRecord [startedRecord.acceptance] (some (.publishing [] 1))) :=
  intents_kept rfl rfl dispatched_reachable

end AiOffice.Application.Queue
