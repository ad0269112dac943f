import AiOffice.Application.ScheduleAgentRun

namespace AiOffice.Application.Queue

open Data Domain Storage.AgentRuntime Storage.Office

inductive QueueJobType
  | orchestratePipeline
  | executeAgentRun
  deriving DecidableEq

structure QueueJob where
  type : QueueJobType
  jobId : String
  payload : List (String × String)

/-- What a job of the outbox is for. It stands for the texts of its id and its dedupe key, which spell it. -/
inductive JobIntent
  | orchestratePipeline (job : OutboxJob)
  | executeAgentRun (job : AgentRunJob)
  deriving DecidableEq

namespace JobIntent

def jobType : JobIntent → QueueJobType
  | .orchestratePipeline _ => .orchestratePipeline
  | .executeAgentRun _ => .executeAgentRun

def id : JobIntent → String
  | .orchestratePipeline job =>
    let run := job.pipelineRunId
    let stage := job.pipelineStageRunId
    let version := job.version
    s!"outbox:pipeline:{run}:{stage}:{version}"
  | .executeAgentRun job =>
    let run := job.runId
    s!"outbox:agent-run:{run}"

def aggregateId : JobIntent → String
  | .orchestratePipeline job => job.pipelineRunId
  | .executeAgentRun job => job.runId

def payload : JobIntent → List (String × String)
  | .orchestratePipeline job =>
    [("pipelineRunId", job.pipelineRunId), ("pipelineStageRunId", job.pipelineStageRunId), ("projectId", job.projectId)]
  | .executeAgentRun job =>
    (job.pipelineStageRunId.map fun stage => ("pipelineStageRunId", stage)).toList ++
      [("projectId", job.projectId), ("runId", job.runId)]

def jobId : JobIntent → String
  | .orchestratePipeline job =>
    let run := job.pipelineRunId
    let stage := job.pipelineStageRunId
    s!"pipeline-orchestration-{run}-{stage}".map fun char => if char = ':' then '-' else char
  | .executeAgentRun job =>
    let run := job.runId
    s!"agent-run-{run}"

def queueJob (intent : JobIntent) : QueueJob := ⟨intent.jobType, intent.jobId, intent.payload⟩

end JobIntent

structure JobOutboxRecord where
  intent : JobIntent
  availableAt : Date
  attemptCount : Nat
  dispatchedAt : Option Date
  createdAt : Date
  deriving DecidableEq

def JobOutboxRecord.appended (now : Date) (intent : JobIntent) : JobOutboxRecord := ⟨intent, now, 0, none, now⟩

def maximumDispatchBatch : Int := 50

def maximumBackoffMs : Int := 60000

def retryAt (now : Date) (attemptCount : Nat) : Date := now + min (1000 * 2 ^ min attemptCount 6) maximumBackoffMs

def limitOf (limit : Option Int) : Int := limit.getD maximumDispatchBatch

def invalidLimit (message : String) : Thrown := ⟨.domainValidationError, message⟩

/-- The first records of a query, in the order that they were appended in. -/
def batch (limit : Int) (records : List JobOutboxRecord) : List JobOutboxRecord :=
  (sortOn (fun record => toLex (record.createdAt, record.intent.id)) records).take limit.toNat

def pending (now : Date) (limit : Int) (records : List JobOutboxRecord) : Except Thrown (List JobOutboxRecord) :=
  if limit < 1 ∨ 1000 < limit then .error (invalidLimit "Outbox limit is invalid")
  else .ok (batch limit (records.filter fun record => record.dispatchedAt.isNone && record.availableAt ≤ now))

section

variable {Json : Type} (office : OfficeTables) (rows : List (AgentRunState Json))

def isBoundRow (projectId stageRunId : String) (row : AgentRunState Json) : Bool :=
  row.projectId = projectId && row.pipelineStageRunId = some stageRunId

/-- A stage at which work is to begin, or the work of which has only to be recorded. -/
def stageAwaits (projectId stageRunId : String) : Bool :=
  !rows.any (isBoundRow projectId stageRunId) ||
    rows.any fun row => isBoundRow projectId stageRunId row && row.status = .completed

def isAwaited : JobIntent → Bool
  | .orchestratePipeline job => office.pipelines.any fun run =>
    run.projectId = job.projectId && run.id = job.pipelineRunId && run.status = .active &&
      (run.stages.any fun stage => stage.id = job.pipelineStageRunId && stage.status = .active) &&
      stageAwaits rows job.projectId job.pipelineStageRunId
  | .executeAgentRun job => rows.any fun row =>
    row.projectId = job.projectId && row.id = job.runId && row.pipelineStageRunId = job.pipelineStageRunId &&
      row.status = .queued

def isReplayable (record : JobOutboxRecord) : Bool := record.dispatchedAt.isSome && isAwaited office rows record.intent

def replayable (limit : Int) (records : List JobOutboxRecord) : Except Thrown (List JobOutboxRecord) :=
  if limit < 1 ∨ 1000 < limit then .error (invalidLimit "Outbox replay limit is invalid")
  else .ok (batch limit (records.filter (isReplayable office rows)))

end

def isUndispatched (intent : JobIntent) (record : JobOutboxRecord) : Bool :=
  record.intent = intent && record.dispatchedAt.isNone

def markDispatched (intent : JobIntent) (dispatchedAt : Date) (records : List JobOutboxRecord) :
    Bool × List JobOutboxRecord :=
  (records.any (isUndispatched intent), records.map fun record =>
    if isUndispatched intent record then { record with dispatchedAt := some dispatchedAt } else record)

def markFailed (intent : JobIntent) (availableAt : Date) (records : List JobOutboxRecord) :
    Bool × List JobOutboxRecord :=
  (records.any (isUndispatched intent), records.map fun record =>
    if isUndispatched intent record then { record with attemptCount := record.attemptCount + 1, availableAt }
    else record)

/-- What a call of the dispatcher does next, with the records that it has still to publish. -/
inductive DispatcherPhase
  | publishing (rest : List JobOutboxRecord) (dispatched : Nat)
  | marking (record : JobOutboxRecord) (rest : List JobOutboxRecord) (dispatched : Nat)
  | failing (record : JobOutboxRecord) (rest : List JobOutboxRecord) (dispatched : Nat)
  | replaying (rest : List JobOutboxRecord) (accepted : Nat)
  | failed (thrown : Thrown)

def began (read : Except Thrown (List JobOutboxRecord)) (next : List JobOutboxRecord → DispatcherPhase) :
    DispatcherPhase :=
  match read with
  | .ok records => next records
  | .error thrown => .failed thrown

section

variable {intent : JobIntent} {now : Date} {records : List JobOutboxRecord} {record later : JobOutboxRecord}

theorem mem_markDispatched (member : later ∈ (markDispatched intent now records).2) :
    ∃ record ∈ records, later.intent = record.intent ∧
      (later.dispatchedAt = record.dispatchedAt ∨ later.intent = intent) := by
  obtain ⟨record, stored, rfl⟩ := List.mem_map.mp member
  refine ⟨record, stored, ?_⟩
  split
  · next chosen =>
      simp only [isUndispatched, Bool.and_eq_true, decide_eq_true_eq] at chosen
      exact ⟨rfl, .inr chosen.1⟩
  · exact ⟨rfl, .inl rfl⟩

theorem markDispatched_intents : (markDispatched intent now records).2.map JobOutboxRecord.intent =
    records.map JobOutboxRecord.intent := by
  simp only [markDispatched, List.map_map]
  refine List.map_congr_left fun record _ => ?_
  simp only [Function.comp_apply]
  split <;> rfl

theorem mem_markFailed (member : later ∈ (markFailed intent now records).2) :
    ∃ record ∈ records, later.intent = record.intent ∧ later.dispatchedAt = record.dispatchedAt := by
  obtain ⟨record, stored, rfl⟩ := List.mem_map.mp member
  refine ⟨record, stored, ?_⟩
  split <;> exact ⟨rfl, rfl⟩

theorem markFailed_intents : (markFailed intent now records).2.map JobOutboxRecord.intent =
    records.map JobOutboxRecord.intent := by
  simp only [markFailed, List.map_map]
  refine List.map_congr_left fun record _ => ?_
  simp only [Function.comp_apply]
  split <;> rfl

end

end AiOffice.Application.Queue
