import AiOffice.Storage.Office

namespace AiOffice.Storage.Pipeline

open Domain Storage.Office

/-- A row of `pipeline_run`. Its configuration pin stands for the pin columns and the sealed tuples. -/
structure RunRow where
  id : String
  projectId : String
  taskId : String
  manifestRevisionId : String
  manifestRevision : Nat
  definition : OfficePipeline
  status : PipelineRunStatus
  currentStageIndex : Nat
  startedBy : String
  version : Nat
  createdAt : Date
  updatedAt : Date
  completedAt : Option Date
  cancelledAt : Option Date
  configurationPin : Option PipelineRunConfigurationPin

/-- A row of `pipeline_stage_run`. -/
structure StageRow where
  pipelineRunId : String
  projectId : String
  stage : PipelineStageRunProps

structure PipelineTables where
  runs : List RunRow
  stages : List StageRow
  agents : List Agent

def RunRow.restore (row : RunRow) (stages : List PipelineStageRunProps) : PipelineRunProps where
  id := row.id
  projectId := row.projectId
  taskId := row.taskId
  manifestRevisionId := row.manifestRevisionId
  manifestRevision := row.manifestRevision
  definition := row.definition
  status := row.status
  currentStageIndex := row.currentStageIndex
  stages := stages
  startedBy := row.startedBy
  version := row.version
  createdAt := row.createdAt
  updatedAt := row.updatedAt
  completedAt := row.completedAt
  cancelledAt := row.cancelledAt
  configurationPin := row.configurationPin

def StageRow.belongsTo (runId projectId : String) (row : StageRow) : Bool :=
  row.pipelineRunId = runId && row.projectId = projectId

namespace PipelineTables

variable (tables : PipelineTables)

def stagesOf (runId projectId : String) : List StageRow :=
  (tables.stages.filter (StageRow.belongsTo runId projectId)).mergeSort fun left right =>
    decide (left.stage.stageIndex ≤ right.stage.stageIndex)

def findById (id projectId : String) : Option PipelineRunProps :=
  (tables.runs.find? fun row => row.id = id && row.projectId = projectId).map fun row =>
    row.restore ((tables.stagesOf row.id row.projectId).map StageRow.stage)

end PipelineTables

def RunRow.overwrite (value : PipelineRunProps) (row : RunRow) : RunRow :=
  { row with
    status := value.status
    currentStageIndex := value.currentStageIndex
    version := value.version
    updatedAt := value.updatedAt
    completedAt := value.completedAt
    cancelledAt := value.cancelledAt }

def overwriteStage (stage item : PipelineStageRunProps) : PipelineStageRunProps :=
  { stage with
    status := item.status
    assignedAgentId := item.assignedAgentId
    assignedAt := item.assignedAt
    completedAt := item.completedAt
    approvedBy := item.approvedBy
    approvalDecision := item.approvalDecision
    approvalRationale := item.approvalRationale
    approvedAt := item.approvedAt }

def StageRow.overwrite (item : PipelineStageRunProps) (row : StageRow) : StageRow :=
  { row with stage := overwriteStage row.stage item }

def runRefusal (tables : PipelineTables) (before after : RunRow) : Option String :=
  (runUpdateRefusal (before.restore []) (after.restore [])).or
    (if after.status = .active ∧ (tables.runs.any fun other => other.id ≠ before.id &&
        other.projectId = after.projectId && other.taskId = after.taskId && other.status = .active) then
      some "UNIQUE constraint failed: pipeline_run.project_id, pipeline_run.task_id"
    else none)

def foreignKeyFailed : String := "FOREIGN KEY constraint failed"

def agentKnown (tables : PipelineTables) (before after : StageRow) : Bool :=
  after.stage.assignedAgentId = before.stage.assignedAgentId || after.stage.assignedAgentId.all fun id =>
    tables.agents.any fun agent => agent.id = id && agent.projectId = before.projectId

/-- The trigger, check, index or key that refuses an update of a stage row, by the rows of the moment. -/
def stageRefusal (tables : PipelineTables) (before after : StageRow) : Option String :=
  if !stageStatusMoves before.stage.status after.stage.status then some "invalid pipeline stage status transition"
  else if !assignmentKept before.stage after.stage then some "pipeline stage assignment is immutable"
  else if !approvalKept before.stage after.stage then some "pipeline stage approval is immutable"
  else if !stageRowValid after.stage then some "CHECK constraint failed: pipeline_stage_run"
  else if atWork after.stage && (tables.stages.any fun other => other.stage.id ≠ before.stage.id &&
      other.pipelineRunId = before.pipelineRunId && atWork other.stage) then
    some "UNIQUE constraint failed: pipeline_stage_run.pipeline_run_id"
  else if !agentKnown tables before after then some foreignKeyFailed
  else none

def updateStage (runId projectId : String) (tables : PipelineTables) (item : PipelineStageRunProps) :
    Except Thrown PipelineTables :=
  match tables.stages.find? fun row => row.stage.id = item.id && row.belongsTo runId projectId with
  | none => .ok tables
  | some row =>
    match stageRefusal tables row (row.overwrite item) with
    | some message => .error (abort message)
    | none => .ok { tables with
        stages := tables.stages.map fun other =>
          if other.stage.id = row.stage.id then row.overwrite item else other }

/-- Update the run row if it is still at the version that was read, and then its stage rows one by one. -/
def save (value : PipelineRunProps) (expectedVersion : Nat) (tables : PipelineTables) :
    Except Thrown (Bool × PipelineTables) :=
  match tables.runs.find? fun row =>
      row.id = value.id && row.projectId = value.projectId && row.version = expectedVersion with
  | none => .ok (false, tables)
  | some row =>
    match runRefusal tables row (row.overwrite value) with
    | some message => .error (abort message)
    | none => do
      let saved ← value.stages.foldlM (updateStage value.id value.projectId) { tables with
        runs := tables.runs.map fun other => if other.id = row.id then row.overwrite value else other }
      return (true, saved)

/-- What the checks, unique keys and foreign keys hold of the stored rows. -/
structure Schema (tables : PipelineTables) : Prop where
  runIds : (tables.runs.map RunRow.id).Nodup
  stageIds : (tables.stages.map fun row => row.stage.id).Nodup
  runsValid : ∀ row ∈ tables.runs, runRowValid (row.restore []) = true
  stagesValid : ∀ row ∈ tables.stages, stageRowValid row.stage = true
  oneActive : ∀ row ∈ tables.runs, ∀ other ∈ tables.runs, row.status = .active → other.status = .active →
    other.projectId = row.projectId → other.taskId = row.taskId → other.id = row.id
  oneAtWork : ∀ row ∈ tables.stages, ∀ other ∈ tables.stages, atWork row.stage = true → atWork other.stage = true →
    other.pipelineRunId = row.pipelineRunId → other.stage.id = row.stage.id
  runKnown : ∀ row ∈ tables.stages, ∃ run ∈ tables.runs, row.belongsTo run.id run.projectId = true

end AiOffice.Storage.Pipeline
