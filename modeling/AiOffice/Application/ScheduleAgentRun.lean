import AiOffice.Application.ManageAgentRuns
import AiOffice.Application.Pipeline.ManagePipelineRuns
import AiOffice.Transition.Run

namespace AiOffice.Application

open Data Domain Domain.PipelineRun Storage.AgentRuntime Storage.Office

def taskRunLeaseDurationMs : Int := 30 * 60000

def isTaskRunnable (status : TaskStatus) : Bool :=
  status ∈ [TaskStatus.pending, .assigned, .running, .waitingReview]

def taskNotRunnable : Thrown :=
  ⟨.taskNotRunnableError, "Task is blocked or terminal; no agent work may be admitted"⟩

def taskLockActive (taskId : String) : Thrown :=
  ⟨.taskLockActiveError, s!"Task {taskId} is already locked by another run"⟩

def agentNotFound (id : String) : Thrown := ⟨.agentNotFoundError, s!"Agent {id} not found"⟩

structure AgentRunJob where
  projectId : String
  runId : String
  pipelineStageRunId : Option String
  deriving DecidableEq

/-- The bytes of the payload of a job: 23 for the keys and punctuation around its ids, and 22 more with a stage. -/
def AgentRunJob.payloadBytes (job : AgentRunJob) : Nat :=
  23 + jsonStringBytes job.projectId + jsonStringBytes job.runId +
    (job.pipelineStageRunId.map fun id => 22 + jsonStringBytes id).getD 0

structure ScheduleInput (Json : Type) where
  projectId : String
  taskId : String
  agentId : String
  actionIntent : Option Json

/-- The structured fields of a run, and how the model of an agent is chosen. -/
structure ScheduleServices (Json : Type) where
  codec : AgentRunCodec Json
  guidance : String → Int → Json
  resolveAgentRunModel : String → Agent → Role → Except Thrown Json

namespace ScheduleAgentRun

variable {Json : Type} (services : ScheduleServices Json) (input : ScheduleInput Json)

def readProject (office : OfficeTables) : Except Thrown Unit :=
  if input.projectId ∉ office.projects then .error (projectNotFound input.projectId) else .ok ⟨⟩

def readTask (office : OfficeTables) : Except Thrown Unit :=
  match office.findTask input.taskId with
  | none => .error (taskNotFound input.taskId)
  | some task =>
    if task.projectId ≠ input.projectId then .error (taskNotFound input.taskId)
    else if !isTaskRunnable task.status then .error taskNotRunnable
    else .ok ⟨⟩

def readPrerequisites (office : OfficeTables) : Except Thrown Unit :=
  assertTaskPrerequisitesComplete input.projectId input.taskId .start office

def readRuns (tables : RuntimeTables Json) : Except Thrown (List String) := do
  let runs ← tables.listRuns services.codec input.projectId
  if runs.any fun run => run.taskId = input.taskId && !AgentRun.isTerminal run.status then
    .error (taskLockActive input.taskId)
  else return (runs.filter fun run => run.taskId = input.taskId).map fun run => run.id

def readAgent (office : OfficeTables) : Except Thrown Agent :=
  match office.findAgent input.agentId with
  | none => .error (agentNotFound input.agentId)
  | some agent =>
    if agent.projectId ≠ input.projectId ∨ agent.enabled = false then .error (agentNotFound input.agentId)
    else .ok agent

def readRole (agent : Agent) (office : OfficeTables) : Except Thrown Role :=
  match office.findRole agent.roleId input.projectId with
  | none => .error (agentNotFound input.agentId)
  | some role => .ok role

def notAssigned : Thrown := agentNotFound s!"{input.agentId} is not assigned to the active pipeline stage"

/-- The stage of an active pipeline that a stage read binds to, if it is the agent's. -/
def bound (pipeline : PipelineRunProps) : Option PipelineStageRunProps → Except Thrown (Option (String × String))
  | none => .error (notAssigned input)
  | some stage =>
    if stage.status ≠ .active ∨ stage.assignedAgentId ≠ some input.agentId then .error (notAssigned input)
    else .ok (some (pipeline.id, stage.id))

def readStage (office : OfficeTables) : Except Thrown (Option (String × String)) :=
  match office.findActiveByTask input.taskId input.projectId with
  | none => .ok none
  | some pipeline => do
    let stage ← (Method.call currentStage pipeline).1
    bound input pipeline stage

def roleGuidance (role : Role) : Option Json :=
  role.guidanceText.bind fun text =>
    if trim text = "" then none else some (services.guidance text (role.guidanceVersion.getD role.version))

/-- The run that is scheduled, from the agent and the role that the transaction reads. -/
def createRun (id : String) (now : Date) (office : OfficeTables) : Except Thrown (AgentRunProps Json) := do
  let agent ← readAgent input office
  let role ← readRole input agent office
  let stage ← readStage input office
  let modelRouting ← services.resolveAgentRunModel input.projectId agent role
  AgentRun.create services.codec {
    id
    projectId := input.projectId
    taskId := input.taskId
    agentId := input.agentId
    pipelineRunId := stage.map (·.1)
    pipelineStageRunId := stage.map (·.2)
    actionIntent := input.actionIntent
    roleGuidance := roleGuidance services role
    modelRouting := some modelRouting
    now }

def appendJob (job : AgentRunJob) (jobs : List AgentRunJob) : Except Thrown (List AgentRunJob) :=
  if maximumPayloadBytes < job.payloadBytes then .error ⟨.domainValidationError, "Job outbox payload is too large"⟩
  else if jobs.any fun stored => stored.runId = job.runId then .ok jobs
  else .ok (jobs ++ [job])

variable [DecidableEq Json]

def commitAdmission (id : String) (now : Date) (office : OfficeTables) (tables : RuntimeTables Json) (jobs : List AgentRunJob) :
    Except Thrown (RuntimeTables Json × List AgentRunJob) := do
  readPrerequisites input office
  let run ← createRun services input id now office
  let saved ← tables.saveRun services.codec run
  let locked := saved.2.acquireTaskLock input.taskId run.id now (now + taskRunLeaseDurationMs)
  if locked.1 = false then .error (taskLockActive input.taskId)
  else
    let jobs ← appendJob ⟨input.projectId, run.id, run.pipelineStageRunId⟩ jobs
    return (locked.2, jobs)

end ScheduleAgentRun

end AiOffice.Application
