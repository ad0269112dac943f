import AiOffice.Data.Simulation
import AiOffice.Domain.TaskDependency
import AiOffice.Storage.AgentRuntime.Tables

namespace AiOffice.Storage.AgentRuntime

open Data Domain

structure RoleRecord extends Role where
  capabilities : List String
  tools : List String
  modelPolicy : String
  sourcePath : String
  deriving DecidableEq

structure RoleRow where
  id : String
  projectId : String
  roleKey : String
  name : String
  version : Int
  capabilities : List String
  tools : List String
  modelPolicy : String
  limits : RoleLimits
  sourcePath : String
  guidanceText : String
  guidanceVersion : Int
  createdAt : Date
  updatedAt : Date
  deriving DecidableEq

def roleRow (value : RoleRecord) : RoleRow where
  id := value.id
  projectId := value.projectId
  roleKey := value.key
  name := value.name
  version := value.version
  capabilities := value.capabilities
  tools := value.tools
  modelPolicy := value.modelPolicy
  limits := value.limits
  sourcePath := value.sourcePath
  guidanceText := value.guidanceText.getD ""
  guidanceVersion := value.guidanceVersion.getD 1
  createdAt := value.createdAt
  updatedAt := value.updatedAt

def RoleRow.role (row : RoleRow) : Role where
  id := row.id
  projectId := row.projectId
  key := row.roleKey
  name := row.name
  version := row.version
  limits := row.limits
  guidanceText := if row.guidanceText = "" then none else some row.guidanceText
  guidanceVersion := some row.guidanceVersion
  createdAt := row.createdAt
  updatedAt := row.updatedAt

def limitsValid (limits : RoleLimits) : Bool :=
  isPositiveInteger limits.maxIterations && isPositiveInteger limits.timeoutSeconds && 0 ≤ limits.maxCostMicros

def overwriteRole (row value : RoleRow) : RoleRow :=
  { value with id := row.id, projectId := row.projectId, roleKey := row.roleKey, createdAt := row.createdAt }

def overwriteAgent (row value : Agent) : Agent :=
  { row with roleId := value.roleId, enabled := value.enabled, updatedAt := value.updatedAt }

/-- Insert a row, or update the one that it conflicts with. The primary key is looked at only where nothing conflicts. -/
def upsert {Row : Type} (conflicts sameId : Row → Row → Bool) (overwrite : Row → Row → Row) (rows : List Row) (value : Row) :
    Except Thrown (List Row) :=
  if rows.any fun row => conflicts row value then
    .ok (rows.map fun row => if conflicts row value then overwrite row value else row)
  else if rows.any fun row => sameId row value then .error ⟨.storageError, "UNIQUE constraint failed"⟩
  else .ok (rows ++ [value])

def upsertRole : List RoleRow → RoleRow → Except Thrown (List RoleRow) :=
  upsert (fun row value => row.projectId = value.projectId && row.roleKey = value.roleKey)
    (fun row value => row.id = value.id) overwriteRole

def upsertAgent : List Agent → Agent → Except Thrown (List Agent) :=
  upsert (fun row value => row.projectId = value.projectId && row.name = value.name)
    (fun row value => row.id = value.id) overwriteAgent

/-- The tables beside those of the repository, and the projects of the tenant. -/
structure Surroundings where
  projects : List String
  tasks : List TaskProps
  dependencies : List TaskDependency
  pipelines : List PipelineRunProps

def Surroundings.owns {Json : Type} (around : Surroundings) (agents : List Agent) (row : AgentRunState Json) : Bool :=
  (around.tasks.any fun task => task.id = row.taskId && task.projectId = row.projectId) &&
    agents.any fun agent => agent.id = row.agentId && agent.projectId = row.projectId

/-- The statuses of a run that needs the prerequisites of its task, and may hold its lock. -/
def isUnfinished (status : AgentRunStatus) : Bool := status ∈ [AgentRunStatus.queued, .preparing, .running, .reviewing]

def claims (previous next : AgentRunStatus) : Bool :=
  previous = .queued && next ∈ [AgentRunStatus.preparing, .running, .reviewing]

def incompletePrerequisites : Thrown := ⟨.storageError, "task has incomplete prerequisites"⟩

def provenanceImmutable : Thrown := ⟨.storageError, "agent run execution provenance is immutable"⟩

def checkFailed (table : String) : Thrown := ⟨.storageError, s!"CHECK constraint failed: {table}"⟩

def foreignKeyFailed : Thrown := ⟨.storageError, "FOREIGN KEY constraint failed"⟩

inductive Operation (Json : Type)
  | saveRole (role : RoleRecord)
  | findRole (roleId projectId : String)
  | listRoles (projectId : String)
  | saveAgent (agent : Agent)
  | findAgent (agentId : String)
  | listAgents (projectId : String)
  | saveRun (run : AgentRunProps Json)
  | findRun (runId : String)
  | listRuns (projectId : String)
  | listQueuedRuns (projectId : String) (limit : Int)
  | listRecoverableRuns (projectId : String)
  | listRunEvents (runId : String)
  | executionOwner (runId : String)
  | admitQueuedRun (input : RunAdmission)
  | acceptWorkerResult (fence : WorkerAuthorityFence Json) (run : AgentRunProps Json) (result : Json) (acceptedAt : Date)
  | findTaskLock (taskId : String)
  | acquireTaskLock (taskId runId : String) (acquiredAt expiresAt : Date)
  | renewTaskLock (runId : String) (now newExpiresAt : Date)
  | releaseTaskLock (runId : String)

/-- What an operation returns. A run that is saved is returned with its new token. -/
inductive Answer (Json : Type)
  | done
  | role (found : Option RoleRecord)
  | roles (listed : List RoleRecord)
  | agent (found : Option Agent)
  | agents (listed : List Agent)
  | run (found : Option (AgentRunProps Json))
  | runs (listed : List (AgentRunProps Json))
  | events (listed : List (AgentRunEvent Json))
  | owner (found : Option String)
  | lock (found : Option (String × Date))
  | flag (value : Bool)
  deriving DecidableEq

def isRecoverable (status : AgentRunStatus) : Bool := status ∈ [AgentRunStatus.preparing, .running, .reviewing]

end AiOffice.Storage.AgentRuntime
