import AiOffice.Application.ProjectPortability.DefinitionSchema
import AiOffice.Application.ProjectPortability.TaskDependencies

namespace AiOffice.Application.ProjectPortability

open Domain Domain.Schema DomainPackContracts
open Application.DomainPack Application.OfficeManifestSchema

def unbounded (item : Schema) : Schema := array item fun _ => true

def actor : Schema := object [
  required "type" (oneOf ["user", "agent", "system"]),
  required "id" id,
  optional "displayName" shortText]

def portableProject : Schema := object [
  required "name" (trimmedText 500),
  optional "description" longText,
  required "createdAt" timestamp,
  required "updatedAt" timestamp]

def portableTask : Schema := object [
  required "id" id,
  required "title" (trimmedText 10000),
  optional "description" longText,
  required "status" (oneOf ["pending", "assigned", "running", "blocked", "waiting_review", "completed", "failed",
    "cancelled"]),
  required "priority" integer,
  required "createdAt" timestamp,
  required "updatedAt" timestamp]

def portableProfileEntry : Schema := object [
  required "id" id,
  required "category" shortText,
  required "key" shortText,
  required "value" jsonValue,
  required "origin" (oneOf ["detected", "inferred", "user"]),
  required "confidence" (number fun value => 0 ≤ value && value ≤ 1),
  optional "confirmedAt" timestamp,
  required "createdAt" timestamp]

def portableOfficeManifest : Schema := object [
  required "id" id,
  required "revision" positiveInteger,
  required "manifest" officeManifestSchema,
  required "appliedAt" timestamp]

def commonFields : List Field := [
  required "project" portableProject,
  required "tasks" (boundedArray portableTask 0 100000),
  required "profileEntries" (boundedArray portableProfileEntry 0 100000),
  required "officeManifests" (boundedArray portableOfficeManifest 0 10000)]

def taskRequirementLinks : Schema :=
  boundedArray (object [
    required "taskId" id,
    required "requirementId" id,
    required "createdAt" timestamp]) 0 1000000

def portableTaskDependency : Schema := object [
  required "taskId" id,
  required "dependsOnTaskId" id,
  required "createdAt" timestamp]

def taskDependencies : Schema := boundedArray portableTaskDependency 0 1000000

def portableExecution : Schema := object [
  required "taskId" id,
  required "state" (oneOf ["never", "unknown", "executed"]),
  optional "firstKnownAt" timestamp]

def taskExecutionHistory : Schema := boundedArray portableExecution 0 100000

def portableMilestone (statuses : List String) : Schema := object [
  required "id" id,
  required "title" shortText,
  optional "description" longText,
  required "status" (oneOf statuses),
  required "createdAt" timestamp,
  required "updatedAt" timestamp]

def portableRequirement : Schema := object [
  required "id" id,
  optional "milestoneId" id,
  required "key" shortText,
  required "title" shortText,
  required "description" longText,
  required "status" (oneOf ["proposed", "accepted", "implemented", "verified", "rejected"]),
  required "createdAt" timestamp,
  required "updatedAt" timestamp]

def portableAdr : Schema := object [
  required "id" id,
  required "title" shortText,
  required "context" longText,
  required "decision" longText,
  required "consequences" longText,
  required "status" (oneOf ["proposed", "accepted", "rejected", "deprecated", "superseded"]),
  optional "supersededById" id,
  required "createdAt" timestamp,
  required "updatedAt" timestamp]

def portableReview : Schema := object [
  required "id" id,
  required "subjectType" (oneOf ["task", "agent_run", "requirement", "adr", "milestone"]),
  required "subjectId" id,
  required "reviewer" actor,
  required "status" (oneOf ["pending", "approved", "rejected"]),
  optional "summary" longText,
  required "createdAt" timestamp,
  optional "completedAt" timestamp]

def portableApproval : Schema := object [
  required "id" id,
  required "reviewId" id,
  required "decision" (oneOf ["approved", "rejected"]),
  required "actor" actor,
  optional "rationale" longText,
  required "createdAt" timestamp]

def governanceRest : List Field := [
  required "requirements" (unbounded portableRequirement),
  required "adrs" (unbounded portableAdr),
  required "reviews" (unbounded portableReview),
  required "approvals" (unbounded portableApproval)]

def frozenMilestones : Schema :=
  unbounded (portableMilestone ["planned", "active", "completed", "cancelled"])

def milestonesV11 : Schema :=
  unbounded (portableMilestone ["planned", "active", "completed", "cancelled", "archived"])

def portableGovernanceShape : List Field := required "milestones" frozenMilestones :: governanceRest

def portableGovernanceShapeV11 : List Field := required "milestones" milestonesV11 :: governanceRest

def linkedGovernance : Schema :=
  object (portableGovernanceShape ++ [required "taskRequirements" taskRequirementLinks])

def digits (value : String) : Bool := !value.isEmpty && value.toList.all Char.isDigit

def portableAgentRole : Schema := object [
  required "id" id,
  required "key" shortText,
  required "name" shortText,
  required "version" positiveInteger,
  required "capabilities" (boundedArray shortText 0 1000),
  required "tools" (boundedArray shortText 0 1000),
  required "modelPolicy" shortText,
  required "limits" (object [
    required "maxIterations" positiveInteger,
    required "maxCostMicros" (text digits),
    required "timeoutSeconds" positiveInteger]),
  required "createdAt" timestamp,
  required "updatedAt" timestamp]

def portableAgentDefinition : Schema := object [
  required "id" id,
  required "roleId" id,
  required "name" shortText,
  required "enabled" boolean,
  required "createdAt" timestamp,
  required "updatedAt" timestamp]

def portableTerminalRun : Schema := object [
  required "id" id,
  required "taskId" id,
  required "agentId" id,
  required "status" (oneOf ["completed", "failed", "cancelled"]),
  required "createdAt" timestamp,
  optional "startedAt" timestamp,
  required "completedAt" timestamp,
  required "updatedAt" timestamp]

def portableAgentsShape : Schema := object [
  required "roles" (unbounded portableAgentRole),
  required "definitions" (unbounded portableAgentDefinition),
  required "terminalRuns" (unbounded portableTerminalRun)]

def portableProjectStateShapeV1 : List Field :=
  commonFields ++ [required "governance" (object portableGovernanceShape), required "agents" portableAgentsShape]

def portableProjectStateShapeV2 : List Field :=
  commonFields ++ [required "governance" linkedGovernance, required "agents" portableAgentsShape]

def portableProjectStateShapeV3 : List Field :=
  commonFields ++ [required "taskDependencies" taskDependencies, required "governance" linkedGovernance,
    required "agents" portableAgentsShape]

def portableProjectStateShapeV4 (governance : Schema) : List Field :=
  commonFields ++ [required "taskDependencies" taskDependencies, required "taskExecutionHistory" taskExecutionHistory,
    required "governance" governance, required "agents" portableAgentsShape]

def portableProjectStateShapeV5 (governance : Schema) : List Field :=
  portableProjectStateShapeV4 governance ++ [required "packBinding" portablePackBinding]

/-- The fields of format 6 and later, with the governance and the definitions of the format. -/
def definitionFormat (governance definitions : Schema) : List Field :=
  portableProjectStateShapeV5 governance ++ [required "definitions" definitions]

def portableProjectStateShapeV6 : List Field := definitionFormat linkedGovernance portableDefinitionStateV6

def portableProjectStateShapeV7 : List Field := definitionFormat linkedGovernance portableDefinitionStateV7

def portableProjectStateShapeV8 : List Field := definitionFormat linkedGovernance portableDefinitionStateV8

def portableProjectStateShapeV9 : List Field := definitionFormat linkedGovernance portableDefinitionStateV9

def portableProjectStateShapeV10 : List Field := definitionFormat linkedGovernance portableDefinitionState

def linkedGovernanceV11 : Schema :=
  object (portableGovernanceShapeV11 ++ [required "taskRequirements" taskRequirementLinks])

def portableProjectStateShapeV11 : List Field := definitionFormat linkedGovernanceV11 portableDefinitionState

/-- What the runtime builds and restores: the fields of later versions are optional here. -/
def portableProjectStateShape : List Field :=
  commonFields ++ [
    optional "taskDependencies" taskDependencies,
    optional "taskExecutionHistory" taskExecutionHistory,
    optional "packBinding" portablePackBinding,
    optional "definitions" portableDefinitionState,
    required "governance" (object (portableGovernanceShapeV11 ++ [optional "taskRequirements" taskRequirementLinks])),
    required "agents" portableAgentsShape]

def textsOf (key : String) (items : List Value) : List String := items.map fun item => (item.get key).text

/-- The last of the items that have this id, as a map from their ids holds it. -/
def lastWith (items : List Value) (id : String) : Option Value :=
  items.reverse.find? fun item => (item.get "id").text = id

def notPortable (kind id : String) : String := s!"Referenced {kind} {id} is not portable"

def referenceIssues (known : List String) (path : List PathSegment) (key kind : String) (item : Value) : List Issue :=
  issueUnless (known.contains (item.get key).text) (path ++ [.field key]) (notPortable kind (item.get key).text)

def activeTask (tasks : List Value) (taskId : String) : Bool :=
  (lastWith tasks taskId).any fun task => ["running", "waiting_review"].contains (task.get "status").text

def historyIssues (tasks terminalRuns : List Value) (history : List Value) : List Issue :=
  eachIssues history (fun earlier item =>
    let path := [.field "taskExecutionHistory", .index earlier.length]
    let taskId := (item.get "taskId").text
    let executed := decide ((item.get "state").text = "executed")
    referenceIssues (textsOf "id" tasks) path "taskId" "task" item ++
    issueUnless (!(textsOf "taskId" earlier).contains taskId) (path ++ [.field "taskId"])
      s!"Task {taskId} has duplicate execution knowledge" ++
    issueUnless (executed || (item.get "firstKnownAt").isUndefined) (path ++ [.field "firstKnownAt"])
      "Only executed history may have a known timestamp" ++
    issueUnless (executed || !activeTask tasks taskId) (path ++ [.field "state"])
      "Active execution proves execution history" ++
    issueUnless (executed || !(textsOf "taskId" terminalRuns).contains taskId) (path ++ [.field "state"])
      "An AgentRun proves execution history") ++
  (textsOf "id" tasks).eraseDups.flatMap fun taskId =>
    issueUnless ((textsOf "taskId" history).contains taskId) [.field "taskExecutionHistory"]
      s!"Task {taskId} lacks explicit execution knowledge"

def optionalReferenceIssues (known : List String) (part key kind : String) (items : List Value) : List Issue :=
  eachIssues items fun earlier item =>
    if (item.get key).isUndefined then []
    else referenceIssues known [.field "governance", .field part, .index earlier.length] key kind item

def subjectIds (state : Value) (subjectType : String) : List String :=
  let governance := state.get "governance"
  if subjectType = "task" then textsOf "id" (state.get "tasks").items
  else if subjectType = "agent_run" then textsOf "id" ((state.get "agents").get "terminalRuns").items
  else if subjectType = "requirement" then textsOf "id" (governance.get "requirements").items
  else if subjectType = "adr" then textsOf "id" (governance.get "adrs").items
  else textsOf "id" (governance.get "milestones").items

def subjectIssues (state : Value) (reviews : List Value) : List Issue :=
  eachIssues reviews fun earlier item =>
    let subjectType := (item.get "subjectType").text
    referenceIssues (subjectIds state subjectType) [.field "governance", .field "reviews", .index earlier.length]
      "subjectId" subjectType item

def approvalIssues (reviews approvals : List Value) : List Issue :=
  eachIssues approvals fun earlier item =>
    let path := [.field "governance", .field "approvals", .index earlier.length]
    let reviewId := (item.get "reviewId").text
    match lastWith reviews reviewId with
    | none => [⟨path ++ [.field "reviewId"], notPortable "review" reviewId⟩]
    | some review =>
      issueUnless (!(textsOf "reviewId" earlier).contains reviewId) (path ++ [.field "reviewId"])
        s!"Review {reviewId} has more than one approval" ++
      issueUnless ((review.get "status").text = (item.get "decision").text) (path ++ [.field "decision"])
        s!"Approval decision does not match review {reviewId}"

def reviewIssues (reviews approvals : List Value) : List Issue :=
  eachIssues reviews fun earlier item =>
    let path := [.field "governance", .field "reviews", .index earlier.length]
    let reviewId := (item.get "id").text
    let approved := (textsOf "reviewId" approvals).contains reviewId
    let completed := !(item.get "completedAt").isUndefined
    if (item.get "status").text = "pending" then
      issueUnless (!approved) (path ++ [.field "status"]) s!"Pending review {reviewId} cannot have an approval" ++
      issueUnless (!completed) (path ++ [.field "completedAt"]) s!"Pending review {reviewId} cannot be completed"
    else
      issueUnless approved (path ++ [.field "status"]) s!"Decided review {reviewId} requires a portable approval" ++
      issueUnless completed (path ++ [.field "completedAt"])
        s!"Decided review {reviewId} requires a completion timestamp"

def linkKey (item : Value) : String := (item.get "taskId").text ++ "\u0000" ++ (item.get "requirementId").text

def linkIssues (tasks requirements links : List Value) : List Issue :=
  eachIssues links fun earlier item =>
    let path := [.field "governance", .field "taskRequirements", .index earlier.length]
    let taskId := (item.get "taskId").text
    let requirementId := (item.get "requirementId").text
    referenceIssues (textsOf "id" tasks) path "taskId" "task" item ++
    referenceIssues (textsOf "id" requirements) path "requirementId" "requirement" item ++
    issueUnless (!(earlier.map linkKey).contains (linkKey item)) path
      s!"Task {taskId} is linked to requirement {requirementId} more than once"

def dependencyEdge (item : Value) : TaskDependencyEdge :=
  ⟨(item.get "taskId").text, (item.get "dependsOnTaskId").text⟩

def runIssues (tasks agents runs : List Value) : List Issue :=
  eachIssues runs fun earlier item =>
    let path := [.field "agents", .field "terminalRuns", .index earlier.length]
    referenceIssues (textsOf "id" tasks) path "taskId" "task" item ++
    referenceIssues (textsOf "id" agents) path "agentId" "agent" item

def agentIssues (roles agents : List Value) : List Issue :=
  eachIssues agents fun earlier item =>
    referenceIssues (textsOf "id" roles) [.field "agents", .field "definitions", .index earlier.length] "roleId" "role"
      item

def referentialClosure (state : Value) : List Issue :=
  let governance := state.get "governance"
  let agents := state.get "agents"
  let tasks := (state.get "tasks").items
  let history := state.get "taskExecutionHistory"
  let runs := (agents.get "terminalRuns").items
  let requirements := (governance.get "requirements").items
  let reviews := (governance.get "reviews").items
  let approvals := (governance.get "approvals").items
  (if history.isUndefined then [] else historyIssues tasks runs history.items) ++
  optionalReferenceIssues (textsOf "id" (governance.get "milestones").items) "requirements" "milestoneId" "milestone"
    requirements ++
  optionalReferenceIssues (textsOf "id" (governance.get "adrs").items) "adrs" "supersededById" "ADR"
    (governance.get "adrs").items ++
  subjectIssues state reviews ++
  approvalIssues reviews approvals ++
  reviewIssues reviews approvals ++
  agentIssues (agents.get "roles").items (agents.get "definitions").items ++
  linkIssues tasks requirements (governance.get "taskRequirements").items ++
  dependencyIssues (textsOf "id" tasks) [] 0 ((state.get "taskDependencies").items.map dependencyEdge) ++
  runIssues tasks (agents.get "definitions").items runs

theorem referentialClosure_congr {state other : Value} (same : ∀ key, state.get key = other.get key) :
    referentialClosure state = referentialClosure other := by
  simp only [referentialClosure, subjectIssues, subjectIds, same]

def portableProjectStateSchema : Schema := superRefine (object portableProjectStateShape) referentialClosure

def portableProjectStateFields : Nat → List Field
  | 1 => portableProjectStateShapeV1
  | 2 => portableProjectStateShapeV2
  | 3 => portableProjectStateShapeV3
  | 4 => portableProjectStateShapeV4 linkedGovernance
  | 5 => portableProjectStateShapeV5 linkedGovernance
  | 6 => portableProjectStateShapeV6
  | 7 => portableProjectStateShapeV7
  | 8 => portableProjectStateShapeV8
  | 9 => portableProjectStateShapeV9
  | 10 => portableProjectStateShapeV10
  | _ => portableProjectStateShapeV11

def portableProjectStateSchemaOf (version : Nat) : Schema :=
  superRefine (object (portableProjectStateFields version)) referentialClosure

end AiOffice.Application.ProjectPortability
