import AiOffice.Domain.Text

namespace AiOffice.Domain

structure Agent where
  id : String
  projectId : String
  name : String
  roleId : String
  enabled : Bool
  createdAt : Date
  updatedAt : Date
  deriving DecidableEq

structure RoleLimits where
  maxIterations : Int
  maxCostMicros : Int
  timeoutSeconds : Int
  deriving DecidableEq

structure Role where
  id : String
  projectId : String
  key : String
  name : String
  version : Int
  limits : RoleLimits
  guidanceText : Option String
  guidanceVersion : Option Int
  createdAt : Date
  updatedAt : Date
  deriving DecidableEq

def maxSafeInteger : Int := 2 ^ 53 - 1

def isSafeInteger (value : Int) : Bool :=
  -maxSafeInteger ≤ value && value ≤ maxSafeInteger

def isPositiveInteger (value : Int) : Bool :=
  isSafeInteger value && 1 ≤ value

def Role.create (input : Role) : Except Thrown Role :=
  if trim input.key = "" ∨ trim input.name = "" then
    .error ⟨.domainValidationError, "Role key and name cannot be empty"⟩
  else if !isPositiveInteger input.version then
    .error ⟨.domainValidationError, "Role version must be a positive integer"⟩
  else if !isPositiveInteger input.limits.maxIterations then
    .error ⟨.domainValidationError, "Role max iterations must be a positive integer"⟩
  else if input.limits.maxCostMicros < 0 ∨ !isPositiveInteger input.limits.timeoutSeconds then
    .error ⟨.domainValidationError, "Role limits must be non-negative"⟩
  else if input.guidanceText.any fun text => text.utf8ByteSize > 65536 then
    .error ⟨.domainValidationError, "Role guidance is too large"⟩
  else if input.guidanceVersion.any fun version => !isPositiveInteger version then
    .error ⟨.domainValidationError, "Role guidance version is invalid"⟩
  else
    .ok { input with key := trim input.key, name := trim input.name }

structure AgentDefinition where
  id : String
  roleKey : String
  role : String
  version : Int
  capabilities : List String
  tools : List String
  modelPolicy : String
  roleGuidance : Option String
  limits : RoleLimits

def invalidAgentDefinition (path detail : String) : Thrown :=
  ⟨.invalidAgentDefinitionError, s!"Invalid agent definition {path}: {detail}"⟩

/-- The checks on a definition whose fields have their types. The texts are checked without their
outer white space but kept with it. -/
def parseAgentDefinition (row : AgentDefinition) (path : String) : Except Thrown AgentDefinition :=
  if trim row.id = "" ∨ trim row.roleKey = "" ∨ trim row.role = "" ∨ "" ∈ row.capabilities ∨
      "" ∈ row.tools ∨ trim row.modelPolicy = "" ∨
      (row.roleGuidance.any fun text => trim text = "" || text.utf8ByteSize > 65536) then
    .error (invalidAgentDefinition path "one or more fields have an invalid type")
  else if !isPositiveInteger row.version then
    .error (invalidAgentDefinition path "version must be a positive safe integer")
  else if !isPositiveInteger row.limits.maxIterations then
    .error (invalidAgentDefinition path "limits.max_iterations must be a positive safe integer")
  else if row.limits.maxCostMicros < 0 then
    .error (invalidAgentDefinition path
      "limits.max_cost_micros must be a non-negative safe integer or decimal string")
  else if !isPositiveInteger row.limits.timeoutSeconds then
    .error (invalidAgentDefinition path "limits.timeout_seconds must be a positive safe integer")
  else
    .ok row

end AiOffice.Domain
