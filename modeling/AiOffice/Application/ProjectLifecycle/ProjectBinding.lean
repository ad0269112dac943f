import AiOffice.AgentClientIntegrations.LocalAgentClientFiles
import AiOffice.Domain.CanonicalJson

namespace AiOffice.Application.ProjectLifecycle

open Data Data.Method Domain AgentClientIntegrations

def projectBindingFile := ".ai-office/project.json"

def maximumBindingBytes : Nat := 64 * 1024

def bindingError (message : String) : Thrown := ⟨.projectBindingError, message⟩

/-- A binding of the first version names a project, one of the second a repository. -/
inductive ParsedProjectBinding
  | legacy (projectId : String)
  | current (repositoryId : String)
  deriving DecidableEq

inductive ProjectBindingInspection
  | missing
  | valid (binding : ParsedProjectBinding) (sha256 : Digest)
  | invalid (issue : String)
  deriving DecidableEq

def ProjectBindingInspection.sha256 : ProjectBindingInspection → Option Digest
  | .valid _ sha256 => some sha256
  | _ => none

def ProjectBindingInspection.binding : ProjectBindingInspection → Option ParsedProjectBinding
  | .valid binding _ => some binding
  | _ => none

def validIdentity (value : Value) (field : String) : Except Thrown String :=
  let rejected : Except Thrown String := .error (bindingError s!"Project binding {field} must be non-empty text")
  match value with
  | .string identity => if trim identity = "" ∨ 256 < utf16Length identity then rejected else .ok identity
  | _ => rejected

/-- The record has these keys and no others; the keys are given in their order. -/
def hasExactly (record : Record) (keys : List String) : Bool :=
  "\x00".intercalate (sortOn codeUnits (record.map Prod.fst)) = "\x00".intercalate keys

def parseProjectBinding (value : Value) : Except Thrown ParsedProjectBinding :=
  match value with
  | .object record =>
    match Record.get record "managedBy", Record.get record "schemaVersion" with
    | .string "ai-office", .number version =>
      if version = 1 then
        if hasExactly record ["managedBy", "projectId", "schemaVersion"] then
          (validIdentity (Record.get record "projectId") "projectId").map .legacy
        else
          .error (bindingError
            "Legacy project binding must contain exactly managedBy, projectId, and schemaVersion")
      else if version = 2 then
        if hasExactly record ["managedBy", "repositoryId", "schemaVersion"] then
          (validIdentity (Record.get record "repositoryId") "repositoryId").map .current
        else .error (bindingError "Project binding must contain exactly managedBy, repositoryId, and schemaVersion")
      else .error (bindingError "Project binding schema version is not supported")
    | .string "ai-office", _ => .error (bindingError "Project binding schema version is not supported")
    | _, _ => .error (bindingError "Project binding is not owned by AI Office")
  | _ => .error (bindingError "Project binding must be a JSON object")

def bindingRecord (repositoryId : String) : Value :=
  .object [("schemaVersion", .number 2), ("managedBy", .string "ai-office"), ("repositoryId", .string repositoryId)]

inductive BindingAction
  | create
  | update
  | none
  deriving DecidableEq

structure ProjectBindingWriteDraft where
  action : BindingAction
  expectedSha256 : Option Digest
  repositoryId : String

structure ProjectBindingWritePlan extends ProjectBindingWriteDraft where
  planHash : Digest

/-- What the binding adapter takes from its environment: SHA-256, `JSON.parse` with the message of its error,
the JSON literal of a string, and the hash of the canonical JSON of a plan. -/
structure BindingServices where
  digest : Text → Digest
  parseJson : Text → Except String Value
  quote : String → Text
  projectBindingPlanHash : ProjectBindingWriteDraft → Digest

section Adapter

variable {Runtime : Type} (services : BindingServices)

def serializeProjectBinding (repositoryId : String) : Text :=
  "\x7b\n  \"schemaVersion\": 2,\n  \"managedBy\": \"ai-office\",\n  \"repositoryId\": ".toList ++
    services.quote repositoryId ++ "\n\x7d\n".toList

def inspectText (content : Text) : ProjectBindingInspection :=
  if maximumBindingBytes < byteSize content then
    .invalid s!"{projectBindingFile} exceeds {maximumBindingBytes} bytes"
  else
    match services.parseJson content with
    | .error message => .invalid message
    | .ok value =>
      match parseProjectBinding value with
      | .ok binding => .valid binding (services.digest content)
      | .error thrown => .invalid thrown.message

def inspect : Access Runtime ProjectBindingInspection := do
  access
  let session ← get
  match session.files projectBindingFile with
  | none => return .missing
  | some content => return inspectText services content

def planWrite (repositoryId : String) : Access Runtime ProjectBindingWritePlan := do
  let parsed ← lift (parseProjectBinding (bindingRecord repositoryId))
  match parsed with
  | .legacy _ => throw (bindingError "Cannot write a legacy project binding")
  | .current repositoryId => do
    let inspection ← inspect services
    match inspection with
    | .invalid issue => throw (bindingError issue)
    | inspection =>
      let draft : ProjectBindingWriteDraft := {
        action :=
          if inspection = .missing then .create
          else if inspection.binding = some (.current repositoryId) then .none
          else .update
        expectedSha256 := inspection.sha256
        repositoryId }
      return { draft with planHash := services.projectBindingPlanHash draft }

def bindingChanged : Thrown := bindingError "Project binding changed during installation"

/-- Give the temporary file the name of the binding. A new binding must find the name free. -/
def renameBinding (plan : ProjectBindingWritePlan) : Access Runtime Unit := do
  access
  let session ← get
  let written := serializeProjectBinding services plan.repositoryId
  match plan.expectedSha256 with
  | some _ => modify fun session => session.store projectBindingFile (some written)
  | none =>
    match session.files projectBindingFile with
    | some _ => throw bindingChanged
    | none => do
      modify fun session => session.store projectBindingFile (some written)
      -- The temporary name is taken away; this may still fail.
      access

def applyWrite (plan : ProjectBindingWritePlan) : Access Runtime Unit := do
  let current ← planWrite services plan.repositoryId
  if current.planHash ≠ plan.planHash then
    throw (bindingError "Project binding changed after planning; run install again")
  else if plan.action = .none then pure ()
  else do
    -- The directory and the temporary file.
    access
    let latest ← inspect services
    if latest.sha256 ≠ plan.expectedSha256 then throw bindingChanged
    else renameBinding services plan

end Adapter
end AiOffice.Application.ProjectLifecycle
