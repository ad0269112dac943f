import AiOffice.Data.Triple
import AiOffice.Domain.Text

namespace AiOffice.AgentClientIntegrations

open Data Domain

abbrev Text := List Char

abbrev Digest := String

inductive Change
  | file (relativePath : String)
  | project (projectId : String)
  | source (projectId : String)
  | association (repositoryId projectId : String)
  | officeRevision (projectId : String)

/-- What a call shares with everything that goes on beside it: the regular files of the
checkout by their relative paths, and the state of the Runtime. -/
structure Shared (Runtime : Type) where
  files : String → Option Text
  runtime : Runtime

/-- What happens right before one access: others change what is shared, and the access itself may fail. -/
structure Moment (Runtime : Type) where
  interference : Shared Runtime → Shared Runtime
  fault : Option Thrown

/-- The state of one call. No further moments means that nothing happens beside the call any more.
The changes are those that the call made itself. -/
structure Session (Runtime : Type) where
  shared : Shared Runtime
  moments : List (Moment Runtime)
  changes : List Change

variable {Runtime : Type}

abbrev Access (Runtime Result : Type) := Method (Session Runtime) Thrown Result

namespace Session

def files (session : Session Runtime) : String → Option Text := session.shared.files

def store (session : Session Runtime) (relativePath : String) (content : Option Text) : Session Runtime :=
  { session with
    shared := { session.shared with files := Function.update session.shared.files relativePath content }
    changes := session.changes ++ [.file relativePath] }

@[simp] theorem store_files (session : Session Runtime) (relativePath : String) (content : Option Text) :
    (session.store relativePath content).files = Function.update session.files relativePath content := rfl

@[simp] theorem store_moments (session : Session Runtime) (relativePath : String) (content : Option Text) :
    (session.store relativePath content).moments = session.moments := rfl

@[simp] theorem store_changes (session : Session Runtime) (relativePath : String) (content : Option Text) :
    (session.store relativePath content).changes = session.changes ++ [.file relativePath] := rfl

def pass (session : Session Runtime) (moment : Moment Runtime) (later : List (Moment Runtime)) : Session Runtime :=
  { session with shared := moment.interference session.shared, moments := later }

end Session

def access : Access Runtime Unit := do
  let session ← get
  match session.moments with
  | [] => pure ()
  | moment :: later => do
    modify fun session => session.pass moment later
    match moment.fault with
    | none => pure ()
    | some thrown => throw thrown

def integrationError (message : String) : Thrown := ⟨.agentClientIntegrationError, message⟩

def maximumInstructionBytes : Nat := 256 * 1024

def byteSize (content : Text) : Nat := (content.map Char.utf8Size).sum

structure LocalInstructionFile where
  relativePath : String
  content : Option Text

namespace LocalInstructionFile

def present (file : LocalInstructionFile) : Bool := file.content.isSome

def sha256 (digest : Text → Digest) (file : LocalInstructionFile) : Option Digest := file.content.map digest

end LocalInstructionFile

inductive AgentClientFileOwnership
  | absent
  | userOwned
  | aiOfficeOwned
  | merged
  deriving DecidableEq

/-- What an operation does to its file. Only a creation expects no file. -/
inductive Mutation
  | create (nextContent : Text)
  | update (expectedSha256 : Digest) (nextContent : Text)
  | delete (expectedSha256 : Digest)

structure AgentClientFileOperation where
  relativePath : String
  mutation : Mutation
  ownershipAfter : AgentClientFileOwnership
  summary : String

namespace AgentClientFileOperation

def expectedSha256 (operation : AgentClientFileOperation) : Option Digest :=
  match operation.mutation with
  | .create _ => none
  | .update expected _ => some expected
  | .delete expected => some expected

def result (operation : AgentClientFileOperation) : Option Text :=
  match operation.mutation with
  | .create nextContent => some nextContent
  | .update _ nextContent => some nextContent
  | .delete _ => none

end AgentClientFileOperation

namespace LocalAgentClientFiles

variable (digest : Text → Digest)

def changedDuringApply (relativePath : String) : Thrown :=
  integrationError s!"Agent client instruction changed during apply: {relativePath}"

def read (relativePath : String) : Access Runtime LocalInstructionFile := do
  access
  let session ← get
  match session.files relativePath with
  | none => return ⟨relativePath, none⟩
  | some content =>
    if maximumInstructionBytes < byteSize content then
      throw (integrationError
        s!"Agent client instruction file exceeds {maximumInstructionBytes} bytes: {relativePath}")
    else return ⟨relativePath, some content⟩

def requireExpected (operation : AgentClientFileOperation) (thrown : Thrown) : Access Runtime Unit := do
  let current ← read operation.relativePath
  if current.sha256 digest = operation.expectedSha256 then pure () else throw thrown

def unlinkSync (relativePath : String) : Access Runtime Unit := do
  access
  let session ← get
  match session.files relativePath with
  | none => throw (changedDuringApply relativePath)
  | some _ => modify fun session => session.store relativePath none

/-- Give the temporary file its name. The name must be free; taking the temporary name away may still fail. -/
def linkSync (relativePath : String) (nextContent : Text) : Access Runtime Unit := do
  access
  let session ← get
  match session.files relativePath with
  | some _ => throw (changedDuringApply relativePath)
  | none => do
    modify fun session => session.store relativePath (some nextContent)
    access

def renameSync (relativePath : String) (nextContent : Text) : Access Runtime Unit := do
  access
  modify fun session => session.store relativePath (some nextContent)

def commit (operation : AgentClientFileOperation) : Access Runtime Unit :=
  match operation.mutation with
  | .create nextContent => linkSync operation.relativePath nextContent
  | .update _ nextContent => renameSync operation.relativePath nextContent
  | .delete _ => unlinkSync operation.relativePath

def applyOperation (beforeMutation : AgentClientFileOperation → Access Runtime Unit)
    (operation : AgentClientFileOperation) : Access Runtime Unit := do
  requireExpected digest operation
    (integrationError s!"Agent client instruction changed after planning: {operation.relativePath}")
  -- The parent directories, the temporary file and the commit hook; a deletion has only the hook.
  access
  requireExpected digest operation (changedDuringApply operation.relativePath)
  beforeMutation operation
  commit operation

def apply (beforeMutation : AgentClientFileOperation → Access Runtime Unit) :
    List AgentClientFileOperation → Access Runtime Unit
  | [] => pure ()
  | operation :: operations => do
    applyOperation digest beforeMutation operation
    apply beforeMutation operations

end LocalAgentClientFiles

/-! Nothing happens beside a call whose session has no further moments: what it does is then determined. -/

section Quiet

open Method LocalAgentClientFiles

variable {digest : Text → Digest} {session : Session Runtime} {relativePath : String}
  {operation : AgentClientFileOperation} {operations : List AgentClientFileOperation}
  {beforeMutation : AgentClientFileOperation → Access Runtime Unit}

def Session.Readable (session : Session Runtime) (relativePath : String) : Prop :=
  ∀ content, session.files relativePath = some content → byteSize content ≤ maximumInstructionBytes

def Planned (digest : Text → Digest) (session : Session Runtime) (operation : AgentClientFileOperation) : Prop :=
  operation.expectedSha256 = (session.files operation.relativePath).map digest

def Session.perform (session : Session Runtime) (operations : List AgentClientFileOperation) : Session Runtime :=
  operations.foldl (fun session operation => session.store operation.relativePath operation.result) session

@[simp] theorem Session.perform_nil : session.perform [] = session := rfl

@[simp] theorem Session.perform_cons : session.perform (operation :: operations) =
    (session.store operation.relativePath operation.result).perform operations := rfl

@[simp] theorem Session.perform_moments : (session.perform operations).moments = session.moments := by
  induction operations generalizing session with
  | nil => rfl
  | cons operation operations ih => rw [perform_cons, ih, store_moments]

theorem Session.perform_other (other : ∀ operation ∈ operations, operation.relativePath ≠ relativePath) :
    (session.perform operations).files relativePath = session.files relativePath := by
  induction operations generalizing session with
  | nil => rfl
  | cons operation operations ih =>
    rw [List.forall_mem_cons] at other
    rw [perform_cons, ih other.2, store_files, Function.update_of_ne other.1.symm]

theorem Session.perform_files (relativePath : String) :
    (session.perform operations).files relativePath =
      (operations.filter (·.relativePath = relativePath)).foldl (fun _ operation => operation.result)
        (session.files relativePath) := by
  induction operations generalizing session with
  | nil => rfl
  | cons operation operations ih =>
    rw [perform_cons, ih, store_files]
    by_cases here : operation.relativePath = relativePath
    · subst here
      rw [List.filter_cons_of_pos (by simp), List.foldl_cons, Function.update_self]
    · rw [List.filter_cons_of_neg (by simpa using here), Function.update_of_ne (Ne.symm here)]

section Accesses

variable (quiet : session.moments = [])

include quiet

theorem call_access : call (access : Access Runtime Unit) session = (.ok (), session) := by
  rw [access, call_bind_ok (call_get session)]
  simp only [quiet, call_pure]

theorem call_read (readable : session.Readable relativePath) :
    call (read relativePath) session = (.ok ⟨relativePath, session.files relativePath⟩, session) := by
  rw [LocalAgentClientFiles.read, call_bind_ok (call_access quiet), call_bind_ok (call_get session)]
  cases stored : session.files relativePath with
  | none => rfl
  | some content =>
    have small := readable content stored
    simp only [if_neg (Nat.not_lt.mpr small), call_pure]

theorem call_read_large {content : Text} (stored : session.files relativePath = some content)
    (large : maximumInstructionBytes < byteSize content) :
    ∃ thrown, call (read relativePath) session = (.error thrown, session) := by
  rw [LocalAgentClientFiles.read, call_bind_ok (call_access quiet), call_bind_ok (call_get session)]
  simp only [stored, if_pos large, call_throw]
  exact ⟨_, rfl⟩

theorem read_found {file : LocalInstructionFile} {after : Session Runtime}
    (found : call (read relativePath) session = (.ok file, after)) :
    file = ⟨relativePath, session.files relativePath⟩ ∧ after = session := by
  rw [LocalAgentClientFiles.read, call_bind_ok (call_access quiet), call_bind_ok (call_get session)] at found
  cases stored : session.files relativePath with
  | none =>
    simp only [stored, call_pure] at found
    cases found
    exact ⟨rfl, rfl⟩
  | some content =>
    simp only [stored] at found
    split at found
    · cases found
    · cases found
      exact ⟨rfl, rfl⟩

variable (readable : session.Readable operation.relativePath) (planned : Planned digest session operation)

include planned

theorem call_commit : call (commit operation) session =
    (.ok (), session.store operation.relativePath operation.result) := by
  unfold Planned AgentClientFileOperation.expectedSha256 at planned
  unfold commit AgentClientFileOperation.result
  cases kind : operation.mutation with
  | create nextContent =>
    simp only [kind] at planned ⊢
    have free : session.files operation.relativePath = none := Option.map_eq_none_iff.mp planned.symm
    rw [linkSync, call_bind_ok (call_access quiet), call_bind_ok (call_get session)]
    simp only [free]
    rw [call_bind_ok (call_modify _ _)]
    exact call_access quiet
  | update expected nextContent =>
    simp only
    rw [renameSync, call_bind_ok (call_access quiet)]
    rfl
  | delete expected =>
    simp only [kind] at planned ⊢
    obtain ⟨content, stored, -⟩ := Option.map_eq_some_iff.mp planned.symm
    rw [unlinkSync, call_bind_ok (call_access quiet), call_bind_ok (call_get session)]
    simp only [stored]
    rfl

include readable

theorem call_requireExpected (thrown : Thrown) :
    call (requireExpected digest operation thrown) session = (.ok (), session) := by
  rw [requireExpected, call_bind_ok (call_read quiet readable)]
  have same : LocalInstructionFile.sha256 digest ⟨operation.relativePath, session.files operation.relativePath⟩ =
      operation.expectedSha256 := planned.symm
  simp only [if_pos same, call_pure]

theorem call_applyOperation (passes : call (beforeMutation operation) session = (.ok (), session)) :
    call (applyOperation digest beforeMutation operation) session =
      (.ok (), session.store operation.relativePath operation.result) := by
  rw [applyOperation, call_bind_ok (call_requireExpected quiet readable planned _), call_bind_ok (call_access quiet),
    call_bind_ok (call_requireExpected quiet readable planned _), call_bind_ok passes]
  exact call_commit quiet planned

end Accesses

/-- Operations on different files that were all planned for what is there are all performed. What the
check before each mutation relies on must not be touched by the operations. -/
theorem call_apply (relied : Session Runtime → Prop) (quiet : session.moments = [])
    (distinct : (operations.map AgentClientFileOperation.relativePath).Nodup)
    (readable : ∀ operation ∈ operations, session.Readable operation.relativePath)
    (planned : ∀ operation ∈ operations, Planned digest session operation) (initially : relied session)
    (kept : ∀ operation ∈ operations, ∀ session : Session Runtime, relied session →
      relied (session.store operation.relativePath operation.result))
    (passes : ∀ operation ∈ operations, ∀ session : Session Runtime, session.moments = [] → relied session →
      call (beforeMutation operation) session = (.ok (), session)) :
    call (LocalAgentClientFiles.apply digest beforeMutation operations) session = (.ok (), session.perform operations) := by
  induction operations generalizing session with
  | nil => rfl
  | cons operation operations ih =>
    rw [List.map_cons, List.nodup_cons] at distinct
    rw [List.forall_mem_cons] at readable planned kept passes
    have performed := call_applyOperation quiet readable.1 planned.1 (passes.1 session quiet initially)
    have other (later) (member : later ∈ operations) : later.relativePath ≠ operation.relativePath :=
      fun same => distinct.1 (same ▸ List.mem_map_of_mem member)
    have unchanged (later) (member : later ∈ operations) :
        (session.store operation.relativePath operation.result).files later.relativePath =
          session.files later.relativePath := by
      rw [Session.store_files, Function.update_of_ne (other later member)]
    rw [LocalAgentClientFiles.apply, call_bind_ok performed, Session.perform_cons]
    apply @ih (session.store operation.relativePath operation.result) quiet distinct.2 _ _ (kept.1 session initially)
      kept.2 passes.2
    · intro later member content stored
      exact readable.2 later member content ((unchanged later member).symm.trans stored)
    · intro later member
      rw [Planned, unchanged later member]
      exact planned.2 later member

end Quiet
end AiOffice.AgentClientIntegrations
