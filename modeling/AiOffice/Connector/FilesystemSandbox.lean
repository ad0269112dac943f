import AiOffice.Data.Triple
import AiOffice.Domain.Capability.ActionRecords

namespace AiOffice.Connector.FilesystemSandbox

open Data Domain.Capability

inductive MutationCertainty
  | definiteNoMutation
  | mutationMayHaveOccurred
  deriving DecidableEq

/-- What a connector throws: an execution error that says how certain it is, or any other error. -/
inductive ConnectorError
  | mutationExecution (code : String) (certainty : MutationCertainty)
  | other (code : Option String) (name : String)

/-- A staging entry of this call, or an entry that the project can see. -/
inductive Entry
  | staged (attempt : Nat)
  | visible (path : String)

inductive SystemCall
  | create (entry : Entry)
  | write (entry : Entry) (count : Nat)
  | chmod (entry : Entry) (mode : Nat)
  | fsync (entry : Entry)
  | close (entry : Entry)
  | link (existing created : Entry)
  | rename (source target : Entry)
  | unlink (entry : Entry)

def Entry.isVisible : Entry → Bool
  | .staged _ => false
  | .visible _ => true

def SystemCall.mutates : SystemCall → Bool
  | .create entry | .write entry _ | .chmod entry _ | .unlink entry => entry.isVisible
  | .link _ created => created.isVisible
  | .rename source target => source.isVisible || target.isVisible
  | .fsync _ | .close _ => false

structure Stats where
  isFile : Bool
  isDirectory : Bool
  nlink : Nat
  mode : Nat

/-- What the operating system, an inspection or a hook answers; a call that fails changes nothing. -/
inductive Reply
  | done (count : Nat) (stats : Stats)
  | failed (code : Option String) (name : String)

/-- The device that a mutation runs on: its answers in order, the system calls that succeeded, and the
local variables of the call. The staging entry is known by the attempt that chose its name. -/
structure Device where
  replies : Nat → Reply
  asked : Nat
  performed : List SystemCall
  committed : Bool
  descriptorOpen : Bool
  temp : Option Nat

def Device.start (replies : Nat → Reply) : Device := ⟨replies, 0, [], false, false, none⟩

abbrev Sandbox := Method Device ConnectorError

def ask : Sandbox (Nat × Stats) := do
  let device ← get
  modify fun device => { device with asked := device.asked + 1 }
  match device.replies device.asked with
  | .done count stats => return (count, stats)
  | .failed code name => throw (.other code name)

/-- A validation, an inspection or a hook: it may throw and changes nothing. -/
def check : Sandbox Stats := do
  let (_, stats) ← ask
  return stats

def perform (call : SystemCall) : Sandbox Nat := do
  let (count, _) ← ask
  modify fun device => { device with performed := device.performed ++ [call] }
  return count

def markCommitted : Sandbox PUnit := modify fun device => { device with committed := true }

/-- The system call that the project can see, and the mark that it was made. -/
def performCommit (call : SystemCall) : Sandbox PUnit := do
  let _ ← perform call
  markCommitted

def fail (name : String) : ConnectorError := .other none name

def requireFile (stats : Stats) : Sandbox PUnit :=
  if !stats.isFile then throw (fail "FilesystemNotRegularFileError")
  else if stats.nlink > 1 then throw (fail "FilesystemHardLinkDeniedError")
  else pure ⟨⟩

def requireDirectory (stats : Stats) : Sandbox PUnit :=
  if !stats.isDirectory then throw (fail "FilesystemNotDirectoryError") else pure ⟨⟩

def mutationError (error : ConnectorError) (committed : Bool) : ConnectorError :=
  match error with
  | .mutationExecution code certainty => .mutationExecution code certainty
  | .other code name =>
    .mutationExecution (code.getD (if name = "" then "FilesystemMutationFailed" else name))
      (if committed then .mutationMayHaveOccurred else .definiteNoMutation)

def classified {Result : Type} (body : Sandbox Result) : Sandbox Result :=
  tryCatch body fun error => do
    let device ← get
    throw (mutationError error device.committed)

def performAll : List SystemCall → Sandbox PUnit
  | [] => pure ⟨⟩
  | call :: calls => do
    let _ ← perform call
    performAll calls

def fsyncParent (path : String) : Sandbox PUnit := do
  let _ ← check
  let _ ← check
  let _ ← check
  Method.finallyDo (performAll [.fsync (.visible path)]) (performAll [.close (.visible path)])

/-- Open a staging entry that does not exist yet, in at most `attempts` attempts. -/
def openStaged : (attempts : Nat) → Sandbox Nat
  | 0 => throw (fail "FilesystemSourceChangedError")
  | attempts + 1 => do
    modify fun device => { device with temp := some attempts }
    tryCatch (do
        performAll [.create (.staged attempts)]
        modify fun device => { device with descriptorOpen := true }
        return attempts)
      fun error =>
        match error with
        | .other (some "EEXIST") _ => if attempts = 0 then throw error else openStaged attempts
        | _ => throw error

def writeStaged (temp : Nat) (remaining : Nat) : Sandbox PUnit :=
  if remaining = 0 then pure ⟨⟩
  else do
    let _ ← check
    let written ← perform (.write (.staged temp) remaining)
    if _progress : written = 0 then throw (fail "FilesystemWriteProgressError")
    else writeStaged temp (remaining - written)
termination_by remaining
decreasing_by omega

def closeStaged (device : Device) : Sandbox PUnit :=
  if device.descriptorOpen then performAll (device.temp.toList.map fun temp => .close (.staged temp))
  else pure ⟨⟩

/-- Close what is still open and remove the staging entry; removing it is best effort. -/
def cleanUp : Sandbox PUnit := do
  let device ← get
  closeStaged device
  tryCatch (performAll (device.temp.toList.map fun temp => .unlink (.staged temp))) fun _ => pure ⟨⟩

def withStagedFile {Result : Type} (target : Entry) (size mode : Nat)
    (commit : (temp target : Entry) → Sandbox Result) : Sandbox Result := do
  requireDirectory (← check)
  requireDirectory (← check)
  Method.finallyDo (classified (do
    let temp ← openStaged 3
    writeStaged temp size
    performAll [.chmod (.staged temp) mode, .fsync (.staged temp), .close (.staged temp)]
    modify fun device => { device with descriptorOpen := false }
    commit (.staged temp) target)) cleanUp

/-- The arguments of a mutation, with the digest of its content. -/
structure Arguments where
  path : Option String
  sourcePath : Option String
  destinationPath : Option String
  contentSize : Nat
  contentHash : String

structure MutationResult where
  resultHash : Option String
  relativePath : String
  destinationPath : Option String
  byteLength : Option Nat

def sourceHash : List FilePrecondition → Option String
  | .file _ sha256 _ :: _ => some sha256
  | _ => none

def sourceSize : List FilePrecondition → Option Nat
  | .file _ _ size :: _ => some size.toNat
  | _ => none

def executeCreate (path : String) (arguments_ : Arguments) : Sandbox MutationResult := do
  let _ ← check
  withStagedFile (.visible path) arguments_.contentSize 0o600 fun temp target => do
    let _ ← check
    performCommit (.link temp target)
    let _ ← check
    performAll [.unlink temp]
    fsyncParent path
    return ⟨some arguments_.contentHash, path, none, some arguments_.contentSize⟩

def executeWrite (path : String) (arguments_ : Arguments) : Sandbox MutationResult := do
  let _ ← check
  let source ← check
  requireFile source
  withStagedFile (.visible path) arguments_.contentSize (source.mode % 0o1000) fun temp target => do
    let _ ← check
    performCommit (.rename temp target)
    let _ ← check
    fsyncParent path
    return ⟨some arguments_.contentHash, path, none, some arguments_.contentSize⟩

def executeMove (sourcePath destinationPath : String) (sameParent : Bool)
    (preconditions : List FilePrecondition) : Sandbox MutationResult := do
  let _ ← check
  classified (do
    let _ ← check
    let source ← check
    let destinationParent ← check
    requireFile source
    requireDirectory destinationParent
    let _ ← check
    performCommit (.rename (.visible sourcePath) (.visible destinationPath))
    let _ ← check
    fsyncParent sourcePath
    if !sameParent then fsyncParent destinationPath
    return ⟨sourceHash preconditions, sourcePath, some destinationPath, sourceSize preconditions⟩)

def executeDelete (path : String) (preconditions : List FilePrecondition) : Sandbox MutationResult := do
  let _ ← check
  classified (do
    let _ ← check
    let source ← check
    requireFile source
    let _ ← check
    performCommit (.unlink (.visible path))
    let _ ← check
    fsyncParent path
    return ⟨sourceHash preconditions, path, none, sourceSize preconditions⟩)

/-- Whether the preconditions are those that the operation needs for its paths. -/
def validPreconditions (operation : String) (arguments_ : Arguments)
    (preconditions : List FilePrecondition) : Bool :=
  match preconditions with
  | [.absent path] => operation = "filesystem.create" && some path = arguments_.path
  | [.file path _ _] =>
    (operation = "filesystem.write" || operation = "filesystem.delete") && some path = arguments_.path
  | [.file source _ _, .absent destination] =>
    operation = "filesystem.move" && some source = arguments_.sourcePath &&
      some destination = arguments_.destinationPath
  | _ => false

def executeMutation (operation : String) (arguments_ : Arguments) (sameParent : Bool)
    (preconditions : List FilePrecondition) : Sandbox MutationResult :=
  tryCatch (do
      let _ ← check
      let _ ← check
      if !validPreconditions operation arguments_ preconditions then
        throw (fail "SourcePreconditionFailedError")
      else
        let _ ← check
        match operation, arguments_.path, arguments_.sourcePath, arguments_.destinationPath with
        | "filesystem.create", some path, _, _ => executeCreate path arguments_
        | "filesystem.write", some path, _, _ => executeWrite path arguments_
        | "filesystem.move", _, some source, some destination =>
          executeMove source destination sameParent preconditions
        | "filesystem.delete", some path, _, _ => executeDelete path preconditions
        | _, _, _, _ => throw (fail "UnsupportedConnectorOperationError"))
    fun error => throw (mutationError error false)

end AiOffice.Connector.FilesystemSandbox
