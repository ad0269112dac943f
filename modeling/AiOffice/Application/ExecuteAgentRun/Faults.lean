import AiOffice.Data.Triple
import AiOffice.Domain.AgentRun

namespace AiOffice.Application.AgentRunExecution

open Data Domain

/-- What a part of an execution throws, as far as the handling tells it apart. -/
inductive Failure
  | abortError
  | agentExecutorNotConfigured (message : String)
  | workerRuntime (code message : String)
  | other
  deriving DecidableEq

structure AgentRunExecutionError where
  message : String
  code : Option String

inductive AgentRunExecutionStatus
  | completed
  | failed
  | cancelled
  | interrupted
  deriving DecidableEq

structure AgentRunExecutionResult (Json : Type) where
  runId : String
  status : AgentRunExecutionStatus
  error : Option AgentRunExecutionError
  cleanupError : Option AgentRunExecutionError
  actions : List Json

def executionError (error : Failure) (fallbackCode : String) : AgentRunExecutionError :=
  match error with
  | .agentExecutorNotConfigured message => ⟨message, some "WORKER_NOT_CONFIGURED"⟩
  | .workerRuntime code message => ⟨message, some code⟩
  | .abortError | .other =>
    { message :=
        if fallbackCode = "ABORTED" then "Execution cancelled"
        else if fallbackCode = "WORKTREE_RELEASE_FAILED" then "Worktree cleanup failed"
        else if fallbackCode = "TASK_LOCK_RELEASE_FAILED" then "Task lock cleanup failed"
        else "Agent execution failed"
      code := some fallbackCode }

def isCancelled (error : Option Failure) (aborted : Bool) : Bool := aborted || error = some .abortError

structure ExecutionAnswer (Json : Type) where
  result : Json
  actions : List Json

structure PreparedExecution (Json : Type) where
  usesWorktree : Option Bool
  provenance : Json
  execute : Except Failure (ExecutionAnswer Json)
  accept : Option (Except Failure Bool)

/-- What the signal, the executor, the worktrees, the store and the clock answer in an execution. The runs are saved
one after the other, and the clock is read again each time. -/
structure Answers (Json : Type) where
  abortedAtStart : Bool
  abortedAfterResult : Bool
  abortedOnError : Bool
  prepare : Except Failure (Option (PreparedExecution Json))
  execute : Except Failure (ExecutionAnswer Json)
  prepareWorktree : Except Failure String
  releaseWorktree : Except Failure PUnit
  saveRun : Nat → Except Failure PUnit
  releaseTaskLock : Except Failure Bool
  now : Nat → Date
  errorJson : AgentRunExecutionError → Json

inductive ExecutionEffect (Json : Type)
  | runSaved (run : AgentRunProps Json)
  | worktreePrepared (path : String)
  | worktreeReleased (path : String)
  | taskLockReleased

/-- The variables of an execution, and what it has done to the world. -/
structure Progress (Json : Type) where
  run : AgentRunProps Json
  worktree : Option String := none
  primaryError : Option AgentRunExecutionError := none
  cleanupErrors : List AgentRunExecutionError := []
  actions : List Json := []
  terminalPersisted : Bool := false
  persistenceInterrupted : Bool := false
  effects : List (ExecutionEffect Json) := []
  saves : Nat := 0
  readings : Nat := 0

section Execute

variable {Json : Type} [DecidableEq Json] (codec : AgentRunCodec Json) (answers : Answers Json)

abbrev Work (Json Result : Type) := Method (Progress Json) Failure Result

def now : Work Json Date := do
  let progress ← get
  modify fun progress => { progress with readings := progress.readings + 1 }
  return answers.now progress.readings

def transitionAt (status : AgentRunStatus) (moment : Date) (details : AgentRunDetails Json) : Work Json PUnit := do
  let progress ← get
  match AgentRun.transition codec progress.run status moment details with
  | .error _ => throw .other
  | .ok moved => modify fun progress => { progress with run := moved }

def transition (status : AgentRunStatus) (details : AgentRunDetails Json) : Work Json PUnit := do
  let moment ← now answers
  transitionAt codec status moment details

def persist : Work Json PUnit := do
  let progress ← get
  modify fun progress => { progress with saves := progress.saves + 1 }
  match answers.saveRun progress.saves with
  | .error failure => throw failure
  | .ok _ =>
    modify fun progress => { progress with
      run := AgentRun.markPersisted progress.run
      effects := progress.effects ++ [.runSaved progress.run] }

def persistTerminal : Work Json PUnit := do
  persist answers
  modify fun progress => { progress with terminalPersisted := true }

def cancelAtStart : Work Json PUnit := do
  let error : AgentRunExecutionError := ⟨"Execution cancelled", some "ABORTED"⟩
  modify fun progress => { progress with primaryError := some error }
  transition codec answers .cancelled { error := some (answers.errorJson error) }
  persistTerminal answers

def claim : Work Json PUnit := do
  let progress ← get
  if progress.run.status = .queued then do
    transition codec answers .preparing {}
    persist answers
  else pure ⟨⟩

/-- A preparation that says nothing of worktrees uses one, and so does an execution without preparation. -/
def prepareWorktree (prepared : Option (PreparedExecution Json)) : Work Json PUnit :=
  if prepared.bind PreparedExecution.usesWorktree = some false then pure ⟨⟩
  else do
    let path ← Method.lift answers.prepareWorktree
    modify fun progress => { progress with
      worktree := some path
      effects := progress.effects ++ [.worktreePrepared path] }

def startRunning (prepared : Option (PreparedExecution Json)) : Work Json PUnit := do
  let progress ← get
  transition codec answers .running
    { worktreePath := progress.worktree, execution := prepared.map PreparedExecution.provenance }
  persist answers

def answerOf (prepared : Option (PreparedExecution Json)) : Work Json Json := do
  let answer ← Method.lift (match prepared with
    | none => answers.execute
    | some prepared => prepared.execute)
  modify fun progress => { progress with actions := answer.actions }
  if isCancelled none answers.abortedAfterResult then throw .abortError else return answer.result

def review (prepared : Option (PreparedExecution Json)) (result : Json) : Work Json PUnit := do
  let reviewingAt ← now answers
  match prepared.bind PreparedExecution.accept with
  | some accept => do
    let acceptancePersisted ← Method.lift accept
    transitionAt codec .reviewing reviewingAt { result := some result }
    if acceptancePersisted then
      modify fun progress => { progress with run := AgentRun.markPersisted progress.run }
    else pure ⟨⟩
  | none => do
    transitionAt codec .reviewing reviewingAt { result := some result }
    persist answers

def complete (result : Json) : Work Json PUnit := do
  transition codec answers .completed { result := some result }
  persistTerminal answers

def work : Work Json PUnit :=
  if answers.abortedAtStart then cancelAtStart codec answers
  else do
    claim codec answers
    let prepared ← Method.lift answers.prepare
    prepareWorktree answers prepared
    startRunning codec answers prepared
    let result ← answerOf answers prepared
    review codec answers prepared result
    complete codec answers result

/-- What was thrown ends a run that has not ended. A run that has ended and could not be saved so is interrupted. -/
def handle (error : Failure) : Work Json PUnit := do
  let progress ← get
  if progress.run.status ∉ [AgentRunStatus.completed, .failed, .cancelled] then do
    let cancelled := isCancelled (some error) answers.abortedOnError
    let primaryError := executionError error (if cancelled then "ABORTED" else "EXECUTION_FAILED")
    modify fun progress => { progress with primaryError := some primaryError }
    transition codec answers (if cancelled then .cancelled else .failed)
      { error := some (answers.errorJson primaryError) }
    tryCatch (persistTerminal answers) fun _ =>
      modify fun progress => { progress with persistenceInterrupted := true }
  else if !progress.terminalPersisted then
    modify fun progress => { progress with persistenceInterrupted := true }
  else pure ⟨⟩

def cleanupFailed (error : AgentRunExecutionError) : Work Json PUnit :=
  modify fun progress => { progress with cleanupErrors := progress.cleanupErrors ++ [error] }

def releaseWorktree : Work Json PUnit := do
  let progress ← get
  match progress.worktree with
  | none => pure ⟨⟩
  | some path => do
    modify fun progress => { progress with effects := progress.effects ++ [.worktreeReleased path] }
    match answers.releaseWorktree with
    | .ok _ => pure ⟨⟩
    | .error error => cleanupFailed (executionError error "WORKTREE_RELEASE_FAILED")

def releaseTaskLock : Work Json PUnit := do
  let progress ← get
  if progress.terminalPersisted then
    match answers.releaseTaskLock with
    | .ok true => modify fun progress => { progress with effects := progress.effects ++ [.taskLockReleased] }
    | .ok false => cleanupFailed ⟨"Task lock was not released by its owning run", some "TASK_LOCK_RELEASE_FAILED"⟩
    | .error error => cleanupFailed (executionError error "TASK_LOCK_RELEASE_FAILED")
  else pure ⟨⟩

def cleanUp : Work Json PUnit := do
  releaseWorktree answers
  releaseTaskLock answers

def cleanupErrorOf (errors : List AgentRunExecutionError) : Option AgentRunExecutionError :=
  if errors.length = 0 then none
  else some ⟨"; ".intercalate (errors.map AgentRunExecutionError.message), some "CLEANUP_FAILED"⟩

def reportedStatus : AgentRunStatus → Option AgentRunExecutionStatus
  | .completed => some .completed
  | .failed => some .failed
  | .cancelled => some .cancelled
  | .queued | .preparing | .running | .reviewing => none

def conclude : Work Json (AgentRunExecutionResult Json) := do
  let progress ← get
  let cleanupError := cleanupErrorOf progress.cleanupErrors
  if progress.persistenceInterrupted then
    return {
      runId := progress.run.id
      status := .interrupted
      error := some ⟨"Run state could not be persisted; inspect run:reconcile", some "RUN_STATE_PERSISTENCE_FAILED"⟩
      cleanupError
      actions := progress.actions }
  else
    match reportedStatus progress.run.status with
    | none => throw .other
    | some status =>
      return { runId := progress.run.id, status, error := progress.primaryError, cleanupError,
               actions := progress.actions }

def execute : Work Json (AgentRunExecutionResult Json) := do
  Method.finallyDo (tryCatch (work codec answers) (handle codec answers)) (cleanUp answers)
  conclude

end Execute

end AiOffice.Application.AgentRunExecution
