import AiOffice.Storage.AgentRuntime.Tables

namespace AiOffice.Application

open Data Domain Storage.AgentRuntime

/-- What an execution of a run waits for: its start, the executor's preparation, its result, the acceptance of the
result, the handling of what was thrown, the release of the lock, or nothing any more. -/
inductive ExecutionPhase (Json : Type)
  | claimed
  | preparing
  | running
  | reviewing (result : Json)
  | failing
  | releasing
  | ended

structure Execution (Json : Type) where
  run : AgentRunProps Json
  phase : ExecutionPhase Json

/-- What comes next in an execution. Where it throws, the error that is recorded comes with the handling. -/
inductive ExecutionEvent (Json : Type)
  | started
  | aborted (error : Json)
  | prepared (details : AgentRunDetails Json)
  | answered (result : Json)
  | fenced (fence : WorkerAuthorityFence Json) (result : Json)
  | completed
  | threw
  | handled (cancelled : Bool) (error : Json)
  | released

namespace ExecuteAgentRun

variable {Json : Type} [DecidableEq Json] (codec : AgentRunCodec Json)

/-- Move the object of an execution and persist it. What throws is handled next, with the object as it is then. -/
def persist (run : AgentRunProps Json) (status : AgentRunStatus) (now : Date) (details : AgentRunDetails Json)
    (next : ExecutionPhase Json) (tables : RuntimeTables Json) : Execution Json × RuntimeTables Json :=
  match AgentRun.transition codec run status now details with
  | .error _ => (⟨run, .failing⟩, tables)
  | .ok moved =>
    match tables.saveRun codec moved with
    | .error _ => (⟨moved, .failing⟩, tables)
    | .ok (saved, after) => (⟨saved, next⟩, after)

/-- The transaction of a worker result: the fence persists the object as it moves. -/
def accept (run : AgentRunProps Json) (fence : WorkerAuthorityFence Json) (result : Json) (now : Date)
    (authorities : AuthorityTables) (tables : RuntimeTables Json) : Execution Json × RuntimeTables Json :=
  match tables.acceptWorkerResult authorities { fence with runId := run.id } run result now with
  | .error _ | .ok (false, _) => (⟨run, .failing⟩, tables)
  | .ok (true, after) =>
    match AgentRun.transition codec run .reviewing now { result := some result } with
    | .error _ => (⟨run, .failing⟩, after)
    | .ok moved => (⟨AgentRun.markPersisted moved, .reviewing result⟩, after)

/-- An object that has ended was not persisted so; it is left for the reconciliation. -/
def handle (run : AgentRunProps Json) (cancelled : Bool) (error : Json) (now : Date) (tables : RuntimeTables Json) :
    Execution Json × RuntimeTables Json :=
  if AgentRun.isTerminal run.status then (⟨run, .ended⟩, tables)
  else
    match persist codec run (if cancelled then .cancelled else .failed) now { error := some error } .releasing tables with
    | (⟨moved, .failing⟩, after) => (⟨moved, .ended⟩, after)
    | handled => handled

def step (execution : Execution Json) (event : ExecutionEvent Json) (now : Date) (authorities : AuthorityTables)
    (tables : RuntimeTables Json) : Execution Json × RuntimeTables Json :=
  match execution.phase, event with
  | .claimed, .aborted error => persist codec execution.run .cancelled now { error := some error } .releasing tables
  | .claimed, .started =>
    if execution.run.status = .queued then persist codec execution.run .preparing now {} .preparing tables
    else (⟨execution.run, .preparing⟩, tables)
  | .preparing, .prepared details => persist codec execution.run .running now details .running tables
  | .running, .answered result =>
    persist codec execution.run .reviewing now { result := some result } (.reviewing result) tables
  | .running, .fenced fence result => accept codec execution.run fence result now authorities tables
  | .reviewing result, .completed =>
    persist codec execution.run .completed now { result := some result } .releasing tables
  | .preparing, .threw | .running, .threw => (⟨execution.run, .failing⟩, tables)
  | .failing, .handled cancelled error => handle codec execution.run cancelled error now tables
  | .releasing, .released => (⟨execution.run, .ended⟩, tables.releaseTaskLock execution.run.id)
  | _, _ => (execution, tables)

end ExecuteAgentRun

end AiOffice.Application
