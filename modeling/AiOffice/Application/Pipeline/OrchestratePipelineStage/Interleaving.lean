import AiOffice.Application.Pipeline.OfficeCommands
import AiOffice.Application.Pipeline.OrchestratePipelineStage
import AiOffice.Application.ScheduleAgentRun.Interleaving

namespace AiOffice.Application.Pipeline.OrchestratePipelineStage

open Data Domain Domain.PipelineRun Storage.AgentRuntime Storage.Office
  Application.ScheduleAgentRun ManagePipelineRuns

/-- A delivery of an intent, and the agent runs that had failed or been cancelled when it read the pipeline. -/
structure Delivery where
  intent : PipelineStageIntent
  phase : OrchestrationPhase
  ended : List String

/-- A runtime under any number of deliveries, with the stages that agent runs have completed. -/
structure Orchestration (Json : Type) where
  runtime : Runtime Json
  deliveries : Nat → Option Delivery
  completions : List (String × String)

variable {Json : Type}

def binding (row : AgentRunState Json) : AgentRunBinding :=
  ⟨row.id, row.projectId, row.taskId, row.agentId, row.pipelineRunId, row.pipelineStageRunId, row.status⟩

def failedOrCancelled (row : AgentRunState Json) : Bool := row.status ∈ [AgentRunStatus.failed, .cancelled]

namespace Orchestration

variable (orchestration : Orchestration Json)

def tables : OfficeTables :=
  { orchestration.runtime.office with agentRuns := orchestration.runtime.host.tables.runs.map binding }

def rows : List (AgentRunState Json) := orchestration.runtime.host.tables.runs

def setDelivery (caller : Nat) (delivery : Delivery) : Orchestration Json :=
  { orchestration with deliveries := Function.update orchestration.deliveries caller (some delivery) }

def setOffice (office : OfficeTables) : Orchestration Json :=
  { orchestration with runtime := { orchestration.runtime with office } }

def setRuntime (runtime : Runtime Json) : Orchestration Json := { orchestration with runtime }

def recordCompletion (completed : Option (String × String)) : Orchestration Json :=
  { orchestration with completions := orchestration.completions ++ completed.toList }

def ended : List String := (orchestration.rows.filter failedOrCancelled).map (·.id)

end Orchestration

def completedBy (tables : OfficeTables) : OfficeCommand → Option (String × String)
  | .completeStage input now synced =>
    match agentPrincipal input tables, completeStageFromAgentRun input now synced tables with
    | .ok principal, .ok _ => some (principal.pipelineRunId, principal.pipelineStageRunId)
    | _, _ => none
  | _ => none

def opened : Except Thrown (Option (PipelineRunProps × PipelineStageRunProps)) → OrchestrationPhase
  | .ok (some (pipeline, stage)) => .runs pipeline stage
  | .ok none => .returned none
  | .error thrown => .failed thrown

/-- The steps of the runtime that no delivery stands for: all but a call to schedule a run and the stop of the host. -/
def isRuntimeLabel : ScheduleAgentRun.Label Json → Bool
  | .call _ _ | .crash => false
  | _ => true

inductive Label (Json : Type)
  | deliver (caller : Nat) (intent : PipelineStageIntent)
  | advance (caller : Nat)
  | runtime (label : ScheduleAgentRun.Label Json)
  | command (command : OfficeCommand)
  | crash

variable [DecidableEq Json]

/-- One step of one delivery, of the runtime, or of another command. The call that schedules the run of a delivery has
its number. -/
inductive Step (services : ScheduleServices Json) (recovery : RunRecovery Json) (errors : AdmissionErrors Json)
    (localeCompare : String → String → Int) : Orchestration Json → Label Json → Orchestration Json → Prop
  | delivered {orchestration caller intent} (absent : orchestration.deliveries caller = none) :
      Step services recovery errors localeCompare orchestration (.deliver caller intent)
        (orchestration.setDelivery caller ⟨intent, .pipeline, []⟩)
  | opened {orchestration caller intent ended}
      (here : orchestration.deliveries caller = some ⟨intent, .pipeline, ended⟩) :
      Step services recovery errors localeCompare orchestration (.advance caller)
        (orchestration.setDelivery caller ⟨intent, opened (readPipeline intent orchestration.tables), orchestration.ended⟩)
  | read {orchestration caller intent phase ended next}
      (here : orchestration.deliveries caller = some ⟨intent, phase, ended⟩)
      (reads : read services.codec localeCompare intent orchestration.tables orchestration.runtime.host.tables phase =
        some next) :
      Step services recovery errors localeCompare orchestration (.advance caller)
        (orchestration.setDelivery caller ⟨intent, next, ended⟩)
  | completed {orchestration caller intent principal ended run after}
      (here : orchestration.deliveries caller = some ⟨intent, .completion principal, ended⟩)
      (committed : commitCompletion intent.projectId principal orchestration.runtime.clock orchestration.runtime.clock
        orchestration.tables = .ok (run, after)) :
      Step services recovery errors localeCompare orchestration (.advance caller)
        (((orchestration.setOffice after).setDelivery caller ⟨intent, .returned none, ended⟩).recordCompletion
          (some (principal.pipelineRunId, principal.pipelineStageRunId)))
  | uncompleted {orchestration caller intent principal ended thrown}
      (here : orchestration.deliveries caller = some ⟨intent, .completion principal, ended⟩)
      (threw : commitCompletion intent.projectId principal orchestration.runtime.clock orchestration.runtime.clock
        orchestration.tables = .error thrown) :
      Step services recovery errors localeCompare orchestration (.advance caller)
        (orchestration.setDelivery caller ⟨intent, replayed thrown, ended⟩)
  | assigned {orchestration caller intent pipeline agentId roleKey ended run after}
      (here : orchestration.deliveries caller = some ⟨intent, .assignment pipeline agentId roleKey, ended⟩)
      (committed : commitAssignment (assignment intent pipeline agentId) roleKey orchestration.runtime.clock
        orchestration.tables = .ok (run, after)) :
      Step services recovery errors localeCompare orchestration (.advance caller)
        ((orchestration.setOffice after).setDelivery caller ⟨intent, .task pipeline agentId, ended⟩)
  | unassigned {orchestration caller intent pipeline agentId roleKey ended thrown}
      (here : orchestration.deliveries caller = some ⟨intent, .assignment pipeline agentId roleKey, ended⟩)
      (threw : commitAssignment (assignment intent pipeline agentId) roleKey orchestration.runtime.clock
        orchestration.tables = .error thrown) :
      Step services recovery errors localeCompare orchestration (.advance caller)
        (orchestration.setDelivery caller ⟨intent, .failed thrown, ended⟩)
  | scheduled {orchestration caller intent pipeline agentId ended}
      (here : orchestration.deliveries caller = some ⟨intent, .task pipeline agentId, ended⟩)
      (found : readTask intent pipeline orchestration.tables = .ok ()) :
      Step services recovery errors localeCompare orchestration (.advance caller)
        ((orchestration.setRuntime (orchestration.runtime.setScheduling caller
          ⟨scheduled Json intent pipeline agentId, .project⟩)).setDelivery caller ⟨intent, .schedule, ended⟩)
  | unavailable {orchestration caller intent pipeline agentId ended thrown}
      (here : orchestration.deliveries caller = some ⟨intent, .task pipeline agentId, ended⟩)
      (threw : readTask intent pipeline orchestration.tables = .error thrown) :
      Step services recovery errors localeCompare orchestration (.advance caller)
        (orchestration.setDelivery caller ⟨intent, .failed thrown, ended⟩)
  | runtime {orchestration label later} (allowed : isRuntimeLabel label = true)
      (step : ScheduleAgentRun.Step services recovery errors orchestration.runtime label later)
      (office : later.office = orchestration.runtime.office) :
      Step services recovery errors localeCompare orchestration (.runtime label) (orchestration.setRuntime later)
  | commanded {orchestration command after} (performs : Performs orchestration.tables command after) :
      Step services recovery errors localeCompare orchestration (.command command)
        ((orchestration.setOffice after).recordCompletion (completedBy orchestration.tables command))
  | crashed {orchestration later}
      (step : ScheduleAgentRun.Step services recovery errors orchestration.runtime .crash later) :
      Step services recovery errors localeCompare orchestration .crash
        { orchestration.setRuntime later with deliveries := fun _ => none }

def inProgress (runtime : Runtime Json) (caller : Nat) (delivery : Delivery) : Prop :=
  match delivery.phase with
  | .returned _ | .failed _ => False
  | .schedule => ∀ input id thrown, runtime.scheduling caller ≠ some ⟨input, .scheduled id⟩ ∧
      runtime.scheduling caller ≠ some ⟨input, .refused thrown⟩
  | _ => True

/-- When a lease ends: that of a lock, or that of the lock which a call is about to acquire. -/
def LeaseEnds (runtime : Runtime Json) (time : Date) : Prop :=
  (∃ lock ∈ runtime.host.tables.locks, lock.expiresAt = time) ∨
    ∃ caller input listed id now, runtime.scheduling caller = some ⟨input, .admission listed id now⟩ ∧
      now + taskRunLeaseDurationMs = time

def LeasesHold (before after : Orchestration Json) : Prop :=
  ∀ time, LeaseEnds before.runtime time → before.runtime.clock < time → time ≤ after.runtime.clock →
    ∀ caller delivery, before.deliveries caller = some delivery → ¬inProgress before.runtime caller delivery

def boundTo (pipelineRunId stageRunId : String) (row : AgentRunState Json) : Prop :=
  row.pipelineRunId = some pipelineRunId ∧ row.pipelineStageRunId = some stageRunId

/-- Of the stage that an admission finds its pipeline at, no run has failed or been cancelled since the delivery read the
pipeline. -/
def NoneEndedSince (before : Orchestration Json) (label : Label Json) : Prop :=
  ∀ caller delivery input listed id now pipelineRunId stageRunId, label = .runtime (.commit caller) →
    before.deliveries caller = some delivery →
    before.runtime.scheduling caller = some ⟨input, .admission listed id now⟩ →
    readStage input before.runtime.office = .ok (some (pipelineRunId, stageRunId)) →
    ∀ row ∈ before.rows, boundTo pipelineRunId stageRunId row → failedOrCancelled row = true → row.id ∈ delivery.ended

/-- What a step of deliveries and their runs must not do to a stage. -/
structure Harmless (before after : Orchestration Json) : Prop where
  alone : ∀ row ∈ after.rows, ∀ other ∈ after.rows, ∀ pipelineRunId stageRunId,
    boundTo pipelineRunId stageRunId row → boundTo pipelineRunId stageRunId other →
    AgentRun.isTerminal row.status = false → AgentRun.isTerminal other.status = false → row = other
  unrevived : ∀ row ∈ after.rows, (∀ earlier ∈ before.rows, earlier.id ≠ row.id) → ∀ pipelineRunId stageRunId,
    boundTo pipelineRunId stageRunId row →
    ∀ earlier ∈ before.rows, boundTo pipelineRunId stageRunId earlier → failedOrCancelled earlier = false
  once : after.completions.Nodup

end AiOffice.Application.Pipeline.OrchestratePipelineStage
