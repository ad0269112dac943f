import AiOffice.Application.Capability.Effects
import AiOffice.Connector.FilesystemSandbox
import AiOffice.Transition.Run

namespace AiOffice.Application.Capability

open Data Domain Domain.Capability Connector.FilesystemSandbox
open Transition

/-- How a connector call ended, and whether it changed an entry that the project can see. -/
structure ConnectorOutcome where
  answer : Except ConnectorError MutationResult
  mutated : Bool

/-- What `execute` records about a connector call: a status, a failure code and a result hash. -/
structure Recording where
  status : ActionExecutionStatus
  failureCode : Option String
  resultHash : Option String

def recording : Except ConnectorError MutationResult → Recording
  | .ok result => ⟨.completed, none, result.resultHash⟩
  | .error (.mutationExecution code .definiteNoMutation) => ⟨.failed, some code, none⟩
  | .error (.mutationExecution code .mutationMayHaveOccurred) => ⟨.executionUnknown, some code, none⟩
  | .error (.other _ _) => ⟨.executionUnknown, some "UnexpectedConnectorError", none⟩

def ConnectorOutcome.mayHaveMutated (outcome : ConnectorOutcome) : Bool :=
  outcome.mutated || (recording outcome.answer).status ≠ .failed

/-- Where one call of `ExecuteControlledAction.execute` stands. -/
inductive Executor (Json : Type)
  | idle
  | leased (lease : ExecutionLease Json)
  | invoking (lease : ExecutionLease Json)
  | answered (lease : ExecutionLease Json) (outcome : Recording)
  | recovering (lease : ExecutionLease Json)
  | ended

def Executor.isInvoking {Json : Type} : Executor Json → Bool
  | .invoking _ => true
  | _ => false

/-- Where one call of `InvokeControlledConnectorAction` stands. -/
inductive Invoker (Json : Type)
  | idle
  | leased (lease : InvokeControlledConnectorAction.AuthorizationLease Json)
  | ended

inductive Event (Json : Type)
  | decided (decision : DecideControlledAction.Decision) (payloadHash artifactHash : String)
  | mutationInvoked (request : ActionRequestProps Json) (simulation : ActionSimulationProps)

/-- One action request under any number of concurrent calls. The history has its newest event first. A
mutation may have occurred when a connector call changed something, and when a call ended in any way but
with the report that there was definitely no mutation. -/
structure System (Json : Type) where
  rows : Rows Json
  executors : Nat → Executor Json
  invokers : Nat → Invoker Json
  history : List (Event Json)
  mayHaveMutated : Bool

variable {Json : Type}

def System.setExecutor (system : System Json) (caller : Nat) (executor : Executor Json) : System Json :=
  { system with executors := Function.update system.executors caller executor }

def System.setInvoker (system : System Json) (caller : Nat) (invoker : Invoker Json) : System Json :=
  { system with invokers := Function.update system.invokers caller invoker }

def System.suspect (system : System Json) (doubt : Bool) : System Json :=
  { system with mayHaveMutated := system.mayHaveMutated || doubt }

def System.remember (system : System Json) (event : Event Json) : System Json :=
  { system with history := event :: system.history }

theorem System.executor_self (system : System Json) (caller : Nat) (executor : Executor Json) :
    (system.setExecutor caller executor).executors caller = executor := Function.update_self ..

theorem System.executor_other (system : System Json) {caller other : Nat} (executor : Executor Json)
    (different : other ≠ caller) :
    (system.setExecutor caller executor).executors other = system.executors other :=
  Function.update_of_ne different ..

theorem System.invoker_self (system : System Json) (caller : Nat) (invoker : Invoker Json) :
    (system.setInvoker caller invoker).invokers caller = invoker := Function.update_self ..

theorem System.invoker_other (system : System Json) {caller other : Nat} (invoker : Invoker Json)
    (different : other ≠ caller) :
    (system.setInvoker caller invoker).invokers other = system.invokers other :=
  Function.update_of_ne different ..

inductive Label (Json : Type)
  | acquire (caller : Nat) (input : ActionInput) (reads : LeaseReads Json)
  | invoke (caller : Nat)
  | answer (caller : Nat) (outcome : ConnectorOutcome)
  | finish (caller : Nat) (finishedAt : Date)
  | finishFails (caller : Nat)
  | recover (caller : Nat) (finishedAt : Date)
  | stop (caller : Nat)
  | decide (input : ActionInput) (actor : String) (decision : DecideControlledAction.Decision)
      (decidedAt : Date)
  | authorize (caller : Nat) (input : ActionInput) (reads : AuthorizationReads Json)
      (afterHook : Option (AuthorizationReads Json)) (leaseAt : Date)
  | simulate (caller : Nat) (result : InvokeControlledConnectorAction.SimulationResult)
      (reads : InvokeControlledConnectorAction.SimulationReads)
  | simulationFails (caller : Nat) (updatedAt : Date)
  | read (caller : Nat) (completed : Bool) (updatedAt : Date)
  | abandon (caller : Nat)

/-- The connector of an action: the outcomes that a call may have under a lease. -/
abbrev MutationConnector (Json : Type) := ExecutionLease Json → ConnectorOutcome → Prop

/-- The mutations of the filesystem connector: it refuses before it has a sandbox, or it runs the sandbox
on the leased action. The arguments are read from the action, `sameParent` compares parent directories. -/
inductive FilesystemConnector (arguments_ : Json → Arguments) (sameParent : Arguments → Bool)
    (lease : ExecutionLease Json) : ConnectorOutcome → Prop
  | refused (code : Option String) (name : String) :
      FilesystemConnector arguments_ sameParent lease ⟨.error (.other code name), false⟩
  | ran {replies answer device}
      (called : Method.call (executeMutation lease.request.operation
        (arguments_ lease.request.normalizedArguments)
        (sameParent (arguments_ lease.request.normalizedArguments))
        lease.simulation.preconditions) (Device.start replies) = (answer, device)) :
      FilesystemConnector arguments_ sameParent lease ⟨answer, device.performed.any SystemCall.mutates⟩

open ExecuteControlledAction DecideControlledAction InvokeControlledConnectorAction in
/-- One step of one caller. A transaction that throws, by a guard or by a storage fault, changes no row:
before its lease a caller may simply try again or be gone, so such an attempt is no step of its own. -/
inductive Step (hashes : Hashes Json) (registry : ConnectorRegistry) (connector : MutationConnector Json) :
    System Json → Label Json → System Json → Prop
  | acquire {system caller input reads lease rows} (idle : system.executors caller = .idle)
      (acquired : acquireLease hashes registry input reads system.rows = .ok (lease, rows)) :
      Step hashes registry connector system (.acquire caller input reads)
        ({ system with rows }.setExecutor caller (.leased lease))
  | invoke {system caller lease} (leased : system.executors caller = .leased lease) :
      Step hashes registry connector system (.invoke caller)
        ((system.setExecutor caller (.invoking lease)).remember
          (.mutationInvoked lease.request lease.simulation))
  | answer {system caller lease outcome} (invoking : system.executors caller = .invoking lease)
      (answers : connector lease outcome) :
      Step hashes registry connector system (.answer caller outcome)
        ((system.suspect outcome.mayHaveMutated).setExecutor caller
          (.answered lease (recording outcome.answer)))
  | finish {system caller lease outcome finishedAt rows}
      (answered : system.executors caller = .answered lease outcome)
      (finished : finish lease outcome.status outcome.failureCode outcome.resultHash finishedAt
        system.rows = .ok rows) :
      Step hashes registry connector system (.finish caller finishedAt)
        ({ system with rows }.setExecutor caller .ended)
  | finishFails {system caller lease outcome} (answered : system.executors caller = .answered lease outcome) :
      Step hashes registry connector system (.finishFails caller)
        (system.setExecutor caller (if outcome.status = .failed then .ended else .recovering lease))
  | recover {system caller lease finishedAt rows} (recovering : system.executors caller = .recovering lease)
      (persisted : persistOutcomeFailureAsUnknown lease finishedAt system.rows = .ok rows) :
      Step hashes registry connector system (.recover caller finishedAt)
        ({ system with rows }.setExecutor caller .ended)
  -- A call may end anywhere without another write: its process died, or its last transaction failed.
  | stop {system caller} (begun : system.executors caller ≠ .idle) :
      Step hashes registry connector system (.stop caller)
        ((system.suspect (system.executors caller).isInvoking).setExecutor caller .ended)
  | decide {system input actor decision decidedAt rows approval}
      (decided : decide hashes input actor decision decidedAt system.rows = .ok rows)
      (stored : rows.approval = some approval) :
      Step hashes registry connector system (.decide input actor decision decidedAt)
        ({ system with rows }.remember
          (.decided decision approval.actionPayloadHash approval.simulationArtifactHash))
  | authorize {system caller input reads afterHook leaseAt lease rows}
      (idle : system.invokers caller = .idle)
      (acquired : acquireAuthorizationLease hashes registry input reads afterHook leaseAt system.rows =
        .ok (lease, rows)) :
      Step hashes registry connector system (.authorize caller input reads afterHook leaseAt)
        ({ system with rows }.setInvoker caller (.leased lease))
  | simulate {system caller lease result reads rows} (leased : system.invokers caller = .leased lease)
      (mode : lease.operation.mode = .mutation)
      (recorded : recordSimulation hashes lease result reads system.rows = .ok rows) :
      Step hashes registry connector system (.simulate caller result reads)
        ({ system with rows }.setInvoker caller .ended)
  | simulationFails {system caller lease updatedAt rows} (leased : system.invokers caller = .leased lease)
      (mode : lease.operation.mode = .mutation)
      (recorded : failSimulation updatedAt system.rows = .ok rows) :
      Step hashes registry connector system (.simulationFails caller updatedAt)
        ({ system with rows }.setInvoker caller .ended)
  | read {system caller lease completed updatedAt rows} (leased : system.invokers caller = .leased lease)
      (mode : lease.operation.mode = .read)
      (recorded : finishRead completed updatedAt system.rows = .ok rows) :
      Step hashes registry connector system (.read caller completed updatedAt)
        ({ system with rows }.setInvoker caller .ended)
  | abandon {system caller lease} (leased : system.invokers caller = .leased lease) :
      Step hashes registry connector system (.abandon caller) (system.setInvoker caller .ended)

/-- An action request as it is created: decided by the policy, and not yet invoked. -/
structure Requested (system : System Json) : Prop where
  status : system.rows.request.status ∈ [ActionStatus.requested, .authorized, .denied]
  simulation : system.rows.simulation = none
  approval : system.rows.approval = none
  execution : system.rows.execution = none
  executors : ∀ caller, system.executors caller = .idle
  invokers : ∀ caller, system.invokers caller = .idle
  history : system.history = []
  unmutated : system.mayHaveMutated = false

/-- A request to delete a file, authorized under the condition that it is approved. Objects are lists of
fields; the digests are those of the payload, of the diff and of the simulated artifact. -/
def deletion : System (List (String × String)) where
  rows := {
    request := {
      id := "a", projectId := "p", agentId := "agent:p:dev", resourceId := "r", connector := "filesystem"
      connectorVersion := "2", operation := "filesystem.delete", normalizedArguments := [("path", "old.txt")]
      effectiveConstraints := [], agentRunId := none
      payloadHash := "43a6a17669df1bc09cabbfc77c56a6135674a43961db936db23473893c0adedd"
      decision := .allowWithApproval, riskLevel := .high, matchedGrantIds := ["g"], reasons := []
      pipelineRunId := none, pipelineStageRunId := none, status := .authorized, createdAt := 0, updatedAt := 0 }
    simulation := none, approval := none, execution := none }
  executors _ := .idle
  invokers _ := .idle
  history := []
  mayHaveMutated := false

def deletionHashes : Hashes (List (String × String)) where
  hashCanonicalActionPayload _ := "43a6a17669df1bc09cabbfc77c56a6135674a43961db936db23473893c0adedd"
  sha256Text _ := "041dd783fa1f9d68676d1a95056cc1033b8caa1ddada303a0a3dbe729281e65a"
  hashActionSimulationArtifact _ := "950e8dd90760ba492e0c0203ac85c1ad28ccef9e33160705928b0a5b83374a80"

def deletionRegistry : ConnectorRegistry :=
  [⟨"filesystem", "2", ["filesystem_scope"], [⟨"filesystem.delete", .mutation, .high, true, true, true⟩],
    true, true⟩]

abbrev deletionStep :=
  Step deletionHashes deletionRegistry
    (FilesystemConnector (fun fields => ⟨fields.lookup "path", none, none, 0, ""⟩) fun _ => true)

def deletionReads : AuthorizationReads (List (String × String)) where
  agentRun := none
  policy := .ok {
    decision := .allowWithApproval, riskLevel := .high, matchedGrantIds := ["g"], effectiveConstraints := []
    normalizedArguments := [("path", "old.txt")]
    resource := ⟨"r", "p", "filesystem_scope", "filesystem", some "/srv", true⟩, connector := "filesystem"
    connectorVersion := "2", pipelineRunId := none, pipelineStageRunId := none }

theorem deletion_requested : Requested deletion := by
  constructor <;> first | rfl | exact fun _ => rfl | exact .tail _ (.head _)

theorem deletion_completes :
    ∃ system, Reachable deletionStep deletion system ∧ system.rows.request.status = .completed ∧
      system.history.length = 2 := by
  have authorized := (Reachable.refl deletion).snoc
    (show deletionStep _ (.authorize 0 ⟨"p", "a"⟩ deletionReads none 1) _ from .authorize rfl rfl)
  have simulated := authorized.snoc
    (show deletionStep _ (.simulate 0
      ⟨[.file "old.txt" "cba06b5736faf67e54b07b561eae94395e774c517a7d910a54369e1263ccfbd4" 3], "- old.txt"⟩
      ⟨"s", 2, 2, "v", 2⟩) _ from .simulate rfl rfl rfl)
  have decided := simulated.snoc
    (show deletionStep _ (.decide ⟨"p", "a"⟩ "operator" .approved 3) _ from .decide rfl rfl)
  have leased := decided.snoc
    (show deletionStep _ (.acquire 0 ⟨"p", "a"⟩ ⟨deletionReads, none, 4, "e",
      some ⟨"r", "p", "filesystem_scope", "filesystem", some "/srv", true⟩⟩) _ from .acquire rfl rfl)
  have invoked := leased.snoc (show deletionStep _ (.invoke 0) _ from .invoke rfl)
  have answered := invoked.snoc (show deletionStep _ (.answer 0 _) _ from
    .answer rfl (@FilesystemConnector.ran _ _ _ _ (fun _ => .done 0 ⟨true, true, 1, 0⟩) _ _ rfl))
  have finished := answered.snoc (show deletionStep _ (.finish 0 5) _ from .finish rfl rfl)
  exact ⟨_, finished, rfl, rfl⟩

end AiOffice.Application.Capability
