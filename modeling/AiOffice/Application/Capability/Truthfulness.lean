import AiOffice.Application.Capability.Governance
import AiOffice.Connector.FilesystemSandbox.Certainty

namespace AiOffice.Application.Capability

open Data Domain Domain.Capability Transition
open Connector.FilesystemSandbox

variable {Json : Type} {hashes : Hashes Json} {registry : ConnectorRegistry}
  {connector : MutationConnector Json} {system : System Json} {rows : Rows Json} {caller : Nat}

def Honest (connector : MutationConnector Json) : Prop :=
  ∀ lease outcome, connector lease outcome →
    (recording outcome.answer).status = .failed → outcome.mayHaveMutated = false

theorem recording_failed {answer : Except ConnectorError MutationResult}
    (failed : (recording answer).status = .failed) :
    ∃ code, answer = .error (.mutationExecution code .definiteNoMutation) := by
  match answer with
  | .ok _ => cases failed
  | .error (.mutationExecution code .definiteNoMutation) => exact ⟨code, rfl⟩
  | .error (.mutationExecution _ .mutationMayHaveOccurred) => cases failed
  | .error (.other _ _) => cases failed

theorem filesystem_honest (arguments_ : Json → Arguments) (sameParent : Arguments → Bool) :
    Honest (FilesystemConnector arguments_ sameParent) := by
  intro lease outcome answered failed
  obtain ⟨code, definite⟩ := recording_failed failed
  cases answered with
  | refused code name => cases definite
  | @ran replies answer device called =>
    have fresh : Unstaged (Device.start replies) := ⟨⟨by simp [Quiet, Device.start], rfl⟩, rfl⟩
    have ended := executeMutation_truthful lease.request.operation
      (arguments_ lease.request.normalizedArguments)
      (sameParent (arguments_ lease.request.normalizedArguments)) lease.simulation.preconditions _ fresh
    dsimp only at definite
    subst definite
    rw [called] at ended
    have quiet : device.performed.any SystemCall.mutates = false := by
      simpa [List.any_eq_false, Quiet] using ended.2 rfl
    simp [ConnectorOutcome.mayHaveMutated, quiet, recording]

def Executor.Expects (execution : ActionExecutionStatus) (mayHaveMutated : Bool) : Executor Json → Prop
  | .leased _ | .invoking _ => execution = .executing ∧ mayHaveMutated = false
  | .answered _ outcome => outcome.status = .failed → mayHaveMutated = false
  | .idle | .recovering _ | .ended => True

def Controlled (registry : ConnectorRegistry) (request : ActionRequestProps Json) : Prop :=
  ∀ operation, requireOperation registry request.connector request.operation = .ok operation →
    operation.mode = .mutation

/-- Request and execution have the same status, and where the execution failed nothing was mutated. -/
structure Agreed (registry : ConnectorRegistry) (system : System Json) : Prop where
  unexecuted : system.rows.execution = none →
    system.rows.request.status ∉ [ActionStatus.executing, .completed, .executionUnknown] ∧
      system.mayHaveMutated = false
  executed : ∀ execution, system.rows.execution = some execution →
    system.rows.request.status = execution.status.action ∧
      (execution.status = .failed → system.mayHaveMutated = false) ∧
      ∀ caller, (system.executors caller).Expects execution.status system.mayHaveMutated
  controlled : Controlled registry system.rows.request
  simulating : ∀ caller lease, system.invokers caller = .leased lease → lease.operation.mode = .mutation

theorem Requested.agreed (requested : Requested system) (controlled : Controlled registry system.rows.request) :
    Agreed registry system where
  unexecuted _ := by
    have status := requested.status
    simp only [List.mem_cons, List.not_mem_nil, or_false] at status
    refine ⟨?_, requested.unmutated⟩
    rcases status with same | same | same <;> simp [same]
  executed execution found := by simp [requested.execution] at found
  controlled := controlled
  simulating caller lease leased := by simp [requested.invokers caller] at leased

theorem Agreed.advance (agreed : Agreed registry system) (governed : Governed hashes system)
    (begun : system.executors caller ≠ .idle) {executor : Executor Json} {mayHaveMutated : Bool}
    (expected : ∀ execution : ActionExecutionStatus,
      (execution = .failed → system.mayHaveMutated = false) →
        (system.executors caller).Expects execution system.mayHaveMutated →
          (execution = .failed → mayHaveMutated = false) ∧ executor.Expects execution mayHaveMutated) :
    Agreed registry ({ system with mayHaveMutated }.setExecutor caller executor) where
  unexecuted absent := (begun (governed.unleased absent caller)).elim
  executed execution found := by
    obtain ⟨same, truthful, expects⟩ := agreed.executed execution found
    obtain ⟨kept, moved⟩ := expected execution.status truthful (expects caller)
    refine ⟨same, kept, fun other => ?_⟩
    by_cases equal : other = caller
    · subst equal
      rw [System.executor_self]
      exact moved
    · rw [System.executor_other _ _ equal]
      change (system.executors other).Expects _ _
      rw [governed.owner begun equal]
      trivial
  controlled := agreed.controlled
  simulating := agreed.simulating

theorem Agreed.settle (agreed : Agreed registry system) (governed : Governed hashes system)
    (begun : system.executors caller ≠ .idle) {status : ActionExecutionStatus}
    (settled : ExecuteControlledAction.OutcomeRecorded status system.rows rows)
    (truthful : status = .failed → system.mayHaveMutated = false) :
    Agreed registry ({ system with rows }.setExecutor caller .ended) := by
  obtain ⟨-, execution, updatedAt, rfl, rfl⟩ := settled
  refine ⟨nofun, fun stored found => ?_, agreed.controlled, agreed.simulating⟩
  obtain rfl := Option.some.inj found
  refine ⟨rfl, truthful, fun other => ?_⟩
  by_cases equal : other = caller
  · subst equal
    rw [System.executor_self]
    trivial
  · rw [System.executor_other _ _ equal]
    change (system.executors other).Expects _ _
    rw [governed.owner begun equal]
    trivial

theorem action_unstarted {current expected : ActionStatus} (same : current = expected)
    (before : expected ∈ [ActionStatus.authorized, .simulating, .approvalPending])
    (execution : ActionExecutionStatus) : current ≠ execution.action := by
  subst same
  intro started
  cases execution <;> simp [started, ActionExecutionStatus.action] at before

theorem Agreed.prepare (agreed : Agreed registry system) {invokers : Nat → Invoker Json}
    {status : ActionStatus} {updatedAt : Date}
    (unstarted : ∀ execution : ActionExecutionStatus, system.rows.request.status ≠ execution.action)
    (execution : rows.execution = system.rows.execution)
    (request : rows.request = (system.rows.moved status updatedAt).request)
    (unexecuted : status ∉ [ActionStatus.executing, .completed, .executionUnknown])
    (simulating : ∀ caller lease, invokers caller = .leased lease → lease.operation.mode = .mutation) :
    Agreed registry { system with rows, invokers } := by
  have absent : system.rows.execution = none := by
    cases found : system.rows.execution with
    | none => rfl
    | some stored => exact (unstarted stored.status (agreed.executed stored found).1).elim
  refine ⟨fun _ => ⟨?_, (agreed.unexecuted absent).2⟩, fun stored found => ?_, ?_, simulating⟩
  · rw [request]
    exact unexecuted
  · cases (execution.trans absent).symm.trans found
  · rw [request]
    exact agreed.controlled

theorem Agreed.acquire (agreed : Agreed registry system) (governed : Governed hashes system)
    {lease : ExecutionLease Json} {approval : ActionApprovalProps}
    (granted : LeaseGranted hashes system.rows lease approval rows) :
    Agreed registry ({ system with rows }.setExecutor caller (.leased lease)) := by
  obtain ⟨updatedAt, rfl⟩ := granted.recorded
  have unmutated := (agreed.unexecuted granted.unexecuted).2
  refine ⟨nofun, fun stored found => ?_, agreed.controlled, agreed.simulating⟩
  obtain rfl := Option.some.inj found
  refine ⟨rfl, fun _ => unmutated, fun other => ?_⟩
  by_cases equal : other = caller
  · subst equal
    rw [System.executor_self]
    exact ⟨granted.executing, unmutated⟩
  · rw [System.executor_other _ _ equal]
    change (system.executors other).Expects _ _
    rw [governed.unleased granted.unexecuted other]
    trivial

theorem Agreed.leave (agreed : Agreed registry system) (caller : Nat) {other : Nat}
    {lease : InvokeControlledConnectorAction.AuthorizationLease Json}
    (leased : (system.setInvoker caller .ended).invokers other = .leased lease) :
    lease.operation.mode = .mutation := by
  by_cases equal : other = caller
  · subst equal
    cases (System.invoker_self ..).symm.trans leased
  · exact agreed.simulating other lease ((System.invoker_other _ _ equal).symm.trans leased)

theorem Agreed.step {after : System Json} {label : Label Json} (honest : Honest connector)
    (agreed : Agreed registry system) (governed : Governed hashes system)
    (step : Step hashes registry connector system label after) : Agreed registry after := by
  cases step with
  | acquire idle acquired =>
    obtain ⟨approval, granted⟩ := ExecuteControlledAction.acquireLease_ok acquired
    exact agreed.acquire governed granted
  | @invoke caller lease leased =>
    have advanced : Agreed registry (system.setExecutor caller (.invoking lease)) := by
      refine agreed.advance governed (by simp [leased]) fun execution truthful expects => ?_
      rw [leased] at expects
      exact ⟨truthful, expects⟩
    exact ⟨advanced.unexecuted, advanced.executed, advanced.controlled, advanced.simulating⟩
  | answer invoking answers =>
    refine agreed.advance governed (by simp [invoking]) fun execution truthful expects => ?_
    rw [invoking] at expects
    obtain ⟨rfl, unmutated⟩ := expects
    refine ⟨nofun, fun failed => ?_⟩
    rw [unmutated, honest _ _ answers failed]
    rfl
  | @finish caller lease outcome finishedAt rows answered finished =>
    have settled := ExecuteControlledAction.finish_ok finished
    refine agreed.settle governed (by simp [answered]) settled ?_
    obtain ⟨stored, found, -⟩ := settled.executing
    have expects := (agreed.executed stored found).2.2 caller
    rw [answered] at expects
    exact expects
  | @finishFails caller lease outcome answered =>
    refine agreed.advance governed (by simp [answered]) fun execution truthful expects => ⟨truthful, ?_⟩
    by_cases failed : outcome.status = .failed <;> simp [failed, Executor.Expects]
  | recover recovering persisted =>
    exact agreed.settle governed (by simp [recovering])
      (ExecuteControlledAction.persistOutcomeFailureAsUnknown_ok persisted) nofun
  | @stop caller begun =>
    refine agreed.advance governed begun fun execution truthful expects => ⟨fun failed => ?_, trivial⟩
    cases phase : system.executors caller with
    | invoking lease =>
      rw [phase] at expects
      cases failed.symm.trans expects.1
    | idle | leased | answered | recovering | ended => simp [truthful failed, Executor.isInvoking]
  | @decide input actor decision decidedAt rows approval decided stored =>
    obtain ⟨approval, effect⟩ := DecideControlledAction.decide_ok decided
    obtain ⟨status, updatedAt, unexecuted, request⟩ := effect.request
    have prepared : Agreed registry { system with rows } :=
      agreed.prepare (action_unstarted effect.waiting (by simp)) effect.execution request unexecuted
        agreed.simulating
    exact ⟨prepared.unexecuted, prepared.executed, prepared.controlled, prepared.simulating⟩
  | @authorize caller input reads afterHook leaseAt lease rows idle acquired =>
    obtain ⟨found, authorized, rfl⟩ := InvokeControlledConnectorAction.acquireAuthorizationLease_ok acquired
    have mutation := agreed.controlled lease.operation found
    refine agreed.prepare (action_unstarted authorized (by simp)) rfl rfl ?_ fun other held leased => ?_
    · simp [mutation, InvokeControlledConnectorAction.targetStatus]
    · by_cases equal : other = caller
      · subst equal
        obtain rfl := Invoker.leased.inj ((System.invoker_self system ..).symm.trans leased)
        exact mutation
      · exact agreed.simulating other held ((System.invoker_other system _ equal).symm.trans leased)
  | simulate leased mode recorded =>
    have effect := InvokeControlledConnectorAction.recordSimulation_ok recorded
    obtain ⟨status, updatedAt, among, request⟩ := effect.request
    refine agreed.prepare (action_unstarted effect.simulating (by simp)) effect.execution request ?_ fun _ _ =>
      agreed.leave _
    simp only [List.mem_cons, List.not_mem_nil, or_false] at among
    rcases among with rfl | rfl <;> simp
  | simulationFails leased mode recorded =>
    obtain ⟨simulating, rfl⟩ := transitionActionRequest_ok recorded
    exact agreed.prepare (action_unstarted simulating (by simp)) rfl rfl (by simp) fun _ _ => agreed.leave _
  | read leased mode recorded => cases (agreed.simulating _ _ leased).symm.trans mode
  | abandon leased => exact ⟨agreed.unexecuted, agreed.executed, agreed.controlled, fun _ _ => agreed.leave _⟩

/-- In every reachable state of a controlled mutation through the filesystem connector, request and
execution agree; a request is failed only when there definitely was no mutation; and once a mutation may
have occurred, the pair is executing, completed or unknown. -/
theorem outcome_truthful {start : System Json} (arguments_ : Json → Arguments) (sameParent : Arguments → Bool)
    (requested : Requested start) (controlled : Controlled registry start.rows.request)
    (reached : Reachable (Step hashes registry (FilesystemConnector arguments_ sameParent)) start system) :
    (∀ execution, system.rows.execution = some execution →
      system.rows.request.status = execution.status.action) ∧
    (system.rows.execution = none →
      system.rows.request.status ∉ [ActionStatus.executing, .completed, .executionUnknown]) ∧
    (system.rows.request.status = .failed → system.mayHaveMutated = false) ∧
    (system.mayHaveMutated = true → ∃ execution, system.rows.execution = some execution ∧
      execution.status ∈ [ActionExecutionStatus.executing, .completed, .executionUnknown] ∧
      system.rows.request.status = execution.status.action) := by
  have honest := filesystem_honest arguments_ sameParent
  have agreed : Agreed registry system := by
    refine (reached.invariant (fun system => Governed hashes system ∧ Agreed registry system)
      ⟨requested.governed, requested.agreed controlled⟩ fun _ _ _ holds step => ?_).2
    exact ⟨holds.1.step step, holds.2.step honest holds.1 step⟩
  refine ⟨fun execution found => (agreed.executed execution found).1,
    fun absent => (agreed.unexecuted absent).1, fun failed => ?_, fun mutated => ?_⟩
  · cases found : system.rows.execution with
    | none => exact (agreed.unexecuted found).2
    | some execution =>
      obtain ⟨same, truthful, -⟩ := agreed.executed execution found
      apply truthful
      cases status : execution.status <;> simp [status, failed, ActionExecutionStatus.action] at same ⊢
  · cases found : system.rows.execution with
    | none => cases mutated.symm.trans (agreed.unexecuted found).2
    | some execution =>
      obtain ⟨same, truthful, -⟩ := agreed.executed execution found
      refine ⟨execution, rfl, ?_, same⟩
      cases status : execution.status with
      | failed => cases mutated.symm.trans (truthful status)
      | executing | completed | executionUnknown => simp

theorem outcome_truthful_deletion :
    ∃ system, Reachable deletionStep deletion system ∧ system.rows.request.status = .completed ∧
      (system.mayHaveMutated = true → ∃ execution, system.rows.execution = some execution ∧
        execution.status ∈ [ActionExecutionStatus.executing, .completed, .executionUnknown] ∧
        system.rows.request.status = execution.status.action) := by
  obtain ⟨system, reached, completed, -⟩ := deletion_completes
  have controlled : Controlled deletionRegistry deletion.rows.request := by
    intro operation found
    obtain rfl := Except.ok.inj found
    rfl
  exact ⟨system, reached, completed,
    (outcome_truthful _ _ deletion_requested controlled reached).2.2.2⟩

end AiOffice.Application.Capability
