import AiOffice.Application.Capability.Transactions

namespace AiOffice.Application.Capability

open Data Outcome Domain Domain.Capability

variable {Json : Type} {hashes : Hashes Json} {registry : ConnectorRegistry} {input : ActionInput}
  {before after : Rows Json}

def Rows.moved (rows : Rows Json) (status : ActionStatus) (updatedAt : Date) : Rows Json :=
  { rows with request := { rows.request with status, updatedAt } }

def Rows.settled (rows : Rows Json) (execution : ActionExecutionProps) (updatedAt : Date) : Rows Json :=
  { rows.moved execution.status.action updatedAt with execution := some execution }

theorem transitionActionRequest_ok {expectedStatus status : ActionStatus} {updatedAt : Date}
    (moved : transitionActionRequest before expectedStatus status updatedAt = .ok after) :
    before.request.status = expectedStatus ∧ after = before.moved status updatedAt := by
  obtain ⟨expected, moved⟩ := guard_ok moved
  exact ⟨not_not.mp expected, (Except.ok.inj moved).symm⟩

theorem transitionExecution_ok {outcome : ActionExecutionProps}
    (recorded : transitionExecution before outcome = .ok after) :
    ∃ stored execution, before.execution = some stored ∧ stored.status = .executing ∧
      execution.status = outcome.status ∧ after = { before with execution := some execution } := by
  obtain ⟨current, recorded⟩ := guard_ok recorded
  cases found : before.execution with
  | none => simp [found] at current
  | some stored =>
    simp only [found, Option.all_some, Bool.or_eq_true, decide_eq_true_eq, not_or, not_not] at current
    simp only [found, Option.map_some] at recorded
    refine ⟨stored, _, rfl, current.2, ?_, (Except.ok.inj recorded).symm⟩
    rfl

theorem requireSome_ok {Value : Type} {found : Option Value} {thrown : Thrown} {value : Value}
    (present : requireSome found thrown = .ok value) : found = some value := by
  cases found with
  | none => cases present
  | some other => exact congrArg some (Except.ok.inj present)

theorem findActionRequest_ok {id : String} {action : ActionRequestProps Json}
    (found : findActionRequest before id = .ok action) : action = before.request := by
  obtain ⟨-, found⟩ := guard_ok found
  simp only [ActionRequest.restore] at found
  split at found
  · exact (Except.ok.inj found).symm
  · cases found

theorem requireAction_ok {action : ActionRequestProps Json} (found : requireAction before input = .ok action) :
    action = before.request := by
  obtain ⟨read, found, checked⟩ := bind_ok found
  obtain ⟨-, checked⟩ := guard_ok checked
  rw [← Except.ok.inj checked]
  exact findActionRequest_ok found

/-- What an execution lease establishes, in the transaction that grants it. -/
structure LeaseGranted (hashes : Hashes Json) (before : Rows Json) (lease : ExecutionLease Json)
    (approval : ActionApprovalProps) (after : Rows Json) : Prop where
  pending : before.request.status = .approvalPending
  unexecuted : before.execution = none
  stored : before.approval = some approval
  approved : approval.status = .approved
  payload : approval.actionPayloadHash = lease.request.payloadHash
  artifact : approval.simulationArtifactHash = lease.simulation.artifactSha256
  payloadHashed : hashes.hashCanonicalActionPayload (ActionRequest.canonicalPayload lease.request) =
    lease.request.payloadHash
  artifactHashed : lease.simulation.artifactSha256 = hashes.hashActionSimulationArtifact
    (simulationPayload lease.request lease.simulation.preconditions
      (hashes.sha256Text lease.simulation.diff))
  executing : lease.execution.status = .executing
  recorded : ∃ updatedAt, after = before.settled lease.execution updatedAt

namespace ExecuteControlledAction

theorem requireFreshAuthorization_payload {action : ActionRequestProps Json} {definition : ConnectorDefinition}
    {operation : ConnectorOperationDescriptor} {reads : AuthorizationReads Json}
    (fresh : requireFreshAuthorization hashes action definition operation reads = .ok ⟨⟩) :
    hashes.hashCanonicalActionPayload (ActionRequest.canonicalPayload action) = action.payloadHash := by
  obtain ⟨-, fresh⟩ := guard_ok fresh
  obtain ⟨current, -, fresh⟩ := bind_ok fresh
  obtain ⟨checks, -⟩ := guard_ok fresh
  simp only [not_or, Bool.not_eq_true', Bool.not_eq_false] at checks
  exact authorizationCurrent_payload checks.1

theorem acquireLease_ok {reads : LeaseReads Json} {lease : ExecutionLease Json}
    (acquired : acquireLease hashes registry input reads before = .ok (lease, after)) :
    ∃ approval, LeaseGranted hashes before lease approval after := by
  obtain ⟨action, found, acquired⟩ := bind_ok acquired
  obtain rfl := requireAction_ok found
  obtain ⟨pending, acquired⟩ := guard_ok acquired
  obtain ⟨definition, -, acquired⟩ := bind_ok acquired
  obtain ⟨operation, -, acquired⟩ := bind_ok acquired
  obtain ⟨-, acquired⟩ := guard_ok acquired
  obtain ⟨simulation, -, acquired⟩ := bind_ok acquired
  obtain ⟨approval, present, acquired⟩ := bind_ok acquired
  obtain ⟨⟨⟩, bound, acquired⟩ := bind_ok acquired
  obtain ⟨approved, acquired⟩ := guard_ok acquired
  obtain ⟨⟨⟩, fresh, acquired⟩ := bind_ok acquired
  obtain ⟨-, -, acquired⟩ := bind_ok acquired
  obtain ⟨unexecuted, acquired⟩ := guard_ok acquired
  obtain ⟨execution, started, acquired⟩ := bind_ok acquired
  obtain ⟨inserted, insertion, acquired⟩ := bind_ok acquired
  obtain ⟨request, transitioned, acquired⟩ := bind_ok acquired
  obtain ⟨leased, moved, acquired⟩ := bind_ok acquired
  obtain ⟨resource, -, acquired⟩ := bind_ok acquired
  obtain ⟨rfl, rfl⟩ := Prod.mk.inj (Except.ok.inj acquired)
  obtain ⟨intact, payload, artifact⟩ := assertApprovalBinding_ok bound
  obtain ⟨-, insertion⟩ := guard_ok insertion
  obtain rfl := Except.ok.inj insertion
  obtain ⟨-, rfl⟩ := transitionActionRequest_ok moved
  obtain ⟨-, -, rfl⟩ := ActionRequest.transition_ok transitioned
  obtain rfl := ActionExecution.normalize_ok started
  exact ⟨approval, {
    pending := not_not.mp pending
    unexecuted := by simpa using unexecuted
    stored := requireSome_ok present
    approved := not_not.mp approved
    payload, artifact
    payloadHashed := requireFreshAuthorization_payload fresh
    artifactHashed := assertSimulationIntegrity_ok intact
    executing := rfl
    recorded := ⟨reads.startedAt, rfl⟩ }⟩

/-- What recording an outcome does: an execution that was still executing, and its action, take the
same status. -/
structure OutcomeRecorded (status : ActionExecutionStatus) (before after : Rows Json) : Prop where
  executing : ∃ stored, before.execution = some stored ∧ stored.status = .executing
  recorded : ∃ execution updatedAt, execution.status = status ∧ after = before.settled execution updatedAt

theorem outcome_recorded {execution : ActionExecutionProps} {middle : Rows Json} (updatedAt : Date)
    (recorded : transitionExecution before execution = .ok middle)
    (moved : transitionActionRequest middle .executing execution.status.action updatedAt = .ok after) :
    OutcomeRecorded execution.status before after := by
  obtain ⟨stored, outcome, found, executing, same, rfl⟩ := transitionExecution_ok recorded
  obtain ⟨-, rfl⟩ := transitionActionRequest_ok moved
  refine ⟨⟨stored, found, executing⟩, outcome, updatedAt, same, ?_⟩
  rw [Rows.settled, same]
  rfl

theorem finish_status {props outcome : ActionExecutionProps} {status : ActionExecutionStatus} {now : Date}
    {failureCode resultHash : Option String}
    (finished : ActionExecution.finish props status now failureCode resultHash = .ok outcome) :
    outcome.status = status := by
  obtain ⟨-, finished⟩ := guard_ok finished
  rw [ActionExecution.normalize_ok finished]

theorem finish_ok {lease : ExecutionLease Json} {status : ActionExecutionStatus}
    {failureCode resultHash : Option String} {finishedAt : Date}
    (finished : finish lease status failureCode resultHash finishedAt before = .ok after) :
    OutcomeRecorded status before after := by
  obtain ⟨restored, -, finished⟩ := bind_ok finished
  obtain ⟨request, -, finished⟩ := bind_ok finished
  obtain ⟨execution, ended, finished⟩ := bind_ok finished
  obtain ⟨-, -, finished⟩ := bind_ok finished
  obtain ⟨middle, recorded, moved⟩ := bind_ok finished
  obtain rfl := finish_status ended
  exact outcome_recorded finishedAt recorded moved

theorem persistOutcomeFailureAsUnknown_ok {lease : ExecutionLease Json} {finishedAt : Date}
    (persisted : persistOutcomeFailureAsUnknown lease finishedAt before = .ok after) :
    OutcomeRecorded .executionUnknown before after := by
  obtain ⟨action, -, persisted⟩ := bind_ok persisted
  obtain ⟨execution, -, persisted⟩ := bind_ok persisted
  obtain ⟨-, persisted⟩ := guard_ok persisted
  obtain ⟨outcome, ended, persisted⟩ := bind_ok persisted
  obtain ⟨-, -, persisted⟩ := bind_ok persisted
  obtain ⟨middle, recorded, moved⟩ := bind_ok persisted
  have unknown := finish_status ended
  rw [← unknown]
  refine outcome_recorded finishedAt recorded ?_
  rw [unknown]
  exact moved

end ExecuteControlledAction

namespace DecideControlledAction

/-- What a decision does: an approval that was still pending is decided, and a rejection also ends the
action. -/
structure Decided (decision : Decision) (before : Rows Json) (approval : ActionApprovalProps)
    (after : Rows Json) : Prop where
  waiting : before.request.status = .approvalPending
  pending : ∃ stored, before.approval = some stored ∧ stored.status = .pending
  status : approval.status = decision.approval
  approval : after.approval = some approval
  execution : after.execution = before.execution
  request : ∃ status updatedAt, status ∉ [ActionStatus.executing, .completed, .executionUnknown] ∧
    after.request = (before.moved status updatedAt).request

theorem decide_ok {actor : String} {decision : Decision} {decidedAt : Date}
    (succeeded : decide hashes input actor decision decidedAt before = .ok after) :
    ∃ approval, Decided decision before approval after := by
  obtain ⟨actor, -, succeeded⟩ := bind_ok succeeded
  obtain ⟨action, found, succeeded⟩ := bind_ok succeeded
  obtain rfl := requireAction_ok found
  obtain ⟨waiting, succeeded⟩ := guard_ok succeeded
  obtain ⟨stored, present, succeeded⟩ := bind_ok succeeded
  obtain ⟨simulation, -, succeeded⟩ := bind_ok succeeded
  obtain ⟨⟨⟩, -, succeeded⟩ := bind_ok succeeded
  obtain ⟨pending, succeeded⟩ := guard_ok succeeded
  obtain ⟨decided, recorded, succeeded⟩ := bind_ok succeeded
  obtain ⟨-, recorded⟩ := guard_ok recorded
  have status : decided.status = decision.approval := by rw [ActionApproval.normalize_ok recorded]
  have found := requireSome_ok present
  cases decision with
  | approved =>
    obtain rfl := Except.ok.inj succeeded
    have unmoved : before.request = (before.moved .approvalPending before.request.updatedAt).request := by
      simp only [Rows.moved, ← not_not.mp waiting]
    exact ⟨decided, not_not.mp waiting, ⟨stored, found, not_not.mp pending⟩, status, rfl, rfl,
      ⟨_, _, by simp, unmoved⟩⟩
  | rejected =>
    obtain ⟨-, -, moved⟩ := bind_ok succeeded
    obtain ⟨-, rfl⟩ := transitionActionRequest_ok moved
    exact ⟨decided, not_not.mp waiting, ⟨stored, found, not_not.mp pending⟩, status, rfl, rfl,
      ⟨.rejected, decidedAt, by simp, rfl⟩⟩

end DecideControlledAction

namespace InvokeControlledConnectorAction

theorem requireFreshAuthorization_ok {action : ActionRequestProps Json} {reads : AuthorizationReads Json}
    {definition : ConnectorDefinition} {operation : ConnectorOperationDescriptor}
    {current : EvaluatedActionPolicy Json}
    (fresh : requireFreshAuthorization hashes registry action reads = .ok (definition, operation, current)) :
    requireOperation registry action.connector action.operation = .ok operation := by
  obtain ⟨-, fresh⟩ := guard_ok fresh
  obtain ⟨-, fresh⟩ := guard_ok fresh
  obtain ⟨found, -, fresh⟩ := bind_ok fresh
  obtain ⟨descriptor, described, fresh⟩ := bind_ok fresh
  obtain ⟨-, fresh⟩ := guard_ok fresh
  obtain ⟨policy, -, fresh⟩ := bind_ok fresh
  obtain ⟨-, fresh⟩ := guard_ok fresh
  cases fresh
  exact described

theorem acquireAuthorizationLease_ok {reads : AuthorizationReads Json}
    {afterHook : Option (AuthorizationReads Json)} {leaseAt : Date} {lease : AuthorizationLease Json}
    (acquired : acquireAuthorizationLease hashes registry input reads afterHook leaseAt before =
      .ok (lease, after)) :
    requireOperation registry before.request.connector before.request.operation = .ok lease.operation ∧
      before.request.status = .authorized ∧
      after = before.moved (targetStatus lease.operation.mode) leaseAt := by
  obtain ⟨action, found, acquired⟩ := bind_ok acquired
  obtain rfl := requireAction_ok found
  obtain ⟨⟨definition, first, current⟩, fresh, acquired⟩ := bind_ok acquired
  obtain ⟨-, acquired⟩ := guard_ok acquired
  obtain ⟨-, acquired⟩ := guard_ok acquired
  obtain ⟨⟨found, operation, policy⟩, again, acquired⟩ := bind_ok acquired
  obtain ⟨request, -, acquired⟩ := bind_ok acquired
  obtain ⟨leased, moved, acquired⟩ := bind_ok acquired
  obtain ⟨rfl, rfl⟩ := Prod.mk.inj (Except.ok.inj acquired)
  obtain ⟨authorized, rfl⟩ := transitionActionRequest_ok moved
  refine ⟨?_, authorized, rfl⟩
  cases afterHook with
  | none =>
    cases again
    exact requireFreshAuthorization_ok fresh
  | some later => exact requireFreshAuthorization_ok again

structure SimulationRecorded (before after : Rows Json) : Prop where
  simulating : before.request.status = .simulating
  execution : after.execution = before.execution
  request : ∃ status updatedAt, status ∈ [ActionStatus.simulated, .approvalPending] ∧
    after.request = (before.moved status updatedAt).request
  approval : after.approval = before.approval ∨
    before.approval = none ∧ ∃ requested, after.approval = some requested ∧ requested.status = .pending

theorem recordSimulation_ok {lease : AuthorizationLease Json} {result : SimulationResult}
    {reads : SimulationReads} (recorded : recordSimulation hashes lease result reads before = .ok after) :
    SimulationRecorded before after := by
  obtain ⟨simulation, -, recorded⟩ := bind_ok recorded
  split at recorded
  · obtain ⟨-, recorded⟩ := guard_ok recorded
    obtain ⟨simulating, rfl⟩ := transitionActionRequest_ok recorded
    exact ⟨simulating, rfl, ⟨.simulated, _, by simp, rfl⟩, .inl rfl⟩
  · obtain ⟨approval, requested, recorded⟩ := bind_ok recorded
    obtain ⟨-, recorded⟩ := guard_ok recorded
    obtain ⟨simulated, moved, recorded⟩ := bind_ok recorded
    obtain ⟨simulating, rfl⟩ := transitionActionRequest_ok moved
    obtain ⟨unrequested, recorded⟩ := guard_ok recorded
    obtain ⟨-, rfl⟩ := transitionActionRequest_ok recorded
    have pending : approval.status = .pending := by rw [ActionApproval.normalize_ok requested]
    exact ⟨simulating, rfl, ⟨.approvalPending, _, by simp, rfl⟩,
      .inr ⟨by simpa using unrequested, approval, rfl, pending⟩⟩

end InvokeControlledConnectorAction
end AiOffice.Application.Capability
