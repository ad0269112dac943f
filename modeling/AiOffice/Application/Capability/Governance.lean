import AiOffice.Application.Capability.Interleaving

namespace AiOffice.Application.Capability

open Data Domain Domain.Capability Transition

variable {Json : Type} {hashes : Hashes Json} {registry : ConnectorRegistry}
  {connector : MutationConnector Json} {system : System Json} {rows : Rows Json} {caller : Nat}

def Event.isInvocation : Event Json → Bool
  | .mutationInvoked _ _ => true
  | .decided _ _ _ => false

/-- An approval in a history names what is about to run: the hash of the payload and the hash of the
simulated artifact, each recomputed from what the connector gets. -/
def Approved (hashes : Hashes Json) (request : ActionRequestProps Json) (simulation : ActionSimulationProps)
    (history : List (Event Json)) : Prop :=
  .decided .approved request.payloadHash simulation.artifactSha256 ∈ history ∧
    hashes.hashCanonicalActionPayload (ActionRequest.canonicalPayload request) = request.payloadHash ∧
    simulation.artifactSha256 = hashes.hashActionSimulationArtifact
      (simulationPayload request simulation.preconditions (hashes.sha256Text simulation.diff))

/-- A history that permits an invocation: approved, and not invoked before. -/
def Warranted (hashes : Hashes Json) (request : ActionRequestProps Json) (simulation : ActionSimulationProps)
    (history : List (Event Json)) : Prop :=
  Approved hashes request simulation history ∧ ∀ event ∈ history, event.isInvocation = false

def Lawful (hashes : Hashes Json) : List (Event Json) → Prop
  | [] => True
  | .mutationInvoked request simulation :: earlier =>
    Warranted hashes request simulation earlier ∧ Lawful hashes earlier
  | .decided _ _ _ :: earlier => Lawful hashes earlier

theorem Lawful.earlier {event : Event Json} {earlier : List (Event Json)}
    (lawful : Lawful hashes (event :: earlier)) : Lawful hashes earlier := by
  cases event with
  | decided => exact lawful
  | mutationInvoked => exact lawful.2

theorem Lawful.warranted {later earlier : List (Event Json)} {request : ActionRequestProps Json}
    {simulation : ActionSimulationProps}
    (lawful : Lawful hashes (later ++ .mutationInvoked request simulation :: earlier)) :
    Warranted hashes request simulation earlier := by
  induction later with
  | nil => exact lawful.1
  | cons event later ih => exact ih lawful.earlier

theorem Lawful.at_most_once {history : List (Event Json)} (lawful : Lawful hashes history) :
    (history.filter Event.isInvocation).length ≤ 1 := by
  induction history with
  | nil => simp
  | cons event earlier ih =>
    cases event with
    | decided => simpa [List.filter_cons, Event.isInvocation] using ih lawful
    | mutationInvoked request simulation =>
      have none : earlier.filter Event.isInvocation = [] := by
        rw [List.filter_eq_nil_iff]
        intro event member invoked
        rw [lawful.1.2 event member] at invoked
        cases invoked
      simp [List.filter_cons, Event.isInvocation, none]

/-- At most one call ever left its start, and it has the only execution; its lease is warranted until it
invokes; the stored approval and the history agree. -/
structure Governed (hashes : Hashes Json) (system : System Json) : Prop where
  unleased : system.rows.execution = none → ∀ caller, system.executors caller = .idle
  uninvoked : system.rows.execution = none → ∀ event ∈ system.history, event.isInvocation = false
  single : ∃ owner, ∀ caller, caller ≠ owner → system.executors caller = .idle
  warranted : ∀ caller lease, system.executors caller = .leased lease →
    Warranted hashes lease.request lease.simulation system.history
  executed : system.rows.execution ≠ none →
    ∃ approval, system.rows.approval = some approval ∧ approval.status = .approved
  approved : ∀ approval, system.rows.approval = some approval → approval.status = .approved →
    .decided .approved approval.actionPayloadHash approval.simulationArtifactHash ∈ system.history
  rejected : ∀ payloadHash artifactHash, .decided .rejected payloadHash artifactHash ∈ system.history →
    ∃ approval, system.rows.approval = some approval ∧ approval.status = .rejected
  lawful : Lawful hashes system.history

theorem Requested.governed (requested : Requested system) : Governed hashes system where
  unleased _ := requested.executors
  uninvoked _ := by simp [requested.history]
  single := ⟨0, fun caller _ => requested.executors caller⟩
  warranted caller lease leased := by simp [requested.executors caller] at leased
  executed present := (present requested.execution).elim
  approved approval stored := by simp [requested.approval] at stored
  rejected payloadHash artifactHash member := by simp [requested.history] at member
  lawful := by simp [requested.history, Lawful]

theorem Governed.owner (governed : Governed hashes system) (begun : system.executors caller ≠ .idle)
    {other : Nat} (different : other ≠ caller) : system.executors other = .idle := by
  obtain ⟨owner, idle⟩ := governed.single
  have same : caller = owner := by
    by_contra distinct
    exact begun (idle caller distinct)
  exact idle other (same ▸ different)

theorem Governed.advance (governed : Governed hashes system) {executor : Executor Json} (mayHaveMutated : Bool)
    (approval : rows.approval = system.rows.approval)
    (execution : system.rows.execution ≠ none → rows.execution ≠ none)
    (begun : system.executors caller ≠ .idle) (moved : ∀ lease, executor ≠ .leased lease) :
    Governed hashes ({ system with rows, mayHaveMutated }.setExecutor caller executor) := by
  have present : system.rows.execution ≠ none := fun absent => begun (governed.unleased absent caller)
  have others : ∀ other, other ≠ caller →
      ({ system with rows, mayHaveMutated }.setExecutor caller executor).executors other = .idle :=
    fun other different => (System.executor_other _ executor different).trans (governed.owner begun different)
  exact {
    unleased := fun absent => (execution present absent).elim
    uninvoked := fun absent => (execution present absent).elim
    single := ⟨caller, others⟩
    warranted := by
      intro other lease leased
      by_cases same : other = caller
      · subst same
        exact (moved lease ((System.executor_self ..).symm.trans leased)).elim
      · cases (others other same).symm.trans leased
    executed := fun _ => approval ▸ governed.executed present
    approved := fun stored found => governed.approved stored (approval ▸ found)
    rejected := fun payloadHash artifactHash member => approval ▸ governed.rejected payloadHash artifactHash member
    lawful := governed.lawful }

/-- A step that touches neither executors nor history, and at most asks for an approval. -/
theorem Governed.prepare (governed : Governed hashes system) (invokers : Nat → Invoker Json)
    (execution : rows.execution = system.rows.execution)
    (approval : rows.approval = system.rows.approval ∨
      system.rows.approval = none ∧ ∃ requested, rows.approval = some requested ∧ requested.status = .pending) :
    Governed hashes { system with rows, invokers } := by
  rcases approval with same | ⟨unasked, requested, stored, pending⟩
  · exact {
      unleased := fun absent => governed.unleased (execution ▸ absent)
      uninvoked := fun absent => governed.uninvoked (execution ▸ absent)
      single := governed.single
      warranted := governed.warranted
      executed := fun present => same ▸ governed.executed (execution ▸ present)
      approved := fun approval found => governed.approved approval (same ▸ found)
      rejected := fun payloadHash artifactHash member => same ▸ governed.rejected payloadHash artifactHash member
      lawful := governed.lawful }
  · exact {
      unleased := fun absent => governed.unleased (execution ▸ absent)
      uninvoked := fun absent => governed.uninvoked (execution ▸ absent)
      single := governed.single
      warranted := governed.warranted
      executed := by
        intro present
        obtain ⟨approval, found, -⟩ := governed.executed (execution ▸ present)
        cases unasked.symm.trans found
      approved := by
        intro approval found status
        obtain rfl := Option.some.inj (stored.symm.trans found)
        cases pending.symm.trans status
      rejected := by
        intro payloadHash artifactHash member
        obtain ⟨approval, found, -⟩ := governed.rejected payloadHash artifactHash member
        cases unasked.symm.trans found
      lawful := governed.lawful }

theorem Governed.acquire (governed : Governed hashes system) {lease : ExecutionLease Json}
    {approval : ActionApprovalProps} (granted : LeaseGranted hashes system.rows lease approval rows) :
    Governed hashes ({ system with rows }.setExecutor caller (.leased lease)) := by
  obtain ⟨updatedAt, rfl⟩ := granted.recorded
  have idle := governed.unleased granted.unexecuted
  have warrant : Warranted hashes lease.request lease.simulation system.history := by
    refine ⟨⟨?_, granted.payloadHashed, granted.artifactHashed⟩, governed.uninvoked granted.unexecuted⟩
    rw [← granted.payload, ← granted.artifact]
    exact governed.approved approval granted.stored granted.approved
  exact {
    unleased := fun absent => nomatch absent
    uninvoked := fun absent => nomatch absent
    single := ⟨caller, fun other different => (System.executor_other _ _ different).trans (idle other)⟩
    warranted := by
      intro other held leased
      by_cases same : other = caller
      · subst same
        obtain rfl := Executor.leased.inj ((System.executor_self ..).symm.trans leased)
        exact warrant
      · cases (idle other).symm.trans ((System.executor_other _ _ same).symm.trans leased)
    executed := fun _ => ⟨approval, granted.stored, granted.approved⟩
    approved := governed.approved
    rejected := governed.rejected
    lawful := governed.lawful }

theorem Governed.invoke (governed : Governed hashes system) {lease : ExecutionLease Json}
    (leased : system.executors caller = .leased lease) :
    Governed hashes ((system.setExecutor caller (.invoking lease)).remember
      (.mutationInvoked lease.request lease.simulation)) := by
  have begun : system.executors caller ≠ .idle := by simp [leased]
  have moved : ∀ held, Executor.invoking lease ≠ .leased held := by simp
  have advanced : Governed hashes (system.setExecutor caller (.invoking lease)) :=
    governed.advance system.mayHaveMutated rfl id begun moved
  have present : system.rows.execution ≠ none := fun absent => begun (governed.unleased absent caller)
  exact {
    unleased := fun absent => (present absent).elim
    uninvoked := fun absent => (present absent).elim
    single := advanced.single
    warranted := by
      intro other held holding
      by_cases same : other = caller
      · subst same
        exact (moved held ((System.executor_self ..).symm.trans holding)).elim
      · have idle := governed.owner begun same
        cases idle.symm.trans ((System.executor_other _ _ same).symm.trans holding)
    executed := governed.executed
    approved := fun approval found status => .tail _ (governed.approved approval found status)
    rejected := by
      intro payloadHash artifactHash member
      rcases List.mem_cons.mp member with impossible | member
      · cases impossible
      · exact governed.rejected payloadHash artifactHash member
    lawful := ⟨governed.warranted caller lease leased, governed.lawful⟩ }

theorem Governed.decide (governed : Governed hashes system) {approval : ActionApprovalProps}
    {decision : DecideControlledAction.Decision}
    (decided : DecideControlledAction.Decided decision system.rows approval rows) :
    Governed hashes ({ system with rows }.remember
      (.decided decision approval.actionPayloadHash approval.simulationArtifactHash)) := by
  obtain ⟨stored, found, pending⟩ := decided.pending
  have unexecuted : system.rows.execution = none := by
    by_contra present
    obtain ⟨other, same, approved⟩ := governed.executed present
    obtain rfl := Option.some.inj (found.symm.trans same)
    cases pending.symm.trans approved
  have idle := governed.unleased unexecuted
  have absent : rows.execution = none := decided.execution.trans unexecuted
  exact {
    unleased := fun _ => idle
    uninvoked := by
      intro _ event member
      rcases List.mem_cons.mp member with rfl | member
      · rfl
      · exact governed.uninvoked unexecuted event member
    single := governed.single
    warranted := fun other lease leased => nomatch (idle other).symm.trans leased
    executed := fun present => (present absent).elim
    approved := by
      intro other same status
      obtain rfl := Option.some.inj (decided.approval.symm.trans same)
      have approving : decision = .approved := by
        cases decision with
        | approved => rfl
        | rejected => cases decided.status.symm.trans status
      rw [approving]
      exact .head _
    rejected := by
      intro payloadHash artifactHash member
      rcases List.mem_cons.mp member with same | member
      · obtain ⟨rfl, -, -⟩ := Event.decided.inj same
        exact ⟨approval, decided.approval, decided.status⟩
      · obtain ⟨other, same, rejected⟩ := governed.rejected payloadHash artifactHash member
        obtain rfl := Option.some.inj (found.symm.trans same)
        cases pending.symm.trans rejected
    lawful := governed.lawful }

theorem Governed.step {after : System Json} {label : Label Json} (governed : Governed hashes system)
    (step : Step hashes registry connector system label after) : Governed hashes after := by
  cases step with
  | acquire idle acquired =>
    obtain ⟨approval, granted⟩ := ExecuteControlledAction.acquireLease_ok acquired
    exact governed.acquire granted
  | invoke leased => exact governed.invoke leased
  | answer invoking answers =>
    exact governed.advance _ rfl id (by simp [invoking]) (by simp)
  | finish answered finished =>
    obtain ⟨-, execution, updatedAt, -, rfl⟩ := ExecuteControlledAction.finish_ok finished
    exact governed.advance _ rfl (by simp [Rows.settled]) (by simp [answered]) (by simp)
  | @finishFails caller lease outcome answered =>
    refine governed.advance _ rfl id (by simp [answered]) fun held => ?_
    by_cases failed : outcome.status = .failed <;> simp [failed]
  | recover recovering persisted =>
    obtain ⟨-, execution, updatedAt, -, rfl⟩ := ExecuteControlledAction.persistOutcomeFailureAsUnknown_ok persisted
    exact governed.advance _ rfl (by simp [Rows.settled]) (by simp [recovering]) (by simp)
  | stop begun => exact governed.advance _ rfl id begun (by simp)
  | decide decided stored =>
    obtain ⟨approval, effect⟩ := DecideControlledAction.decide_ok decided
    obtain rfl := Option.some.inj (effect.approval.symm.trans stored)
    exact governed.decide effect
  | authorize idle acquired =>
    obtain ⟨-, -, rfl⟩ := InvokeControlledConnectorAction.acquireAuthorizationLease_ok acquired
    exact governed.prepare _ rfl (.inl rfl)
  | simulate leased mode recorded =>
    have effect := InvokeControlledConnectorAction.recordSimulation_ok recorded
    exact governed.prepare _ effect.execution effect.approval
  | simulationFails leased mode recorded =>
    obtain ⟨-, rfl⟩ := transitionActionRequest_ok recorded
    exact governed.prepare _ rfl (.inl rfl)
  | read leased mode recorded =>
    obtain ⟨-, rfl⟩ := transitionActionRequest_ok recorded
    exact governed.prepare _ rfl (.inl rfl)
  | abandon leased => exact governed.prepare _ rfl (.inl rfl)

theorem governed_of_reachable {start : System Json} (requested : Requested start)
    (reached : Reachable (Step hashes registry connector) start system) : Governed hashes system :=
  reached.invariant (Governed hashes) requested.governed fun _ _ _ governed step => governed.step step

theorem Governed.never_rejected (governed : Governed hashes system) {event : Event Json}
    (member : event ∈ system.history) (invoked : event.isInvocation = true) (payloadHash artifactHash : String) :
    .decided .rejected payloadHash artifactHash ∉ system.history := by
  intro decided
  have present : system.rows.execution ≠ none := by
    intro absent
    rw [governed.uninvoked absent event member] at invoked
    cases invoked
  obtain ⟨approval, found, approved⟩ := governed.executed present
  obtain ⟨other, same, rejected⟩ := governed.rejected payloadHash artifactHash decided
  obtain rfl := Option.some.inj (found.symm.trans same)
  cases approved.symm.trans rejected

/-- However calls interleave, the mutation of an action request is invoked at most once. Before it an
approval of exactly its payload and its simulated artifact was committed, and no rejection ever is. -/
theorem mutation_invoked_once {start : System Json} (requested : Requested start)
    (reached : Reachable (Step hashes registry connector) start system) :
    (system.history.filter Event.isInvocation).length ≤ 1 ∧
      ∀ later request simulation earlier,
        system.history = later ++ .mutationInvoked request simulation :: earlier →
          Approved hashes request simulation earlier ∧
            ∀ payloadHash artifactHash,
              .decided .rejected payloadHash artifactHash ∉ system.history := by
  have governed := governed_of_reachable requested reached
  refine ⟨governed.lawful.at_most_once, fun later request simulation earlier split => ⟨?_, ?_⟩⟩
  · have lawful := governed.lawful
    rw [split] at lawful
    exact lawful.warranted.1
  · have member : .mutationInvoked request simulation ∈ system.history := by
      rw [split]
      exact List.mem_append_right _ (.head _)
    exact governed.never_rejected member rfl

theorem mutation_invoked_once_deletion :
    ∃ system, Reachable deletionStep deletion system ∧ system.history.length = 2 ∧
      (system.history.filter Event.isInvocation).length ≤ 1 := by
  obtain ⟨system, reached, -, recorded⟩ := deletion_completes
  exact ⟨system, reached, recorded, (mutation_invoked_once deletion_requested reached).1⟩

end AiOffice.Application.Capability
