import AiOffice.Application.AgentKnowledge.ManageKnowledgeAdmission.Planning
import AiOffice.Application.AgentKnowledge.ManageKnowledgeAdmission.Protocol
import AiOffice.Transition.Run

namespace AiOffice.Application.AgentKnowledge

open Data Domain Domain.IsoDate Transition

structure Holds (tenantId : String) (plan : KnowledgeAdmissionPlan) (record : KnowledgeRecord) : Prop where
  key : record.key = plan.key tenantId
  text : record.text = plan.text
  title : record.title = plan.title
  source : record.source = plan.source
  createdAt : ∀ text, plan.createdAt = some text → toISOString record.createdAt = text
  provenance : planProvenance record.provenance = plan.provenance

def StoreHolds (store : KnowledgeStore) (tenantId : String) (plan : KnowledgeAdmissionPlan) : Prop :=
  ∃ record, store.trace (plan.key tenantId) = some (traceOf record) ∧ Holds tenantId plan record

def Unclaimed (store : KnowledgeStore) (tenantId : String) (plan : KnowledgeAdmissionPlan) : Prop :=
  ∀ record, store.trace (plan.key tenantId) = some (traceOf record) → Holds tenantId plan record

def ApartFrom (sha256 : Value → String) (tenantId : String) (plan : KnowledgeAdmissionPlan)
    (calls : List AdmissionCall) : Prop :=
  ∀ call ∈ calls, sha256 (call.plan.hashed call.tenantId) = sha256 (plan.hashed tenantId) →
    call.plan.hashed call.tenantId = plan.hashed tenantId

def DigestsApart (sha256 : Value → String) (calls : List AdmissionCall) : Prop :=
  ∀ call ∈ calls, ApartFrom sha256 call.tenantId call.plan calls

def AdmissionPhase.isApproved : AdmissionPhase → Bool
  | .approving | .ended (.error _) => false
  | _ => true

def AdmissionPhase.isVerified : AdmissionPhase → Bool
  | .recording _ | .ended (.ok _) => true
  | _ => false

def AdmissionPhase.remaining : AdmissionPhase → Nat
  | .approving => 5
  | .looking => 4
  | .writing => 3
  | .checking => 2
  | .recording _ | .failing _ => 1
  | .ended _ => 0

def AdmissionLabel.isOf (caller : Nat) : AdmissionLabel → Bool
  | .proceed other _ => other = caller
  | .start _ _ _ => false

def Working (caller : Nat) (labels : List AdmissionLabel) : Prop :=
  ∀ fault, .proceed caller fault ∈ labels → fault = .works

variable {sha256 : Value → String} {knowledge : Option String} {state before after : Admissions}
  {label : AdmissionLabel} {call other : AdmissionCall} {caller : Nat} {fault : Fault} {store : KnowledgeStore}
  {record : KnowledgeRecord} {tenantId : String} {plan : KnowledgeAdmissionPlan} {key : KnowledgeKey}

section Store

theorem traceOf_injective : traceOf.Injective := fun _ _ same => congrArg KnowledgeTrace.knowledge same

theorem trace_write : (store.write record).trace key = if record.key = key then some (traceOf record) else store.trace key := by
  by_cases same : record.key = key
  · simp [KnowledgeStore.write, KnowledgeStore.trace, same]
  · simp only [KnowledgeStore.write, KnowledgeStore.trace, List.find?_cons, same, decide_false, List.find?_filter,
      if_false]
    congr 2
    funext other
    by_cases found : other.key = key
    · simp [found, Ne.symm same]
    · simp [found]

theorem dateOf_text {text : String} (dated : ∃ time, validTime time = true ∧ text = toISOString time) :
    toISOString (dateOf text) = text := by
  obtain ⟨time, valid, rfl⟩ := dated
  rw [dateOf, readDate_toISOString valid, Option.getD_some]

theorem recordOf_holds (dated : Dated plan.toKnowledgeAdmissionProposal) (admittedAt : Date) :
    Holds tenantId plan (recordOf tenantId plan admittedAt) where
  key := rfl
  text := rfl
  title := rfl
  source := rfl
  createdAt text created := by
    simp only [recordOf, created, Option.map_some, Option.getD_some]
    exact dateOf_text (dated.createdAt text created)
  provenance := by
    simp only [recordOf]
    cases provenance : plan.provenance with
    | handover confirmationId fingerprint scanId text =>
      simp only [recordProvenance, planProvenance, dateOf_text (dated.confirmedAt _ _ _ _ provenance)]
    | _ => rfl

theorem provenance_runId (provenance : KnowledgeProvenance) :
    provenance.runId = (planProvenance provenance).runId ∧ provenance.taskId = (planProvenance provenance).taskId ∧
      provenance.agentId = (planProvenance provenance).agentId := by
  cases provenance <;> exact ⟨rfl, rfl, rfl⟩

theorem agentRun_iff {provenance : KnowledgeProvenance} {runId taskId agentId : String} :
    planProvenance provenance = .agentRun runId taskId agentId ↔
      provenance.runId = some runId ∧ provenance.taskId = some taskId ∧ provenance.agentId = some agentId := by
  cases provenance <;> simp [planProvenance, KnowledgeProvenance.runId, KnowledgeProvenance.taskId,
    KnowledgeProvenance.agentId]

theorem assertTrace_iff : assertTrace tenantId (traceOf record) plan = true ↔ Holds tenantId plan record := by
  obtain ⟨runs, tasks, agents⟩ := provenance_runId record.provenance
  have keys : record.key = plan.key tenantId ↔ record.tenantId = tenantId ∧ record.repositoryId = plan.repositoryId ∧
      record.kind = plan.kind ∧ record.id = plan.id := by
    simp [KnowledgeRecord.key, KnowledgeAdmissionPlan.key]
  have dates : plan.createdAt.all (toISOString record.createdAt = ·) = true ↔
      ∀ text, plan.createdAt = some text → toISOString record.createdAt = text := by
    simp [Option.all_eq_true]
  constructor
  · intro passed
    simp only [assertTrace, Bool.and_eq_true, decide_eq_true_eq] at passed
    simp only [traceOf] at passed
    obtain ⟨⟨⟨⟨⟨⟨⟨⟨⟨⟨⟨⟨⟨⟨⟨id, kind⟩, text⟩, title⟩, runId⟩, taskId⟩, agentId⟩, -⟩, -⟩, -⟩, repositoryId⟩, tenant⟩, -⟩,
      source⟩, created⟩, last⟩ := passed
    refine ⟨keys.mpr ⟨tenant, repositoryId, kind, id⟩, text, title, source, dates.mp created, ?_⟩
    cases provenance : plan.provenance with
    | agentRun run task agent =>
      rw [provenance] at runId taskId agentId
      exact agentRun_iff.mpr ⟨runId, taskId, agentId⟩
    | handover => simp_all
    | operatorConfirmed => simp_all
  · intro holds
    obtain ⟨tenant, repositoryId, kind, id⟩ := keys.mp holds.key
    have created := dates.mpr holds.createdAt
    have same := holds.provenance
    simp only [assertTrace, Bool.and_eq_true, decide_eq_true_eq]
    simp only [traceOf, tenant, repositoryId, kind, id, holds.text,
      holds.title, holds.source, created, runs, tasks, agents, same, true_and]
    cases provenance : plan.provenance <;> simp [KnowledgePlanProvenance.runId]

end Store

section Steps

theorem step_cases (step : AdmissionStep sha256 knowledge before label after) :
    ((∀ caller, label.isOf caller = false) ∧ after = before) ∨
    (∃ tenantId plan reviewedBy now, (∀ caller, label.isOf caller = false) ∧ knowledge = some tenantId ∧
      Planned sha256 tenantId plan ∧
      after = { before with calls := before.calls ++ [⟨tenantId, plan, reviewedBy, now, .approving⟩] }) ∨
    ∃ caller fault call, label = .proceed caller fault ∧ before.calls[caller]? = some call ∧
      (∀ result, call.phase ≠ .ended result) ∧ after = before.proceed call fault caller := by
  cases label with
  | start admission reads now =>
    simp only [AdmissionStep, Admissions.step] at step
    split at step
    · next returned =>
        obtain ⟨tenant, connected, planned⟩ := approved_planned returned
        cases step
        cases connected
        exact .inr (.inl ⟨_, _, _, _, fun _ => rfl, rfl, planned, rfl⟩)
    · cases step
      exact .inl ⟨fun _ => rfl, rfl⟩
  | proceed caller fault =>
    simp only [AdmissionStep, Admissions.step] at step
    cases located : before.calls[caller]? with
    | none => simp [located] at step
    | some call =>
      simp only [located] at step
      split at step
      · cases step
      · next running =>
          cases step
          exact .inr (.inr ⟨caller, fault, call, rfl, located, running, rfl⟩)

theorem proceed_mem (member : other ∈ (before.proceed call fault caller).calls) :
    other ∈ before.calls ∨ other = { call with phase := call.nextPhase before.store fault } :=
  List.mem_or_eq_of_mem_set member

theorem proceed_store : (before.proceed call fault caller).store = before.store ∨
    call.phase = .writing ∧ (before.proceed call fault caller).store = before.store.write call.record := by
  unfold Admissions.proceed
  by_cases writes : fault.commits = true ∧ call.phase = .writing
  · exact .inr ⟨writes.2, if_pos writes⟩
  · exact .inl (if_neg writes)

theorem proceed_audit {event : AuditEvent} (member : event ∈ (before.proceed call fault caller).audit) :
    event ∈ before.audit ∨ ∃ eventType, call.appends = some eventType ∧ event = call.event eventType := by
  unfold Admissions.proceed at member
  dsimp only at member
  split at member
  · rcases List.mem_append.mp member with earlier | appended
    · exact .inl earlier
    · rw [Option.mem_toList] at appended
      obtain ⟨eventType, appends, rfl⟩ := Option.map_eq_some_iff.mp appended
      exact .inr ⟨eventType, appends, rfl⟩
  · exact .inl member

theorem audit_grows {event : AuditEvent} (member : event ∈ before.audit) :
    event ∈ (before.proceed call fault caller).audit := by
  unfold Admissions.proceed
  dsimp only
  split
  · exact List.mem_append_left _ member
  · exact member

def Stays (before after : Admissions) : Prop :=
  ∀ call ∈ before.calls, ∃ later ∈ after.calls, later = { call with phase := later.phase }

theorem calls_stay (step : AdmissionStep sha256 knowledge before label after) : Stays before after := by
  intro other member
  rcases step_cases step with ⟨-, rfl⟩ | ⟨_, _, _, _, -, -, -, rfl⟩ | ⟨caller, fault, call, -, located, -, rfl⟩
  · exact ⟨other, member, rfl⟩
  · exact ⟨other, List.mem_append_left _ member, rfl⟩
  · obtain ⟨index, found⟩ := List.getElem?_of_mem member
    by_cases same : index = caller
    · subst same
      obtain rfl := Option.some.inj (found.symm.trans located)
      have within := (List.getElem?_eq_some_iff.mp found).1
      exact ⟨_, List.mem_set within _, rfl⟩
    · exact ⟨other, List.mem_of_getElem? ((List.getElem?_set_ne (Ne.symm same)).trans found), rfl⟩

theorem calls_stay_run {labels : List AdmissionLabel} (run : Run (AdmissionStep sha256 knowledge) before labels after) :
    Stays before after := by
  induction run with
  | nil => exact fun call member => ⟨call, member, rfl⟩
  | snoc _ last ih =>
    intro call member
    obtain ⟨middle, there, same⟩ := ih call member
    obtain ⟨later, stays, unchanged⟩ := calls_stay last middle there
    exact ⟨later, stays, by rw [unchanged, same]⟩

theorem ApartFrom.earlier (apart : ApartFrom sha256 tenantId plan after.calls) (stays : Stays before after) :
    ApartFrom sha256 tenantId plan before.calls := by
  intro call member same
  obtain ⟨later, there, unchanged⟩ := stays call member
  have apart := apart later there
  rw [unchanged] at apart
  exact apart same

theorem DigestsApart.from (apart : DigestsApart sha256 after.calls) (stays : Stays before after)
    (member : call ∈ before.calls) : ApartFrom sha256 call.tenantId call.plan after.calls := by
  obtain ⟨later, there, unchanged⟩ := stays call member
  have apart := apart later there
  rw [unchanged] at apart
  exact apart

theorem DigestsApart.earlier (apart : DigestsApart sha256 after.calls)
    (step : AdmissionStep sha256 knowledge before label after) : DigestsApart sha256 before.calls :=
  fun _ member => (apart.from (calls_stay step) member).earlier (calls_stay step)

end Steps

section Plans

def AllPlanned (sha256 : Value → String) (knowledge : Option String) (state : Admissions) : Prop :=
  ∀ call ∈ state.calls, knowledge = some call.tenantId ∧ Planned sha256 call.tenantId call.plan

theorem AllPlanned.step (planned : AllPlanned sha256 knowledge before)
    (step : AdmissionStep sha256 knowledge before label after) : AllPlanned sha256 knowledge after := by
  rcases step_cases step with ⟨-, rfl⟩ | ⟨_, _, _, _, -, connected, planned', rfl⟩ | ⟨caller, fault, call, -, located, -, rfl⟩
  · exact planned
  · intro other member
    rcases List.mem_append.mp member with earlier | new
    · exact planned other earlier
    · cases List.mem_singleton.mp new
      exact ⟨connected, planned'⟩
  · intro other member
    rcases proceed_mem member with earlier | rfl
    · exact planned other earlier
    · exact planned call (List.mem_of_getElem? located)

theorem planId_injective : planId.Injective := by
  intro left right same
  have chars := congrArg String.toList same
  have rest : (toString left).toList = (toString right).toList := by simpa [planId] using chars
  exact String.toList_injective rest

theorem Planned.id (planned : Planned sha256 tenantId plan) : plan.id = planId (sha256 (plan.hashed tenantId)) :=
  congrArg KnowledgeAdmissionPlan.id planned.hashes

theorem record_holds (planned : AllPlanned sha256 knowledge state) (connected : knowledge = some tenantId)
    (plans : Planned sha256 tenantId plan) (apart : ApartFrom sha256 tenantId plan state.calls)
    (here : call ∈ state.calls) (same : call.record.key = plan.key tenantId) : Holds tenantId plan call.record := by
  obtain ⟨connectedToo, first⟩ := planned call here
  have tenants : call.tenantId = tenantId := Option.some.inj (connectedToo.symm.trans connected)
  have ids : call.plan.id = plan.id := congrArg KnowledgeKey.id same
  rw [first.id, plans.id] at ids
  have texts := apart call here (planId_injective ids)
  rw [tenants] at texts first
  have proposals := hashed_injective texts
  have one : call.plan = plan := by rw [first.hashes, plans.hashes, proposals]
  rw [AdmissionCall.record, one, tenants]
  exact recordOf_holds plans.dated call.admittedAt

theorem StoreHolds.write (holds : StoreHolds store tenantId plan)
    (same : record.key = plan.key tenantId → Holds tenantId plan record) :
    StoreHolds (store.write record) tenantId plan := by
  obtain ⟨stored, traced, content⟩ := holds
  by_cases written : record.key = plan.key tenantId
  · exact ⟨record, by rw [trace_write, if_pos written], same written⟩
  · exact ⟨stored, by rw [trace_write, if_neg written, traced], content⟩

theorem Unclaimed.write (unclaimed : Unclaimed store tenantId plan)
    (same : record.key = plan.key tenantId → Holds tenantId plan record) :
    Unclaimed (store.write record) tenantId plan := by
  intro stored traced
  rw [trace_write] at traced
  split at traced
  · next written =>
      cases traceOf_injective (Option.some.inj traced)
      exact same written
  · exact unclaimed stored traced

theorem StoreHolds.proceed (planned : AllPlanned sha256 knowledge before) (connected : knowledge = some tenantId)
    (plans : Planned sha256 tenantId plan) (apart : ApartFrom sha256 tenantId plan before.calls)
    (here : call ∈ before.calls) (holds : StoreHolds before.store tenantId plan) :
    StoreHolds (before.proceed call fault caller).store tenantId plan := by
  rcases @proceed_store before call caller fault with same | ⟨-, same⟩
  · rw [same]
    exact holds
  · rw [same]
    exact holds.write fun written => record_holds planned connected plans apart here written

theorem Unclaimed.step (planned : AllPlanned sha256 knowledge before) (connected : knowledge = some tenantId)
    (plans : Planned sha256 tenantId plan) (apart : ApartFrom sha256 tenantId plan before.calls)
    (unclaimed : Unclaimed before.store tenantId plan) (step : AdmissionStep sha256 knowledge before label after) :
    Unclaimed after.store tenantId plan := by
  rcases step_cases step with ⟨-, rfl⟩ | ⟨_, _, _, _, -, -, -, rfl⟩ | ⟨caller, fault, call, -, located, -, rfl⟩
  · exact unclaimed
  · exact unclaimed
  · rcases @proceed_store before call caller fault with same | ⟨-, same⟩
    · rw [same]
      exact unclaimed
    · rw [same]
      exact unclaimed.write fun written =>
        record_holds planned connected plans apart (List.mem_of_getElem? located) written

end Plans

section Approvals

def Approvals (state : Admissions) : Prop :=
  ∀ call ∈ state.calls, call.phase.isApproved = true → call.event .approved ∈ state.audit

theorem Approvals.step (approvals : Approvals before) (step : AdmissionStep sha256 knowledge before label after) :
    Approvals after := by
  rcases step_cases step with ⟨-, rfl⟩ | ⟨_, _, _, _, -, -, -, rfl⟩ | ⟨caller, fault, call, -, located, running, rfl⟩
  · exact approvals
  · intro other member approved
    rcases List.mem_append.mp member with earlier | new
    · exact approvals other earlier approved
    · cases List.mem_singleton.mp new
      cases approved
  · intro other member approved
    rcases proceed_mem member with earlier | rfl
    · exact audit_grows (approvals other earlier approved)
    · have stored := List.mem_of_getElem? located
      cases phase : call.phase with
      | approving =>
        -- Only an approval that committed leads on.
        cases fault with
        | works =>
          simp [Admissions.proceed, Fault.commits, AdmissionCall.appends, phase]
          exact .inr rfl
        | afterCommit => simp [AdmissionCall.nextPhase, phase, AdmissionPhase.isApproved] at approved
        | beforeCommit => simp [AdmissionCall.nextPhase, phase, AdmissionPhase.isApproved] at approved
      | ended result => exact absurd phase (running result)
      | _ => exact audit_grows (approvals call stored (by rw [phase]; rfl))

end Approvals

section Truth

structure Truthful (state : Admissions) : Prop where
  verified : ∀ call ∈ state.calls, call.phase.isVerified = true → StoreHolds state.store call.tenantId call.plan
  recorded : ∀ event ∈ state.audit, ∀ outcome time, event.eventType = .recorded outcome time →
    ∃ call ∈ state.calls, call.plan.id = event.aggregateId ∧ StoreHolds state.store call.tenantId call.plan

theorem trace_some {trace : KnowledgeTrace} (found : store.trace key = some trace) : ∃ record, trace = traceOf record := by
  obtain ⟨record, -, rfl⟩ := Option.map_eq_some_iff.mp found
  exact ⟨record, rfl⟩

theorem traced_verified {missing : AdmissionPhase} {outcome : AdmissionOutcome} (other : missing.isVerified = false)
    (verified : (call.traced store missing outcome).isVerified = true) : StoreHolds store call.tenantId call.plan := by
  unfold AdmissionCall.traced at verified
  cases found : store.trace call.key with
  | none => simp [found, other] at verified
  | some trace =>
    obtain ⟨record, rfl⟩ := trace_some found
    simp only [found] at verified
    split at verified
    · next passed => exact ⟨record, found, assertTrace_iff.mp passed⟩
    · cases verified

theorem nextPhase_verified (running : ∀ result, call.phase ≠ .ended result)
    (known : call.phase.isVerified = true → StoreHolds store call.tenantId call.plan)
    (verified : (call.nextPhase store fault).isVerified = true) : StoreHolds store call.tenantId call.plan := by
  unfold AdmissionCall.nextPhase at verified
  cases phase : call.phase with
  | recording outcome => exact known (by rw [phase]; rfl)
  | ended result => exact absurd phase (running result)
  | looking =>
    simp only [phase] at verified
    split at verified
    · exact traced_verified rfl verified
    · cases verified
  | checking =>
    simp only [phase] at verified
    split at verified
    · exact traced_verified rfl verified
    · cases verified
  | approving => simp only [phase] at verified; split at verified <;> cases verified
  | writing => simp only [phase] at verified; split at verified <;> cases verified
  | failing code => simp [phase, AdmissionPhase.isVerified] at verified

theorem Truthful.step (truthful : Truthful before) (planned : AllPlanned sha256 knowledge before)
    (apart : DigestsApart sha256 before.calls) (step : AdmissionStep sha256 knowledge before label after) :
    Truthful after := by
  have stays := @calls_stay sha256 knowledge before after label
  rcases step_cases step with ⟨-, rfl⟩ | ⟨_, _, _, _, -, -, -, rfl⟩ | ⟨caller, fault, call, -, located, running, rfl⟩
  · exact truthful
  · refine ⟨fun other member verified => ?_, fun event member outcome time recorded => ?_⟩
    · rcases List.mem_append.mp member with earlier | new
      · exact truthful.verified other earlier verified
      · cases List.mem_singleton.mp new
        cases verified
    · obtain ⟨call, stored, same, holds⟩ := truthful.recorded event member outcome time recorded
      exact ⟨call, List.mem_append_left _ stored, same, holds⟩
  · have stored := List.mem_of_getElem? located
    have lasting : ∀ other ∈ before.calls, StoreHolds before.store other.tenantId other.plan →
        StoreHolds (before.proceed call fault caller).store other.tenantId other.plan := by
      intro other member holds
      obtain ⟨connected, plans⟩ := planned other member
      exact holds.proceed planned connected plans (apart other member) stored
    have lastingCall : ∀ other ∈ before.calls, StoreHolds before.store other.tenantId other.plan →
        ∃ later ∈ (before.proceed call fault caller).calls, later.plan.id = other.plan.id ∧
          StoreHolds (before.proceed call fault caller).store later.tenantId later.plan := by
      intro other member holds
      obtain ⟨later, there, unchanged⟩ := stays step other member
      refine ⟨later, there, by rw [unchanged], ?_⟩
      rw [unchanged]
      exact lasting other member holds
    refine ⟨fun other member verified => ?_, fun event member outcome time recorded => ?_⟩
    · rcases proceed_mem member with earlier | rfl
      · exact lasting other earlier (truthful.verified other earlier verified)
      · exact lasting call stored (nextPhase_verified running (truthful.verified call stored) verified)
    · rcases proceed_audit member with earlier | ⟨eventType, appends, rfl⟩
      · obtain ⟨other, there, same, holds⟩ := truthful.recorded event earlier outcome time recorded
        obtain ⟨later, stays, sameLater, holdsLater⟩ := lastingCall other there holds
        exact ⟨later, stays, sameLater.trans same, holdsLater⟩
      · have recording : call.phase.isVerified = true := by
          rw [show eventType = .recorded outcome time from recorded] at appends
          unfold AdmissionCall.appends at appends
          split at appends <;> simp_all [AdmissionPhase.isVerified]
        exact lastingCall call stored (truthful.verified call stored recording)

end Truth

section Retry

/-- An admission on its way to a record: what it wrote, it will find. -/
structure OnTrack (store : KnowledgeStore) (call : AdmissionCall) : Prop where
  failing : ∀ code, call.phase ≠ .failing code
  ended : ∀ code, call.phase ≠ .ended (.error code)
  wrote : call.phase = .checking → StoreHolds store call.tenantId call.plan

/-- A working operation of an admission that nothing else claims the id of leads on. -/
theorem OnTrack.next (onTrack : OnTrack before.store call) (dated : Dated call.plan.toKnowledgeAdmissionProposal)
    (running : ∀ result, call.phase ≠ .ended result) (unclaimed : Unclaimed before.store call.tenantId call.plan) :
    OnTrack (before.proceed call .works caller).store { call with phase := call.nextPhase before.store .works } ∧
      (call.nextPhase before.store .works).remaining < call.phase.remaining := by
  have passes (record : KnowledgeRecord) (found : before.store.trace call.key = some (traceOf record)) :
      assertTrace call.tenantId (traceOf record) call.plan = true := assertTrace_iff.mpr (unclaimed record found)
  cases phase : call.phase with
  | failing code => exact absurd phase (onTrack.failing code)
  | ended result => exact absurd phase (running result)
  | approving =>
    simp only [AdmissionCall.nextPhase, phase, if_true]
    exact ⟨⟨nofun, nofun, nofun⟩, by decide⟩
  | looking =>
    simp only [AdmissionCall.nextPhase, phase, if_true, AdmissionCall.traced]
    cases found : before.store.trace call.key with
    | none => exact ⟨⟨nofun, nofun, nofun⟩, by simp [AdmissionPhase.remaining]⟩
    | some trace =>
      obtain ⟨record, rfl⟩ := trace_some found
      simp only [passes record found, if_true]
      exact ⟨⟨nofun, nofun, nofun⟩, by simp [AdmissionPhase.remaining]⟩
  | writing =>
    simp only [AdmissionCall.nextPhase, phase, if_true]
    refine ⟨⟨nofun, nofun, fun _ => ?_⟩, by decide⟩
    have written : (before.proceed call .works caller).store = before.store.write call.record :=
      if_pos ⟨rfl, phase⟩
    rw [written]
    exact ⟨call.record, by rw [trace_write]; exact if_pos rfl, recordOf_holds dated call.admittedAt⟩
  | checking =>
    obtain ⟨record, found, -⟩ := onTrack.wrote phase
    have found : before.store.trace call.key = some (traceOf record) := found
    simp only [AdmissionCall.nextPhase, phase, if_true, AdmissionCall.traced, found, passes record found]
    exact ⟨⟨nofun, nofun, nofun⟩, by simp [AdmissionPhase.remaining]⟩
  | recording outcome =>
    simp only [AdmissionCall.nextPhase, phase, if_true]
    exact ⟨⟨nofun, nofun, nofun⟩, by simp [AdmissionPhase.remaining]⟩

/-- An admission whose operations work stays on its way, and each of them brings it nearer to its end. -/
theorem retry_run {retried final : Admissions} {labels : List AdmissionLabel} (planned : AllPlanned sha256 knowledge retried)
    (located : retried.calls[caller]? = some call) (starting : call.phase = .approving)
    (run : Run (AdmissionStep sha256 knowledge) retried labels final) (working : Working caller labels)
    (apart : DigestsApart sha256 final.calls) (unclaimed : Unclaimed retried.store call.tenantId call.plan) :
    AllPlanned sha256 knowledge final ∧ Unclaimed final.store call.tenantId call.plan ∧
      ∃ later, final.calls[caller]? = some later ∧ later.tenantId = call.tenantId ∧ later.plan = call.plan ∧
        OnTrack final.store later ∧ labels.countP (AdmissionLabel.isOf caller) + later.phase.remaining ≤ 5 := by
  induction run with
  | nil =>
    refine ⟨planned, unclaimed, call, located, rfl, rfl, ⟨?_, ?_, ?_⟩, ?_⟩ <;>
      simp [starting, AdmissionPhase.remaining]
  | @snoc labels label before after earlier last ih =>
    obtain ⟨plannedBefore, unclaimedBefore, later, there, tenants, plans, onTrack, steps⟩ :=
      ih (fun fault member => working fault (List.mem_append_left _ member)) (apart.earlier last)
    have stored := List.mem_of_getElem? there
    obtain ⟨connected, sound⟩ := plannedBefore later stored
    have apartBefore := (apart.earlier last) later stored
    rw [tenants, plans] at sound apartBefore
    rw [tenants] at connected
    refine ⟨plannedBefore.step last,
      unclaimedBefore.step plannedBefore connected sound apartBefore last, ?_⟩
    rw [List.countP_append, List.countP_singleton]
    rcases step_cases last with ⟨foreign, rfl⟩ | ⟨_, _, _, _, foreign, -, -, rfl⟩ |
      ⟨other, fault, mover, rfl, found, running, rfl⟩
    · rw [foreign, if_neg Bool.false_ne_true]
      exact ⟨later, there, tenants, plans, onTrack, steps⟩
    · rw [foreign, if_neg Bool.false_ne_true]
      have within := (List.getElem?_eq_some_iff.mp there).1
      exact ⟨later, (List.getElem?_append_left within).trans there, tenants, plans, onTrack, steps⟩
    · by_cases own : other = caller
      · subst own
        obtain rfl := Option.some.inj (found.symm.trans there)
        obtain rfl := working fault (List.mem_append_right _ (List.mem_singleton_self _))
        rw [← tenants, ← plans] at unclaimedBefore
        rw [← tenants, ← plans] at sound
        obtain ⟨further, nearer⟩ := @OnTrack.next before mover other onTrack sound.dated running unclaimedBefore
        have within := (List.getElem?_eq_some_iff.mp found).1
        refine ⟨_, List.getElem?_set_self within, tenants, plans, further, ?_⟩
        simp only [AdmissionLabel.isOf, decide_true, if_true]
        omega
      · refine ⟨later, (List.getElem?_set_ne own).trans there, tenants, plans, ⟨onTrack.failing, onTrack.ended, fun checking => ?_⟩, ?_⟩
        · have wrote := onTrack.wrote checking
          rw [tenants, plans] at wrote ⊢
          exact wrote.proceed plannedBefore connected sound apartBefore (List.mem_of_getElem? found)
        · simpa [AdmissionLabel.isOf, own] using steps

end Retry

structure Opening (start : Admissions) : Prop where
  audit : start.audit = []
  calls : start.calls = []

theorem reached_sound {start : Admissions} (opening : Opening start)
    (reached : Reachable (AdmissionStep sha256 knowledge) start state) :
    AllPlanned sha256 knowledge state ∧ Approvals state ∧ (DigestsApart sha256 state.calls → Truthful state) ∧
      ∀ tenantId plan, knowledge = some tenantId → Planned sha256 tenantId plan →
        ApartFrom sha256 tenantId plan state.calls → Unclaimed start.store tenantId plan →
          Unclaimed state.store tenantId plan := by
  refine reached.invariant (fun state => AllPlanned sha256 knowledge state ∧ Approvals state ∧
      (DigestsApart sha256 state.calls → Truthful state) ∧ ∀ tenantId plan, knowledge = some tenantId →
        Planned sha256 tenantId plan → ApartFrom sha256 tenantId plan state.calls →
          Unclaimed start.store tenantId plan → Unclaimed state.store tenantId plan) ⟨?_, ?_, ?_, ?_⟩ ?_
  · simp [AllPlanned, opening.calls]
  · simp [Approvals, opening.calls]
  · intro _
    exact ⟨by simp [opening.calls], by simp [opening.audit]⟩
  · exact fun _ _ _ _ _ unclaimed => unclaimed
  · intro before label after ⟨planned, approvals, truthful, unclaimed⟩ step
    refine ⟨planned.step step, approvals.step step, fun apart => ?_, fun tenantId plan connected plans apart initially => ?_⟩
    · exact (truthful (apart.earlier step)).step planned (apart.earlier step) step
    · have earlier := apart.earlier (calls_stay step)
      exact (unclaimed tenantId plan connected plans earlier initially).step planned connected plans earlier step

/-- Writes are approved first, what is reported is in the store, a retry whose operations work ends well, and the
order of the evidence does not matter. -/
theorem knowledge_admission_truthful {start : Admissions} (opening : Opening start)
    (reached : Reachable (AdmissionStep sha256 knowledge) start state) :
    (∀ call ∈ state.calls, call.phase = .writing →
      ∃ event ∈ state.audit, event.aggregateId = call.plan.id ∧ event.eventType = .approved) ∧
    (∀ label after, AdmissionStep sha256 knowledge state label after → after.store = state.store ∨
      ∃ call ∈ state.calls, call.phase = .writing ∧ after.store = state.store.write call.record) ∧
    (DigestsApart sha256 state.calls →
      (∀ call ∈ state.calls, ∀ outcome, call.phase = .ended (.ok outcome) →
        StoreHolds state.store call.tenantId call.plan) ∧
      ∀ event ∈ state.audit, ∀ outcome time, event.eventType = .recorded outcome time →
        ∃ call ∈ state.calls, call.plan.id = event.aggregateId ∧
          StoreHolds state.store call.tenantId call.plan) ∧
    (∀ admission reads now tenantId plan retried labels after, knowledge = some tenantId →
      approved sha256 knowledge reads admission = .ok plan → Unclaimed start.store tenantId plan →
      AdmissionStep sha256 knowledge state (.start admission reads now) retried →
      Run (AdmissionStep sha256 knowledge) retried labels after → Working state.calls.length labels →
      DigestsApart sha256 after.calls →
      ∃ call, after.calls[state.calls.length]? = some call ∧ call.plan = plan ∧
        labels.countP (AdmissionLabel.isOf state.calls.length) ≤ 5 ∧
        ((∃ outcome, call.phase = .ended (.ok outcome)) ∨
          labels.countP (AdmissionLabel.isOf state.calls.length) < 5 ∧
            (after.step sha256 knowledge (.proceed state.calls.length .works)).isSome = true)) ∧
    ∀ reads (input : KnowledgeAdmissionInput) confirmedBy cited others, List.Perm cited others →
      AgentKnowledge.plan sha256 knowledge reads { input with source := some (.operatorConfirmed confirmedBy cited) } =
        AgentKnowledge.plan sha256 knowledge reads
          { input with source := some (.operatorConfirmed confirmedBy others) } := by
  obtain ⟨planned, approvals, truthful, unclaimed⟩ := reached_sound opening reached
  refine ⟨fun call member writing => ?_, fun label after step => ?_, fun apart => ?_, ?_,
    fun reads input confirmedBy cited others reordered => plan_reordered reordered⟩
  · exact ⟨call.event .approved, approvals call member (by rw [writing]; rfl), rfl, rfl⟩
  · rcases step_cases step with ⟨-, rfl⟩ | ⟨_, _, _, _, -, -, -, rfl⟩ | ⟨caller, fault, call, -, located, -, rfl⟩
    · exact .inl rfl
    · exact .inl rfl
    · rcases @proceed_store state call caller fault with same | ⟨writing, same⟩
      · exact .inl same
      · exact .inr ⟨call, List.mem_of_getElem? located, writing, same⟩
  · have truthful := truthful apart
    refine ⟨fun call member outcome ended => truthful.verified call member (by rw [ended]; rfl), truthful.recorded⟩
  · intro admission reads now tenantId plan retried labels after connected returned initially started run working apart
    obtain ⟨_, connectedToo, plans⟩ := approved_planned returned
    obtain rfl := Option.some.inj (connected.symm.trans connectedToo)
    subst connected
    have same : retried = { state with calls := state.calls ++ [⟨tenantId, plan, admission.reviewedBy, now, .approving⟩] } := by
      simp only [AdmissionStep, Admissions.step, returned, Option.some.injEq] at started
      exact started.symm
    have located : retried.calls[state.calls.length]? =
        some ⟨tenantId, plan, admission.reviewedBy, now, .approving⟩ := by
      rw [same]
      exact List.getElem?_concat_length
    have apartFrom : ApartFrom sha256 tenantId plan retried.calls :=
      (apart.from (calls_stay_run run) (List.mem_of_getElem? located)).earlier (calls_stay_run run)
    have free := unclaimed tenantId plan rfl plans (apartFrom.earlier (calls_stay started)) initially
    obtain ⟨-, -, final, found, -, samePlan, onTrack, steps⟩ :=
      retry_run (planned.step started) located rfl run working apart (same ▸ free)
    refine ⟨final, found, samePlan, by omega, ?_⟩
    cases phase : final.phase with
    | ended result =>
      cases result with
      | ok outcome => exact .inl ⟨outcome, rfl⟩
      | error code => exact absurd phase (onTrack.ended code)
    | failing code => exact absurd phase (onTrack.failing code)
    | _ =>
      refine .inr ⟨?_, by simp [Admissions.step, found, phase]⟩
      rw [phase] at steps
      simp only [AdmissionPhase.remaining] at steps
      omega

section Example

def citedInput : KnowledgeAdmissionInput where
  projectId := "project"
  runId := none
  source := some (.operatorConfirmed "operator" [⟨"task", "task"⟩, ⟨"adr", "decision"⟩])
  kind := .memory
  title := none
  text := "Runs are isolated"

def citedReads : AdmissionReads where
  projectFound := true
  repositoryId := some "repository"
  run := none
  taskProject := fun _ => some "project"
  agentProject := fun _ => none
  factsFingerprint := none
  recordedReview := none
  requirements := []
  adrs := [⟨"decision", "project", true⟩]
  reviews := []

def citedDigest : Value → String
  | .array _ => "6173aac93be23ada29a971dcdb397333b7cf4ec01059d91160ef4b97ba91ea75"
  | _ => "bb7fbe237e9a6d81918fce913c193123e155c33e913182ebc983b94800938e99"

def citedPlan : KnowledgeAdmissionPlan :=
  let evidence : List KnowledgeEvidenceReference := [⟨⟨.adr, "decision"⟩, "ADR decision"⟩, ⟨⟨.task, "task"⟩, "Task task"⟩]
  let source : KnowledgeSourceReference := ⟨"operator", "operator", "Operator confirmation by operator",
    "sha256:6173aac93be23ada29a971dcdb397333b7cf4ec01059d91160ef4b97ba91ea75"⟩
  let proposal : KnowledgeAdmissionProposal := ⟨"project", "repository", .memory, none, "Runs are isolated", source, none,
    .operatorConfirmed "operator" evidence⟩
  proposal.plan citedDigest "tenant"

def citedAdmission : KnowledgeAdmission := ⟨citedInput, citedPlan.planHash, "operator"⟩

def citedCall (admittedAt : Date) (phase : AdmissionPhase) : AdmissionCall :=
  ⟨"tenant", citedPlan, "operator", admittedAt, phase⟩

/-- The log, the store and the first call after its write was committed and threw. -/
def lostWrite (later : List AdmissionCall) : Admissions where
  audit := [(citedCall 1 .approving).event .approved]
  store := [recordOf "tenant" citedPlan 1]
  calls := citedCall 1 (.failing .admissionOutcomeUnknown) :: later

/-- The same after a second call, which found the record and has to report it. -/
def foundAgain : Admissions where
  audit := [(citedCall 1 .approving).event .approved, (citedCall 2 .approving).event .approved]
  store := [recordOf "tenant" citedPlan 1]
  calls := [citedCall 1 (.failing .admissionOutcomeUnknown), citedCall 2 (.recording .reconciled)]

def reconciledAgain : Admissions where
  audit := foundAgain.audit ++ [(citedCall 2 .approving).event (.recorded .reconciled 2)]
  store := [recordOf "tenant" citedPlan 1]
  calls := [citedCall 1 (.failing .admissionOutcomeUnknown), citedCall 2 (.ended (.ok .reconciled))]

theorem lostWrite_reachable :
    Reachable (AdmissionStep citedDigest (some "tenant")) ⟨[], [], []⟩ (lostWrite []) := by
  have started : AdmissionStep citedDigest (some "tenant") ⟨[], [], []⟩ (.start citedAdmission citedReads 1)
      ⟨[], [], [citedCall 1 .approving]⟩ := rfl
  have approved : AdmissionStep citedDigest (some "tenant") ⟨[], [], [citedCall 1 .approving]⟩ (.proceed 0 .works)
      ⟨[(citedCall 1 .approving).event .approved], [], [citedCall 1 .looking]⟩ := rfl
  have looked : AdmissionStep citedDigest (some "tenant")
      ⟨[(citedCall 1 .approving).event .approved], [], [citedCall 1 .looking]⟩ (.proceed 0 .works)
      ⟨[(citedCall 1 .approving).event .approved], [], [citedCall 1 .writing]⟩ := rfl
  have lost : AdmissionStep citedDigest (some "tenant")
      ⟨[(citedCall 1 .approving).event .approved], [], [citedCall 1 .writing]⟩ (.proceed 0 .afterCommit)
      (lostWrite []) := rfl
  exact ((((Reachable.refl _).snoc started).snoc approved).snoc looked).snoc lost

theorem lostWrite_retried : Run (AdmissionStep citedDigest (some "tenant")) (lostWrite [citedCall 2 .approving])
    [.proceed 1 .works, .proceed 1 .works, .proceed 1 .works] reconciledAgain := by
  have approved : AdmissionStep citedDigest (some "tenant") (lostWrite [citedCall 2 .approving]) (.proceed 1 .works)
      { foundAgain with calls := [citedCall 1 (.failing .admissionOutcomeUnknown), citedCall 2 .looking] } := rfl
  have looked : AdmissionStep citedDigest (some "tenant")
      { foundAgain with calls := [citedCall 1 (.failing .admissionOutcomeUnknown), citedCall 2 .looking] }
      (.proceed 1 .works) foundAgain := rfl
  have recorded : AdmissionStep citedDigest (some "tenant") foundAgain (.proceed 1 .works) reconciledAgain := rfl
  exact ((Run.nil.snoc approved).snoc looked).snoc recorded

theorem lost_write_reconciles :
    (∃ call, reconciledAgain.calls[1]? = some call ∧ call.plan = citedPlan ∧
      (∃ outcome, call.phase = .ended (.ok outcome))) ∧
    StoreHolds reconciledAgain.store "tenant" citedPlan := by
  have retried : AdmissionStep citedDigest (some "tenant") (lostWrite []) (.start citedAdmission citedReads 2)
      (lostWrite [citedCall 2 .approving]) := rfl
  have apart : DigestsApart citedDigest reconciledAgain.calls := by
    simp [DigestsApart, ApartFrom, reconciledAgain, citedCall]
  obtain ⟨-, -, -, retry, -⟩ := knowledge_admission_truthful ⟨rfl, rfl⟩ lostWrite_reachable
  obtain ⟨call, located, plans, -, ends⟩ := retry citedAdmission citedReads 2 "tenant" citedPlan _ _ _ rfl rfl nofun
    retried lostWrite_retried (by simp [Working, lostWrite]) apart
  obtain ⟨labels, run⟩ := lostWrite_reachable.snoc retried
  obtain ⟨-, -, verified, -, -⟩ := knowledge_admission_truthful ⟨rfl, rfl⟩
    (⟨_, run.append lostWrite_retried⟩ : Reachable (AdmissionStep citedDigest (some "tenant")) ⟨[], [], []⟩ reconciledAgain)
  refine ⟨⟨call, located, plans, ?_⟩, ?_⟩
  · rcases ends with ended | ⟨-, further⟩
    · exact ended
    · simp [Admissions.step, reconciledAgain, citedCall, lostWrite] at further
  · exact (verified apart).1 (citedCall 2 (.ended (.ok .reconciled))) (by simp [reconciledAgain]) .reconciled rfl

end Example

end AiOffice.Application.AgentKnowledge
