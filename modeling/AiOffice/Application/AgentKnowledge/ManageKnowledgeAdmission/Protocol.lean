import AiOffice.Application.AgentKnowledge.ManageKnowledgeAdmission

namespace AiOffice.Application.AgentKnowledge

open Domain Domain.IsoDate

inductive KnowledgeProvenance
  | agentRun (runId taskId agentId : String)
  | handover (confirmationId fingerprint : String) (scanId : Option String) (confirmedAt : Date)
  | operatorConfirmed (confirmedBy : String) (evidence : List KnowledgeEvidenceReference)

structure KnowledgeRecord where
  tenantId : String
  repositoryId : String
  id : String
  kind : KnowledgeAdmissionKind
  text : String
  title : Option String
  source : KnowledgeSourceReference
  createdAt : Date
  provenance : KnowledgeProvenance

/-- What a trace returns: the record, and its source and run once more. -/
structure KnowledgeTrace where
  knowledge : KnowledgeRecord
  source : KnowledgeSourceReference
  runId : Option String
  taskId : Option String
  agentId : Option String

def KnowledgeProvenance.runId : KnowledgeProvenance → Option String
  | .agentRun runId _ _ => some runId
  | _ => none

def KnowledgeProvenance.taskId : KnowledgeProvenance → Option String
  | .agentRun _ taskId _ => some taskId
  | _ => none

def KnowledgeProvenance.agentId : KnowledgeProvenance → Option String
  | .agentRun _ _ agentId => some agentId
  | _ => none

def KnowledgePlanProvenance.runId : KnowledgePlanProvenance → Option String
  | .agentRun runId _ _ => some runId
  | _ => none

def KnowledgePlanProvenance.taskId : KnowledgePlanProvenance → Option String
  | .agentRun _ taskId _ => some taskId
  | _ => none

def KnowledgePlanProvenance.agentId : KnowledgePlanProvenance → Option String
  | .agentRun _ _ agentId => some agentId
  | _ => none

def planProvenance : KnowledgeProvenance → KnowledgePlanProvenance
  | .agentRun runId taskId agentId => .agentRun runId taskId agentId
  | .handover confirmationId fingerprint scanId confirmedAt =>
    .handover confirmationId fingerprint scanId (toISOString confirmedAt)
  | .operatorConfirmed confirmedBy evidence => .operatorConfirmed confirmedBy evidence

def dateOf (text : String) : Date := (readDate text.toList).getD 0

def recordProvenance : KnowledgePlanProvenance → KnowledgeProvenance
  | .agentRun runId taskId agentId => .agentRun runId taskId agentId
  | .handover confirmationId fingerprint scanId confirmedAt =>
    .handover confirmationId fingerprint scanId (dateOf confirmedAt)
  | .operatorConfirmed confirmedBy evidence => .operatorConfirmed confirmedBy evidence

/-- The record that an admission writes. Without an earlier time it is dated at admission. -/
def recordOf (tenantId : String) (plan : KnowledgeAdmissionPlan) (admittedAt : Date) : KnowledgeRecord where
  tenantId := tenantId
  repositoryId := plan.repositoryId
  id := plan.id
  kind := plan.kind
  text := plan.text
  title := plan.title
  source := plan.source
  createdAt := (plan.createdAt.map dateOf).getD admittedAt
  provenance := recordProvenance plan.provenance

def traceOf (record : KnowledgeRecord) : KnowledgeTrace where
  knowledge := record
  source := record.source
  runId := record.provenance.runId
  taskId := record.provenance.taskId
  agentId := record.provenance.agentId

def assertTrace (tenantId : String) (trace : KnowledgeTrace) (plan : KnowledgeAdmissionPlan) : Bool :=
  let knowledge := trace.knowledge
  knowledge.id = plan.id && knowledge.kind = plan.kind && knowledge.text = plan.text && knowledge.title = plan.title &&
    knowledge.provenance.runId = plan.provenance.runId && knowledge.provenance.taskId = plan.provenance.taskId &&
    knowledge.provenance.agentId = plan.provenance.agentId && trace.runId = plan.provenance.runId &&
    trace.taskId = plan.provenance.taskId && trace.agentId = plan.provenance.agentId &&
    knowledge.repositoryId = plan.repositoryId && knowledge.tenantId = tenantId && trace.source = plan.source &&
    knowledge.source = plan.source && plan.createdAt.all (toISOString knowledge.createdAt = ·) &&
    match plan.provenance with
    | .agentRun _ _ _ => knowledge.provenance.runId.isSome
    | _ => knowledge.provenance.runId.isNone && planProvenance knowledge.provenance = plan.provenance

section Store

structure KnowledgeKey where
  tenantId : String
  repositoryId : String
  kind : KnowledgeAdmissionKind
  id : String
  deriving DecidableEq

def KnowledgeRecord.key (record : KnowledgeRecord) : KnowledgeKey :=
  ⟨record.tenantId, record.repositoryId, record.kind, record.id⟩

def KnowledgeAdmissionPlan.key (plan : KnowledgeAdmissionPlan) (tenantId : String) : KnowledgeKey :=
  ⟨tenantId, plan.repositoryId, plan.kind, plan.id⟩

abbrev KnowledgeStore := List KnowledgeRecord

def KnowledgeStore.trace (store : KnowledgeStore) (key : KnowledgeKey) : Option KnowledgeTrace :=
  (store.find? fun record => record.key = key).map traceOf

def KnowledgeStore.write (store : KnowledgeStore) (record : KnowledgeRecord) : KnowledgeStore :=
  record :: store.filter fun other => other.key ≠ record.key

end Store

inductive AdmissionOutcome
  | recorded
  | reconciled
  deriving DecidableEq

inductive AuditEventType
  | approved
  | recorded (outcome : AdmissionOutcome) (admittedAt : Date)
  | failed (errorCode : KnowledgeAdmissionErrorCode)

structure AuditEvent where
  actorId : String
  aggregateId : String
  projectId : String
  eventType : AuditEventType

inductive AdmissionPhase
  | approving
  | looking
  | writing
  | checking
  | recording (outcome : AdmissionOutcome)
  | failing (code : KnowledgeAdmissionErrorCode)
  | ended (result : Except KnowledgeAdmissionErrorCode AdmissionOutcome)
  deriving DecidableEq

structure AdmissionCall where
  tenantId : String
  plan : KnowledgeAdmissionPlan
  reviewedBy : String
  admittedAt : Date
  phase : AdmissionPhase

/-- An operation on the audit log or the store works, throws after it committed, or throws without a trace. -/
inductive Fault
  | works
  | afterCommit
  | beforeCommit
  deriving DecidableEq

def Fault.commits : Fault → Bool
  | .beforeCommit => false
  | _ => true

structure Admissions where
  audit : List AuditEvent
  store : KnowledgeStore
  calls : List AdmissionCall

namespace AdmissionCall

variable (call : AdmissionCall)

def key : KnowledgeKey := call.plan.key call.tenantId

def record : KnowledgeRecord := recordOf call.tenantId call.plan call.admittedAt

def event (eventType : AuditEventType) : AuditEvent := ⟨call.reviewedBy, call.plan.id, call.plan.projectId, eventType⟩

/-- What follows a trace that returned: a found record is checked, and a missing one is what `missing` says. -/
def traced (store : KnowledgeStore) (missing : AdmissionPhase) (outcome : AdmissionOutcome) : AdmissionPhase :=
  match store.trace call.key with
  | none => missing
  | some trace => if assertTrace call.tenantId trace call.plan then .recording outcome else .failing .admissionConflict

def nextPhase (store : KnowledgeStore) (fault : Fault) : AdmissionPhase :=
  let worked := fault = .works
  match call.phase with
  | .approving => if worked then .looking else .ended (.error .approvalAuditFailed)
  | .looking => if worked then call.traced store .writing .reconciled else .failing .admissionFailed
  | .writing => if worked then .checking else .failing .admissionOutcomeUnknown
  | .checking =>
    if worked then call.traced store (.failing .admissionOutcomeUnknown) .recorded
    else .failing .admissionOutcomeUnknown
  | .recording outcome => .ended (if worked then .ok outcome else .error .admissionReconciliationRequired)
  -- A failure that is not audited is the same failure.
  | .failing code => .ended (.error code)
  | .ended result => .ended result

/-- What the next operation of a call appends to the audit log, if it commits. -/
def appends : Option AuditEventType :=
  match call.phase with
  | .approving => some .approved
  | .recording outcome => some (.recorded outcome call.admittedAt)
  | .failing code => some (.failed code)
  | _ => none

end AdmissionCall

namespace Admissions

variable (state : Admissions)

def proceed (call : AdmissionCall) (fault : Fault) (caller : Nat) : Admissions where
  audit := if fault.commits then state.audit ++ (call.appends.map call.event).toList else state.audit
  store := if fault.commits ∧ call.phase = .writing then state.store.write call.record else state.store
  calls := state.calls.set caller { call with phase := call.nextPhase state.store fault }

end Admissions

/-- A caller starts an admission, or one that has not ended does its next operation. -/
inductive AdmissionLabel
  | start (admission : KnowledgeAdmission) (reads : AdmissionReads) (now : Date)
  | proceed (caller : Nat) (fault : Fault)

def Admissions.step (sha256 : Value → String) (knowledge : Option String) (state : Admissions) :
    AdmissionLabel → Option Admissions
  | .start admission reads now =>
    match knowledge, approved sha256 knowledge reads admission with
    | some tenantId, .ok plan =>
      some { state with calls := state.calls ++ [⟨tenantId, plan, admission.reviewedBy, now, .approving⟩] }
    | _, _ => some state
  | .proceed caller fault =>
    match state.calls[caller]? with
    | none => none
    | some call =>
      match call.phase with
      | .ended _ => none
      | _ => some (state.proceed call fault caller)

def AdmissionStep (sha256 : Value → String) (knowledge : Option String) (before : Admissions) (label : AdmissionLabel)
    (after : Admissions) : Prop :=
  before.step sha256 knowledge label = some after

end AiOffice.Application.AgentKnowledge
