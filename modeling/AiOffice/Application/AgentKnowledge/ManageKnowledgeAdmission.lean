import AiOffice.Domain.AgentRun
import AiOffice.Domain.IsoDate
import AiOffice.Domain.Schema
import Mathlib.Data.Prod.Lex

namespace AiOffice.Application.AgentKnowledge

open Data Domain Domain.IsoDate

inductive KnowledgeAdmissionKind
  | memory
  | decision
  deriving DecidableEq

def KnowledgeAdmissionKind.text : KnowledgeAdmissionKind → String
  | .memory => "memory"
  | .decision => "decision"

inductive KnowledgeAdmissionErrorCode
  | invalidText
  | invalidTitle
  | provenanceUnavailable
  | runNotCompleted
  | approvalMismatch
  | admissionFailed
  | approvalAuditFailed
  | admissionOutcomeUnknown
  | admissionReconciliationRequired
  | admissionConflict
  | invalidProvenance
  | handoverNotConfirmed
  | handoverStale
  | evidenceUnavailable
  | confirmationMismatch
  | storeNotConnected
  deriving DecidableEq

/-- The error of an admission, that of an identifier, or that of a date without a text. -/
inductive AdmissionThrown
  | admission (code : KnowledgeAdmissionErrorCode)
  | invalidQuery
  | invalidTime

inductive KnowledgeEvidenceKind
  | adr
  | handover
  | requirement
  | review
  | task
  deriving DecidableEq

def KnowledgeEvidenceKind.text : KnowledgeEvidenceKind → String
  | .adr => "adr"
  | .handover => "handover"
  | .requirement => "requirement"
  | .review => "review"
  | .task => "task"

def KnowledgeEvidenceKind.ofText (text : String) : Option KnowledgeEvidenceKind :=
  [adr, handover, requirement, review, task].find? fun kind => kind.text = text

structure EvidenceInput where
  kind : String
  id : String

inductive KnowledgeAdmissionSourceInput
  | agentRun (runId : String)
  | handover (confirmationId : String)
  | operatorConfirmed (confirmedBy : String) (evidence : List EvidenceInput)

structure KnowledgeAdmissionInput where
  projectId : String
  runId : Option String
  source : Option KnowledgeAdmissionSourceInput
  kind : KnowledgeAdmissionKind
  title : Option String
  text : String

structure KnowledgeReference where
  kind : KnowledgeEvidenceKind
  id : String
  deriving DecidableEq

structure KnowledgeEvidenceReference extends KnowledgeReference where
  label : String
  deriving DecidableEq

inductive KnowledgeAdmissionSource
  | agentRun (runId : String)
  | handover (confirmationId : String)
  | operatorConfirmed (confirmedBy : String) (evidence : List KnowledgeReference)

structure KnowledgeSourceReference where
  kind : String
  id : String
  label : String
  locator : String
  deriving DecidableEq

inductive KnowledgePlanProvenance
  | agentRun (runId taskId agentId : String)
  | handover (confirmationId fingerprint : String) (scanId : Option String) (confirmedAt : String)
  | operatorConfirmed (confirmedBy : String) (evidence : List KnowledgeEvidenceReference)
  deriving DecidableEq

structure KnowledgeAdmissionProposal where
  projectId : String
  repositoryId : String
  kind : KnowledgeAdmissionKind
  title : Option String
  text : String
  source : KnowledgeSourceReference
  createdAt : Option String
  provenance : KnowledgePlanProvenance

structure KnowledgeAdmissionPlan extends KnowledgeAdmissionProposal where
  id : String
  planHash : String

section Reads

structure RunRead where
  id : String
  projectId : String
  taskId : String
  agentId : String
  status : AgentRunStatus
  completedAt : Option Date
  isWorker : Bool
  result : Option Value

/-- The entry of the profile that holds the latest confirmed review. -/
structure RecordedReview where
  entryId : String
  projectId : String
  confirmedAt : Option Date
  fingerprint : String
  scanId : Option String

structure RequirementRead where
  id : String
  projectId : String
  rejected : Bool
  key : String

/-- A decision record or a review, and whether its conclusion stands. -/
structure ConclusionRead where
  id : String
  projectId : String
  stands : Bool

/-- What the repositories answer to the reads of one call, with the fingerprint of the facts of the profile. -/
structure AdmissionReads where
  projectFound : Bool
  repositoryId : Option String
  run : Option RunRead
  taskProject : String → Option String
  agentProject : String → Option String
  factsFingerprint : Option String
  recordedReview : Option RecordedReview
  requirements : List RequirementRead
  adrs : List ConclusionRead
  reviews : List ConclusionRead

end Reads

def isKnowledgeIdentifier (value : String) : Bool :=
  0 < utf16Length value && utf16Length value ≤ 256 && trim value = value

def assertKnowledgeIdentifier (value : String) : Except AdmissionThrown Unit :=
  if isKnowledgeIdentifier value then .ok () else .error .invalidQuery

/-- The text of a date, which a date outside of the range of dates does not have. -/
def dateText (time : Date) : Except AdmissionThrown String :=
  if validTime time then .ok (toISOString time) else .error .invalidTime

def isControl (char : Char) : Bool :=
  ([(0x00, 0x1F), (0x7F, 0x9F), (0xAD, 0xAD), (0x600, 0x605), (0x61C, 0x61C), (0x6DD, 0x6DD), (0x70F, 0x70F),
    (0x890, 0x891), (0x8E2, 0x8E2), (0x180E, 0x180E), (0x200B, 0x200F), (0x202A, 0x202E), (0x2060, 0x2064),
    (0x2066, 0x206F), (0xFEFF, 0xFEFF), (0xFFF9, 0xFFFB), (0x110BD, 0x110BD), (0x110CD, 0x110CD),
    (0x13430, 0x1343F), (0x1BCA0, 0x1BCA3), (0x1D173, 0x1D17A), (0xE0001, 0xE0001), (0xE0020, 0xE007F)] :
    List (Nat × Nat)).any fun range => range.1 ≤ char.toNat && char.toNat ≤ range.2

def knowledgeEvidenceLimit : Nat := 8

def failure {Result : Type} (code : KnowledgeAdmissionErrorCode) : Except AdmissionThrown Result :=
  .error (.admission code)

def evidenceReference (item : EvidenceInput) : Option KnowledgeReference :=
  (KnowledgeEvidenceKind.ofText item.kind).bind fun kind =>
    if isKnowledgeIdentifier item.id then some ⟨kind, item.id⟩ else none

def KnowledgeReference.key (reference : KnowledgeReference) : String := s!"{reference.kind.text}:{reference.id}"

def validSource (input : KnowledgeAdmissionInput) : Except AdmissionThrown KnowledgeAdmissionSource :=
  match input.source, input.runId with
  | none, none => failure .invalidProvenance
  | none, some runId => (assertKnowledgeIdentifier runId).map fun _ => .agentRun runId
  | some _, some _ => failure .invalidProvenance
  | some (.agentRun runId), none => (assertKnowledgeIdentifier runId).map fun _ => .agentRun runId
  | some (.handover confirmationId), none =>
    if !isKnowledgeIdentifier confirmationId then failure .invalidProvenance else .ok (.handover confirmationId)
  | some (.operatorConfirmed confirmedBy evidence), none =>
    if !isKnowledgeIdentifier confirmedBy || confirmedBy.toList.any isControl || evidence.length < 1 ||
        knowledgeEvidenceLimit < evidence.length then failure .invalidProvenance
    else
      match evidence.mapM evidenceReference with
      | none => failure .invalidProvenance
      | some references =>
        if (references.map KnowledgeReference.key).Nodup then .ok (.operatorConfirmed confirmedBy references)
        else failure .invalidProvenance

/-- The confirmed review of a project, or what is thrown when it is not there or out of date. -/
def confirmedHandover (reads : AdmissionReads) (projectId confirmationId : String)
    (unavailable stale : KnowledgeAdmissionErrorCode) : Except AdmissionThrown (RecordedReview × Date) :=
  match reads.factsFingerprint, reads.recordedReview with
  | some current, some recorded =>
    match recorded.confirmedAt with
    | none => failure unavailable
    | some confirmedAt =>
      if recorded.entryId ≠ confirmationId ∨ recorded.projectId ≠ projectId ∨ !validHash recorded.fingerprint ∨
          !recorded.scanId.all isKnowledgeIdentifier then failure unavailable
      else if recorded.fingerprint ≠ current then failure stale
      else .ok (recorded, confirmedAt)
  | _, _ => failure unavailable

/-- The label of a cited record of the project; every error of the search is the same. -/
def evidenceLabel (reads : AdmissionReads) (projectId : String) (reference : KnowledgeReference) : Option String :=
  match reference.kind with
  | .requirement =>
    match reads.requirements.find? fun item =>
        item.id = reference.id && item.projectId = projectId && !item.rejected with
    | none => none
    | some requirement =>
      if isKnowledgeIdentifier requirement.key then some s!"Requirement {requirement.key}" else none
  | .adr =>
    if reads.adrs.any fun item => item.id = reference.id && item.projectId = projectId && item.stands then
      some s!"ADR {reference.id}"
    else none
  | .review =>
    if reads.reviews.any fun item => item.id = reference.id && item.projectId = projectId && item.stands then
      some s!"Review {reference.id}"
    else none
  | .task => if reads.taskProject reference.id = some projectId then some s!"Task {reference.id}" else none
  | .handover =>
    match confirmedHandover reads projectId reference.id .evidenceUnavailable .evidenceUnavailable with
    | .ok _ => some s!"Handover review {reference.id}"
    | .error _ => none

def resolve (reads : AdmissionReads) (projectId : String) (reference : KnowledgeReference) :
    Option KnowledgeEvidenceReference :=
  (evidenceLabel reads projectId reference).map fun label => ⟨reference, label⟩

def evidenceOrder (reference : KnowledgeEvidenceReference) : List Nat ×ₗ List Nat :=
  toLex (codeUnits reference.kind.text, codeUnits reference.id)

def evidence (reads : AdmissionReads) (projectId : String) (references : List KnowledgeReference) :
    Except AdmissionThrown (List KnowledgeEvidenceReference) :=
  match references.mapM (resolve reads projectId) with
  | none => failure .evidenceUnavailable
  | some resolved =>
    if resolved.any fun item => !isKnowledgeIdentifier item.label then failure .evidenceUnavailable
    else .ok (sortOn evidenceOrder resolved)

section Hashing

def textOrNull : Option String → Value
  | none => .null
  | some text => .string text

def KnowledgeSourceReference.value (source : KnowledgeSourceReference) : Value :=
  .object [("kind", .string source.kind), ("id", .string source.id), ("label", .string source.label),
    ("locator", .string source.locator)]

def KnowledgeEvidenceReference.value (reference : KnowledgeEvidenceReference) : Value :=
  .object [("kind", .string reference.kind.text), ("id", .string reference.id), ("label", .string reference.label)]

def evidenceValue (references : List KnowledgeEvidenceReference) : Value :=
  .array (references.map KnowledgeEvidenceReference.value)

/-- What a plan is the hash of: the contract of a run names its run, task and agent, that of other sources the provenance. -/
def KnowledgeAdmissionProposal.hashed (proposal : KnowledgeAdmissionProposal) (tenantId : String) : Value :=
  let content : List (String × Value) := [("projectId", .string proposal.projectId),
    ("repositoryId", .string proposal.repositoryId), ("kind", .string proposal.kind.text),
    ("title", textOrNull proposal.title), ("text", .string proposal.text), ("source", proposal.source.value),
    ("createdAt", textOrNull proposal.createdAt), ("tenantId", .string tenantId)]
  match proposal.provenance with
  | .agentRun runId taskId agentId =>
    .object (content ++ [("schemaVersion", .number 1), ("runId", .string runId), ("taskId", .string taskId),
      ("agentId", .string agentId)])
  | .handover confirmationId fingerprint scanId confirmedAt =>
    .object (content ++ [("schemaVersion", .number 2), ("runId", .null), ("taskId", .null), ("agentId", .null),
      ("provenance", .object [("kind", .string "handover"), ("confirmationId", .string confirmationId),
        ("fingerprint", .string fingerprint), ("scanId", textOrNull scanId), ("confirmedAt", .string confirmedAt)])])
  | .operatorConfirmed confirmedBy evidence =>
    .object (content ++ [("schemaVersion", .number 2), ("runId", .null), ("taskId", .null), ("agentId", .null),
      ("provenance", .object [("kind", .string "operator_confirmed"), ("confirmedBy", .string confirmedBy),
        ("evidence", evidenceValue evidence)])])

end Hashing

section Planning

-- The hexadecimal SHA-256 digest of the canonical text of a value.
variable (sha256 : Value → String)

def planId (planHash : String) : String := s!"ak_{planHash}"

def KnowledgeAdmissionProposal.plan (proposal : KnowledgeAdmissionProposal) (tenantId : String) :
    KnowledgeAdmissionPlan :=
  let planHash := sha256 (proposal.hashed tenantId)
  { proposal with id := planId planHash, planHash }

def fromRun (reads : AdmissionReads) (projectId : String) :
    Except AdmissionThrown (KnowledgeSourceReference × Option String × KnowledgePlanProvenance) := do
  match reads.run with
  | none => failure .provenanceUnavailable
  | some run =>
    match run.completedAt, run.result with
    | some completedAt, some result =>
      if run.projectId ≠ projectId ∨ run.status ≠ .completed ∨ !run.isWorker then failure .runNotCompleted
      else if reads.taskProject run.taskId ≠ some projectId ∨ reads.agentProject run.agentId ≠ some projectId then
        failure .provenanceUnavailable
      else
        match normalizeCanonicalJson result with
        | .error _ => failure .provenanceUnavailable
        | .ok normalized =>
          let createdAt ← dateText completedAt
          .ok (⟨"run", run.id, s!"Agent run {run.id}", s!"sha256:{sha256 normalized}"⟩, some createdAt,
            .agentRun run.id run.taskId run.agentId)
    | _, _ => failure .runNotCompleted

def fromHandover (reads : AdmissionReads) (projectId confirmationId : String) :
    Except AdmissionThrown (KnowledgeSourceReference × Option String × KnowledgePlanProvenance) := do
  let (recorded, time) ← confirmedHandover reads projectId confirmationId .handoverNotConfirmed .handoverStale
  let confirmedAt ← dateText time
  .ok (⟨"handover", confirmationId, s!"Confirmed handover review {confirmationId}", s!"sha256:{recorded.fingerprint}"⟩,
    some confirmedAt, .handover confirmationId recorded.fingerprint recorded.scanId confirmedAt)

def fromOperator (reads : AdmissionReads) (projectId confirmedBy : String) (references : List KnowledgeReference) :
    Except AdmissionThrown (KnowledgeSourceReference × Option String × KnowledgePlanProvenance) := do
  let evidence ← evidence reads projectId references
  .ok (⟨"operator", confirmedBy, s!"Operator confirmation by {confirmedBy}", s!"sha256:{sha256 (evidenceValue evidence)}"⟩,
    none, .operatorConfirmed confirmedBy evidence)

def provenanceOf (reads : AdmissionReads) (projectId : String) : KnowledgeAdmissionSource →
    Except AdmissionThrown (KnowledgeSourceReference × Option String × KnowledgePlanProvenance)
  | .agentRun _ => fromRun sha256 reads projectId
  | .handover confirmationId => fromHandover reads projectId confirmationId
  | .operatorConfirmed confirmedBy references => fromOperator sha256 reads projectId confirmedBy references

def validText (text : String) : Bool :=
  trim text = text && 0 < text.length && text.length ≤ 4000 && text.utf8ByteSize ≤ 16384

def validTitle (kind : KnowledgeAdmissionKind) (title : Option String) : Bool :=
  match kind, title with
  | .memory, title => title.isNone
  | .decision, none => false
  | .decision, some title => trim title = title && 0 < title.length && title.length ≤ 200

/-- A plan from the reads of a call, where `knowledge` is the tenant of a connected store. -/
def plan (knowledge : Option String) (reads : AdmissionReads) (input : KnowledgeAdmissionInput) :
    Except AdmissionThrown KnowledgeAdmissionPlan := do
  match knowledge with
  | none => failure .storeNotConnected
  | some tenantId =>
    assertKnowledgeIdentifier input.projectId
    let source ← validSource input
    if !validText input.text then failure .invalidText
    else if !validTitle input.kind input.title then failure .invalidTitle
    else
      match reads.repositoryId with
      | none => failure .provenanceUnavailable
      | some repositoryId =>
        if !reads.projectFound then failure .provenanceUnavailable
        else
          assertKnowledgeIdentifier repositoryId
          let (reference, createdAt, provenance) ← provenanceOf sha256 reads input.projectId source
          let proposal : KnowledgeAdmissionProposal := ⟨input.projectId, repositoryId, input.kind, input.title,
            input.text, reference, createdAt, provenance⟩
          .ok (proposal.plan sha256 tenantId)

structure KnowledgeAdmission where
  input : KnowledgeAdmissionInput
  approval : String
  reviewedBy : String

/-- The part of an admission before its first write: the plan, if it is the approved one. -/
def approved (knowledge : Option String) (reads : AdmissionReads) (admission : KnowledgeAdmission) :
    Except AdmissionThrown KnowledgeAdmissionPlan := do
  let plan ← plan sha256 knowledge reads admission.input
  assertKnowledgeIdentifier admission.reviewedBy
  if admission.approval ≠ plan.planHash then failure .approvalMismatch
  else
    match plan.provenance with
    | .operatorConfirmed confirmedBy _ =>
      if confirmedBy ≠ admission.reviewedBy then failure .confirmationMismatch else .ok plan
    | _ => .ok plan

end Planning

end AiOffice.Application.AgentKnowledge
