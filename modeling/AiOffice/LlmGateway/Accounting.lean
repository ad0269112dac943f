import AiOffice.LlmGateway.Preparation

namespace AiOffice.LlmGateway

open Data Data.Outcome Domain Storage.Cost

variable {before after reserved tables : CostTables} {references : ReferencedTables} {call : GatewayCall}
  {prepared : Prepared} {result : GatewayResult} {fields : Option String × Option (List String)}

/-- The answer of the provider, when there was one; it may come without a response. -/
def ProviderOutcome.answer : ProviderOutcome → Option (Option ModelResponse)
  | .returned response => some (some response)
  | .threw error => rejectedProviderResponse error

def alreadyRecorded (call : GatewayCall) (response : Option ModelResponse) (tables : CostTables) : Bool :=
  tables.requestRecorded ((text (response.bind ModelResponse.providerId)).getD call.providerId)
    (text ((response.bind ModelResponse.providerRequestId).join))

/-- The event charges the calculated cost of the usage that the response reports. -/
def ChargesUsage (call : GatewayCall) (prepared : Prepared) (response : ModelResponse) (event : CostEvent) : Prop :=
  ∃ answer, priceAnswer call prepared response = .ok answer ∧ event.usageRow.usage = answer.response.usage ∧
    event.pricingVersionId = answer.pricing.id ∧ (event.actualMicros : Int) = answer.actual.micros ∧
    event.currency = answer.actual.currency ∧ event.chargeBasis = .reportedUsage

def ChargesEnvelope (prepared : Prepared) (event : CostEvent) : Prop :=
  event.pricingVersionId = prepared.envelope.pricing.id ∧
    (event.actualMicros : Int) = prepared.envelope.micros ∧ event.currency = prepared.currency ∧
    event.chargeBasis = .reservedEnvelope

def ChargesResult (call : GatewayCall) (prepared : Prepared) (result : GatewayResult) (event : CostEvent) : Prop :=
  match result with
  | .ok (response, _) => ChargesUsage call prepared response event
  | .error _ => ChargesEnvelope prepared event

/-- An answer is charged with exactly one event unless its request was recorded before; without an answer
nothing is charged and every reservation of the call is released. -/
def Settled (before : CostTables) (call : GatewayCall) (prepared : Prepared) (result : GatewayResult)
    (after : CostTables) : Prop :=
  match call.outcome.answer with
  | some response =>
    (alreadyRecorded call response before = true ∧ after.events = before.events) ∨
      ∃ event, after.events = before.events ++ [event] ∧ ChargesResult call prepared result event
  | none => after.events = before.events ∧
      ∀ row ∈ after.reservations, row.id ∈ prepared.reservationIds → row.status = .released

/-- The law of the accounting. A call that is refused before the provider is called changes nothing. -/
def Accounted (references : ReferencedTables) (call : GatewayCall) (before : CostTables) : Prop :=
  match prepare references call before with
  | .error _ => (completeMetered references call before).2 = before
  | .ok (prepared, _) => Settled before call prepared (completeMetered references call before).1
      (completeMetered references call before).2

/-- No reservation was taken, or those that were are still open at a reading of the clock. -/
def OpenAt (call : GatewayCall) (prepared : Prepared) (now : Date) : Prop :=
  prepared.reservationIds = [] ∨ now < call.expiresAt

def AcceptedInTime (call : GatewayCall) (prepared : Prepared) : Prop :=
  match call.outcome with
  | .returned response => match priceAnswer call prepared response with
    | .ok answer => OpenAt call prepared call.readings.occurredAt ∧ isCount answer.estimated.micros = true ∧
        isCount answer.actual.micros = true
    | .error _ => False
  | .threw _ => False

/-- Usage may be recorded in the context of the call, and the answer is accepted, or else charged with the
envelope, before the reservations of the call expire and with amounts that can be stored. -/
def Chargeable (references : ReferencedTables) (call : GatewayCall) (prepared : Prepared) : Prop :=
  usageOwned references call.context.toUsageContext = true ∧ call.context.projectId ∈ references.projects ∧
    (AcceptedInTime call prepared ∨
      OpenAt call prepared call.readings.chargedAt ∧ isCount prepared.envelope.micros = true)

def AccountableCall (references : ReferencedTables) (call : GatewayCall) (before : CostTables) : Prop :=
  match prepare references call before, call.outcome.answer with
  | .ok (prepared, _), some response =>
    alreadyRecorded call response before = true ∨ Chargeable references call prepared
  | _, _ => True

instance (now : Date) : Decidable (OpenAt call prepared now) := by
  unfold OpenAt
  infer_instance

instance : Decidable (AcceptedInTime call prepared) := by
  unfold AcceptedInTime
  split
  · split <;> infer_instance
  · infer_instance

instance : Decidable (Chargeable references call prepared) := by
  unfold Chargeable
  infer_instance

instance : Decidable (AccountableCall references call before) := by
  unfold AccountableCall
  split <;> infer_instance

def FreshIds (call : GatewayCall) (tables : CostTables) : Prop :=
  ∀ index, ∀ event ∈ tables.events, event.id ≠ call.generate index ∧ event.usageRow.id ≠ call.generate index

theorem reservationFields_ok (prepares : Preparation before call prepared reserved) :
    ∃ fields, prepared.reservationFields = .ok fields ∧
      fields.2.getD fields.1.toList = prepared.reservationIds ∧
      ∀ id, fields.1 = some id → id ∈ prepared.reservationIds := by
  unfold Prepared.reservationFields
  by_cases none : prepared.reservationIds = []
  · exact ⟨(.none, .none), by rw [if_pos none], none.symm, nofun⟩
  · obtain ⟨id, member, primary⟩ := prepares.primary none
    refine ⟨(some id, some prepared.reservationIds), by rw [if_neg none, primary], rfl, ?_⟩
    rintro _ ⟨⟩
    exact member

theorem fresh_usage (fresh : FreshIds call before) (index : Nat) :
    before.usageRecorded (call.generate index) = false := by
  simpa [CostTables.usageRecorded] using fun event member => (fresh index event member).2

theorem present_ok {Value : Type} {value : Option Value} {missing : Thrown} {result : Value}
    (given : present value missing = .ok result) : value = some result := by
  cases value with
  | none => cases given
  | some value => cases given; rfl

theorem reportedCount_ok {field : String} {value : Option Int} {result : Int}
    (given : reportedCount field value = .ok result) : isCount result = true :=
  (Option.filter_eq_some_iff.mp (present_ok given)).2

theorem validateUsage_ok {reported : ReportedUsage} {usage : ModelUsage}
    (valid : validateUsage reported = .ok usage) :
    isCount usage.inputTokens = true ∧ isCount usage.cachedInputTokens = true ∧
      isCount usage.outputTokens = true ∧ isCount usage.reasoningTokens = true := by
  obtain ⟨_, input, valid⟩ := bind_ok valid
  obtain ⟨_, cached, valid⟩ := bind_ok valid
  obtain ⟨_, output, valid⟩ := bind_ok valid
  obtain ⟨_, reasoning, valid⟩ := bind_ok valid
  obtain ⟨_, valid⟩ := guard_ok valid
  obtain ⟨_, same⟩ := guard_ok valid
  cases same
  exact ⟨reportedCount_ok input, reportedCount_ok cached, reportedCount_ok output, reportedCount_ok reasoning⟩

theorem validateRequestId_ok {value : Option (Option String)} {requestId : Option String}
    (valid : validateRequestId value = .ok requestId) : requestId = text value.join := by
  cases value with
  | none => cases valid; rfl
  | some value =>
    obtain ⟨id, given, rfl⟩ := map_ok valid
    exact (present_ok given).symm

theorem validateModelResponse_ok {response : ModelResponse} {valid : ValidResponse}
    (accepted : validateModelResponse response = .ok valid) :
    text response.providerId = some valid.providerId ∧
      valid.providerRequestId = text response.providerRequestId.join ∧
      isCount valid.usage.inputTokens = true ∧ isCount valid.usage.cachedInputTokens = true ∧
      isCount valid.usage.outputTokens = true ∧ isCount valid.usage.reasoningTokens = true := by
  obtain ⟨providerId, provider, accepted⟩ := bind_ok accepted
  obtain ⟨model, _, accepted⟩ := bind_ok accepted
  obtain ⟨content, _, accepted⟩ := bind_ok accepted
  obtain ⟨requestId, request, accepted⟩ := bind_ok accepted
  obtain ⟨_, accepted⟩ := guard_ok accepted
  obtain ⟨_, accepted⟩ := guard_ok accepted
  obtain ⟨reported, _, accepted⟩ := bind_ok accepted
  obtain ⟨usage, counts, same⟩ := bind_ok accepted
  cases same
  exact ⟨present_ok provider, validateRequestId_ok request, validateUsage_ok counts⟩

theorem rejectedUsage_counts (response : Option ModelResponse) :
    isCount (rejectedUsage response).inputTokens = true ∧ isCount (rejectedUsage response).cachedInputTokens = true ∧
      isCount (rejectedUsage response).outputTokens = true ∧
      isCount (rejectedUsage response).reasoningTokens = true := by
  unfold rejectedUsage
  split
  · next valid validated =>
      obtain ⟨response, _, accepted⟩ := Option.map_eq_some_iff.mp validated
      exact (validateModelResponse_ok accepted).2.2
  · decide

section Records

variable {response : Option ModelResponse} {answered : ModelResponse} {answer : PricedAnswer} {nextId : Nat}

theorem requestRecorded_events (same : reserved.events = before.events) (provider : String)
    (requestId : Option String) :
    reserved.requestRecorded provider requestId = before.requestRecorded provider requestId := by
  simp [CostTables.requestRecorded, same]

theorem rejected_ready (prepares : Preparation before call prepared reserved) (fresh : FreshIds call before)
    (finalized : fields.2.getD fields.1.toList = prepared.reservationIds)
    (primary : ∀ id, fields.1 = some id → id ∈ prepared.reservationIds) :
    Ready reserved (rejectedInput call prepared nextId response fields) call.expiresAt := by
  have ids : (rejectedInput call prepared nextId response fields).finalizedIds = prepared.reservationIds := finalized
  refine ⟨ids ▸ prepares.taken, fun id given => ids ▸ primary id given, rejectedUsage_counts response, ?_, ?_, ?_⟩
  · have unused := fresh_usage fresh nextId
    rwa [CostTables.usageRecorded, ← prepares.events] at unused
  · intro event member
    exact (fresh (nextId + 1) event (prepares.events ▸ member)).1
  · exact ⟨prepared.envelope.pricing, prepares.pricing ▸ prepares.envelope, rfl⟩

theorem priceAnswer_ok (priced : priceAnswer call prepared answered = .ok answer) :
    validateModelResponse answered = .ok answer.response ∧ ∃ key, (key, answer.pricing) ∈ prepared.prices := by
  obtain ⟨valid, validated, priced⟩ := bind_ok priced
  split at priced
  · cases priced
  · next pricing found =>
      obtain ⟨actual, _, priced⟩ := bind_ok priced
      obtain ⟨estimated, _, same⟩ := bind_ok priced
      cases same
      obtain ⟨entry, stored, rfl⟩ := Option.map_eq_some_iff.mp found
      exact ⟨validated, entry.1, List.mem_of_find?_eq_some stored⟩

theorem reported_ready (prepares : Preparation before call prepared reserved) (fresh : FreshIds call before)
    (priced : priceAnswer call prepared answered = .ok answer)
    (finalized : fields.2.getD fields.1.toList = prepared.reservationIds)
    (primary : ∀ id, fields.1 = some id → id ∈ prepared.reservationIds) :
    Ready reserved (reportedInput call prepared answer fields) call.expiresAt := by
  have ids : (reportedInput call prepared answer fields).finalizedIds = prepared.reservationIds := finalized
  obtain ⟨validated, key, stored⟩ := priceAnswer_ok priced
  refine ⟨ids ▸ prepares.taken, fun id given => ids ▸ primary id given, (validateModelResponse_ok validated).2.2,
    ?_, ?_, ?_⟩
  · have unused := fresh_usage fresh prepared.reservationIds.length
    rwa [CostTables.usageRecorded, ← prepares.events] at unused
  · intro event member
    exact (fresh (prepared.reservationIds.length + 1) event (prepares.events ▸ member)).1
  · exact ⟨answer.pricing, prepares.pricing ▸ prepares.prices _ stored, rfl⟩

theorem reported_request (priced : priceAnswer call prepared answered = .ok answer) :
    before.requestRecorded answer.response.providerId answer.response.providerRequestId =
      alreadyRecorded call (some answered) before := by
  obtain ⟨provider, request, _⟩ := validateModelResponse_ok (priceAnswer_ok priced).1
  simp [alreadyRecorded, provider, request]

theorem releaseTaken_events (now : Date) : (releaseTaken prepared now tables).events = tables.events := by
  unfold releaseTaken
  split <;> rfl

def EnvelopeChargeable (references : ReferencedTables) (call : GatewayCall) (prepared : Prepared) : Prop :=
  usageOwned references call.context.toUsageContext = true ∧ call.context.projectId ∈ references.projects ∧
    OpenAt call prepared call.readings.chargedAt ∧ isCount prepared.envelope.micros = true

theorem rejected_recordable (finalized : fields.2.getD fields.1.toList = prepared.reservationIds) :
    Recordable references (rejectedInput call prepared nextId response fields) call.expiresAt ↔
      EnvelopeChargeable references call prepared := by
  have ids : (rejectedInput call prepared nextId response fields).finalizedIds = prepared.reservationIds := finalized
  constructor
  · rintro ⟨owned, project, unexpired, amount, _⟩
    rw [ids] at unexpired
    exact ⟨owned, project, unexpired, amount⟩
  · rintro ⟨owned, project, unexpired, amount⟩
    refine ⟨owned, project, ?_, amount, amount⟩
    rw [ids]
    exact unexpired

theorem chargeRejected_decides (prepares : Preparation before call prepared reserved)
    (fresh : FreshIds call before) :
    (alreadyRecorded call response before = true ∧
        (chargeRejectedResponse references call prepared nextId response reserved).events = before.events) ∨
      (alreadyRecorded call response before = false ∧ EnvelopeChargeable references call prepared ∧
        ∃ event, (chargeRejectedResponse references call prepared nextId response reserved).events =
          before.events ++ [event] ∧ ChargesEnvelope prepared event) ∨
      (alreadyRecorded call response before = false ∧ ¬EnvelopeChargeable references call prepared ∧
        (chargeRejectedResponse references call prepared nextId response reserved).events = before.events) := by
  obtain ⟨fields, given, finalized, primary⟩ := reservationFields_ok prepares
  have decided := @record_decides reserved references _ _
    (@rejected_ready before reserved call prepared fields response nextId prepares fresh finalized primary)
  rw [requestRecorded_events prepares.events, rejected_recordable finalized] at decided
  unfold chargeRejectedResponse
  dsimp only
  rw [bind_returns given]
  rcases decided with ⟨repeated, outcome⟩ | ⟨new, chargeable, after, outcome⟩ | ⟨new, refused, thrown, outcome, _⟩
  · exact .inl ⟨repeated, by rw [outcome]; exact (releaseTaken_events _).trans prepares.events⟩
  · refine .inr (.inl ⟨new, chargeable, ?_⟩)
    rw [outcome]
    rcases recordUsageAndCost_ok outcome with ⟨impossible, _⟩ | ⟨_, event, _, _, charges, rfl⟩
    · cases impossible
    · obtain ⟨_, _, pricing, currency, basis, actual, _⟩ := charges
      exact ⟨event, by rw [← prepares.events]; rfl, pricing, actual, currency, basis⟩
  · exact .inr (.inr ⟨new, refused, by rw [outcome]; exact prepares.events⟩)

theorem reported_recordable (finalized : fields.2.getD fields.1.toList = prepared.reservationIds) :
    Recordable references (reportedInput call prepared answer fields) call.expiresAt ↔
      usageOwned references call.context.toUsageContext = true ∧ call.context.projectId ∈ references.projects ∧
        OpenAt call prepared call.readings.occurredAt ∧ isCount answer.estimated.micros = true ∧
        isCount answer.actual.micros = true := by
  have ids : (reportedInput call prepared answer fields).finalizedIds = prepared.reservationIds := finalized
  constructor
  · rintro ⟨owned, project, unexpired, estimated, actual⟩
    rw [ids] at unexpired
    exact ⟨owned, project, unexpired, estimated, actual⟩
  · rintro ⟨owned, project, unexpired, estimated, actual⟩
    refine ⟨owned, project, ?_, estimated, actual⟩
    rw [ids]
    exact unexpired

end Records

theorem no_event (same : after.events = before.events) :
    ¬∃ event, after.events = before.events ++ [event] ∧ ChargesResult call prepared result event := by
  rintro ⟨event, appended, _⟩
  rw [same] at appended
  simp at appended

theorem fallback_settled {response : Option ModelResponse} {nextId : Nat} {thrown : Thrown}
    (prepares : Preparation before call prepared reserved) (fresh : FreshIds call before) :
    ((alreadyRecorded call response before = true ∧
        (chargeRejectedResponse references call prepared nextId response reserved).events = before.events) ∨
      ∃ event, (chargeRejectedResponse references call prepared nextId response reserved).events =
        before.events ++ [event] ∧ ChargesResult call prepared (.error thrown) event) ↔
      alreadyRecorded call response before = true ∨ EnvelopeChargeable references call prepared := by
  rcases @chargeRejected_decides before reserved references call prepared response nextId prepares fresh with
    ⟨repeated, same⟩ | ⟨new, chargeable, charged⟩ | ⟨new, refused, same⟩
  · exact ⟨fun _ => .inl repeated, fun _ => .inl ⟨repeated, same⟩⟩
  · exact ⟨fun _ => .inr chargeable, fun _ => .inr charged⟩
  · constructor
    · rintro (⟨repeated, _⟩ | charged)
      · rw [new] at repeated
        cases repeated
      · exact absurd charged (no_event same)
    · rintro (repeated | chargeable)
      · rw [new] at repeated
        cases repeated
      · exact absurd chargeable refused

theorem released_settled (prepares : Preparation before call prepared reserved) (now : Date) :
    (releaseTaken prepared now reserved).events = before.events ∧
      ∀ row ∈ (releaseTaken prepared now reserved).reservations, row.id ∈ prepared.reservationIds →
        row.status = .released := by
  refine ⟨(releaseTaken_events now).trans prepares.events, fun row member taken => ?_⟩
  unfold releaseTaken at member
  split at member
  · next none => simp [none] at taken
  · obtain ⟨old, stored, rfl⟩ := List.mem_map.mp member
    have sameId : old.id ∈ prepared.reservationIds := by
      split at taken
      · exact taken
      · exact taken
    rw [if_pos ⟨prepares.taken.active old stored sameId, decide_eq_true sameId⟩]

/-- An accepted answer is settled by its record, or else by the fallback. -/
theorem accepted_settled {response : ModelResponse} {answer : PricedAnswer}
    (prepares : Preparation before call prepared reserved) (fresh : FreshIds call before)
    (returned : call.outcome = .returned response) (priced : priceAnswer call prepared response = .ok answer) :
    Settled before call prepared (recordAnswer references call prepared response answer reserved).1
        (recordAnswer references call prepared response answer reserved).2 ↔
      alreadyRecorded call (some response) before = true ∨ Chargeable references call prepared := by
  obtain ⟨fields, given, finalized, primary⟩ := reservationFields_ok prepares
  have decided := @record_decides reserved references _ _ (reported_ready prepares fresh priced finalized primary)
  rw [requestRecorded_events prepares.events, reported_recordable finalized] at decided
  have sameRequest : before.requestRecorded (reportedInput call prepared answer fields).provider
      (reportedInput call prepared answer fields).providerRequestId = alreadyRecorded call (some response) before :=
    reported_request priced
  rw [sameRequest] at decided
  have inTime : AcceptedInTime call prepared ↔ OpenAt call prepared call.readings.occurredAt ∧
      isCount answer.estimated.micros = true ∧ isCount answer.actual.micros = true := by
    unfold AcceptedInTime
    rw [returned]
    simp [priced]
  unfold Settled recordAnswer Chargeable
  rw [returned, inTime]
  dsimp only [ProviderOutcome.answer]
  rw [bind_returns given]
  rcases decided with ⟨repeated, outcome⟩ | ⟨new, chargeable, after, outcome⟩ | ⟨new, refused, thrown, outcome, other⟩
  · rw [outcome]
    exact ⟨fun _ => .inl repeated, fun _ => .inl ⟨repeated, (releaseTaken_events _).trans prepares.events⟩⟩
  · rw [outcome]
    refine ⟨fun _ => .inr ⟨chargeable.1, chargeable.2.1, .inl chargeable.2.2⟩, fun _ => .inr ?_⟩
    rcases recordUsageAndCost_ok outcome with ⟨impossible, _⟩ | ⟨_, event, _, _, charges, rfl⟩
    · cases impossible
    · obtain ⟨_, usage, pricing, currency, basis, actual, _⟩ := charges
      exact ⟨event, by rw [← prepares.events]; rfl, answer, priced, by rw [usage]; rfl, pricing, actual, currency,
        basis⟩
  · rw [outcome]
    dsimp only
    rw [if_neg other, fallback_settled prepares fresh]
    constructor
    · rintro (repeated | ⟨owned, project, open_, amount⟩)
      · exact .inl repeated
      · exact .inr ⟨owned, project, .inr ⟨open_, amount⟩⟩
    · rintro (repeated | ⟨owned, project, accepted | ⟨open_, amount⟩⟩)
      · exact .inl repeated
      · exact absurd ⟨owned, project, accepted⟩ refused
      · exact .inr ⟨owned, project, open_, amount⟩

theorem rejected_settled {response : Option ModelResponse} {thrown : Thrown}
    (prepares : Preparation before call prepared reserved) (fresh : FreshIds call before)
    (answered : call.outcome.answer = some response) (rejected : ¬AcceptedInTime call prepared) :
    Settled before call prepared (.error thrown) (chargeRejectedResponse references call prepared
        prepared.reservationIds.length response reserved) ↔
      alreadyRecorded call response before = true ∨ Chargeable references call prepared := by
  unfold Settled
  rw [answered]
  dsimp only
  rw [fallback_settled prepares fresh]
  simp [Chargeable, EnvelopeChargeable, rejected]

def officeTables : CostTables where
  pricing := [⟨"price", "vendor", "model", .usd, 1000000, 1000000, 1000000, 1000000, 0, none⟩]
  budgets := [⟨⟨"project", .project, "project", .usd⟩, "budget", 1000⟩]
  reservations := []
  events := []

/-- A request on a project budget that is answered after `duration`. -/
def answeredAfter (duration : Int) : GatewayCall where
  providerId := "vendor"
  candidates := [⟨"vendor", "model"⟩]
  requestModel := "model"
  context := {
    projectId := "project"
    taskId := none
    agentId := none
    agentRunId := none
    purpose := "draft"
    usageBound := ⟨100, 0⟩
    budgetScopeType := some .project
    budgetScopeId := some "project"
    budgetScopes := none
    reservationTtlMs := none
    useProjectBudgetIfConfigured := false }
  generate := fun index => String.ofList (List.replicate index 'i')
  readings := ⟨0, duration, duration, duration⟩
  outcome := .returned {
    providerId := some "vendor"
    model := some "model"
    text := some "done"
    usage := some ⟨some 70, some 0, some 0, some 0⟩
    providerRequestId := none
    latencyMs := none
    providerMetadataIsObject := none }

private theorem officeTables_fresh (call : GatewayCall) : FreshIds call officeTables :=
  fun _ _ member => absurd member List.not_mem_nil

end AiOffice.LlmGateway
