import AiOffice.Storage.Cost

namespace AiOffice.LlmGateway

open Domain

structure ReportedUsage where
  inputTokens : Option Int
  cachedInputTokens : Option Int
  outputTokens : Option Int
  reasoningTokens : Option Int

/-- A response as a provider returns it. The inner option of a field is missing when the value has not
the declared type, the outer one when the field is undefined. -/
structure ModelResponse where
  providerId : Option String
  model : Option String
  text : Option String
  usage : Option ReportedUsage
  providerRequestId : Option (Option String)
  latencyMs : Option (Option Rat)
  providerMetadataIsObject : Option Bool

structure ValidResponse where
  providerId : String
  model : String
  providerRequestId : Option String
  usage : ModelUsage
  deriving DecidableEq

inductive ProviderError
  | modelMismatch (providerId : String) (response : Option ModelResponse)
  | invalidResponse (providerId message : String)
  | other (thrown : Thrown)

def ProviderError.thrown : ProviderError → Thrown
  | .modelMismatch providerId _ =>
    ⟨.modelMismatchError, s!"Provider {providerId} reported a model other than the requested model"⟩
  | .invalidResponse _ message => ⟨.invalidProviderResponseError, message⟩
  | .other thrown => thrown

def text (value : Option String) : Option String := value.filter fun value => trim value ≠ ""

def present {Value : Type} (value : Option Value) (missing : Thrown) : Except Thrown Value :=
  value.elim (.error missing) .ok

def invalidResponse (message : String) : Thrown := ⟨.invalidProviderResponseError, message⟩

def reportedCount (field : String) (value : Option Int) : Except Thrown Int :=
  present (value.filter isCount) (invalidResponse s!"usage.{field} must be a non-negative safe integer")

def validateUsage (usage : ReportedUsage) : Except Thrown ModelUsage := do
  let inputTokens ← reportedCount "inputTokens" usage.inputTokens
  let cachedInputTokens ← reportedCount "cachedInputTokens" usage.cachedInputTokens
  let outputTokens ← reportedCount "outputTokens" usage.outputTokens
  let reasoningTokens ← reportedCount "reasoningTokens" usage.reasoningTokens
  if inputTokens < cachedInputTokens then
    .error (invalidResponse "usage.cachedInputTokens must not exceed usage.inputTokens")
  else if outputTokens < reasoningTokens then
    .error (invalidResponse "usage.reasoningTokens must not exceed usage.outputTokens")
  else return ⟨inputTokens, cachedInputTokens, outputTokens, reasoningTokens⟩

/-- The request id of a response is not given, or is a string that is not blank. -/
def validateRequestId (value : Option (Option String)) : Except Thrown (Option String) :=
  match value with
  | none => .ok none
  | some value => (present (text value) (invalidResponse "providerRequestId must be a non-empty string")).map some

def validateModelResponse (response : ModelResponse) : Except Thrown ValidResponse := do
  let providerId ← present (text response.providerId) (invalidResponse "providerId is required")
  let model ← present (text response.model) (invalidResponse "model is required")
  let _ ← present response.text (invalidResponse "text must be a string")
  let providerRequestId ← validateRequestId response.providerRequestId
  if response.latencyMs.any fun latency => latency.all fun latency => latency < 0 then
    .error (invalidResponse "latencyMs must be a non-negative finite number")
  else if response.providerMetadataIsObject = some false then
    .error (invalidResponse "providerMetadata must be an object")
  else do
    let reported ← present response.usage (invalidResponse "usage is required")
    let usage ← validateUsage reported
    return ⟨providerId, model, providerRequestId, usage⟩

def rejectedProviderResponse : ProviderError → Option (Option ModelResponse)
  | .modelMismatch _ none => none
  | .modelMismatch _ (some response) => some (some response)
  | .invalidResponse _ _ => some none
  | .other _ => none

end AiOffice.LlmGateway

namespace AiOffice.LlmGateway

open Domain Storage.Cost

structure BudgetScope where
  scopeType : BudgetScopeType
  scopeId : String
  deriving DecidableEq

structure MeteredRequestContext extends UsageContext where
  usageBound : ModelUsageBound
  budgetScopeType : Option BudgetScopeType
  budgetScopeId : Option String
  budgetScopes : Option (List BudgetScope)
  reservationTtlMs : Option Int
  useProjectBudgetIfConfigured : Bool

structure PricingCandidate where
  providerId : String
  model : String
  deriving DecidableEq

inductive ProviderOutcome
  | returned (response : ModelResponse)
  | threw (error : ProviderError)

/-- The readings of the clock, in the order in which a call takes them. A call that is not rejected
takes the last two for the release of its reservations. -/
structure Readings where
  now : Date
  occurredAt : Date
  chargedAt : Date
  releasedAt : Date

/-- One call of the gateway: its provider and request, the ids that are generated for it, the readings of
the clock and what the provider does. -/
structure GatewayCall where
  providerId : String
  candidates : List PricingCandidate
  requestModel : String
  context : MeteredRequestContext
  generate : Nat → String
  readings : Readings
  outcome : ProviderOutcome

structure GatewayMetering where
  currency : Currency
  pricingVersionId : String
  reservedMicros : Option Int
  estimatedMicros : Int
  actualMicros : Int
  budgetScopeType : Option BudgetScopeType
  budgetScopeId : Option String
  recording : Recording

def pricingNotFound (provider model : String) : Thrown :=
  ⟨.pricingNotFoundError, s!"No active pricing for {provider}/{model}"⟩

def currencyMismatch : Thrown :=
  ⟨.pricingCurrencyMismatchError, "Fallback pricing candidates must use the same currency"⟩

def priceKey (providerId model : String) : String := providerId ++ "\x00" ++ model

abbrev PriceMap := List (String × PricingVersion)

def PriceMap.set (prices : PriceMap) (key : String) (pricing : PricingVersion) : PriceMap :=
  if prices.any fun entry => entry.1 = key then
    prices.map fun entry => if entry.1 = key then (key, pricing) else entry
  else prices ++ [(key, pricing)]

def PriceMap.get (prices : PriceMap) (key : String) : Option PricingVersion :=
  (prices.find? fun entry => entry.1 = key).map Prod.snd

def priceCandidates (tables : CostTables) (now : Date) :
    List PricingCandidate → PriceMap → Except Thrown PriceMap
  | [], prices => .ok prices
  | candidate :: candidates, prices => do
    match ← findPricing candidate.providerId candidate.model now tables with
    | none => .error (pricingNotFound candidate.providerId candidate.model)
    | some pricing =>
      priceCandidates tables now candidates (prices.set (priceKey candidate.providerId candidate.model) pricing)

structure Envelope where
  pricing : PricingVersion
  micros : Int

def raiseEnvelope (bound : ModelUsageBound) : List PricingVersion → Envelope → Except Thrown Envelope
  | [], envelope => .ok envelope
  | pricing :: prices, envelope => do
    let maximum ← calculateMaximumCost bound pricing
    raiseEnvelope bound prices (if envelope.micros < maximum.micros then ⟨pricing, maximum.micros⟩ else envelope)

def envelopeOf (bound : ModelUsageBound) (first : PricingVersion) (prices : List PricingVersion) :
    Except Thrown Envelope := do
  let maximum ← calculateMaximumCost bound first
  raiseEnvelope bound prices ⟨first, maximum.micros⟩

def listBudgetCurrencies (tables : CostTables) (projectId : String) (scope : BudgetScope) : List Currency :=
  (tables.budgets.filter fun budget =>
    budget.projectId = projectId && budget.scopeType = scope.scopeType && budget.scopeId = scope.scopeId).map
    fun budget => budget.currency

/-- Whether a scope has a budget in the currency; budgets in other currencies only are a mismatch. -/
def scopeConfigured (tables : CostTables) (projectId : String) (currency : Currency) (scope : BudgetScope) :
    Except Thrown Bool :=
  let currencies := listBudgetCurrencies tables projectId scope
  if currencies ≠ [] ∧ currency ∉ currencies then .error currencyMismatch else .ok (decide (currency ∈ currencies))

/-- The scopes of a call, and the scope that its primary reservation is made on. -/
structure CallScopes where
  scopes : List BudgetScope
  budgetScopeType : Option BudgetScopeType
  budgetScopeId : Option String

def requestedScopes (context : MeteredRequestContext) : List BudgetScope :=
  match context.budgetScopes with
  | some scopes => scopes
  | none => match context.budgetScopeType, context.budgetScopeId with
    | some scopeType, some scopeId => [⟨scopeType, scopeId⟩]
    | _, _ => []

def resolveScopes (tables : CostTables) (context : MeteredRequestContext) (currency : Currency) :
    Except Thrown CallScopes :=
  if context.budgetScopeType.isSome ≠ context.budgetScopeId.isSome then .error budgetNotFound
  else if requestedScopes context = [] ∧ context.useProjectBudgetIfConfigured then do
    let project : BudgetScope := ⟨.project, context.projectId⟩
    let configured ← scopeConfigured tables context.projectId currency project
    return if configured then ⟨[project], some .project, some context.projectId⟩
      else ⟨[], context.budgetScopeType, context.budgetScopeId⟩
  else .ok ⟨requestedScopes context, context.budgetScopeType, context.budgetScopeId⟩

def configuredScopes (tables : CostTables) (context : MeteredRequestContext) (currency : Currency) :
    List BudgetScope → Except Thrown (List BudgetScope)
  | [] => .ok []
  | scope :: scopes => do
    let configured ← scopeConfigured tables context.projectId currency scope
    let rest ← configuredScopes tables context currency scopes
    return if configured then scope :: rest else rest

def reservableScopes (tables : CostTables) (context : MeteredRequestContext) (currency : Currency)
    (scopes : List BudgetScope) : Except Thrown (List BudgetScope) :=
  match context.budgetScopes with
  | none => .ok scopes
  | some _ => do
    let configured ← configuredScopes tables context currency scopes
    return scopes.filter fun scope => scope ∈ configured || scope.scopeType = .agentRun

def defaultTtlMs : Int := 15 * 60000

def reservationInput (call : GatewayCall) (currency : Currency) (micros : Int) (index : Nat)
    (scope : BudgetScope) : AuthorizeReservationInput where
  projectId := call.context.projectId
  scopeType := scope.scopeType
  scopeId := scope.scopeId
  currency := currency
  id := call.generate index
  amountMicros := micros
  agentRunId := call.context.agentRunId
  now := call.readings.now
  expiresAt := call.readings.now + call.context.reservationTtlMs.getD defaultTtlMs

def primaryReservation (scopes : CallScopes) (inputs : List AuthorizeReservationInput) : Option String :=
  match scopes.budgetScopeType, scopes.budgetScopeId with
  | some scopeType, some scopeId =>
    (inputs.find? fun input => input.scopeType = scopeType && input.scopeId = scopeId).map
      AuthorizeReservationInput.id
  | _, _ => none

structure Prepared where
  prices : PriceMap
  currency : Currency
  envelope : Envelope
  scopes : CallScopes
  primaryReservationId : Option String
  reservationIds : List String

def reserve (references : ReferencedTables) (inputs : List AuthorizeReservationInput) (primary : Option String)
    (tables : CostTables) : Except Thrown CostTables :=
  if inputs = [] then .ok tables
  else if primary = none then .error budgetNotFound
  else (authorizeAndReserveMany references inputs tables).map Prod.snd

def prepareScoped (references : ReferencedTables) (call : GatewayCall) (prices : PriceMap) (currency : Currency)
    (envelope : Envelope) (tables : CostTables) : Except Thrown (Prepared × CostTables) := do
  let scopes ← resolveScopes tables call.context currency
  let reservable ← reservableScopes tables call.context currency scopes.scopes
  let inputs := reservable.mapIdx (reservationInput call currency envelope.micros)
  let primary := primaryReservation scopes inputs
  let after ← reserve references inputs primary tables
  return (⟨prices, currency, envelope, scopes, primary, inputs.map AuthorizeReservationInput.id⟩, after)

def prepare (references : ReferencedTables) (call : GatewayCall) (tables : CostTables) :
    Except Thrown (Prepared × CostTables) := do
  let prices ← priceCandidates tables call.readings.now call.candidates.eraseDups []
  match prices.map Prod.snd with
  | [] => .error (pricingNotFound call.providerId call.requestModel)
  | first :: others =>
    if others.any fun pricing => pricing.currency ≠ first.currency then .error currencyMismatch
    else do
      let envelope ← envelopeOf call.context.usageBound first others
      prepareScoped references call prices first.currency envelope tables

def Prepared.reservationFields (prepared : Prepared) : Except Thrown (Option String × Option (List String)) :=
  if prepared.reservationIds = [] then .ok (none, none)
  else match prepared.primaryReservationId with
    | none => .error budgetNotFound
    | some primary => .ok (some primary, some prepared.reservationIds)

def releaseTaken (prepared : Prepared) (now : Date) (tables : CostTables) : CostTables :=
  if prepared.reservationIds = [] then tables else releaseReservations prepared.reservationIds now tables

/-- The price, the cost and the worst case of an answer that is accepted. -/
structure PricedAnswer where
  response : ValidResponse
  pricing : PricingVersion
  actual : CostAmount
  estimated : CostAmount

def priceAnswer (call : GatewayCall) (prepared : Prepared) (response : ModelResponse) :
    Except Thrown PricedAnswer := do
  let valid ← validateModelResponse response
  match prepared.prices.get (priceKey valid.providerId valid.model) with
  | none => .error (pricingNotFound valid.providerId valid.model)
  | some pricing => do
    let actual ← calculateCost valid.usage pricing
    let estimated ← calculateMaximumCost call.context.usageBound pricing
    return ⟨valid, pricing, actual, estimated⟩

/-- The record of an accepted answer. Its ids are the first two that follow those of the reservations. -/
def reportedInput (call : GatewayCall) (prepared : Prepared) (answer : PricedAnswer)
    (fields : Option String × Option (List String)) : RecordUsageAndCostInput where
  usageId := call.generate prepared.reservationIds.length
  costEventId := call.generate (prepared.reservationIds.length + 1)
  context := call.context.toUsageContext
  provider := answer.response.providerId
  model := answer.response.model
  providerRequestId := answer.response.providerRequestId
  usage := answer.response.usage
  pricingVersionId := answer.pricing.id
  reservationId := fields.1
  reservationIds := fields.2
  estimated := answer.estimated
  actual := answer.actual
  chargeBasis := some .reportedUsage
  occurredAt := call.readings.occurredAt

def rejectedUsage (response : Option ModelResponse) : ModelUsage :=
  match response.map validateModelResponse with
  | some (.ok valid) => valid.usage
  | _ => ⟨0, 0, 0, 0⟩

/-- The record of a rejected answer, with the first id that is not used yet. -/
def rejectedInput (call : GatewayCall) (prepared : Prepared) (nextId : Nat) (response : Option ModelResponse)
    (fields : Option String × Option (List String)) : RecordUsageAndCostInput where
  usageId := call.generate nextId
  costEventId := call.generate (nextId + 1)
  context := call.context.toUsageContext
  provider := (text (response.bind ModelResponse.providerId)).getD call.providerId
  model := (text (response.bind ModelResponse.model)).getD call.requestModel
  providerRequestId := text ((response.bind ModelResponse.providerRequestId).join)
  usage := rejectedUsage response
  pricingVersionId := prepared.envelope.pricing.id
  reservationId := fields.1
  reservationIds := fields.2
  estimated := ⟨prepared.envelope.micros, prepared.currency⟩
  actual := ⟨prepared.envelope.micros, prepared.currency⟩
  chargeBasis := some .reservedEnvelope
  occurredAt := call.readings.chargedAt

/-- Charge the envelope for an answer that was rejected. What this throws itself is dropped. -/
def chargeRejectedResponse (references : ReferencedTables) (call : GatewayCall) (prepared : Prepared)
    (nextId : Nat) (response : Option ModelResponse) (tables : CostTables) : CostTables :=
  let charged : Except Thrown (Recording × CostTables) := do
    let fields ← prepared.reservationFields
    recordUsageAndCost references (rejectedInput call prepared nextId response fields) tables
  match charged with
  | .ok (.recorded, after) => after
  | .ok (.duplicate, after) => releaseTaken prepared call.readings.releasedAt after
  | .error _ => tables

def meteringOf (prepared : Prepared) (answer : PricedAnswer) (recording : Recording) : GatewayMetering where
  currency := answer.actual.currency
  pricingVersionId := answer.pricing.id
  reservedMicros := if prepared.reservationIds = [] then none else some prepared.envelope.micros
  estimatedMicros := answer.estimated.micros
  actualMicros := answer.actual.micros
  budgetScopeType := prepared.scopes.budgetScopeType
  budgetScopeId := prepared.scopes.budgetScopeId
  recording := recording

abbrev GatewayResult := Except Thrown (ModelResponse × GatewayMetering)

/-- Record the usage of an accepted answer, or charge the envelope when that is refused. -/
def recordAnswer (references : ReferencedTables) (call : GatewayCall) (prepared : Prepared)
    (response : ModelResponse) (answer : PricedAnswer) (tables : CostTables) : GatewayResult × CostTables :=
  let recorded : Except Thrown (Recording × CostTables) := do
    let fields ← prepared.reservationFields
    recordUsageAndCost references (reportedInput call prepared answer fields) tables
  match recorded with
  | .ok (.recorded, after) => (.ok (response, meteringOf prepared answer .recorded), after)
  | .ok (.duplicate, after) =>
    (.ok (response, meteringOf prepared answer .duplicate), releaseTaken prepared call.readings.releasedAt after)
  | .error thrown =>
    if thrown.name = .duplicateProviderUsageError then
      (.error thrown, releaseTaken prepared call.readings.releasedAt tables)
    else (.error thrown, chargeRejectedResponse references call prepared
      (prepared.reservationIds.length + 2) (some response) tables)

def settle (references : ReferencedTables) (call : GatewayCall) (prepared : Prepared) (tables : CostTables) :
    GatewayResult × CostTables :=
  match call.outcome with
  | .threw error => match rejectedProviderResponse error with
    | none => (.error error.thrown, releaseTaken prepared call.readings.releasedAt tables)
    | some response => (.error error.thrown, chargeRejectedResponse references call prepared
        prepared.reservationIds.length response tables)
  | .returned response => match priceAnswer call prepared response with
    | .ok answer => recordAnswer references call prepared response answer tables
    | .error thrown => (.error thrown, chargeRejectedResponse references call prepared
        prepared.reservationIds.length (some response) tables)

def completeMetered (references : ReferencedTables) (call : GatewayCall) (tables : CostTables) :
    GatewayResult × CostTables :=
  match prepare references call tables with
  | .error thrown => (.error thrown, tables)
  | .ok (prepared, reserved) => settle references call prepared reserved

end AiOffice.LlmGateway
