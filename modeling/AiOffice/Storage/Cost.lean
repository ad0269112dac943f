import AiOffice.Data.Outcome
import AiOffice.Data.Tally
import AiOffice.Domain.Cost

namespace AiOffice.Storage.Cost

open Data Domain

structure BudgetKey where
  projectId : String
  scopeType : BudgetScopeType
  scopeId : String
  currency : Currency
  deriving DecidableEq

structure Budget extends BudgetKey where
  id : String
  limitMicros : Nat

inductive ReservationStatus
  | active
  | consumed
  | released
  deriving DecidableEq

structure Reservation where
  id : String
  budgetId : String
  agentRunId : Option String
  amountMicros : Nat
  status : ReservationStatus
  createdAt : Date
  expiresAt : Date
  finalizedAt : Option Date

structure UsageContext where
  projectId : String
  taskId : Option String
  agentId : Option String
  agentRunId : Option String
  purpose : String

structure UsageRow where
  id : String
  context : UsageContext
  provider : String
  model : String
  providerRequestId : Option String
  usage : ModelUsage
  occurredAt : Date

/-- A cost event with the usage row that it refers to: the two are only ever inserted together. -/
structure CostEvent where
  id : String
  usageRow : UsageRow
  pricingVersionId : String
  reservationId : Option String
  estimatedMicros : Nat
  reservedMicros : Nat
  actualMicros : Nat
  overageMicros : Nat
  currency : Currency
  chargeBasis : CostChargeBasis
  occurredAt : Date

structure CostTables where
  pricing : List PricingVersion
  budgets : List Budget
  reservations : List Reservation
  events : List CostEvent

/-- The keys of the other tables that the cost tables refer to, each with its project. -/
structure ReferencedTables where
  projects : List String
  tasks : List (String × String)
  agents : List (String × String)
  agentRuns : List (String × String)

def monetaryOverflow : Thrown :=
  ⟨.monetaryOverflowError, "Monetary value exceeds SQLite safe integer range"⟩

def budgetNotFound : Thrown := ⟨.budgetNotFoundError, "No matching budget was found"⟩

def budgetExceeded : Thrown :=
  ⟨.budgetExceededError, "The configured budget does not cover this reservation"⟩

def reservationExpired (id : String) : Thrown :=
  ⟨.reservationExpiredError, s!"Budget reservation {id} has expired"⟩

def duplicateProviderUsage (provider requestId : String) : Thrown :=
  ⟨.duplicateProviderUsageError, s!"Usage for {provider} request {requestId} was already recorded"⟩

def constraintFailed (constraint : String) : Thrown :=
  ⟨.storageError, s!"{constraint} constraint failed"⟩

def safe (value : Int) : Except Thrown Nat :=
  if value < 0 ∨ !isSafeInteger value then .error monetaryOverflow else .ok value.toNat

def restoredInteger (value : Nat) : Except Thrown Nat :=
  if !isSafeInteger value then .error monetaryOverflow else .ok value

/-- A sum as it is read back: SQLite itself refuses one that leaves 64 bits. -/
def restoredSum (value : Nat) : Except Thrown Nat :=
  if 2 ^ 63 ≤ value then .error ⟨.storageError, "integer overflow"⟩ else restoredInteger value

def safeCount (value : Int) : Except Thrown Int :=
  if !isCount value then .error monetaryOverflow else .ok value

namespace CostTables

variable (tables : CostTables)

def findBudgetRow (key : BudgetKey) : Option Budget :=
  tables.budgets.find? fun budget => budget.toBudgetKey = key

def covers (budget : Budget) (context : UsageContext) (currency : Currency) : Bool :=
  context.projectId = budget.projectId && currency = budget.currency &&
    match budget.scopeType with
    | .project => true
    | .task => context.taskId = some budget.scopeId
    | .agent => context.agentId = some budget.scopeId
    | .agentRun => context.agentRunId = some budget.scopeId

def charges (budget : Budget) (event : CostEvent) : Bool :=
  covers budget event.usageRow.context event.currency

def holds (budgetId : String) (now : Date) (reservation : Reservation) : Bool :=
  reservation.budgetId = budgetId && reservation.status = .active && now < reservation.expiresAt

def spent (budget : Budget) : Nat := tally CostEvent.actualMicros (charges budget) tables.events

def overage (budget : Budget) : Nat := tally CostEvent.overageMicros (charges budget) tables.events

def reserved (budgetId : String) (now : Date) : Nat :=
  tally Reservation.amountMicros (holds budgetId now) tables.reservations

def committed (budget : Budget) (now : Date) : Nat := tables.spent budget + tables.reserved budget.id now

def spentMicros (budget : Budget) : Except Thrown Nat := restoredSum (tables.spent budget)

def reservedMicros (budgetId : String) (now : Date) : Except Thrown Nat :=
  restoredSum (tables.reserved budgetId now)

end CostTables

/-- The version that became effective last, of the rows and the best so far. -/
def latestPricing : List PricingVersion → Option PricingVersion → Option PricingVersion
  | [], best => best
  | row :: rows, best =>
    latestPricing rows (if best.any fun earlier => row.effectiveFrom ≤ earlier.effectiveFrom then best else some row)

def findPricing (provider model : String) (moment : Date) (tables : CostTables) :
    Except Thrown (Option PricingVersion) :=
  let effective := tables.pricing.filter fun row =>
    row.provider = provider && row.model = model && row.effectiveFrom ≤ moment &&
      row.effectiveTo.all fun effectiveTo => moment < effectiveTo
  match latestPricing effective none with
  | none => .ok none
  | some row => do
    let _ ← restoredInteger row.inputPerMillionMicros
    let _ ← restoredInteger row.cachedInputPerMillionMicros
    let _ ← restoredInteger row.outputPerMillionMicros
    let _ ← restoredInteger row.reasoningPerMillionMicros
    return some row

structure SaveBudgetInput extends BudgetKey where
  id : String
  limitMicros : Int

def budgetScopeValid (references : ReferencedTables) (key : BudgetKey) : Bool :=
  match key.scopeType with
  | .project => key.scopeId = key.projectId
  | .task => (key.scopeId, key.projectId) ∈ references.tasks
  | .agent => (key.scopeId, key.projectId) ∈ references.agents
  | .agentRun => (key.scopeId, key.projectId) ∈ references.agentRuns

def CostTables.upsertBudget (tables : CostTables) (input : SaveBudgetInput) (limit : Nat) : CostTables :=
  if tables.findBudgetRow input.toBudgetKey = none then
    { tables with budgets := tables.budgets ++ [⟨input.toBudgetKey, input.id, limit⟩] }
  else
    { tables with budgets := tables.budgets.map fun budget =>
        if budget.toBudgetKey = input.toBudgetKey then { budget with limitMicros := limit } else budget }

def saveBudget (references : ReferencedTables) (input : SaveBudgetInput) (tables : CostTables) :
    Except Thrown CostTables := do
  let limit ← safe input.limitMicros
  if !budgetScopeValid references input.toBudgetKey then
    .error ⟨.storageError, "invalid or cross-project budget scope"⟩
  else if tables.findBudgetRow input.toBudgetKey = none ∧ tables.budgets.any fun budget => budget.id = input.id
    then .error (constraintFailed "UNIQUE")
  else if input.projectId ∉ references.projects then .error (constraintFailed "FOREIGN KEY")
  else return tables.upsertBudget input limit

structure AuthorizeReservationInput extends BudgetKey where
  id : String
  amountMicros : Int
  agentRunId : Option String
  now : Date
  expiresAt : Date

structure BudgetReservation where
  id : String
  budgetId : String
  reservedMicros : Int
  currency : Currency
  status : ReservationStatus
  expiresAt : Date

/-- The check of one request against the tables: the budget that it is made on, and its amount. -/
def authorize (tables : CostTables) (request : AuthorizeReservationInput) : Except Thrown (Budget × Nat) :=
  match tables.findBudgetRow request.toBudgetKey with
  | none => .error budgetNotFound
  | some budget => do
    let amount ← safe request.amountMicros
    let spent ← tables.spentMicros budget
    let reserved ← tables.reservedMicros budget.id request.now
    let limit ← restoredInteger budget.limitMicros
    if limit < spent + reserved + amount then .error budgetExceeded else return (budget, amount)

def reservationOf (request : AuthorizeReservationInput) (budget : Budget) (amount : Nat) : Reservation where
  id := request.id
  budgetId := budget.id
  agentRunId := request.agentRunId
  amountMicros := amount
  status := .active
  createdAt := request.now
  expiresAt := request.expiresAt
  finalizedAt := none

def insertReservation (references : ReferencedTables) (row : Reservation) (tables : CostTables) :
    Except Thrown CostTables :=
  if tables.reservations.any fun reservation => reservation.id = row.id then .error (constraintFailed "UNIQUE")
  else if row.agentRunId.any fun agentRunId => references.agentRuns.all fun run => run.1 ≠ agentRunId then
    .error (constraintFailed "FOREIGN KEY")
  else .ok { tables with reservations := tables.reservations ++ [row] }

def answerOf (request : AuthorizeReservationInput) (budget : Budget) : BudgetReservation where
  id := request.id
  budgetId := budget.id
  reservedMicros := request.amountMicros
  currency := request.currency
  status := .active
  expiresAt := request.expiresAt

def authorizeAndReserve (references : ReferencedTables) (request : AuthorizeReservationInput)
    (tables : CostTables) : Except Thrown (BudgetReservation × CostTables) :=
  if request.expiresAt ≤ request.now then .error (reservationExpired request.id)
  else do
    let (budget, amount) ← authorize tables request
    let after ← insertReservation references (reservationOf request budget amount) tables
    return (answerOf request budget, after)

def authorizeAll (tables : CostTables) :
    List AuthorizeReservationInput → Except Thrown (List (AuthorizeReservationInput × Budget × Nat))
  | [] => .ok []
  | request :: requests => do
    let row ← authorize tables request
    let rows ← authorizeAll tables requests
    return (request, row) :: rows

def insertReservations (references : ReferencedTables) :
    List (AuthorizeReservationInput × Budget × Nat) → CostTables → Except Thrown CostTables
  | [], tables => .ok tables
  | (request, budget, amount) :: rows, tables => do
    let after ← insertReservation references (reservationOf request budget amount) tables
    insertReservations references rows after

def authorizeAndReserveMany (references : ReferencedTables) (requests : List AuthorizeReservationInput)
    (tables : CostTables) : Except Thrown (List BudgetReservation × CostTables) :=
  match requests.find? fun request => request.expiresAt ≤ request.now with
  | some invalid => .error (reservationExpired invalid.id)
  | none => do
    let rows ← authorizeAll tables requests
    let after ← insertReservations references rows tables
    return (rows.map fun row => answerOf row.1 row.2.1, after)

def CostTables.finalize (tables : CostTables) (status : ReservationStatus) (now : Date)
    (selected : Reservation → Bool) : CostTables :=
  { tables with reservations := tables.reservations.map fun reservation =>
      if reservation.status = .active ∧ selected reservation = true
      then { reservation with status := status, finalizedAt := some now } else reservation }

inductive Release
  | released
  | alreadyReleased
  | consumed
  deriving DecidableEq

def releaseReservation (id : String) (now : Date) (tables : CostTables) : Release × CostTables :=
  match tables.reservations.find? fun reservation => reservation.id = id with
  | none => (.alreadyReleased, tables)
  | some row => match row.status with
    | .consumed => (.consumed, tables)
    | .released => (.alreadyReleased, tables)
    | .active => (.released, tables.finalize .released now fun reservation => reservation.id = id)

def releaseReservations (ids : List String) (now : Date) (tables : CostTables) : CostTables :=
  tables.finalize .released now fun reservation => reservation.id ∈ ids

def releaseExpiredReservations (now : Date) (tables : CostTables) : Nat × CostTables :=
  (tables.reservations.countP fun reservation => reservation.status = .active && reservation.expiresAt ≤ now,
    tables.finalize .released now fun reservation => reservation.expiresAt ≤ now)

structure RecordUsageAndCostInput where
  usageId : String
  costEventId : String
  context : UsageContext
  provider : String
  model : String
  providerRequestId : Option String
  usage : ModelUsage
  pricingVersionId : String
  reservationId : Option String
  reservationIds : Option (List String)
  estimated : CostAmount
  actual : CostAmount
  chargeBasis : Option CostChargeBasis
  occurredAt : Date

inductive Recording
  | recorded
  | duplicate
  deriving DecidableEq

def RecordUsageAndCostInput.finalizedIds (input : RecordUsageAndCostInput) : List String :=
  input.reservationIds.getD input.reservationId.toList

def CostTables.usageRecorded (tables : CostTables) (usageId : String) : Bool :=
  tables.events.any fun event => event.usageRow.id = usageId

def CostTables.requestRecorded (tables : CostTables) (provider : String) (requestId : Option String) : Bool :=
  requestId.isSome && tables.events.any fun event =>
    event.usageRow.provider = provider && event.usageRow.providerRequestId = requestId

/-- The first amount that is not zero among the reservations to finalize, or nothing when one of them
was already consumed. -/
def reservedAmount (tables : CostTables) (occurredAt : Date) : List String → Nat → Except Thrown (Option Nat)
  | [], reserved => .ok (some reserved)
  | id :: ids, reserved =>
    match tables.reservations.find? fun reservation => reservation.id = id with
    | none => .error (reservationExpired id)
    | some reservation =>
      if reservation.status = .released ∨ reservation.expiresAt ≤ occurredAt then
        .error (reservationExpired id)
      else if reservation.status = .consumed then .ok none
      else if reserved ≠ 0 then reservedAmount tables occurredAt ids reserved
      else do
        let amount ← restoredInteger reservation.amountMicros
        reservedAmount tables occurredAt ids amount

/-- The references of a usage row that the foreign key and the trigger check. -/
def usageOwned (references : ReferencedTables) (context : UsageContext) : Bool :=
  (context.taskId.all fun id => (id, context.projectId) ∈ references.tasks) &&
  (context.agentId.all fun id => (id, context.projectId) ∈ references.agents) &&
  context.agentRunId.all fun id => (id, context.projectId) ∈ references.agentRuns

def usageRowOf (input : RecordUsageAndCostInput) : UsageRow where
  id := input.usageId
  context := input.context
  provider := input.provider
  model := input.model
  providerRequestId := input.providerRequestId
  usage := input.usage
  occurredAt := input.occurredAt

def insertUsage (references : ReferencedTables) (input : RecordUsageAndCostInput) (tables : CostTables) :
    Except Thrown UsageRow := do
  let _ ← safeCount input.usage.inputTokens
  let _ ← safeCount input.usage.cachedInputTokens
  let _ ← safeCount input.usage.outputTokens
  let _ ← safeCount input.usage.reasoningTokens
  if !usageOwned references input.context then
    .error ⟨.storageError, "model usage references must belong to the same project"⟩
  else if tables.requestRecorded input.provider input.providerRequestId then
    .error (duplicateProviderUsage input.provider (input.providerRequestId.getD "unknown"))
  else if input.context.projectId ∉ references.projects then .error (constraintFailed "FOREIGN KEY")
  else return usageRowOf input

def overageOf (input : RecordUsageAndCostInput) (reserved : Nat) : Int :=
  if input.reservationId.isSome ∧ (reserved : Int) < input.actual.micros then input.actual.micros - reserved else 0

def insertCostEvent (input : RecordUsageAndCostInput) (reserved : Nat) (usageRow : UsageRow)
    (tables : CostTables) : Except Thrown CostTables := do
  let estimated ← safe input.estimated.micros
  let reservedMicros ← safe reserved
  let actual ← safe input.actual.micros
  let overage ← safe (overageOf input reserved)
  if tables.events.any fun event => event.id = input.costEventId then .error (constraintFailed "UNIQUE")
  else if tables.pricing.all fun pricing => pricing.id ≠ input.pricingVersionId then
    .error (constraintFailed "FOREIGN KEY")
  else if input.reservationId.any fun id => tables.reservations.all fun reservation => reservation.id ≠ id then
    .error (constraintFailed "FOREIGN KEY")
  else return { tables with events := tables.events ++ [{
    id := input.costEventId
    usageRow := usageRow
    pricingVersionId := input.pricingVersionId
    reservationId := input.reservationId
    estimatedMicros := estimated
    reservedMicros := reservedMicros
    actualMicros := actual
    overageMicros := overage
    currency := input.actual.currency
    chargeBasis := input.chargeBasis.getD .reportedUsage
    occurredAt := input.occurredAt }] }

def consumeReservations (now : Date) : List String → CostTables → Except Thrown CostTables
  | [], tables => .ok tables
  | id :: ids, tables =>
    if tables.reservations.countP (fun reservation => reservation.id = id && reservation.status = .active) ≠ 1
    then .error (reservationExpired id)
    else consumeReservations now ids (tables.finalize .consumed now fun reservation => reservation.id = id)

def recordUsageAndCost (references : ReferencedTables) (input : RecordUsageAndCostInput)
    (tables : CostTables) : Except Thrown (Recording × CostTables) :=
  if tables.usageRecorded input.usageId then .ok (.duplicate, tables)
  else if tables.requestRecorded input.provider input.providerRequestId then .ok (.duplicate, tables)
  else do
    match ← reservedAmount tables input.occurredAt input.finalizedIds 0 with
    | none => return (.duplicate, tables)
    | some reserved =>
      let usageRow ← insertUsage references input tables
      let charged ← insertCostEvent input reserved usageRow tables
      let after ← consumeReservations input.occurredAt input.finalizedIds charged
      return (.recorded, after)

end AiOffice.Storage.Cost
