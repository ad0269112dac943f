import AiOffice.Domain.Agent

namespace AiOffice.Domain

inductive Currency
  | usd
  | eur
  deriving DecidableEq

structure CostAmount where
  micros : Int
  currency : Currency

/-- Inclusive totals, and the parts of them that are cached or spent on reasoning. -/
structure ModelUsage where
  inputTokens : Int
  cachedInputTokens : Int
  outputTokens : Int
  reasoningTokens : Int
  deriving DecidableEq

structure ModelUsageBound where
  inputTokens : Int
  outputTokens : Int

structure BillableTokens where
  uncachedInputTokens : Int
  cachedInputTokens : Int
  nonReasoningOutputTokens : Int
  reasoningTokens : Int

def isCount (value : Int) : Bool := isSafeInteger value && 0 ≤ value

def invalidUsageField (field : String) : Thrown :=
  ⟨.invalidModelUsageError, s!"usage.{field} must be a non-negative safe integer"⟩

def billableTokens (usage : ModelUsage) : Except Thrown BillableTokens :=
  if !isCount usage.inputTokens then .error (invalidUsageField "inputTokens")
  else if !isCount usage.cachedInputTokens then .error (invalidUsageField "cachedInputTokens")
  else if !isCount usage.outputTokens then .error (invalidUsageField "outputTokens")
  else if !isCount usage.reasoningTokens then .error (invalidUsageField "reasoningTokens")
  else if usage.inputTokens < usage.cachedInputTokens then
    .error ⟨.invalidModelUsageError, "usage.cachedInputTokens must not exceed usage.inputTokens"⟩
  else if usage.outputTokens < usage.reasoningTokens then
    .error ⟨.invalidModelUsageError, "usage.reasoningTokens must not exceed usage.outputTokens"⟩
  else .ok {
    uncachedInputTokens := usage.inputTokens - usage.cachedInputTokens
    cachedInputTokens := usage.cachedInputTokens
    nonReasoningOutputTokens := usage.outputTokens - usage.reasoningTokens
    reasoningTokens := usage.reasoningTokens }

structure PricingVersion where
  id : String
  provider : String
  model : String
  currency : Currency
  inputPerMillionMicros : Nat
  cachedInputPerMillionMicros : Nat
  outputPerMillionMicros : Nat
  reasoningPerMillionMicros : Nat
  effectiveFrom : Date
  effectiveTo : Option Date

inductive CostChargeBasis
  | reportedUsage
  | reservedEnvelope
  deriving DecidableEq

inductive BudgetScopeType
  | project
  | task
  | agent
  | agentRun
  deriving DecidableEq

def million : Int := 1000000

def calculateCost (usage : ModelUsage) (price : PricingVersion) : Except Thrown CostAmount := do
  let tokens ← billableTokens usage
  return ⟨(tokens.uncachedInputTokens * price.inputPerMillionMicros +
    tokens.cachedInputTokens * price.cachedInputPerMillionMicros +
    tokens.nonReasoningOutputTokens * price.outputPerMillionMicros +
    tokens.reasoningTokens * price.reasoningPerMillionMicros) / million, price.currency⟩

def calculateMaximumCost (bound : ModelUsageBound) (price : PricingVersion) : Except Thrown CostAmount :=
  if !isCount bound.inputTokens ∨ !isCount bound.outputTokens then
    .error ⟨.rangeError, "Usage bounds must be non-negative safe integers"⟩
  else .ok ⟨(bound.inputTokens * max (price.inputPerMillionMicros : Int) price.cachedInputPerMillionMicros +
    bound.outputTokens * max (price.outputPerMillionMicros : Int) price.reasoningPerMillionMicros) / million,
    price.currency⟩

end AiOffice.Domain
