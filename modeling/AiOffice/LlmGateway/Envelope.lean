import AiOffice.LlmGateway.Accounting
import Mathlib.Algebra.Order.Ring.Int
import Mathlib.Tactic.Ring

namespace AiOffice.LlmGateway

open Data Data.Outcome Domain Storage.Cost

variable {price : PricingVersion} {usage : ModelUsage} {bound : ModelUsageBound} {tables before after : CostTables}
  {references : ReferencedTables} {call : GatewayCall} {prepared : Prepared} {reserved : CostTables} {now : Date}

structure ValidBound (bound : ModelUsageBound) : Prop where
  input : isCount bound.inputTokens = true
  output : isCount bound.outputTokens = true

structure UsageWithin (usage : ModelUsage) (bound : ModelUsageBound) : Prop where
  valid : ∃ tokens, billableTokens usage = .ok tokens
  input : usage.inputTokens ≤ bound.inputTokens
  output : usage.outputTokens ≤ bound.outputTokens

/-- The cost of any usage within the bound is at most the maximum, and one of them costs the maximum. -/
structure Envelopes (maximum : CostAmount) (bound : ModelUsageBound) (price : PricingVersion) : Prop where
  bounds : ∀ usage, UsageWithin usage bound →
    ∃ cost, calculateCost usage price = .ok cost ∧ cost.micros ≤ maximum.micros
  attained : ∃ usage, UsageWithin usage bound ∧ calculateCost usage price = .ok maximum

def ChargedWithoutOverage (before after : CostTables) (micros : Int) : Prop :=
  after.events = before.events ∨
    ∃ event, after.events = before.events ++ [event] ∧ event.overageMicros = 0 ∧ (event.actualMicros : Int) ≤ micros

theorem billableTokens_ok {tokens : BillableTokens} (billable : billableTokens usage = .ok tokens) :
    0 ≤ usage.cachedInputTokens ∧ usage.cachedInputTokens ≤ usage.inputTokens ∧
      0 ≤ usage.reasoningTokens ∧ usage.reasoningTokens ≤ usage.outputTokens ∧
      tokens = ⟨usage.inputTokens - usage.cachedInputTokens, usage.cachedInputTokens,
        usage.outputTokens - usage.reasoningTokens, usage.reasoningTokens⟩ := by
  obtain ⟨_, billable⟩ := guard_ok billable
  obtain ⟨cached, billable⟩ := guard_ok billable
  obtain ⟨_, billable⟩ := guard_ok billable
  obtain ⟨reasoning, billable⟩ := guard_ok billable
  obtain ⟨cachedWithin, billable⟩ := guard_ok billable
  obtain ⟨reasoningWithin, same⟩ := guard_ok billable
  have cachedCount := (isCount_iff.mp (by simpa using cached)).2
  have reasoningCount := (isCount_iff.mp (by simpa using reasoning)).2
  exact ⟨cachedCount, not_lt.mp cachedWithin, reasoningCount, not_lt.mp reasoningWithin, (Except.ok.inj same).symm⟩

theorem billableTokens_counts (input : isCount usage.inputTokens = true) (output : isCount usage.outputTokens = true)
    (cached : 0 ≤ usage.cachedInputTokens ∧ usage.cachedInputTokens ≤ usage.inputTokens)
    (reasoning : 0 ≤ usage.reasoningTokens ∧ usage.reasoningTokens ≤ usage.outputTokens) :
    billableTokens usage = .ok ⟨usage.inputTokens - usage.cachedInputTokens, usage.cachedInputTokens,
      usage.outputTokens - usage.reasoningTokens, usage.reasoningTokens⟩ := by
  simp [billableTokens, input, output, isCount_le input cached.1 cached.2, isCount_le output reasoning.1 reasoning.2,
    not_lt.mpr cached.2, not_lt.mpr reasoning.2]

theorem split_le_maximum {part total limit : Int} (rate other : Nat) (positive : 0 ≤ part) (within : part ≤ total)
    (limited : total ≤ limit) : (total - part) * rate + part * other ≤ limit * max (rate : Int) other := by
  have first : (total - part) * rate ≤ (total - part) * max (rate : Int) other :=
    mul_le_mul_of_nonneg_left (le_max_left _ _) (by omega)
  have second : part * other ≤ part * max (rate : Int) other := mul_le_mul_of_nonneg_left (le_max_right _ _) positive
  have dearer : 0 ≤ max (rate : Int) other := le_max_of_le_left (Int.natCast_nonneg rate)
  calc (total - part) * rate + part * other
      ≤ (total - part) * max (rate : Int) other + part * max (rate : Int) other := add_le_add first second
    _ = total * max (rate : Int) other := by ring
    _ ≤ limit * max (rate : Int) other := mul_le_mul_of_nonneg_right limited dearer

theorem split_maximum (total : Int) (rate other : Nat) :
    (total - if rate < other then total else 0) * rate + (if rate < other then total else 0) * other =
      total * max (rate : Int) other := by
  split
  · next dearer => rw [max_eq_right (by omega)]; ring
  · next dearer => rw [max_eq_left (by omega)]; ring

theorem calculateMaximumCost_ok (valid : ValidBound bound) : calculateMaximumCost bound price =
    .ok ⟨(bound.inputTokens * max (price.inputPerMillionMicros : Int) price.cachedInputPerMillionMicros +
      bound.outputTokens * max (price.outputPerMillionMicros : Int) price.reasoningPerMillionMicros) / million,
      price.currency⟩ := by
  simp [calculateMaximumCost, valid.input, valid.output]

theorem calculateMaximumCost_valid {maximum : CostAmount} (computed : calculateMaximumCost bound price = .ok maximum) :
    ValidBound bound := by
  obtain ⟨valid, _⟩ := guard_ok computed
  simp only [not_or, Bool.not_eq_true', Bool.not_eq_false] at valid
  exact ⟨valid.1, valid.2⟩

theorem calculateCost_le {maximum : CostAmount} (computed : calculateMaximumCost bound price = .ok maximum)
    (within : UsageWithin usage bound) :
    ∃ cost, calculateCost usage price = .ok cost ∧ cost.micros ≤ maximum.micros := by
  obtain ⟨⟨tokens, billable⟩, input, output⟩ := within
  obtain ⟨cachedCount, cached, reasoningCount, reasoning, rfl⟩ := billableTokens_ok billable
  rw [calculateMaximumCost_ok (calculateMaximumCost_valid computed)] at computed
  cases computed
  have inputs := split_le_maximum price.inputPerMillionMicros price.cachedInputPerMillionMicros cachedCount cached input
  have outputs := split_le_maximum price.outputPerMillionMicros price.reasoningPerMillionMicros reasoningCount
    reasoning output
  refine ⟨_, by rw [calculateCost, bind_returns billable]; rfl, ?_⟩
  -- Division by a positive number is monotone, so rounding down keeps the bound.
  apply Int.ediv_le_ediv (by decide)
  dsimp only
  omega

theorem calculateMaximumCost_attained {maximum : CostAmount}
    (computed : calculateMaximumCost bound price = .ok maximum) :
    ∃ usage, UsageWithin usage bound ∧ calculateCost usage price = .ok maximum := by
  have valid := calculateMaximumCost_valid computed
  rw [calculateMaximumCost_ok valid] at computed
  cases computed
  have inputCount := (isCount_iff.mp valid.input).2
  have outputCount := (isCount_iff.mp valid.output).2
  let dearest : ModelUsage := {
    inputTokens := bound.inputTokens
    cachedInputTokens :=
      if price.inputPerMillionMicros < price.cachedInputPerMillionMicros then bound.inputTokens else 0
    outputTokens := bound.outputTokens
    reasoningTokens :=
      if price.outputPerMillionMicros < price.reasoningPerMillionMicros then bound.outputTokens else 0 }
  have billable := @billableTokens_counts dearest valid.input valid.output
    (by dsimp only [dearest]; split <;> omega) (by dsimp only [dearest]; split <;> omega)
  refine ⟨dearest, ⟨⟨_, billable⟩, le_refl _, le_refl _⟩, ?_⟩
  rw [calculateCost, bind_returns billable, ← split_maximum, ← split_maximum bound.outputTokens, ← add_assoc]
  rfl

theorem calculateMaximumCost_envelopes {maximum : CostAmount}
    (computed : calculateMaximumCost bound price = .ok maximum) : Envelopes maximum bound price :=
  ⟨fun _ within => calculateCost_le computed within, calculateMaximumCost_attained computed⟩

theorem set_get {prices : PriceMap} {key other : String} {pricing : PricingVersion}
    (priced : other = key ∨ (prices.get other).isSome) : ((prices.set key pricing).get other).isSome := by
  unfold PriceMap.get at *
  rw [Option.isSome_map, List.find?_isSome] at priced ⊢
  unfold PriceMap.set
  split
  · next stored =>
      obtain ⟨entry, member, same⟩ : ∃ entry ∈ prices, entry.1 = other := by
        rcases priced with rfl | ⟨entry, member, same⟩
        · simpa using stored
        · exact ⟨entry, member, by simpa using same⟩
      refine ⟨_, List.mem_map_of_mem member, ?_⟩
      split
      · next replaced => simp [← same, replaced]
      · simp [same]
  · rcases priced with rfl | ⟨entry, member, same⟩
    · exact ⟨_, List.mem_append_right _ List.mem_cons_self, by simp⟩
    · exact ⟨entry, List.mem_append_left _ member, same⟩

theorem priceCandidates_covers {candidates : List PricingCandidate} {prices final : PriceMap} {key : String}
    (priced : priceCandidates tables now candidates prices = .ok final)
    (covered : (∃ candidate ∈ candidates, priceKey candidate.providerId candidate.model = key) ∨
      (prices.get key).isSome) : (final.get key).isSome := by
  induction candidates generalizing prices with
  | nil =>
    cases priced
    rcases covered with ⟨_, member, _⟩ | stored
    · cases member
    · exact stored
  | cons candidate candidates ih =>
    obtain ⟨found, _, priced⟩ := bind_ok priced
    cases found with
    | none => cases priced
    | some pricing =>
      apply ih priced
      rcases covered with ⟨other, member, rfl⟩ | stored
      · rcases List.mem_cons.mp member with rfl | later
        · exact .inr (set_get (.inl rfl))
        · exact .inl ⟨other, later, rfl⟩
      · exact .inr (set_get (.inr stored))

theorem raiseEnvelope_covers {prices : List PricingVersion} {start final : Envelope}
    (raised : raiseEnvelope bound prices start = .ok final) :
    start.micros ≤ final.micros ∧ ∀ pricing ∈ prices, ∃ maximum, calculateMaximumCost bound pricing = .ok maximum ∧
      maximum.micros ≤ final.micros := by
  induction prices generalizing start with
  | nil =>
    cases raised
    simp
  | cons pricing prices ih =>
    obtain ⟨maximum, computed, raised⟩ := bind_ok raised
    obtain ⟨above, others⟩ := ih raised
    have both : start.micros ≤ final.micros ∧ maximum.micros ≤ final.micros := by
      split at above
      · next higher =>
          dsimp only at above
          omega
      · next lower => omega
    exact ⟨both.1, List.forall_mem_cons.mpr ⟨⟨maximum, computed, both.2⟩, others⟩⟩

theorem envelopeOf_covers {first : PricingVersion} {others : List PricingVersion} {envelope : Envelope}
    (computed : envelopeOf bound first others = .ok envelope) :
    ∀ pricing ∈ first :: others, ∃ maximum, calculateMaximumCost bound pricing = .ok maximum ∧
      maximum.micros ≤ envelope.micros := by
  obtain ⟨maximum, ofFirst, raised⟩ := bind_ok computed
  obtain ⟨above, ofOthers⟩ := raiseEnvelope_covers raised
  exact List.forall_mem_cons.mpr ⟨⟨maximum, ofFirst, above⟩, ofOthers⟩

def HoldsEnvelope (tables : CostTables) (prepared : Prepared) : Prop :=
  ∀ id ∈ prepared.reservationIds, ∀ row,
    tables.reservations.find? (fun reservation => reservation.id = id) = some row →
      (row.amountMicros : Int) = prepared.envelope.micros

theorem reserved_amounts {requests : List AuthorizeReservationInput} {answers : List BudgetReservation} {micros : Int}
    (same : ∀ request ∈ requests, request.amountMicros = micros)
    (granted : authorizeAndReserveMany references requests tables = .ok (answers, after)) :
    ∀ id ∈ requests.map AuthorizeReservationInput.id, ∀ row,
      after.reservations.find? (fun reservation => reservation.id = id) = some row →
        (row.amountMicros : Int) = micros := by
  unfold authorizeAndReserveMany at granted
  split at granted
  · cases granted
  obtain ⟨rows, authorized, granted⟩ := bind_ok granted
  obtain ⟨between, inserted, answered⟩ := bind_ok granted
  cases answered
  obtain ⟨rfl, each⟩ := authorizeAll_ok authorized
  obtain ⟨_, apart⟩ := insertReservations_ids inserted
  rw [insertReservations_ok inserted]
  intro id member row found
  obtain ⟨request, requested, rfl⟩ := List.mem_map.mp member
  obtain ⟨source, stored, rfl⟩ := List.mem_map.mp requested
  have sameId : row.id = source.1.id := by simpa using List.find?_some found
  rcases List.mem_append.mp (List.mem_of_find?_eq_some found) with old | new
  · exact absurd sameId (apart source stored row old)
  · obtain ⟨other, otherStored, rfl⟩ := List.mem_map.mp new
    exact (authorize_ok (each other otherStored)).2.1.trans (same _ (List.mem_map_of_mem otherStored))

theorem prepareScoped_holds {prices : PriceMap} {currency : Currency} {envelope : Envelope}
    (succeeded : prepareScoped references call prices currency envelope tables = .ok (prepared, after)) :
    prepared.prices = prices ∧ prepared.envelope = envelope ∧ HoldsEnvelope after prepared := by
  obtain ⟨scopes, _, succeeded⟩ := bind_ok succeeded
  obtain ⟨reservable, _, succeeded⟩ := bind_ok succeeded
  obtain ⟨final, taken, returned⟩ := bind_ok succeeded
  cases returned
  refine ⟨rfl, rfl, ?_⟩
  unfold reserve at taken
  split at taken
  · next none =>
      intro id member
      rw [none] at member
      cases member
  · obtain ⟨_, mapped⟩ := guard_ok taken
    obtain ⟨⟨answers, final⟩, granted, rfl⟩ := map_ok mapped
    refine reserved_amounts (fun request member => ?_) granted
    obtain ⟨index, _, rfl⟩ := List.mem_mapIdx.mp member
    rfl

/-- The state in which the provider is called: each candidate is priced, with a worst case that the envelope
covers, and the reservations hold the envelope. -/
structure Enveloped (call : GatewayCall) (prepared : Prepared) (reserved : CostTables) : Prop where
  priced : ∀ candidate ∈ call.candidates,
    (prepared.prices.get (priceKey candidate.providerId candidate.model)).isSome
  covered : ∀ key pricing, prepared.prices.get key = some pricing →
    ∃ maximum, calculateMaximumCost call.context.usageBound pricing = .ok maximum ∧
      maximum.micros ≤ prepared.envelope.micros
  held : HoldsEnvelope reserved prepared

theorem prepare_envelops (prepares : prepare references call before = .ok (prepared, reserved)) :
    Enveloped call prepared reserved := by
  obtain ⟨prices, priced, succeeded⟩ := bind_ok prepares
  split at succeeded
  · cases succeeded
  · next first others listed =>
      obtain ⟨_, succeeded⟩ := guard_ok succeeded
      obtain ⟨envelope, computed, succeeded⟩ := bind_ok succeeded
      obtain ⟨rfl, rfl, held⟩ := prepareScoped_holds succeeded
      refine ⟨fun candidate member => ?_, fun key pricing stored => ?_, held⟩
      · exact priceCandidates_covers priced (.inl ⟨candidate, List.mem_eraseDups.mpr member, rfl⟩)
      · obtain ⟨entry, found, rfl⟩ := Option.map_eq_some_iff.mp stored
        apply envelopeOf_covers computed
        rw [← listed]
        exact List.mem_map_of_mem (List.mem_of_find?_eq_some found)

section Held

variable {ids : List String} {start amount : Nat} {micros : Int}

theorem reservedAmount_step {id : String} (counted : reservedAmount tables now (id :: ids) start = .ok (some amount)) :
    ∃ row, tables.reservations.find? (fun reservation => reservation.id = id) = some row ∧
      reservedAmount tables now ids (if start ≠ 0 then start else row.amountMicros) = .ok (some amount) := by
  unfold reservedAmount at counted
  split at counted
  · cases counted
  · next row found =>
      obtain ⟨_, counted⟩ := guard_ok counted
      split at counted
      · cases counted
      refine ⟨row, found, ?_⟩
      split at counted
      · next counting => rwa [if_pos counting]
      · next none =>
          obtain ⟨restored, isSafe, counted⟩ := bind_ok counted
          rwa [if_neg none, ← restoredInteger_ok isSafe]

theorem reservedAmount_held (held : ∀ id ∈ ids, ∀ row,
      tables.reservations.find? (fun reservation => reservation.id = id) = some row → (row.amountMicros : Int) = micros)
    (started : (start : Int) = micros) (counted : reservedAmount tables now ids start = .ok (some amount)) :
    (amount : Int) = micros := by
  induction ids generalizing start with
  | nil =>
    cases counted
    exact started
  | cons id ids ih =>
    obtain ⟨row, found, counted⟩ := reservedAmount_step counted
    refine ih (fun other member => held other (List.mem_cons_of_mem _ member)) ?_ counted
    split
    · exact started
    · exact held id List.mem_cons_self row found

theorem reservedAmount_envelope (held : HoldsEnvelope tables prepared) (some_ : prepared.reservationIds ≠ [])
    (counted : reservedAmount tables now prepared.reservationIds 0 = .ok (some amount)) :
    (amount : Int) = prepared.envelope.micros := by
  unfold HoldsEnvelope at held
  cases listed : prepared.reservationIds with
  | nil => exact absurd listed some_
  | cons id ids =>
    rw [listed] at held counted
    obtain ⟨row, found, counted⟩ := reservedAmount_step counted
    exact reservedAmount_held (fun other member => held other (List.mem_cons_of_mem _ member))
      (held id List.mem_cons_self row found) counted

end Held

theorem reservationFields_named {fields : Option String × Option (List String)}
    (given : prepared.reservationFields = .ok fields) :
    fields.2.getD fields.1.toList = prepared.reservationIds ∧ (fields.1.isSome → prepared.reservationIds ≠ []) := by
  unfold Prepared.reservationFields at given
  split at given
  · next none =>
      cases given
      exact ⟨none.symm, nofun⟩
  · next some_ =>
      split at given
      · cases given
      · cases given
        exact ⟨rfl, fun _ => some_⟩

theorem record_without_overage {input : RecordUsageAndCostInput} {recording : Recording}
    (held : HoldsEnvelope tables prepared) (finalized : input.finalizedIds = prepared.reservationIds)
    (primary : input.reservationId.isSome → prepared.reservationIds ≠ [])
    (covered : input.actual.micros ≤ prepared.envelope.micros)
    (recorded : recordUsageAndCost references input tables = .ok (recording, after)) :
    ChargedWithoutOverage tables after prepared.envelope.micros := by
  rcases recordUsageAndCost_ok recorded with ⟨_, rfl⟩ | ⟨amount, event, _, counted, charges, rfl⟩
  · exact .inl rfl
  · obtain ⟨_, _, _, _, _, actual, overage⟩ := charges
    refine .inr ⟨event, rfl, ?_, actual ▸ covered⟩
    have none : overageOf input amount = 0 := by
      unfold overageOf
      rw [if_neg]
      rintro ⟨reservedOn, exceeds⟩
      rw [finalized] at counted
      have envelope := reservedAmount_envelope held (primary reservedOn) counted
      omega
    omega

theorem releaseTaken_without_overage {micros : Int} (charged : ChargedWithoutOverage before tables micros) :
    ChargedWithoutOverage before (releaseTaken prepared now tables) micros := by
  unfold ChargedWithoutOverage at *
  rwa [releaseTaken_events]

theorem rejected_without_overage {nextId : Nat} {response : Option ModelResponse} (held : HoldsEnvelope tables prepared) :
    ChargedWithoutOverage tables (chargeRejectedResponse references call prepared nextId response tables)
      prepared.envelope.micros := by
  unfold chargeRejectedResponse
  cases given : prepared.reservationFields with
  | error thrown => exact .inl rfl
  | ok fields =>
    obtain ⟨finalized, primary⟩ := reservationFields_named given
    rw [bind_returns rfl]
    cases recorded : recordUsageAndCost references (rejectedInput call prepared nextId response fields) tables with
    | error thrown => exact .inl rfl
    | ok outcome =>
      obtain ⟨recording, after⟩ := outcome
      have ids : (rejectedInput call prepared nextId response fields).finalizedIds = prepared.reservationIds :=
        finalized
      have charged := record_without_overage held ids primary (le_refl _) recorded
      cases recording with
      | recorded => exact charged
      | duplicate => exact releaseTaken_without_overage charged

theorem recordAnswer_without_overage {response : ModelResponse} {answer : PricedAnswer}
    (held : HoldsEnvelope tables prepared) (covered : answer.actual.micros ≤ prepared.envelope.micros) :
    ChargedWithoutOverage tables (recordAnswer references call prepared response answer tables).2
      prepared.envelope.micros := by
  unfold recordAnswer
  have fallback : ChargedWithoutOverage tables (chargeRejectedResponse references call prepared
      (prepared.reservationIds.length + 2) (some response) tables) prepared.envelope.micros :=
    rejected_without_overage held
  cases given : prepared.reservationFields with
  | error thrown =>
    dsimp only [bind, Except.bind]
    split
    · exact releaseTaken_without_overage (.inl rfl)
    · exact fallback
  | ok fields =>
    obtain ⟨finalized, primary⟩ := reservationFields_named given
    rw [bind_returns rfl]
    cases recorded : recordUsageAndCost references (reportedInput call prepared answer fields) tables with
    | error thrown =>
      dsimp only
      split
      · exact releaseTaken_without_overage (.inl rfl)
      · exact fallback
    | ok outcome =>
      obtain ⟨recording, after⟩ := outcome
      have ids : (reportedInput call prepared answer fields).finalizedIds = prepared.reservationIds := finalized
      have charged := record_without_overage held ids primary covered recorded
      cases recording with
      | recorded => exact charged
      | duplicate => exact releaseTaken_without_overage charged

theorem priceAnswer_covered {response : ModelResponse} {valid : ValidResponse}
    (enveloped : Enveloped call prepared reserved) (accepted : validateModelResponse response = .ok valid)
    (candidate : ⟨valid.providerId, valid.model⟩ ∈ call.candidates)
    (within : UsageWithin valid.usage call.context.usageBound) :
    ∃ answer, priceAnswer call prepared response = .ok answer ∧ answer.actual.micros ≤ prepared.envelope.micros := by
  obtain ⟨pricing, stored⟩ := Option.isSome_iff_exists.mp (enveloped.priced _ candidate)
  obtain ⟨maximum, computed, covered⟩ := enveloped.covered _ pricing stored
  obtain ⟨cost, calculated, bounded⟩ := calculateCost_le computed within
  dsimp only at stored
  refine ⟨⟨valid, pricing, cost, maximum⟩, ?_, bounded.trans covered⟩
  unfold priceAnswer
  rw [bind_returns accepted, stored]
  dsimp only
  rw [bind_returns calculated, bind_returns computed]
  rfl

/-- The maximum bounds the cost of usage within the bound and is attained by it, and a valid answer of a candidate
within the bound is charged without overage. -/
theorem envelope_covers_charges (references : ReferencedTables) (call : GatewayCall) (before : CostTables) :
    (∀ price bound, ValidBound bound →
      ∃ maximum, calculateMaximumCost bound price = .ok maximum ∧ Envelopes maximum bound price) ∧
    ∀ prepared reserved response valid, prepare references call before = .ok (prepared, reserved) →
      call.outcome = .returned response → validateModelResponse response = .ok valid →
      ⟨valid.providerId, valid.model⟩ ∈ call.candidates → UsageWithin valid.usage call.context.usageBound →
        ChargedWithoutOverage before (completeMetered references call before).2 prepared.envelope.micros ∧
        (FreshIds call before → Chargeable references call prepared →
          alreadyRecorded call (some response) before = false →
            ∃ event, (completeMetered references call before).2.events = before.events ++ [event]) := by
  constructor
  · intro price bound valid
    exact ⟨_, calculateMaximumCost_ok valid, calculateMaximumCost_envelopes (calculateMaximumCost_ok valid)⟩
  · intro prepared reserved response valid prepares returned accepted candidate within
    have enveloped := prepare_envelops prepares
    have preparation := prepare_ok prepares
    obtain ⟨answer, priced, covered⟩ := priceAnswer_covered enveloped accepted candidate within
    have settled : completeMetered references call before =
        recordAnswer references call prepared response answer reserved := by
      simp only [completeMetered, prepares, settle, returned, priced]
    rw [settled]
    constructor
    · have charged := @recordAnswer_without_overage reserved references call prepared response answer enveloped.held covered
      unfold ChargedWithoutOverage at *
      rwa [preparation.events] at charged
    · intro fresh chargeable new
      have law := (accepted_settled preparation fresh returned priced).mpr (.inr chargeable)
      unfold Settled at law
      simp only [returned, ProviderOutcome.answer] at law
      rcases law with ⟨repeated, _⟩ | ⟨event, appended, _⟩
      · rw [new] at repeated
        cases repeated
      · exact ⟨event, appended⟩

theorem envelope_covers_charges_answered : ∃ prepared reserved,
    prepare ⟨["project"], [], [], []⟩ (answeredAfter 5000) officeTables = .ok (prepared, reserved) ∧
      ChargedWithoutOverage officeTables
        (completeMetered ⟨["project"], [], [], []⟩ (answeredAfter 5000) officeTables).2 prepared.envelope.micros := by
  have called : (prepare ⟨["project"], [], [], []⟩ (answeredAfter 5000) officeTables).isOk = true := by decide
  cases prepares : prepare ⟨["project"], [], [], []⟩ (answeredAfter 5000) officeTables with
  | error thrown =>
    rw [prepares] at called
    cases called
  | ok state =>
    obtain ⟨prepared, reserved⟩ := state
    refine ⟨prepared, reserved, rfl, ?_⟩
    exact ((envelope_covers_charges _ _ officeTables).2 prepared reserved _ ⟨"vendor", "model", none, ⟨70, 0, 0, 0⟩⟩
      prepares rfl (by decide) (by decide) ⟨⟨_, rfl⟩, by decide, by decide⟩).1

end AiOffice.LlmGateway
