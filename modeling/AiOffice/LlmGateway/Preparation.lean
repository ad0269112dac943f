import AiOffice.LlmGateway.MeteredGateway
import AiOffice.Storage.Cost.Recording
import Mathlib.Data.List.Nodup

namespace AiOffice.LlmGateway

open Data Data.Outcome Domain Storage.Cost

variable {tables after : CostTables} {references : ReferencedTables} {call : GatewayCall} {now : Date}

theorem latestPricing_mem {rows : List PricingVersion} {best : Option PricingVersion} {row : PricingVersion}
    (latest : latestPricing rows best = some row) : row ∈ rows ∨ best = some row := by
  induction rows generalizing best with
  | nil => exact .inr latest
  | cons first rows ih =>
    rcases ih latest with later | same
    · exact .inl (List.mem_cons_of_mem _ later)
    · split at same
      · exact .inr same
      · exact .inl (Option.some.inj same ▸ List.mem_cons_self)

theorem findPricing_mem {provider model : String} {pricing : PricingVersion}
    (found : findPricing provider model now tables = .ok (some pricing)) : pricing ∈ tables.pricing := by
  unfold findPricing at found
  dsimp only at found
  split at found
  · cases found
  · next row selected =>
      obtain ⟨_, _, found⟩ := bind_ok found
      obtain ⟨_, _, found⟩ := bind_ok found
      obtain ⟨_, _, found⟩ := bind_ok found
      obtain ⟨_, _, same⟩ := bind_ok found
      cases same
      rcases latestPricing_mem selected with member | none
      · exact (List.mem_filter.mp member).1
      · cases none

theorem set_mem {prices : PriceMap} {key : String} {pricing : PricingVersion} {entry : String × PricingVersion}
    (member : entry ∈ prices.set key pricing) : entry ∈ prices ∨ entry.2 = pricing := by
  unfold PriceMap.set at member
  split at member
  · obtain ⟨old, stored, rfl⟩ := List.mem_map.mp member
    split
    · exact .inr rfl
    · exact .inl stored
  · rcases List.mem_append.mp member with stored | new
    · exact .inl stored
    · exact .inr (by rw [List.mem_singleton.mp new])

theorem priceCandidates_mem {candidates : List PricingCandidate} {prices final : PriceMap}
    (priced : priceCandidates tables now candidates prices = .ok final)
    (start : ∀ entry ∈ prices, entry.2 ∈ tables.pricing) : ∀ entry ∈ final, entry.2 ∈ tables.pricing := by
  induction candidates generalizing prices with
  | nil =>
    cases priced
    exact start
  | cons candidate candidates ih =>
    obtain ⟨found, looked, priced⟩ := bind_ok priced
    cases found with
    | none => cases priced
    | some pricing =>
      refine ih priced fun entry member => ?_
      rcases set_mem member with stored | same
      · exact start entry stored
      · exact same ▸ findPricing_mem looked

theorem raiseEnvelope_mem {bound : ModelUsageBound} {prices : List PricingVersion} {start final : Envelope}
    (raised : raiseEnvelope bound prices start = .ok final) :
    final.pricing = start.pricing ∨ final.pricing ∈ prices := by
  induction prices generalizing start with
  | nil =>
    cases raised
    exact .inl rfl
  | cons pricing prices ih =>
    obtain ⟨maximum, _, raised⟩ := bind_ok raised
    rcases ih raised with same | member
    · split at same
      · exact .inr (same ▸ List.mem_cons_self)
      · exact .inl same
    · exact .inr (List.mem_cons_of_mem _ member)

theorem envelopeOf_mem {bound : ModelUsageBound} {first : PricingVersion} {others : List PricingVersion}
    {envelope : Envelope} (computed : envelopeOf bound first others = .ok envelope) :
    envelope.pricing ∈ first :: others := by
  obtain ⟨maximum, _, raised⟩ := bind_ok computed
  rcases raiseEnvelope_mem raised with same | member
  · exact same ▸ List.mem_cons_self
  · exact List.mem_cons_of_mem _ member

theorem insertReservations_ids {rows : List (AuthorizeReservationInput × Budget × Nat)}
    (inserted : insertReservations references rows tables = .ok after) :
    (rows.map fun row => row.1.id).Nodup ∧
      ∀ row ∈ rows, ∀ old ∈ tables.reservations, old.id ≠ row.1.id := by
  induction rows generalizing tables with
  | nil => simp
  | cons row rows ih =>
    obtain ⟨between, first, rest⟩ := bind_ok inserted
    obtain ⟨distinct, apart⟩ := ih rest
    obtain ⟨unused, _⟩ := guard_ok first
    rw [insertReservation_ok first] at apart
    have newFirst : ∀ old ∈ tables.reservations, old.id ≠ row.1.id := by
      simp only [List.any_eq_true, decide_eq_true_eq, not_exists, not_and] at unused
      exact unused
    refine ⟨List.nodup_cons.mpr ⟨?_, distinct⟩, List.forall_mem_cons.mpr ⟨newFirst, ?_⟩⟩
    · intro member
      obtain ⟨other, stored, same⟩ := List.mem_map.mp member
      exact apart other stored _ (List.mem_append_right _ List.mem_cons_self) same.symm
    · exact fun other member old stored => apart other member old (List.mem_append_left _ stored)

theorem authorize_count {request : AuthorizeReservationInput} {row : Budget × Nat}
    (authorized : authorize tables request = .ok row) : isSafeInteger row.2 = true := by
  unfold authorize at authorized
  split at authorized
  · cases authorized
  · obtain ⟨stored, isSafe, authorized⟩ := bind_ok authorized
    obtain ⟨_, _, authorized⟩ := bind_ok authorized
    obtain ⟨_, _, authorized⟩ := bind_ok authorized
    obtain ⟨_, _, authorized⟩ := bind_ok authorized
    obtain ⟨_, same⟩ := guard_ok authorized
    cases same
    rw [safe_ok isSafe]
    exact (isCount_iff.mp (count_of_safe isSafe)).1

/-- The reservations of a batch with one expiry are taken. -/
theorem reserved_taken {requests : List AuthorizeReservationInput} {answers : List BudgetReservation}
    {expiresAt : Date} (expiry : ∀ request ∈ requests, request.expiresAt = expiresAt)
    (reserved : authorizeAndReserveMany references requests tables = .ok (answers, after)) :
    Taken after (requests.map AuthorizeReservationInput.id) expiresAt := by
  unfold authorizeAndReserveMany at reserved
  split at reserved
  · cases reserved
  obtain ⟨rows, authorized, reserved⟩ := bind_ok reserved
  obtain ⟨between, inserted, same⟩ := bind_ok reserved
  cases same
  obtain ⟨rfl, granted⟩ := authorizeAll_ok authorized
  obtain ⟨distinct, apart⟩ := insertReservations_ids inserted
  rw [insertReservations_ok inserted]
  have ids : (rows.map Prod.fst).map AuthorizeReservationInput.id = rows.map fun row => row.1.id := by
    rw [List.map_map]
    rfl
  have absent : ∀ id ∈ rows.map (fun row => row.1.id), ∀ old ∈ tables.reservations, old.id ≠ id := by
    intro id member old stored
    obtain ⟨row, rowMember, rfl⟩ := List.mem_map.mp member
    exact apart row rowMember old stored
  rw [ids]
  refine ⟨distinct, fun id member => ?_, fun row stored member => ?_, fun id member => ?_⟩
  · obtain ⟨row, rowMember, same⟩ := List.mem_map.mp member
    have skipped : tables.reservations.find? (fun reservation => reservation.id = id) = none := by
      simpa using absent id member
    have exists_ : ((rows.map fun row => reservationOf row.1 row.2.1 row.2.2).find?
        fun reservation => reservation.id = id).isSome := by
      rw [List.find?_isSome]
      exact ⟨_, List.mem_map_of_mem rowMember, decide_eq_true same⟩
    obtain ⟨found, isFound⟩ := Option.isSome_iff_exists.mp exists_
    refine ⟨found, by rw [List.find?_append, skipped]; exact isFound, ?_⟩
    obtain ⟨source, sourceMember, rfl⟩ := List.mem_map.mp (List.mem_of_find?_eq_some isFound)
    exact ⟨rfl, expiry _ (List.mem_map_of_mem sourceMember), authorize_count (granted source sourceMember)⟩
  · rcases List.mem_append.mp stored with old | new
    · exact absurd rfl (absent row.id member row old)
    · obtain ⟨source, _, rfl⟩ := List.mem_map.mp new
      rfl
  · have before : tables.reservations.countP
        (fun reservation => reservation.id = id && reservation.status = .active) = 0 := by
      rw [List.countP_eq_zero]
      intro old stored
      simp [absent id member old stored]
    have new : (rows.map fun row => reservationOf row.1 row.2.1 row.2.2).countP
        (fun reservation => reservation.id = id && reservation.status = .active) =
          (rows.map fun row => row.1.id).count id := by
      rw [List.count, List.countP_map, List.countP_map]
      apply List.countP_congr
      simp [reservationOf]
    rw [List.countP_append, before, new, Nat.zero_add]
    exact List.count_eq_one_of_mem distinct member

def GatewayCall.expiresAt (call : GatewayCall) : Date :=
  call.readings.now + call.context.reservationTtlMs.getD defaultTtlMs

structure Preparation (before : CostTables) (call : GatewayCall) (prepared : Prepared) (reserved : CostTables) :
    Prop where
  events : reserved.events = before.events
  pricing : reserved.pricing = before.pricing
  prices : ∀ entry ∈ prepared.prices, entry.2 ∈ before.pricing
  envelope : prepared.envelope.pricing ∈ before.pricing
  taken : Taken reserved prepared.reservationIds call.expiresAt
  primary : prepared.reservationIds ≠ [] →
    ∃ id ∈ prepared.reservationIds, prepared.primaryReservationId = some id

theorem primaryReservation_mem {scopes : CallScopes} {inputs : List AuthorizeReservationInput} {id : String}
    (primary : primaryReservation scopes inputs = some id) : id ∈ inputs.map AuthorizeReservationInput.id := by
  unfold primaryReservation at primary
  split at primary
  · obtain ⟨input, found, rfl⟩ := Option.map_eq_some_iff.mp primary
    exact List.mem_map_of_mem (List.mem_of_find?_eq_some found)
  · cases primary

theorem reserve_ok {inputs : List AuthorizeReservationInput} {primary : Option String} {expiresAt : Date}
    (expiry : ∀ input ∈ inputs, input.expiresAt = expiresAt)
    (reserved : reserve references inputs primary tables = .ok after) :
    after.events = tables.events ∧ after.pricing = tables.pricing ∧
      Taken after (inputs.map AuthorizeReservationInput.id) expiresAt ∧ (inputs ≠ [] → primary ≠ none) := by
  unfold reserve at reserved
  split at reserved
  · next none =>
      cases reserved
      subst none
      exact ⟨rfl, rfl, ⟨List.nodup_nil, nofun, nofun, nofun⟩, fun some => absurd rfl some⟩
  · obtain ⟨given, mapped⟩ := guard_ok reserved
    obtain ⟨⟨answers, final⟩, taken, rfl⟩ := map_ok mapped
    obtain ⟨rows, _, same⟩ := authorizeAndReserveMany_ok taken
    refine ⟨by rw [same], by rw [same], reserved_taken expiry taken, fun _ => given⟩

theorem prepareScoped_ok {prices : PriceMap} {currency : Currency} {envelope : Envelope} {prepared : Prepared}
    (priced : ∀ entry ∈ prices, entry.2 ∈ tables.pricing) (member : envelope.pricing ∈ tables.pricing)
    (succeeded : prepareScoped references call prices currency envelope tables = .ok (prepared, after)) :
    Preparation tables call prepared after := by
  obtain ⟨scopes, _, succeeded⟩ := bind_ok succeeded
  obtain ⟨reservable, _, succeeded⟩ := bind_ok succeeded
  obtain ⟨final, reserved, same⟩ := bind_ok succeeded
  cases same
  have expiry : ∀ input ∈ reservable.mapIdx (reservationInput call currency envelope.micros),
      input.expiresAt = call.expiresAt := by
    intro input inputMember
    obtain ⟨index, _, rfl⟩ := List.mem_mapIdx.mp inputMember
    rfl
  obtain ⟨events, pricing, taken, given⟩ := reserve_ok expiry reserved
  refine ⟨events, pricing, priced, member, taken, fun some => ?_⟩
  obtain ⟨id, primary⟩ := Option.ne_none_iff_exists'.mp (given fun none => some (by rw [none]; rfl))
  exact ⟨id, primaryReservation_mem primary, primary⟩

theorem prepare_ok {prepared : Prepared} (succeeded : prepare references call tables = .ok (prepared, after)) :
    Preparation tables call prepared after := by
  obtain ⟨prices, priced, succeeded⟩ := bind_ok succeeded
  have priceMem := priceCandidates_mem priced nofun
  split at succeeded
  · cases succeeded
  · next first others listed =>
      obtain ⟨_, succeeded⟩ := guard_ok succeeded
      obtain ⟨envelope, computed, succeeded⟩ := bind_ok succeeded
      have member : envelope.pricing ∈ prices.map Prod.snd := listed ▸ envelopeOf_mem computed
      obtain ⟨entry, stored, same⟩ := List.mem_map.mp member
      exact prepareScoped_ok priceMem (same ▸ priceMem entry stored) succeeded

end AiOffice.LlmGateway
