import AiOffice.Storage.Cost.Effects

namespace AiOffice.Storage.Cost

open Data Data.Outcome Domain

variable {tables after : CostTables} {references : ReferencedTables} {input : RecordUsageAndCostInput}
  {ids : List String} {expiresAt now : Date} {reserved : Nat}

/-- An open reservation of each id, all with one expiry, and no other active one of these ids. -/
structure Taken (tables : CostTables) (ids : List String) (expiresAt : Date) : Prop where
  distinct : ids.Nodup
  held : ∀ id ∈ ids, ∃ row, tables.reservations.find? (fun reservation => reservation.id = id) = some row ∧
    row.status = .active ∧ row.expiresAt = expiresAt ∧ isSafeInteger row.amountMicros = true
  active : ∀ row ∈ tables.reservations, row.id ∈ ids → row.status = .active
  once : ∀ id ∈ ids,
    tables.reservations.countP (fun reservation => reservation.id = id && reservation.status = .active) = 1

structure Recordable (references : ReferencedTables) (input : RecordUsageAndCostInput) (expiresAt : Date) :
    Prop where
  owned : usageOwned references input.context = true
  project : input.context.projectId ∈ references.projects
  unexpired : input.finalizedIds = [] ∨ input.occurredAt < expiresAt
  estimated : isCount input.estimated.micros = true
  actual : isCount input.actual.micros = true

theorem isCount_iff {value : Int} : isCount value = true ↔ isSafeInteger value = true ∧ 0 ≤ value := by
  simp [isCount]

theorem safe_count {value : Int} (count : isCount value = true) : safe value = .ok value.toNat := by
  obtain ⟨isSafe, positive⟩ := isCount_iff.mp count
  simp [safe, isSafe, positive]

theorem count_of_safe {value : Int} {stored : Nat} (accepted : safe value = .ok stored) :
    isCount value = true := by
  obtain ⟨valid, _⟩ := guard_ok accepted
  rw [not_or] at valid
  exact isCount_iff.mpr ⟨by simpa using valid.2, by omega⟩

theorem isCount_le {value larger : Int} (count : isCount larger = true) (positive : 0 ≤ value)
    (within : value ≤ larger) : isCount value = true := by
  simp only [isCount, isSafeInteger, Bool.and_eq_true, decide_eq_true_eq] at count ⊢
  omega

section Checks

theorem Taken.tail {id : String} (taken : Taken tables (id :: ids) expiresAt) : Taken tables ids expiresAt where
  distinct := taken.distinct.of_cons
  held := fun other member => taken.held other (List.mem_cons_of_mem _ member)
  active := fun row stored member => taken.active row stored (List.mem_cons_of_mem _ member)
  once := fun other member => taken.once other (List.mem_cons_of_mem _ member)

theorem reservedAmount_open (taken : Taken tables ids expiresAt) (open_ : now < expiresAt)
    (start : isSafeInteger reserved = true) :
    ∃ amount : Nat, reservedAmount tables now ids reserved = .ok (some amount) ∧ isSafeInteger amount = true := by
  induction ids generalizing reserved with
  | nil => exact ⟨reserved, rfl, start⟩
  | cons id ids ih =>
    obtain ⟨row, found, active, expiry, isSafe⟩ := taken.held id List.mem_cons_self
    have later : ¬(row.status = .released ∨ row.expiresAt ≤ now) := by
      rw [active, expiry]
      simpa using open_
    have unconsumed : row.status ≠ .consumed := by simp [active]
    rw [reservedAmount, found]
    dsimp only
    rw [if_neg later, if_neg unconsumed]
    split
    · exact ih taken.tail start
    · rw [bind_returns (show restoredInteger row.amountMicros = .ok row.amountMicros from by
        simp [restoredInteger, isSafe])]
      exact ih taken.tail isSafe

theorem reservedAmount_expired (taken : Taken tables ids expiresAt) (some_ : ids ≠ []) (expired : expiresAt ≤ now) :
    ∃ id, reservedAmount tables now ids reserved = .error (reservationExpired id) := by
  cases ids with
  | nil => exact absurd rfl some_
  | cons id ids =>
    obtain ⟨row, found, _, expiry, _⟩ := taken.held id List.mem_cons_self
    exact ⟨id, by rw [reservedAmount, found]; simp [expiry, expired]⟩

theorem usage_counts {usage : ModelUsage} (counts : isCount usage.inputTokens ∧ isCount usage.cachedInputTokens ∧
      isCount usage.outputTokens ∧ isCount usage.reasoningTokens) (usageOf : input.usage = usage)
    (newRequest : tables.requestRecorded input.provider input.providerRequestId = false)
    (owned : usageOwned references input.context = true) (project : input.context.projectId ∈ references.projects) :
    insertUsage references input tables = .ok (usageRowOf input) := by
  obtain ⟨first, second, third, fourth⟩ := counts
  have counted : ∀ value, isCount value = true → safeCount value = .ok value := fun value count => by
    simp [safeCount, count]
  subst usageOf
  unfold insertUsage
  rw [bind_returns (counted _ first), bind_returns (counted _ second), bind_returns (counted _ third),
    bind_returns (counted _ fourth)]
  simp [owned, newRequest, project]
  rfl

theorem overage_count (actual : isCount input.actual.micros = true) :
    isCount (overageOf input reserved) = true := by
  have positive := (isCount_iff.mp actual).2
  unfold overageOf
  split
  · next exceeds => exact isCount_le actual (by omega) (by omega)
  · decide

theorem costEvent_inserted {row : UsageRow} (newEvent : ∀ event ∈ tables.events, event.id ≠ input.costEventId)
    (priced : ∃ pricing ∈ tables.pricing, pricing.id = input.pricingVersionId)
    (primary : ∀ id, input.reservationId = some id →
      ∃ reservation ∈ tables.reservations, reservation.id = id)
    (estimated : isCount input.estimated.micros = true) (actual : isCount input.actual.micros = true)
    (reservedSafe : isSafeInteger reserved = true) :
    ∃ after, insertCostEvent input reserved row tables = .ok after := by
  have reservedCount : isCount reserved = true := isCount_iff.mpr ⟨reservedSafe, by omega⟩
  obtain ⟨pricing, stored, same⟩ := priced
  have unpriced : ¬(tables.pricing.all fun pricing => pricing.id ≠ input.pricingVersionId) = true := by
    simpa using ⟨pricing, stored, same⟩
  have repeated : ¬(tables.events.any fun event => event.id = input.costEventId) = true := by
    simpa using newEvent
  have dangling : ¬(input.reservationId.any fun id =>
      tables.reservations.all fun reservation => reservation.id ≠ id) = true := by
    cases given : input.reservationId with
    | none => simp
    | some id => simpa using primary id given
  unfold insertCostEvent
  rw [bind_returns (safe_count estimated), bind_returns (safe_count reservedCount),
    bind_returns (safe_count actual), bind_returns (safe_count (overage_count actual)),
    if_neg repeated, if_neg unpriced, if_neg dangling]
  exact ⟨_, rfl⟩

theorem countP_finalize {id other : String} (different : other ≠ id) :
    (tables.finalize .consumed now fun row => row.id = id).reservations.countP
        (fun reservation => reservation.id = other && reservation.status = .active) =
      tables.reservations.countP (fun reservation => reservation.id = other && reservation.status = .active) := by
  unfold CostTables.finalize
  rw [List.countP_map]
  apply List.countP_congr
  intro row _
  by_cases same : row.id = id
  · simp [same, different.symm]
    split <;> simp [same, different.symm]
  · simp [same]

theorem consume_once (distinct : ids.Nodup) (once : ∀ id ∈ ids,
      tables.reservations.countP (fun reservation => reservation.id = id && reservation.status = .active) = 1) :
    ∃ after, consumeReservations now ids tables = .ok after := by
  induction ids generalizing tables with
  | nil => exact ⟨tables, rfl⟩
  | cons id ids ih =>
    have single := once id List.mem_cons_self
    rw [consumeReservations, if_neg (by simp [single])]
    refine ih distinct.of_cons fun other member => ?_
    have different : other ≠ id := fun same => (List.nodup_cons.mp distinct).1 (same ▸ member)
    rw [countP_finalize different]
    exact once other (List.mem_cons_of_mem _ member)

end Checks

/-- What a record needs besides: new keys, a pricing version that exists and reservations as they were taken. -/
structure Ready (tables : CostTables) (input : RecordUsageAndCostInput) (expiresAt : Date) : Prop where
  taken : Taken tables input.finalizedIds expiresAt
  primary : ∀ id, input.reservationId = some id → id ∈ input.finalizedIds
  counts : isCount input.usage.inputTokens ∧ isCount input.usage.cachedInputTokens ∧
    isCount input.usage.outputTokens ∧ isCount input.usage.reasoningTokens
  newUsage : tables.usageRecorded input.usageId = false
  newEvent : ∀ event ∈ tables.events, event.id ≠ input.costEventId
  priced : ∃ pricing ∈ tables.pricing, pricing.id = input.pricingVersionId

theorem reservedAmount_ready (taken : Taken tables ids expiresAt) (unexpired : ids = [] ∨ now < expiresAt) :
    ∃ amount : Nat, reservedAmount tables now ids 0 = .ok (some amount) ∧ isSafeInteger amount = true := by
  rcases unexpired with rfl | open_
  · exact ⟨0, rfl, by decide⟩
  · exact reservedAmount_open taken open_ (by decide)

theorem record_made (ready : Ready tables input expiresAt) (recordable : Recordable references input expiresAt)
    (newRequest : tables.requestRecorded input.provider input.providerRequestId = false) :
    ∃ after, recordUsageAndCost references input tables = .ok (.recorded, after) := by
  obtain ⟨amount, counted, isSafe⟩ := reservedAmount_ready ready.taken recordable.unexpired
  have usage := usage_counts ready.counts rfl newRequest recordable.owned recordable.project
  have primary : ∀ id, input.reservationId = some id → ∃ reservation ∈ tables.reservations, reservation.id = id := by
    intro id given
    obtain ⟨row, found, _⟩ := ready.taken.held id (ready.primary id given)
    exact ⟨row, List.mem_of_find?_eq_some found, by simpa using List.find?_some found⟩
  obtain ⟨charged, cost⟩ := @costEvent_inserted tables input amount (usageRowOf input) ready.newEvent ready.priced
    primary recordable.estimated recordable.actual isSafe
  obtain ⟨event, rfl, _⟩ := insertCostEvent_ok rfl cost
  obtain ⟨after, consumed⟩ := @consume_once { tables with events := tables.events ++ [event] }
    input.finalizedIds input.occurredAt ready.taken.distinct ready.taken.once
  refine ⟨after, ?_⟩
  unfold recordUsageAndCost
  rw [if_neg (by simp [ready.newUsage]), if_neg (by simp [newRequest]), bind_returns counted]
  dsimp only
  rw [bind_returns usage, bind_returns cost, bind_returns consumed]
  rfl

/-- A record that was made was recordable. -/
theorem record_recordable (ready : Ready tables input expiresAt)
    (recorded : recordUsageAndCost references input tables = .ok (.recorded, after)) :
    Recordable references input expiresAt := by
  unfold recordUsageAndCost at recorded
  split at recorded
  · cases recorded
  split at recorded
  · cases recorded
  obtain ⟨outcome, checked, recorded⟩ := bind_ok recorded
  cases outcome with
  | none => cases recorded
  | some amount =>
    obtain ⟨row, usage, recorded⟩ := bind_ok recorded
    obtain ⟨charged, cost, _⟩ := bind_ok recorded
    obtain ⟨_, _, usage⟩ := bind_ok usage
    obtain ⟨_, _, usage⟩ := bind_ok usage
    obtain ⟨_, _, usage⟩ := bind_ok usage
    obtain ⟨_, _, usage⟩ := bind_ok usage
    obtain ⟨owned, usage⟩ := guard_ok usage
    obtain ⟨_, usage⟩ := guard_ok usage
    obtain ⟨project, _⟩ := guard_ok usage
    obtain ⟨_, estimated, cost⟩ := bind_ok cost
    obtain ⟨_, _, cost⟩ := bind_ok cost
    obtain ⟨_, actual, _⟩ := bind_ok cost
    refine ⟨by simpa using owned, by simpa using project, ?_, count_of_safe estimated, count_of_safe actual⟩
    by_contra closed
    rw [not_or, Int.not_lt] at closed
    obtain ⟨id, refused⟩ := @reservedAmount_expired tables _ expiresAt input.occurredAt 0 ready.taken
      closed.1 closed.2
    rw [refused] at checked
    cases checked

theorem record_repeated (newUsage : tables.usageRecorded input.usageId = false)
    (repeated : tables.requestRecorded input.provider input.providerRequestId = true) :
    recordUsageAndCost references input tables = .ok (.duplicate, tables) := by
  simp [recordUsageAndCost, newUsage, repeated]

section Errors

def Unrepeated (thrown : Thrown) : Prop := thrown.name ≠ .duplicateProviderUsageError

theorem safe_throws {value : Int} : Throws Unrepeated (safe value) :=
  .ite (fun _ => .error nofun) fun _ => .ok _

theorem safeCount_throws {value : Int} : Throws Unrepeated (safeCount value) :=
  .ite (fun _ => .error nofun) fun _ => .ok _

theorem restoredInteger_throws {value : Nat} : Throws Unrepeated (restoredInteger value) :=
  .ite (fun _ => .error nofun) fun _ => .ok _

theorem reservedAmount_throws : Throws Unrepeated (reservedAmount tables now ids reserved) := by
  induction ids generalizing reserved with
  | nil => exact .ok _
  | cons id ids ih =>
    unfold reservedAmount
    split
    · exact .error nofun
    · refine .ite (fun _ => .error nofun) fun _ => .ite (fun _ => .ok _) fun _ => .ite (fun _ => ih) fun _ => ?_
      exact .bind restoredInteger_throws fun _ _ => ih

theorem insertUsage_throws (newRequest : tables.requestRecorded input.provider input.providerRequestId = false) :
    Throws Unrepeated (insertUsage references input tables) := by
  refine .bind safeCount_throws fun _ _ => .bind safeCount_throws fun _ _ => .bind safeCount_throws fun _ _ =>
    .bind safeCount_throws fun _ _ => .ite (fun _ => .error nofun) fun _ => .ite (fun repeated => ?_) fun _ =>
    .ite (fun _ => .error nofun) fun _ => .ok _
  rw [newRequest] at repeated
  cases repeated

theorem insertCostEvent_throws {row : UsageRow} : Throws Unrepeated (insertCostEvent input reserved row tables) :=
  .bind safe_throws fun _ _ => .bind safe_throws fun _ _ => .bind safe_throws fun _ _ =>
    .bind safe_throws fun _ _ => .ite (fun _ => .error nofun) fun _ => .ite (fun _ => .error nofun) fun _ =>
    .ite (fun _ => .error nofun) fun _ => .ok _

theorem consumeReservations_throws : Throws Unrepeated (consumeReservations now ids tables) := by
  induction ids generalizing tables with
  | nil => exact .ok _
  | cons id ids ih => exact .ite (fun _ => .error nofun) fun _ => ih

theorem record_throws : Throws Unrepeated (recordUsageAndCost references input tables) := by
  refine .ite (fun _ => .ok _) fun _ => .ite (fun _ => .ok _) fun newRequest => ?_
  refine .bind reservedAmount_throws fun outcome _ => ?_
  cases outcome with
  | none => exact .ok _
  | some amount =>
    refine .bind (insertUsage_throws (by simpa using newRequest)) fun _ _ => ?_
    exact .bind insertCostEvent_throws fun _ _ => .bind consumeReservations_throws fun _ _ => .ok _

end Errors

theorem record_new (ready : Ready tables input expiresAt)
    (newRequest : tables.requestRecorded input.provider input.providerRequestId = false) :
    recordUsageAndCost references input tables ≠ .ok (.duplicate, after) := by
  intro duplicate
  rw [recordUsageAndCost, if_neg (by simp [ready.newUsage]), if_neg (by simp [newRequest])] at duplicate
  obtain ⟨outcome, checked, rest⟩ := bind_ok duplicate
  cases outcome with
  | none =>
    by_cases unexpired : input.finalizedIds = [] ∨ input.occurredAt < expiresAt
    · obtain ⟨amount, counted, _⟩ := reservedAmount_ready ready.taken unexpired
      rw [counted] at checked
      cases checked
    · rw [not_or, Int.not_lt] at unexpired
      obtain ⟨id, refused⟩ := @reservedAmount_expired tables _ expiresAt input.occurredAt 0 ready.taken
        unexpired.1 unexpired.2
      rw [refused] at checked
      cases checked
  | some amount =>
    obtain ⟨_, _, rest⟩ := bind_ok rest
    obtain ⟨_, _, rest⟩ := bind_ok rest
    obtain ⟨_, _, same⟩ := bind_ok rest
    cases same

theorem record_decides (ready : Ready tables input expiresAt) :
    (tables.requestRecorded input.provider input.providerRequestId = true ∧
        recordUsageAndCost references input tables = .ok (.duplicate, tables)) ∨
      (tables.requestRecorded input.provider input.providerRequestId = false ∧
        Recordable references input expiresAt ∧
        ∃ after, recordUsageAndCost references input tables = .ok (.recorded, after)) ∨
      (tables.requestRecorded input.provider input.providerRequestId = false ∧
        ¬Recordable references input expiresAt ∧
        ∃ thrown, recordUsageAndCost references input tables = .error thrown ∧ Unrepeated thrown) := by
  cases newRequest : tables.requestRecorded input.provider input.providerRequestId with
  | true => exact .inl ⟨rfl, record_repeated ready.newUsage newRequest⟩
  | false =>
    refine .inr ?_
    by_cases recordable : Recordable references input expiresAt
    · exact .inl ⟨rfl, recordable, record_made ready recordable newRequest⟩
    refine .inr ⟨rfl, recordable, ?_⟩
    cases outcome : recordUsageAndCost references input tables with
    | error thrown => exact ⟨thrown, rfl, record_throws thrown outcome⟩
    | ok result =>
      obtain ⟨recording, after⟩ := result
      cases recording with
      | recorded => exact absurd (record_recordable ready outcome) recordable
      | duplicate => exact absurd outcome (record_new ready newRequest)

end AiOffice.Storage.Cost
