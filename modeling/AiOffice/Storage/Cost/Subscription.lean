import AiOffice.Storage.Cost.Effects
import AiOffice.Transition.Run
import Mathlib.Data.List.Nodup

namespace AiOffice.Storage.Cost

open Data Data.Outcome Domain Transition

variable {tables after : CostTables} {budget other : Budget} {now clock : Date} {references : ReferencedTables}

inductive Operation
  | saveBudget (input : SaveBudgetInput) (now : Date)
  | authorizeAndReserve (request : AuthorizeReservationInput)
  | authorizeAndReserveMany (requests : List AuthorizeReservationInput)
  | releaseReservation (id : String) (now : Date)
  | releaseReservations (ids : List String) (now : Date)
  | releaseExpiredReservations (now : Date)
  | recordUsageAndCost (input : RecordUsageAndCostInput)

def Operation.times : Operation → List Date
  | .saveBudget _ now | .releaseReservation _ now | .releaseReservations _ now
  | .releaseExpiredReservations now => [now]
  | .authorizeAndReserve request => [request.now]
  | .authorizeAndReserveMany requests => requests.map AuthorizeReservationInput.now
  | .recordUsageAndCost input => [input.occurredAt]

def kept (outcome : Except Thrown CostTables) (tables : CostTables) : CostTables :=
  outcome.toOption.getD tables

def Operation.perform (references : ReferencedTables) : Operation → CostTables → CostTables
  | .saveBudget input _, tables => kept (Cost.saveBudget references input tables) tables
  | .authorizeAndReserve request, tables =>
    kept ((Cost.authorizeAndReserve references request tables).map Prod.snd) tables
  | .authorizeAndReserveMany requests, tables =>
    kept ((Cost.authorizeAndReserveMany references requests tables).map Prod.snd) tables
  | .releaseReservation id now, tables => (Cost.releaseReservation id now tables).2
  | .releaseReservations ids now, tables => Cost.releaseReservations ids now tables
  | .releaseExpiredReservations now, tables => (Cost.releaseExpiredReservations now tables).2
  | .recordUsageAndCost input, tables =>
    kept ((Cost.recordUsageAndCost references input tables).map Prod.snd) tables

variable {operation : Operation} {requests : List AuthorizeReservationInput} {input : RecordUsageAndCostInput}

/-- A limit is not set below what is already committed, less the overage that was recorded. -/
def Permitted (tables : CostTables) : Operation → Prop
  | .saveBudget input now => ∀ budget ∈ (tables.upsertBudget input input.limitMicros.toNat).budgets,
      budget.toBudgetKey = input.toBudgetKey →
        tables.committed budget now ≤ budget.limitMicros + tables.overage budget
  | _ => True

def requestedMicros (requests : List AuthorizeReservationInput) (budget : Budget) : Nat :=
  tally (fun request => request.amountMicros.toNat)
    (fun request => request.toBudgetKey = budget.toBudgetKey) requests

/-- No budget is named by several requests that it could each grant but not all. -/
def FitsTogether (tables : CostTables) (requests : List AuthorizeReservationInput) (now : Date) : Prop :=
  ∀ budget ∈ tables.budgets,
    requests.countP (fun request => request.toBudgetKey = budget.toBudgetKey) ≤ 1 ∨
      tables.committed budget now + requestedMicros requests budget ≤
        budget.limitMicros + tables.overage budget

def consumedMicros (tables : CostTables) (budget : Budget) (input : RecordUsageAndCostInput) : Nat :=
  tally Reservation.amountMicros (fun row => CostTables.holds budget.id input.occurredAt row &&
    row.id ∈ input.finalizedIds) tables.reservations

/-- On every budget that is charged, the consumed reservations cover the cost, or there is a primary
reservation and they cover the amount that its overage is counted from. -/
def CoversCharge (tables : CostTables) (input : RecordUsageAndCostInput) : Prop :=
  match reservedAmount tables input.occurredAt input.finalizedIds 0 with
  | .ok (some reserved) => ∀ budget ∈ tables.budgets,
      CostTables.covers budget input.context input.actual.currency = true →
        input.actual.micros ≤ consumedMicros tables budget input ∨
          input.reservationId.isSome ∧ reserved ≤ consumedMicros tables budget input
  | _ => True

def Within (tables : CostTables) (now : Date) : Operation → Prop
  | .authorizeAndReserveMany requests =>
    (∀ request ∈ requests, (authorize tables request).isOk = true) → FitsTogether tables requests now
  | .recordUsageAndCost input => CoversCharge tables input
  | _ => True

instance : Decidable (Permitted tables operation) := by
  unfold Permitted
  split <;> infer_instance

instance : Decidable (FitsTogether tables requests now) := by
  unfold FitsTogether
  infer_instance

instance : Decidable (CoversCharge tables input) := by
  unfold CoversCharge
  split <;> infer_instance

instance : Decidable (Within tables now operation) := by
  unfold Within
  split <;> infer_instance

structure Ledger where
  tables : CostTables
  clock : Date

def Ledger.empty (pricing : List PricingVersion) (clock : Date) : Ledger := ⟨⟨pricing, [], [], []⟩, clock⟩

def Operation.finish (operation : Operation) (clock : Date) : Date := operation.times.foldl max clock

def Ledger.perform (ledger : Ledger) (label : ReferencedTables × Operation) : Ledger :=
  ⟨label.2.perform label.1 ledger.tables, label.2.finish ledger.clock⟩

/-- A permitted operation at times that are not before those of the operations so far. -/
def Performs (before : Ledger) (label : ReferencedTables × Operation) (after : Ledger) : Prop :=
  (∀ time ∈ label.2.times, before.clock ≤ time) ∧ Permitted before.tables label.2 ∧
    after = before.perform label

def PerformsWithin (before : Ledger) (label : ReferencedTables × Operation) (after : Ledger) : Prop :=
  Performs before label after ∧ Within before.tables (label.2.finish before.clock) label.2

/-- Every budget covers what is spent and reserved, up to the overage that was recorded. -/
def Covered (tables : CostTables) (now : Date) : Prop :=
  ∀ budget ∈ tables.budgets, tables.committed budget now ≤ budget.limitMicros + tables.overage budget

instance : Decidable (Covered tables now) := by
  unfold Covered
  infer_instance

structure Keyed (tables : CostTables) : Prop where
  ids : (tables.budgets.map Budget.id).Nodup
  keys : (tables.budgets.map Budget.toBudgetKey).Nodup

structure Sound (ledger : Ledger) : Prop where
  keyed : Keyed ledger.tables
  covered : Covered ledger.tables ledger.clock

theorem Covered.later {later : Date} (covered : Covered tables now) (passed : now ≤ later) :
    Covered tables later := fun budget member =>
  Nat.le_trans (committed_later passed) (covered budget member)

private theorem foldl_max_le (times : List Date) (clock : Date) :
    clock ≤ times.foldl max clock ∧ ∀ time ∈ times, time ≤ times.foldl max clock := by
  induction times generalizing clock with
  | nil => simp
  | cons time times ih =>
    obtain ⟨first, rest⟩ := ih (max clock time)
    refine ⟨Int.le_trans (Int.le_max_left _ _) first, List.forall_mem_cons.mpr ⟨?_, rest⟩⟩
    exact Int.le_trans (Int.le_max_right _ _) first

theorem finish_ge (operation : Operation) : clock ≤ operation.finish clock := (foldl_max_le _ _).1

theorem times_le_finish (operation : Operation) : ∀ time ∈ operation.times, time ≤ operation.finish clock :=
  (foldl_max_le _ _).2

section Reserve

variable {rows : List (AuthorizeReservationInput × Budget × Nat)}

theorem reserved_append (keyed : Keyed tables)
    (authorized : ∀ row ∈ rows, authorize tables row.1 = .ok row.2) (member : budget ∈ tables.budgets) :
    CostTables.reserved { tables with reservations :=
        tables.reservations ++ (rows.map fun row => reservationOf row.1 row.2.1 row.2.2) } budget.id now ≤
      tables.reserved budget.id now + requestedMicros (rows.map Prod.fst) budget := by
  unfold CostTables.reserved requestedMicros
  rw [tally_append, tally_of_map, tally_of_map]
  apply Nat.add_le_add_left
  apply tally_le
  intro row rowMember held
  obtain ⟨found, amount, _⟩ := authorize_ok (authorized row rowMember)
  obtain ⟨stored, sameKey⟩ := findBudgetRow_some found
  have sameId : row.2.1.id = budget.id := by
    simp only [CostTables.holds, reservationOf, Bool.and_eq_true] at held
    exact of_decide_eq_true held.1.1
  have same : row.2.1 = budget := List.inj_on_of_nodup_map keyed.ids stored member sameId
  have within : row.2.2 ≤ row.1.amountMicros.toNat := by rw [← amount, Int.toNat_natCast]
  exact ⟨by simp [← sameKey, same], within⟩

theorem reserve_covered (keyed : Keyed tables)
    (authorized : ∀ row ∈ rows, authorize tables row.1 = .ok row.2)
    (fits : FitsTogether tables (rows.map Prod.fst) now) (passed : ∀ row ∈ rows, row.1.now ≤ now)
    (covered : Covered tables now) :
    Covered { tables with reservations :=
      tables.reservations ++ (rows.map fun row => reservationOf row.1 row.2.1 row.2.2) } now := by
  intro budget member
  have raised := @reserved_append tables budget now rows keyed authorized member
  have before := covered budget member
  simp only [CostTables.committed] at before ⊢
  rcases fits budget member with single | together
  · rcases @tally_single _ (fun request => request.amountMicros.toNat) _ _ single with
      nothing | ⟨request, requested, sameKey, alone⟩
    · rw [requestedMicros, nothing] at raised
      exact Nat.le_trans (Nat.add_le_add_left raised _) before
    · obtain ⟨row, rowMember, rfl⟩ := List.mem_map.mp requested
      obtain ⟨found, amount, within⟩ := authorize_ok (authorized row rowMember)
      obtain ⟨stored, key⟩ := findBudgetRow_some found
      have same : row.2.1 = budget :=
        List.inj_on_of_nodup_map keyed.keys stored member (key.trans (of_decide_eq_true sameKey))
      have later : tables.committed budget now ≤ tables.committed budget row.1.now :=
        committed_later (passed row rowMember)
      simp only [requestedMicros, alone] at raised
      simp only [same, CostTables.committed] at within later
      show tables.spent budget + _ ≤ budget.limitMicros + tables.overage budget
      omega
  · simp only [CostTables.committed] at together
    show tables.spent budget + _ ≤ budget.limitMicros + tables.overage budget
    omega

end Reserve

theorem finalize_covered {status : ReservationStatus} {moment : Date} {selected : Reservation → Bool}
    (final : status ≠ .active) (covered : Covered tables now) :
    Covered (tables.finalize status moment selected) now := fun budget member =>
  Nat.le_trans (Nat.add_le_add_left (reserved_finalize_le final) _) (covered budget member)

theorem record_covered {input : RecordUsageAndCostInput} {recording : Recording}
    (recorded : recordUsageAndCost references input tables = .ok (recording, after))
    (covers : CoversCharge tables input) (covered : Covered tables input.occurredAt) :
    Covered after input.occurredAt := by
  rcases recordUsageAndCost_ok recorded with ⟨_, rfl⟩ | ⟨reserved, event, _, checked, charge, rfl⟩
  · exact covered
  intro budget member
  obtain ⟨_, usage, _, currency, _, actual, overage⟩ := charge
  have before := covered budget member
  have consumed : CostTables.reserved (CostTables.finalize { tables with events := tables.events ++ [event] }
        .consumed input.occurredAt fun row => row.id ∈ input.finalizedIds) budget.id input.occurredAt +
      consumedMicros tables budget input ≤ tables.reserved budget.id input.occurredAt :=
    reserved_finalize (show ReservationStatus.consumed ≠ .active from by simp)
  simp only [CostTables.committed, CostTables.spent, CostTables.overage, finalize_events, tally_snoc] at before ⊢
  by_cases charged : CostTables.charges budget event = true
  · have touched : CostTables.covers budget input.context input.actual.currency = true := by
      rwa [CostTables.charges, usage, currency] at charged
    rw [CoversCharge, checked] at covers
    have within : event.actualMicros ≤ consumedMicros tables budget input + event.overageMicros := by
      rcases covers budget member touched with enough | ⟨primary, counted⟩
      · omega
      · by_cases exceeds : (reserved : Int) < input.actual.micros
        · rw [overageOf, if_pos ⟨primary, exceeds⟩] at overage
          omega
        · omega
    rw [if_pos charged, if_pos charged]
    omega
  · rw [if_neg charged, if_neg charged]
    omega

theorem upsertBudget_other {input : SaveBudgetInput} {limit : Nat}
    (member : budget ∈ (tables.upsertBudget input limit).budgets)
    (other : budget.toBudgetKey ≠ input.toBudgetKey) : budget ∈ tables.budgets := by
  unfold CostTables.upsertBudget at member
  split at member
  · rcases List.mem_append.mp member with old | new
    · exact old
    · rw [List.mem_singleton.mp new] at other
      exact absurd rfl other
  · obtain ⟨row, stored, rfl⟩ := List.mem_map.mp member
    split at other
    · next same => exact absurd same other
    · next different => rwa [if_neg different]

theorem upsertBudget_keyed {input : SaveBudgetInput} {limit : Nat} (keyed : Keyed tables)
    (fresh : tables.findBudgetRow input.toBudgetKey = none → ∀ budget ∈ tables.budgets, budget.id ≠ input.id) :
    Keyed (tables.upsertBudget input limit) := by
  unfold CostTables.upsertBudget
  split
  · next absent =>
      have newKey : ∀ budget ∈ tables.budgets, budget.toBudgetKey ≠ input.toBudgetKey := by
        simpa [CostTables.findBudgetRow] using absent
      refine ⟨?_, ?_⟩
      · simpa [List.nodup_append, keyed.ids] using fresh absent
      · simpa [List.nodup_append, keyed.keys] using newKey
  · have sameIds : ∀ budget : Budget, (if budget.toBudgetKey = input.toBudgetKey
        then { budget with limitMicros := limit } else budget).id = budget.id := fun budget => by split <;> rfl
    have sameKeys : ∀ budget : Budget, (if budget.toBudgetKey = input.toBudgetKey
        then { budget with limitMicros := limit } else budget).toBudgetKey = budget.toBudgetKey :=
      fun budget => by split <;> rfl
    refine ⟨?_, ?_⟩
    · simpa [Function.comp_def, sameIds] using keyed.ids
    · simpa [Function.comp_def, sameKeys] using keyed.keys

theorem saveBudget_ok {input : SaveBudgetInput} (saved : saveBudget references input tables = .ok after) :
    after = tables.upsertBudget input input.limitMicros.toNat ∧
      (tables.findBudgetRow input.toBudgetKey = none → ∀ budget ∈ tables.budgets, budget.id ≠ input.id) := by
  obtain ⟨limit, isSafe, saved⟩ := bind_ok saved
  obtain ⟨_, saved⟩ := guard_ok saved
  obtain ⟨fresh, saved⟩ := guard_ok saved
  obtain ⟨_, same⟩ := guard_ok saved
  have stored := safe_ok isSafe
  refine ⟨?_, fun absent => by simpa using not_and.mp fresh absent⟩
  rw [← stored, Int.toNat_natCast]
  exact (Except.ok.inj same).symm

theorem kept_holds {outcome : Except Thrown CostTables} (holds : CostTables → Prop) (before : holds tables)
    (returned : ∀ after, outcome = .ok after → holds after) : holds (kept outcome tables) := by
  cases outcome with
  | ok after => exact returned after rfl
  | error thrown => exact before

theorem releaseReservation_cases (id : String) : (releaseReservation id now tables).2 = tables ∨
    (releaseReservation id now tables).2 = tables.finalize .released now fun row => row.id = id := by
  unfold releaseReservation
  split
  · exact .inl rfl
  · split
    · exact .inl rfl
    · exact .inl rfl
    · exact .inr rfl

theorem save_covered {input : SaveBudgetInput} (covered : Covered tables now)
    (permitted : Permitted tables (.saveBudget input now)) :
    Covered (tables.upsertBudget input input.limitMicros.toNat) now := by
  have unchanged : ∀ budget, (tables.upsertBudget input input.limitMicros.toNat).committed budget now =
        tables.committed budget now ∧
      (tables.upsertBudget input input.limitMicros.toNat).overage budget = tables.overage budget := by
    intro budget
    unfold CostTables.upsertBudget
    split <;> exact ⟨rfl, rfl⟩
  intro budget member
  rw [(unchanged budget).1, (unchanged budget).2]
  by_cases same : budget.toBudgetKey = input.toBudgetKey
  · exact permitted budget member same
  · exact covered budget (upsertBudget_other member same)

/-- One operation leaves every budget covered. -/
theorem perform_covered {operation : Operation} (keyed : Keyed tables) (covered : Covered tables clock)
    (times : ∀ time ∈ operation.times, clock ≤ time) (permitted : Permitted tables operation)
    (within : Within tables (operation.finish clock) operation) :
    Covered (operation.perform references tables) (operation.finish clock) := by
  have later : Covered tables (operation.finish clock) := covered.later (finish_ge operation)
  have reached := @times_le_finish clock operation
  cases operation with
  | saveBudget input now =>
    refine kept_holds (Covered · _) later fun after saved => ?_
    have start : clock ≤ now := times now List.mem_cons_self
    rw [(saveBudget_ok saved).1]
    exact (save_covered (covered.later start) permitted).later (reached now List.mem_cons_self)
  | authorizeAndReserve request =>
    refine kept_holds (Covered · _) later fun after mapped => ?_
    obtain ⟨⟨answer, final⟩, reserved, rfl⟩ := map_ok mapped
    obtain ⟨row, authorized, rfl⟩ := authorizeAndReserve_ok reserved
    have single : FitsTogether tables [request] (Operation.finish (.authorizeAndReserve request) clock) :=
      fun budget _ => .inl (List.countP_le_length)
    have granted : ∀ one ∈ [(request, row)], authorize tables one.1 = .ok one.2 := by simpa using authorized
    have passed : ∀ one ∈ [(request, row)], one.1.now ≤ Operation.finish (.authorizeAndReserve request) clock := by
      simpa using reached request.now List.mem_cons_self
    exact reserve_covered keyed granted single passed later
  | authorizeAndReserveMany requests =>
    refine kept_holds (Covered · _) later fun after mapped => ?_
    obtain ⟨⟨answers, final⟩, reserved, rfl⟩ := map_ok mapped
    obtain ⟨rows, authorized, rfl⟩ := authorizeAndReserveMany_ok reserved
    obtain ⟨rfl, granted⟩ := authorizeAll_ok authorized
    have each : ∀ request ∈ rows.map Prod.fst, (authorize tables request).isOk = true := by
      intro request member
      obtain ⟨row, rowMember, rfl⟩ := List.mem_map.mp member
      rw [granted row rowMember]
      rfl
    have passed : ∀ row ∈ rows, row.1.now ≤
        Operation.finish (.authorizeAndReserveMany (rows.map Prod.fst)) clock := fun row member =>
      reached row.1.now (List.mem_map_of_mem (List.mem_map_of_mem member))
    exact reserve_covered keyed granted (within each) passed later
  | releaseReservation id now =>
    show Covered (releaseReservation id now tables).2 _
    rcases @releaseReservation_cases tables now id with same | released
    · rw [same]
      exact later
    · rw [released]
      exact finalize_covered (by simp) later
  | releaseReservations ids now => exact finalize_covered (by simp) later
  | releaseExpiredReservations now => exact finalize_covered (by simp) later
  | recordUsageAndCost input =>
    refine kept_holds (Covered · _) later fun after mapped => ?_
    obtain ⟨⟨recording, final⟩, recorded, rfl⟩ := map_ok mapped
    have start : clock ≤ input.occurredAt := times _ List.mem_cons_self
    exact (record_covered recorded within (covered.later start)).later
      (reached input.occurredAt List.mem_cons_self)

/-- Only the saving of a budget changes the budgets. -/
theorem perform_keyed {operation : Operation} (keyed : Keyed tables) :
    Keyed (operation.perform references tables) := by
  cases operation with
  | saveBudget input now =>
    refine kept_holds Keyed keyed fun after saved => ?_
    obtain ⟨rfl, fresh⟩ := saveBudget_ok saved
    exact upsertBudget_keyed keyed fresh
  | authorizeAndReserve request =>
    refine kept_holds Keyed keyed fun after mapped => ?_
    obtain ⟨⟨answer, final⟩, reserved, rfl⟩ := map_ok mapped
    obtain ⟨row, _, rfl⟩ := authorizeAndReserve_ok reserved
    exact ⟨keyed.ids, keyed.keys⟩
  | authorizeAndReserveMany requests =>
    refine kept_holds Keyed keyed fun after mapped => ?_
    obtain ⟨⟨answers, final⟩, reserved, rfl⟩ := map_ok mapped
    obtain ⟨rows, _, rfl⟩ := authorizeAndReserveMany_ok reserved
    exact ⟨keyed.ids, keyed.keys⟩
  | releaseReservation id now =>
    show Keyed (releaseReservation id now tables).2
    rcases @releaseReservation_cases tables now id with same | released
    · rwa [same]
    · rw [released]
      exact ⟨keyed.ids, keyed.keys⟩
  | releaseReservations ids now => exact ⟨keyed.ids, keyed.keys⟩
  | releaseExpiredReservations now => exact ⟨keyed.ids, keyed.keys⟩
  | recordUsageAndCost input =>
    refine kept_holds Keyed keyed fun after mapped => ?_
    obtain ⟨⟨recording, final⟩, recorded, rfl⟩ := map_ok mapped
    rcases recordUsageAndCost_ok recorded with ⟨_, rfl⟩ | ⟨_, _, _, _, _, rfl⟩
    · exact keyed
    · exact ⟨keyed.ids, keyed.keys⟩

theorem sound_step {before final : Ledger} {label : ReferencedTables × Operation} (sound : Sound before)
    (step : PerformsWithin before label final) : Sound final := by
  obtain ⟨⟨times, permitted, rfl⟩, within⟩ := step
  exact ⟨perform_keyed sound.keyed, perform_covered sound.keyed sound.covered times permitted within⟩

def officeReferences : ReferencedTables := ⟨["project"], [], [], []⟩

def officePricing : PricingVersion where
  id := "price"
  provider := "vendor"
  model := "model"
  currency := .usd
  inputPerMillionMicros := 1000000
  cachedInputPerMillionMicros := 1000000
  outputPerMillionMicros := 1000000
  reasoningPerMillionMicros := 1000000
  effectiveFrom := 0
  effectiveTo := none

def projectKey : BudgetKey := ⟨"project", .project, "project", .usd⟩

def setsBudget : Operation := .saveBudget ⟨projectKey, "budget", 100⟩ 0

def reserves (ids : List String) : Operation :=
  .authorizeAndReserveMany (ids.map fun id => ⟨projectKey, id, 60, none, 1, 100⟩)

def chargesReserved : Operation := .recordUsageAndCost {
  usageId := "usage"
  costEventId := "cost"
  context := ⟨"project", none, none, none, "draft"⟩
  provider := "vendor"
  model := "model"
  providerRequestId := none
  usage := ⟨70, 0, 0, 0⟩
  pricingVersionId := "price"
  reservationId := some "first"
  reservationIds := some ["first"]
  estimated := ⟨60, .usd⟩
  actual := ⟨70, .usd⟩
  chargeBasis := none
  occurredAt := 2 }

private def opened : Ledger := (Ledger.empty [officePricing] 0).perform (officeReferences, setsBudget)

private theorem opened_run :
    Run PerformsWithin (Ledger.empty [officePricing] 0) [(officeReferences, setsBudget)] opened :=
  Run.nil.snoc ⟨⟨by decide, by decide, rfl⟩, by decide⟩

end AiOffice.Storage.Cost
