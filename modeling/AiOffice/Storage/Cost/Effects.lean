import AiOffice.Storage.Cost

namespace AiOffice.Storage.Cost

open Data Data.Outcome Domain

variable {tables after : CostTables} {budget : Budget} {now : Date} {references : ReferencedTables}

theorem safe_ok {value : Int} {stored : Nat} (accepted : safe value = .ok stored) : (stored : Int) = value := by
  obtain ⟨valid, same⟩ := guard_ok accepted
  cases same
  rw [not_or] at valid
  omega

theorem restoredSum_ok {value restored : Nat} (accepted : restoredSum value = .ok restored) :
    restored = value := by
  obtain ⟨_, restores⟩ := guard_ok accepted
  obtain ⟨_, same⟩ := guard_ok restores
  exact (Except.ok.inj same).symm

theorem restoredInteger_ok {value restored : Nat} (accepted : restoredInteger value = .ok restored) :
    restored = value := by
  obtain ⟨_, same⟩ := guard_ok accepted
  exact (Except.ok.inj same).symm

theorem findBudgetRow_some {key : BudgetKey} (found : tables.findBudgetRow key = some budget) :
    budget ∈ tables.budgets ∧ budget.toBudgetKey = key :=
  ⟨List.mem_of_find?_eq_some found, by simpa using List.find?_some found⟩

theorem authorize_ok {request : AuthorizeReservationInput} {amount : Nat}
    (authorized : authorize tables request = .ok (budget, amount)) :
    tables.findBudgetRow request.toBudgetKey = some budget ∧ (amount : Int) = request.amountMicros ∧
      tables.committed budget request.now + amount ≤ budget.limitMicros := by
  unfold authorize at authorized
  cases found : tables.findBudgetRow request.toBudgetKey with
  | none =>
    rw [found] at authorized
    cases authorized
  | some row =>
    rw [found] at authorized
    obtain ⟨stored, isSafe, authorized⟩ := bind_ok authorized
    obtain ⟨spent, spends, authorized⟩ := bind_ok authorized
    obtain ⟨reserved, reserves, authorized⟩ := bind_ok authorized
    obtain ⟨limit, limits, authorized⟩ := bind_ok authorized
    obtain ⟨within, same⟩ := guard_ok authorized
    cases same
    rw [restoredSum_ok spends, restoredSum_ok reserves, restoredInteger_ok limits] at within
    exact ⟨rfl, safe_ok isSafe, by unfold CostTables.committed; omega⟩

theorem insertReservation_ok {row : Reservation} (inserted : insertReservation references row tables = .ok after) :
    after = { tables with reservations := tables.reservations ++ [row] } := by
  obtain ⟨_, inserted⟩ := guard_ok inserted
  obtain ⟨_, same⟩ := guard_ok inserted
  exact (Except.ok.inj same).symm

theorem authorizeAll_ok {requests : List AuthorizeReservationInput}
    {rows : List (AuthorizeReservationInput × Budget × Nat)}
    (authorized : authorizeAll tables requests = .ok rows) :
    rows.map Prod.fst = requests ∧ ∀ row ∈ rows, authorize tables row.1 = .ok row.2 := by
  induction requests generalizing rows with
  | nil =>
    cases authorized
    simp
  | cons request requests ih =>
    obtain ⟨first, authorizes, authorized⟩ := bind_ok authorized
    obtain ⟨rest, others, same⟩ := bind_ok authorized
    cases same
    obtain ⟨requested, each⟩ := ih others
    exact ⟨by rw [List.map_cons, requested], List.forall_mem_cons.mpr ⟨authorizes, each⟩⟩

theorem insertReservations_ok {rows : List (AuthorizeReservationInput × Budget × Nat)}
    (inserted : insertReservations references rows tables = .ok after) :
    after = { tables with reservations :=
      tables.reservations ++ (rows.map fun row => reservationOf row.1 row.2.1 row.2.2) } := by
  induction rows generalizing tables with
  | nil =>
    cases inserted
    simp
  | cons row rows ih =>
    obtain ⟨between, first, rest⟩ := bind_ok inserted
    have later := ih rest
    rw [insertReservation_ok first] at later
    simpa using later

theorem authorizeAndReserve_ok {request : AuthorizeReservationInput} {answer : BudgetReservation}
    (reserved : authorizeAndReserve references request tables = .ok (answer, after)) :
    ∃ row, authorize tables request = .ok row ∧ after = { tables with
      reservations := tables.reservations ++ [reservationOf request row.1 row.2] } := by
  obtain ⟨_, reserved⟩ := guard_ok reserved
  obtain ⟨row, authorized, reserved⟩ := bind_ok reserved
  obtain ⟨between, inserted, same⟩ := bind_ok reserved
  cases same
  exact ⟨row, authorized, insertReservation_ok inserted⟩

theorem authorizeAndReserveMany_ok {requests : List AuthorizeReservationInput} {answers : List BudgetReservation}
    (reserved : authorizeAndReserveMany references requests tables = .ok (answers, after)) :
    ∃ rows, authorizeAll tables requests = .ok rows ∧ after = { tables with reservations :=
      tables.reservations ++ (rows.map fun row => reservationOf row.1 row.2.1 row.2.2) } := by
  unfold authorizeAndReserveMany at reserved
  split at reserved
  · cases reserved
  · obtain ⟨rows, authorized, reserved⟩ := bind_ok reserved
    obtain ⟨between, inserted, same⟩ := bind_ok reserved
    cases same
    exact ⟨rows, authorized, insertReservations_ok inserted⟩

section Finalize

variable {status : ReservationStatus} {selected : Reservation → Bool} {budgetId : String} {moment : Date}

@[simp] theorem finalize_events : (tables.finalize status now selected).events = tables.events := rfl

@[simp] theorem finalize_budgets : (tables.finalize status now selected).budgets = tables.budgets := rfl

theorem reserved_finalize (final : status ≠ .active) :
    (tables.finalize status now selected).reserved budgetId moment +
        tally Reservation.amountMicros
          (fun row => CostTables.holds budgetId moment row && selected row) tables.reservations ≤
      tables.reserved budgetId moment := by
  unfold CostTables.reserved CostTables.finalize
  rw [tally_map fun row _ => by split <;> rfl]
  apply tally_disjoint
  · intro row _ held
    split at held
    · simp [CostTables.holds, final] at held
    · exact held
  · intro row _ held
    exact (Bool.and_eq_true_iff.mp held).1
  · rintro row _ ⟨still, held⟩
    simp only [Bool.and_eq_true] at held
    have active : row.status = .active := by
      have held := held.1
      simp only [CostTables.holds, Bool.and_eq_true, decide_eq_true_eq] at held
      exact held.1.2
    rw [if_pos ⟨active, held.2⟩] at still
    simp [CostTables.holds, final] at still

theorem reserved_finalize_le (final : status ≠ .active) :
    (tables.finalize status now selected).reserved budgetId moment ≤ tables.reserved budgetId moment :=
  Nat.le_trans (Nat.le_add_right _ _) (reserved_finalize final)

theorem finalize_none : tables.finalize status now (fun _ => false) = tables := by
  simp [CostTables.finalize]

theorem finalize_finalize {more : Reservation → Bool} (final : status ≠ .active) :
    (tables.finalize status now selected).finalize status now more =
      tables.finalize status now fun row => selected row || more row := by
  simp only [CostTables.finalize, List.map_map]
  congr 1
  apply List.map_congr_left
  intro row _
  by_cases active : row.status = .active <;> by_cases chosen : selected row = true <;>
    simp [active, chosen, final]

theorem consumeReservations_ok {ids : List String} (consumed : consumeReservations now ids tables = .ok after) :
    after = tables.finalize .consumed now fun row => row.id ∈ ids := by
  induction ids generalizing tables with
  | nil =>
    cases consumed
    simp [finalize_none]
  | cons id ids ih =>
    obtain ⟨_, rest⟩ := guard_ok consumed
    rw [ih rest, finalize_finalize (by simp)]
    congr 1
    funext row
    simp [List.mem_cons]

theorem reserved_later {later : Date} (passed : moment ≤ later) :
    tables.reserved budgetId later ≤ tables.reserved budgetId moment := by
  apply tally_mono
  intro row _ held
  simp only [CostTables.holds, Bool.and_eq_true, decide_eq_true_eq] at held ⊢
  exact ⟨held.1, Int.lt_of_le_of_lt passed held.2⟩

theorem committed_later {later : Date} (passed : moment ≤ later) :
    tables.committed budget later ≤ tables.committed budget moment :=
  Nat.add_le_add_left (reserved_later passed) _

end Finalize

theorem insertUsage_ok {input : RecordUsageAndCostInput} {row : UsageRow}
    (inserted : insertUsage references input tables = .ok row) : row = usageRowOf input := by
  obtain ⟨_, _, inserted⟩ := bind_ok inserted
  obtain ⟨_, _, inserted⟩ := bind_ok inserted
  obtain ⟨_, _, inserted⟩ := bind_ok inserted
  obtain ⟨_, _, inserted⟩ := bind_ok inserted
  obtain ⟨_, inserted⟩ := guard_ok inserted
  obtain ⟨_, inserted⟩ := guard_ok inserted
  obtain ⟨_, same⟩ := guard_ok inserted
  exact (Except.ok.inj same).symm

def Charges (event : CostEvent) (input : RecordUsageAndCostInput) (reserved : Nat) : Prop :=
  event.id = input.costEventId ∧ event.usageRow = usageRowOf input ∧
    event.pricingVersionId = input.pricingVersionId ∧ event.currency = input.actual.currency ∧
    event.chargeBasis = input.chargeBasis.getD .reportedUsage ∧
    (event.actualMicros : Int) = input.actual.micros ∧ (event.overageMicros : Int) = overageOf input reserved

theorem insertCostEvent_ok {input : RecordUsageAndCostInput} {reserved : Nat} {row : UsageRow}
    (row_eq : row = usageRowOf input) (inserted : insertCostEvent input reserved row tables = .ok after) :
    ∃ event, after = { tables with events := tables.events ++ [event] } ∧ Charges event input reserved := by
  obtain ⟨estimated, _, inserted⟩ := bind_ok inserted
  obtain ⟨reservedMicros, _, inserted⟩ := bind_ok inserted
  obtain ⟨actual, charges, inserted⟩ := bind_ok inserted
  obtain ⟨overage, exceeds, inserted⟩ := bind_ok inserted
  obtain ⟨_, inserted⟩ := guard_ok inserted
  obtain ⟨_, inserted⟩ := guard_ok inserted
  obtain ⟨_, same⟩ := guard_ok inserted
  exact ⟨_, (Except.ok.inj same).symm, rfl, row_eq, rfl, rfl, rfl, safe_ok charges, safe_ok exceeds⟩

theorem recordUsageAndCost_ok {input : RecordUsageAndCostInput} {recording : Recording}
    (recorded : recordUsageAndCost references input tables = .ok (recording, after)) :
    (recording = .duplicate ∧ after = tables) ∨
      ∃ reserved event, recording = .recorded ∧
        reservedAmount tables input.occurredAt input.finalizedIds 0 = .ok (some reserved) ∧
        Charges event input reserved ∧
        after = { tables with events := tables.events ++ [event] }.finalize .consumed input.occurredAt
          fun row => row.id ∈ input.finalizedIds := by
  unfold recordUsageAndCost at recorded
  split at recorded
  · cases recorded
    exact .inl ⟨rfl, rfl⟩
  split at recorded
  · cases recorded
    exact .inl ⟨rfl, rfl⟩
  obtain ⟨outcome, checked, recorded⟩ := bind_ok recorded
  cases outcome with
  | none =>
    cases recorded
    exact .inl ⟨rfl, rfl⟩
  | some reserved =>
    obtain ⟨row, usage, recorded⟩ := bind_ok recorded
    obtain ⟨charged, cost, recorded⟩ := bind_ok recorded
    obtain ⟨final, consumed, same⟩ := bind_ok recorded
    cases same
    obtain ⟨event, rfl, charges⟩ := insertCostEvent_ok (insertUsage_ok usage) cost
    exact .inr ⟨reserved, event, rfl, checked, charges, consumeReservations_ok consumed⟩

end AiOffice.Storage.Cost
