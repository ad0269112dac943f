import AiOffice.Data.Keyed
import AiOffice.Storage.Cost.Subscription

namespace AiOffice.Storage.Cost

open Data Data.Outcome Domain Transition

variable {tables after : CostTables} {references : ReferencedTables} {operation : Operation} {now : Date}
  {input : RecordUsageAndCostInput} {row other : Reservation} {status : ReservationStatus}
  {selected : Reservation → Bool}

def SameRequest (first second : CostEvent) : Prop :=
  first.usageRow.provider = second.usageRow.provider ∧ first.usageRow.providerRequestId.isSome ∧
    first.usageRow.providerRequestId = second.usageRow.providerRequestId

def newlyConsumed (before after : CostTables) : List String :=
  (before.reservations.filter fun row => row.status = .active && after.reservations.any fun later =>
    later.id = row.id && later.status = .consumed).map Reservation.id

def Operation.costEventId : Operation → Option String
  | .recordUsageAndCost input => some input.costEventId
  | _ => none

/-- The tables with the history of consumptions: the cost event that consumed a reservation, and the reservation.
The history is not part of the program. -/
structure Account where
  tables : CostTables
  consumptions : List (Option String × String)

def Account.empty (pricing : List PricingVersion) : Account := ⟨⟨pricing, [], [], []⟩, []⟩

def Account.perform (account : Account) (label : ReferencedTables × Operation) : Account :=
  let after := label.2.perform label.1 account.tables
  ⟨after, account.consumptions ++ (newlyConsumed account.tables after).map fun id => (label.2.costEventId, id)⟩

def Account.Performs (before : Account) (label : ReferencedTables × Operation) (after : Account) : Prop :=
  after = before.perform label

/-- Everything that an operation can do to the events and the reservations. -/
inductive Change (before : CostTables) : Operation → CostTables → Prop
  | unchanged {operation : Operation} {after : CostTables} (events : after.events = before.events)
      (reservations : after.reservations = before.reservations) : Change before operation after
  | reserved {operation : Operation} {after : CostTables} {rows : List Reservation} (active : ∀ row ∈ rows, row.status = .active)
      (events : after.events = before.events) (reservations : after.reservations = before.reservations ++ rows)
      (fresh : (before.reservations.map Reservation.id).Nodup → (after.reservations.map Reservation.id).Nodup) :
      Change before operation after
  | released {operation : Operation} {now : Date} {selected : Reservation → Bool} :
      Change before operation (before.finalize .released now selected)
  | charged {input : RecordUsageAndCostInput} {event : CostEvent} {reserved : Nat} {selected : Reservation → Bool}
      (charges : Charges event input reserved)
      (newUsage : ∀ earlier ∈ before.events, earlier.usageRow.id ≠ event.usageRow.id)
      (newRequest : ∀ earlier ∈ before.events, ¬SameRequest earlier event) :
      Change before (.recordUsageAndCost input) ({ before with events := before.events ++ [event] }.finalize
        .consumed input.occurredAt selected)

theorem insertReservation_keys (inserted : insertReservation references row tables = .ok after)
    (unique : (tables.reservations.map Reservation.id).Nodup) : (after.reservations.map Reservation.id).Nodup := by
  obtain ⟨fresh, -⟩ := guard_ok inserted
  have newId : ∀ earlier ∈ tables.reservations, earlier.id ≠ row.id := by simpa using fresh
  rw [insertReservation_ok inserted]
  simpa [List.nodup_append, unique] using newId

theorem insertReservations_keys {rows : List (AuthorizeReservationInput × Budget × Nat)}
    (inserted : insertReservations references rows tables = .ok after)
    (unique : (tables.reservations.map Reservation.id).Nodup) : (after.reservations.map Reservation.id).Nodup := by
  induction rows generalizing tables with
  | nil =>
    cases inserted
    exact unique
  | cons row rows ih =>
    obtain ⟨between, first, rest⟩ := bind_ok inserted
    exact ih rest (insertReservation_keys first unique)

theorem recorded_new (recorded : recordUsageAndCost references input tables = .ok (.recorded, after)) :
    tables.usageRecorded input.usageId = false ∧
      tables.requestRecorded input.provider input.providerRequestId = false := by
  unfold recordUsageAndCost at recorded
  split at recorded
  · cases recorded
  · next newUsage =>
      split at recorded
      · cases recorded
      · next newRequest => exact ⟨by simpa using newUsage, by simpa using newRequest⟩

theorem record_change {recording : Recording}
    (recorded : recordUsageAndCost references input tables = .ok (recording, after)) :
    Change tables (.recordUsageAndCost input) after := by
  rcases recordUsageAndCost_ok recorded with ⟨-, rfl⟩ | ⟨reserved, event, rfl, -, charges, rfl⟩
  · exact .unchanged rfl rfl
  · obtain ⟨newUsage, newRequest⟩ := recorded_new recorded
    have sameRow := charges.2.1
    refine .charged charges ?_ ?_
    · rw [sameRow]
      simpa [CostTables.usageRecorded, usageRowOf] using newUsage
    · rintro earlier member ⟨sameProvider, present, sameRequest⟩
      rw [sameRow] at sameProvider sameRequest
      rw [sameRequest] at present
      have clash : tables.requestRecorded input.provider input.providerRequestId = true := by
        rw [CostTables.requestRecorded, Bool.and_eq_true, List.any_eq_true]
        exact ⟨present, earlier, member, by simpa using ⟨sameProvider, sameRequest⟩⟩
      rw [newRequest] at clash
      cases clash

/-- The step lemma: an operation makes one of the changes. -/
theorem perform_change (operation : Operation) : Change tables operation (operation.perform references tables) := by
  have same : ∀ operation : Operation, Change tables operation tables := fun _ => .unchanged rfl rfl
  cases operation with
  | saveBudget input now =>
    refine kept_holds (Change tables _) (same _) fun after saved => ?_
    rw [(saveBudget_ok saved).1]
    unfold CostTables.upsertBudget
    split <;> exact .unchanged rfl rfl
  | authorizeAndReserve request =>
    refine kept_holds (Change tables _) (same _) fun after mapped => ?_
    obtain ⟨⟨answer, final⟩, reserved, rfl⟩ := map_ok mapped
    obtain ⟨-, reserved⟩ := guard_ok reserved
    obtain ⟨row, -, reserved⟩ := bind_ok reserved
    obtain ⟨between, inserted, same⟩ := bind_ok reserved
    cases same
    have appended := insertReservation_ok inserted
    have active : ∀ added ∈ [reservationOf request row.1 row.2], added.status = .active :=
      List.forall_mem_singleton.mpr rfl
    exact .reserved active (by rw [appended]) (by rw [appended]) (insertReservation_keys inserted)
  | authorizeAndReserveMany requests =>
    refine kept_holds (Change tables _) (same _) fun after mapped => ?_
    obtain ⟨⟨answers, final⟩, reserved, rfl⟩ := map_ok mapped
    unfold authorizeAndReserveMany at reserved
    split at reserved
    · cases reserved
    · obtain ⟨rows, -, reserved⟩ := bind_ok reserved
      obtain ⟨between, inserted, same⟩ := bind_ok reserved
      cases same
      have appended := insertReservations_ok inserted
      have active : ∀ added ∈ rows.map fun row => reservationOf row.1 row.2.1 row.2.2, added.status = .active :=
        List.forall_mem_map.mpr fun _ _ => rfl
      exact .reserved active (by rw [appended]) (by rw [appended]) (insertReservations_keys inserted)
  | releaseReservation id now =>
    show Change tables _ (releaseReservation id now tables).2
    rcases @releaseReservation_cases tables now id with unchanged | released
    · rw [unchanged]
      exact same _
    · rw [released]
      exact .released
  | releaseReservations ids now => exact .released
  | releaseExpiredReservations now => exact .released
  | recordUsageAndCost input =>
    refine kept_holds (Change tables _) (same _) fun after mapped => ?_
    obtain ⟨⟨recording, final⟩, recorded, rfl⟩ := map_ok mapped
    exact record_change recorded

theorem mem_finalize (member : row ∈ (tables.finalize status now selected).reservations) :
    ∃ before ∈ tables.reservations, before.id = row.id ∧
      (row = before ∨ before.status = .active ∧ row.status = status) := by
  obtain ⟨before, stored, rfl⟩ := List.mem_map.mp member
  refine ⟨before, stored, ?_⟩
  split
  · next finalizes => exact ⟨rfl, .inr ⟨finalizes.1, rfl⟩⟩
  · exact ⟨rfl, .inl rfl⟩

theorem finalize_keys : (tables.finalize status now selected).reservations.map Reservation.id =
    tables.reservations.map Reservation.id := by
  rw [CostTables.finalize, List.map_map]
  refine List.map_congr_left fun row _ => ?_
  rw [Function.comp_apply]
  split <;> rfl

theorem finalize_consumed (member : row ∈ tables.reservations) (consumed : row.status = .consumed) :
    row ∈ (tables.finalize status now selected).reservations :=
  List.mem_map.mpr ⟨row, member, if_neg (by simp [consumed])⟩

theorem Change.keeps_consumed (change : Change tables operation after) (member : row ∈ tables.reservations)
    (consumed : row.status = .consumed) : row ∈ after.reservations := by
  cases change with
  | unchanged _ reservations => rwa [reservations]
  | reserved _ _ reservations =>
    rw [reservations]
    exact List.mem_append_left _ member
  | released => exact finalize_consumed member consumed
  | charged => exact List.mem_map.mpr ⟨row, member, if_neg (by simp [consumed])⟩

theorem Change.keys (change : Change tables operation after) (unique : (tables.reservations.map Reservation.id).Nodup) :
    (after.reservations.map Reservation.id).Nodup := by
  cases change with
  | unchanged _ reservations => rwa [reservations]
  | reserved _ _ _ fresh => exact fresh unique
  | released => rwa [finalize_keys]
  | charged => rwa [finalize_keys]

theorem Change.consumes (change : Change tables operation after) (unique : (tables.reservations.map Reservation.id).Nodup)
    {id : String} (consumed : id ∈ newlyConsumed tables after) :
    ∃ event ∈ after.events, operation.costEventId = some event.id := by
  obtain ⟨row, listed, rfl⟩ := List.mem_map.mp consumed
  simp only [List.mem_filter, Bool.and_eq_true, decide_eq_true_eq, List.any_eq_true] at listed
  obtain ⟨member, active, later, stored, sameId, final⟩ := listed
  have untouched : ∀ before ∈ tables.reservations, before.id = later.id → before.status = .active := by
    intro before known same
    rw [keyed_eq unique member known (same.trans sameId), active]
  cases change with
  | unchanged _ reservations =>
    rw [reservations] at stored
    rw [untouched later stored rfl] at final
    cases final
  | reserved actives _ reservations =>
    rw [reservations, List.mem_append] at stored
    rcases stored with earlier | new
    · rw [untouched later earlier rfl] at final
      cases final
    · rw [actives later new] at final
      cases final
  | released =>
    obtain ⟨before, known, same, rfl | ⟨-, released⟩⟩ := mem_finalize stored
    · rw [untouched later known rfl] at final
      cases final
    · rw [released] at final
      cases final
  | @charged input event _ _ charges =>
    exact ⟨event, List.mem_append_right _ (List.mem_singleton.mpr rfl), by rw [charges.1]; rfl⟩

theorem Change.keeps_events (change : Change tables operation after) {event : CostEvent}
    (member : event ∈ tables.events) : event ∈ after.events := by
  cases change with
  | unchanged events | reserved _ events => rwa [events]
  | released => exact member
  | charged => exact List.mem_append_left _ member

theorem Change.usageIds (change : Change tables operation after)
    (unique : (tables.events.map fun event => event.usageRow.id).Nodup) :
    (after.events.map fun event => event.usageRow.id).Nodup := by
  cases change with
  | unchanged events | reserved _ events => rwa [events]
  | released => exact unique
  | charged _ newUsage => simpa [List.nodup_append, unique] using newUsage

theorem Change.requests (change : Change tables operation after)
    (unique : tables.events.Pairwise fun first second => ¬SameRequest first second) :
    after.events.Pairwise fun first second => ¬SameRequest first second := by
  cases change with
  | unchanged events | reserved _ events => rwa [events]
  | released => exact unique
  | charged _ _ newRequest => simpa [List.pairwise_append, unique] using newRequest

/-- The invariant: every key is used once, and every consumption is of a reservation that stays consumed. -/
structure ChargedOnce (account : Account) : Prop where
  reservationIds : (account.tables.reservations.map Reservation.id).Nodup
  usageIds : (account.tables.events.map fun event => event.usageRow.id).Nodup
  requests : account.tables.events.Pairwise fun first second => ¬SameRequest first second
  consumed : ∀ consumption ∈ account.consumptions, ∃ row ∈ account.tables.reservations,
    row.id = consumption.2 ∧ row.status = .consumed
  charged : ∀ consumption ∈ account.consumptions, ∃ event ∈ account.tables.events, consumption.1 = some event.id
  single : (account.consumptions.map Prod.snd).Nodup

theorem chargedOnce_step {before final : Account} {label : ReferencedTables × Operation} (once : ChargedOnce before)
    (step : Account.Performs before label final) : ChargedOnce final := by
  obtain rfl : final = before.perform label := step
  have change : Change before.tables label.2 (before.perform label).tables := perform_change label.2
  have consumedLater : ∀ id ∈ newlyConsumed before.tables (before.perform label).tables,
      ∃ row ∈ (before.perform label).tables.reservations, row.id = id ∧ row.status = .consumed := by
    intro id new
    obtain ⟨row, listed, rfl⟩ := List.mem_map.mp new
    simp only [List.mem_filter, Bool.and_eq_true, decide_eq_true_eq, List.any_eq_true] at listed
    obtain ⟨-, -, later, stored, same⟩ := listed
    exact ⟨later, stored, same⟩
  refine ⟨change.keys once.reservationIds, change.usageIds once.usageIds, change.requests once.requests, ?_, ?_, ?_⟩
  · intro consumption member
    rcases List.mem_append.mp member with earlier | new
    · obtain ⟨row, stored, same, consumed⟩ := once.consumed consumption earlier
      exact ⟨row, change.keeps_consumed stored consumed, same, consumed⟩
    · obtain ⟨id, listed, rfl⟩ := List.mem_map.mp new
      exact consumedLater id listed
  · intro consumption member
    rcases List.mem_append.mp member with earlier | new
    · obtain ⟨event, stored, same⟩ := once.charged consumption earlier
      exact ⟨event, change.keeps_events stored, same⟩
    · obtain ⟨id, listed, rfl⟩ := List.mem_map.mp new
      exact change.consumes once.reservationIds listed
  · have second : ((newlyConsumed before.tables (before.perform label).tables).map fun id =>
        (label.2.costEventId, id)).map Prod.snd = newlyConsumed before.tables (before.perform label).tables := by
      rw [List.map_map]
      exact List.map_id _
    have split : (before.perform label).consumptions.map Prod.snd = before.consumptions.map Prod.snd ++
        newlyConsumed before.tables (before.perform label).tables := by
      rw [← second, ← List.map_append]
      rfl
    rw [split, List.nodup_append]
    refine ⟨once.single, once.reservationIds.sublist (List.Sublist.map _ List.filter_sublist), ?_⟩
    rintro id earlier _ new rfl
    obtain ⟨consumption, listed, rfl⟩ := List.mem_map.mp earlier
    obtain ⟨row, stored, same, consumed⟩ := once.consumed consumption listed
    obtain ⟨active, member, sameId⟩ := List.mem_map.mp new
    simp only [List.mem_filter, Bool.and_eq_true, decide_eq_true_eq] at member
    obtain rfl := keyed_eq once.reservationIds stored member.1 (sameId.trans same.symm)
    rw [consumed] at member
    cases member.2.1

theorem chargedOnce_run {pricing : List PricingVersion} {labels : List (ReferencedTables × Operation)}
    {account : Account} (run : Run Account.Performs (Account.empty pricing) labels account) : ChargedOnce account := by
  have empty : ChargedOnce (Account.empty pricing) :=
    ⟨List.nodup_nil, List.nodup_nil, List.Pairwise.nil, nofun, nofun, List.nodup_nil⟩
  exact run.invariant ChargedOnce empty fun _ _ _ once step => chargedOnce_step once step

theorem consumed_stays {account final : Account} {later : List (ReferencedTables × Operation)}
    (run : Run Account.Performs account later final) (member : row ∈ account.tables.reservations)
    (consumed : row.status = .consumed) : row ∈ final.tables.reservations := by
  refine run.invariant (fun final => row ∈ final.tables.reservations) member fun before label after stored step => ?_
  obtain rfl : after = before.perform label := step
  exact (perform_change label.2).keeps_consumed stored consumed

/-- Whatever is recorded, reserved and released, in whatever order and with whatever keys: one cost event at most for
each usage and for each request to a provider, one consumption at most of each reservation and always by a cost event,
no way back for a consumed reservation, and no trace of a call that reports a duplicate or throws. -/
theorem charged_at_most_once {pricing : List PricingVersion} {labels : List (ReferencedTables × Operation)}
    {account : Account} (run : Run Account.Performs (Account.empty pricing) labels account) :
    (account.tables.events.map fun event => event.usageRow.id).Nodup ∧
    (account.tables.events.Pairwise fun first second => ¬SameRequest first second) ∧
    (account.consumptions.map Prod.snd).Nodup ∧
    (∀ consumption ∈ account.consumptions, ∃ event ∈ account.tables.events, consumption.1 = some event.id) ∧
    (∀ row ∈ account.tables.reservations, row.status = .consumed →
      ∀ later final, Run Account.Performs account later final →
        ∀ other ∈ final.tables.reservations, other.id = row.id → other = row) ∧
    ∀ references input,
      (∀ after, recordUsageAndCost references input account.tables = .ok (.duplicate, after) →
        after = account.tables) ∧
      (∀ thrown, recordUsageAndCost references input account.tables = .error thrown →
        (account.perform (references, .recordUsageAndCost input)).tables = account.tables) := by
  have once := chargedOnce_run run
  refine ⟨once.usageIds, once.requests, once.single, once.charged, ?_, ?_⟩
  · intro row member consumed later final rest other also same
    exact keyed_eq (chargedOnce_run (run.append rest)).reservationIds (consumed_stays rest member consumed) also same
  · intro references input
    refine ⟨fun after duplicate => ?_, fun thrown threw => ?_⟩
    · rcases recordUsageAndCost_ok duplicate with ⟨-, same⟩ | ⟨_, _, recorded, -⟩
      · exact same
      · cases recorded
    · show kept ((recordUsageAndCost references input account.tables).map Prod.snd) account.tables = account.tables
      rw [threw]
      rfl

theorem charged_at_most_once_reserved :
    ∃ account : Account, account.consumptions = [(some "cost", "first")] ∧
      (account.tables.events.map fun event => event.usageRow.id).Nodup ∧
      ∀ row ∈ account.tables.reservations, row.status = .consumed →
        ∀ later final, Run Account.Performs account later final →
          ∀ other ∈ final.tables.reservations, other.id = row.id → other = row := by
  have budgeted : Run Account.Performs (Account.empty [officePricing]) [(officeReferences, setsBudget)] _ :=
    Run.nil.snoc rfl
  have reserved : Run Account.Performs (Account.empty [officePricing])
      ([(officeReferences, setsBudget)] ++ [(officeReferences, reserves ["first"])]) _ := budgeted.snoc rfl
  have run : Run Account.Performs (Account.empty [officePricing]) (([(officeReferences, setsBudget)] ++
      [(officeReferences, reserves ["first"])]) ++ [(officeReferences, chargesReserved)]) _ := reserved.snoc rfl
  have once := charged_at_most_once run
  exact ⟨_, by decide, once.1, once.2.2.2.2.1⟩

/-- A reservation as every operation leaves it: it lasts, it is final from one moment on, and what is consumed was
consumed before it expired. -/
structure Settled (row : Reservation) : Prop where
  lasts : row.createdAt < row.expiresAt
  finalized : row.status = .active ↔ row.finalizedAt = none
  timely : ∀ moment, row.status = .consumed → row.finalizedAt = some moment → moment < row.expiresAt

/-- What an operation makes of a reservation: nothing when it is final, and else no more than final. -/
def Lasts (row later : Reservation) : Prop :=
  later = { row with status := later.status, finalizedAt := later.finalizedAt } ∧ (row.status ≠ .active → later = row)

theorem Lasts.refl (row : Reservation) : Lasts row row := ⟨rfl, fun _ => rfl⟩

theorem Lasts.trans {later : Reservation} (first : Lasts row other) (second : Lasts other later) : Lasts row later := by
  refine ⟨?_, fun final => ?_⟩
  · rw [second.1, first.1]
  · obtain rfl := first.2 final
    exact second.2 final

theorem finalize_lasts (member : row ∈ tables.reservations) :
    ∃ later ∈ (tables.finalize status now selected).reservations, Lasts row later := by
  refine ⟨_, List.mem_map_of_mem member, ?_⟩
  split
  · next chosen => exact ⟨rfl, fun final => absurd chosen.1 final⟩
  · exact .refl row

theorem finalize_settled (settled : ∀ row ∈ tables.reservations, Settled row) (final : status ≠ .active)
    (timely : status = .consumed → ∀ row ∈ tables.reservations, selected row = true → now < row.expiresAt) :
    ∀ row ∈ (tables.finalize status now selected).reservations, Settled row := by
  intro row member
  obtain ⟨before, stored, rfl⟩ := List.mem_map.mp member
  split
  · next chosen =>
      refine ⟨(settled before stored).lasts, ⟨fun active => absurd active final, fun never => by cases never⟩, ?_⟩
      intro moment consumed same
      cases same
      exact timely consumed before stored chosen.2
  · exact settled before stored

theorem reservedAmount_timely {ids : List String} {start amount : Nat}
    (counted : reservedAmount tables now ids start = .ok (some amount)) :
    ∀ id ∈ ids, ∃ row, tables.reservations.find? (fun row => row.id = id) = some row ∧ now < row.expiresAt := by
  induction ids generalizing start with
  | nil => exact List.forall_mem_nil _
  | cons id ids ih =>
    unfold reservedAmount at counted
    split at counted
    · cases counted
    · next row found =>
        obtain ⟨unexpired, counted⟩ := guard_ok counted
        refine List.forall_mem_cons.mpr ⟨⟨row, found, Int.not_le.mp (not_or.mp unexpired).2⟩, ?_⟩
        split at counted
        · cases counted
        split at counted
        · exact ih counted
        · obtain ⟨_, -, counted⟩ := bind_ok counted
          exact ih counted

theorem perform_lasts (operation : Operation) : tables.events <+: (operation.perform references tables).events ∧
    ∀ row ∈ tables.reservations, ∃ later ∈ (operation.perform references tables).reservations, Lasts row later := by
  have change : Change tables operation (operation.perform references tables) := perform_change operation
  generalize operation.perform references tables = after at change
  cases change with
  | unchanged events reservations => exact ⟨events ▸ List.prefix_rfl, fun row member => ⟨row, reservations ▸ member, .refl row⟩⟩
  | reserved _ events reservations =>
    exact ⟨events ▸ List.prefix_rfl, fun row member => ⟨row, reservations ▸ List.mem_append_left _ member, .refl row⟩⟩
  | released => exact ⟨List.prefix_rfl, fun row member => finalize_lasts member⟩
  | charged => exact ⟨List.prefix_append _ _, fun row member => finalize_lasts member⟩

theorem perform_settled (unique : (tables.reservations.map Reservation.id).Nodup)
    (settled : ∀ row ∈ tables.reservations, Settled row) (operation : Operation) :
    ∀ row ∈ (operation.perform references tables).reservations, Settled row := by
  have added {request : AuthorizeReservationInput} {budget : Budget} {amount : Nat}
      (valid : request.now < request.expiresAt) : Settled (reservationOf request budget amount) :=
    ⟨valid, iff_of_true rfl rfl, fun _ consumed => by cases consumed⟩
  cases operation with
  | saveBudget input now =>
    refine kept_holds (fun after => ∀ row ∈ after.reservations, Settled row) settled fun after saved => ?_
    rw [(saveBudget_ok saved).1, CostTables.upsertBudget]
    split <;> exact settled
  | authorizeAndReserve request =>
    refine kept_holds (fun after => ∀ row ∈ after.reservations, Settled row) settled fun after mapped => ?_
    obtain ⟨⟨answer, final⟩, reserved, rfl⟩ := map_ok mapped
    obtain ⟨valid, -⟩ := guard_ok reserved
    obtain ⟨budgeted, -, rfl⟩ := authorizeAndReserve_ok reserved
    exact List.forall_mem_append.mpr ⟨settled, List.forall_mem_singleton.mpr (added (Int.not_le.mp valid))⟩
  | authorizeAndReserveMany requests =>
    refine kept_holds (fun after => ∀ row ∈ after.reservations, Settled row) settled fun after mapped => ?_
    obtain ⟨⟨answers, final⟩, reserved, rfl⟩ := map_ok mapped
    have valid : ∀ request ∈ requests, request.now < request.expiresAt := by
      unfold authorizeAndReserveMany at reserved
      split at reserved
      · cases reserved
      · next allValid => simpa using allValid
    obtain ⟨rows, authorized, rfl⟩ := authorizeAndReserveMany_ok reserved
    refine List.forall_mem_append.mpr ⟨settled, List.forall_mem_map.mpr fun budgeted member => added (valid _ ?_)⟩
    rw [← (authorizeAll_ok authorized).1]
    exact List.mem_map_of_mem member
  | releaseReservation id now =>
    show ∀ row ∈ (releaseReservation id now tables).2.reservations, Settled row
    rcases @releaseReservation_cases tables now id with unchanged | released
    · rwa [unchanged]
    · rw [released]
      exact finalize_settled settled (by decide) fun consumed => by cases consumed
  | releaseReservations ids now | releaseExpiredReservations now =>
    exact finalize_settled settled (by decide) fun consumed => by cases consumed
  | recordUsageAndCost input =>
    refine kept_holds (fun after => ∀ row ∈ after.reservations, Settled row) settled fun after mapped => ?_
    obtain ⟨⟨recording, final⟩, recorded, rfl⟩ := map_ok mapped
    rcases recordUsageAndCost_ok recorded with ⟨-, rfl⟩ | ⟨reserved, event, -, counted, -, rfl⟩
    · exact settled
    · refine finalize_settled (by exact settled) (by decide) fun _ row member chosen => ?_
      obtain ⟨stored, found, unexpired⟩ := reservedAmount_timely counted row.id (of_decide_eq_true chosen)
      have sameId : stored.id = row.id := by simpa using List.find?_some found
      rwa [← keyed_eq unique (List.mem_of_find?_eq_some found) member sameId.symm] at unexpired

end AiOffice.Storage.Cost
