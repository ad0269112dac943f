import AiOffice.Storage.AgentRuntime
import Mathlib.Logic.Relation

namespace AiOffice.Storage.AgentRuntime

open Data Outcome Domain Relation

def Transition (previous next : AgentRunStatus) : Prop := next ∈ AgentRun.transitions previous

instance (previous next : AgentRunStatus) : Decidable (Transition previous next) :=
  inferInstanceAs (Decidable (_ ∈ _))

private theorem running_reaches {next : AgentRunStatus}
    (allowed : canPersistAgentRunTransition .running next = true) : ReflTransGen Transition .running next := by
  cases next with
  | running => exact .refl
  | reviewing | completed | failed | cancelled => exact .single (by decide)
  | queued | preparing => cases allowed

private theorem preparing_reaches {next : AgentRunStatus}
    (allowed : canPersistAgentRunTransition .preparing next = true) :
    ReflTransGen Transition .preparing next := by
  cases next with
  | preparing => exact .refl
  | queued => cases allowed
  | running | reviewing | completed | failed | cancelled =>
    exact .head (by decide : Transition .preparing .running) (running_reaches (by decide))

theorem canPersist_iff (previous next : AgentRunStatus) :
    canPersistAgentRunTransition previous next = true ↔ ReflTransGen Transition previous next := by
  constructor
  · intro allowed
    cases previous with
    | queued =>
      cases next with
      | queued => exact .refl
      | preparing | running | reviewing | completed | failed | cancelled =>
        exact .head (by decide : Transition .queued .preparing) (preparing_reaches (by decide))
    | preparing => exact preparing_reaches allowed
    | running => exact running_reaches allowed
    | reviewing =>
      cases next with
      | reviewing => exact .refl
      | completed | failed | cancelled => exact .single (by decide)
      | queued | preparing | running => cases allowed
    | completed | failed | cancelled => cases next <;> first | exact .refl | cases allowed
  · intro path
    induction path with
    | refl => cases previous <;> rfl
    | @tail between last _ edge ih =>
      revert ih edge
      cases previous <;> cases between <;> cases last <;> decide

def Advances (previous next : AgentRunStatus) : Prop := TransGen Transition previous next

def rank : AgentRunStatus → Nat
  | .queued => 0
  | .preparing => 1
  | .running => 2
  | .reviewing => 3
  | .completed | .failed | .cancelled => 4

theorem Advances.rank {previous next : AgentRunStatus} (advances : Advances previous next) :
    rank previous < rank next := by
  have edge : ∀ {before after}, Transition before after → AgentRuntime.rank before < AgentRuntime.rank after := by
    intro before after
    cases before <;> cases after <;> decide
  induction advances with
  | single first => exact edge first
  | tail _ last ih => exact ih.trans (edge last)

theorem Advances.irrefl {status : AgentRunStatus} : ¬Advances status status :=
  fun advances => Nat.lt_irrefl _ advances.rank

theorem advances_of_canPersist {previous next : AgentRunStatus}
    (allowed : canPersistAgentRunTransition previous next = true) (different : previous ≠ next) :
    Advances previous next := by
  rcases reflTransGen_iff_eq_or_transGen.mp ((canPersist_iff previous next).mp allowed) with same | advances
  · exact (different same.symm).elim
  · exact advances

theorem Advances.not_terminal {previous next : AgentRunStatus} (advances : Advances previous next) :
    AgentRun.isTerminal previous = false := by
  obtain ⟨between, edge, -⟩ := TransGen.head'_iff.mp advances
  unfold Transition at edge
  cases terminal : AgentRun.isTerminal previous with
  | false => rfl
  | true =>
    rw [of_decide_eq_true terminal] at edge
    cases edge

variable {Json : Type}

/-- The events after the event of a status was appended, if the run did not have one. -/
def Appends (events : List (AgentRunEvent Json)) (status : AgentRunStatus)
    (after : List (AgentRunEvent Json)) : Prop :=
  (∃ event, event.status = status ∧ after = events ++ [event]) ∨
    (∃ stored ∈ events, stored.status = status) ∧ after = events

inductive Write (tables : RunTables Json) (token : Option AgentRunPersistenceToken) : RunTables Json → Prop
  | kept : Write tables token tables
  | inserted {row events} (absent : tables.row = none) (appended : Appends tables.events row.status events) :
      Write tables token ⟨some row, events⟩
  | advanced {before after events} (current : tables.row = some before)
      (named : token = some ⟨before.status, before.updatedAt⟩) (advances : Advances before.status after.status)
      (appended : Appends tables.events after.status events) : Write tables token ⟨some after, events⟩

theorem Write.named {token : Option AgentRunPersistenceToken} {tables after : RunTables Json}
    (write : Write tables token after) (changed : after ≠ tables) :
    tables.row = none ∨ ∃ row, tables.row = some row ∧ token = some ⟨row.status, row.updatedAt⟩ := by
  cases write with
  | kept => exact (changed rfl).elim
  | inserted absent => exact .inl absent
  | advanced found named => exact .inr ⟨_, found, named⟩

theorem appendRunEvent_appends (events : List (AgentRunEvent Json)) (value : AgentRunState Json)
    (previousStatus : Option AgentRunStatus) :
    Appends events value.status (appendRunEvent events value previousStatus) := by
  unfold appendRunEvent
  split
  · next old =>
      simp only [List.any_eq_true, decide_eq_true_eq] at old
      exact .inr ⟨old, rfl⟩
  · exact .inl ⟨_, rfl, rfl⟩

theorem insertRunEvent_appends {events after : List (AgentRunEvent Json)} {event : AgentRunEvent Json}
    (inserted : insertRunEvent events event = .ok after) : Appends events event.status after := by
  obtain ⟨-, inserted⟩ := guard_ok inserted
  exact .inl ⟨event, rfl, (Except.ok.inj inserted).symm⟩

theorem load_ok {codec : AgentRunCodec Json} {row : AgentRunState Json} {value : AgentRunProps Json}
    (loaded : load codec row = .ok value) :
    value.status = row.status ∧ value.updatedAt = row.updatedAt := by
  obtain ⟨execution, -, loaded⟩ := bind_ok loaded
  obtain ⟨actionIntent, -, loaded⟩ := bind_ok loaded
  obtain ⟨roleGuidance, -, loaded⟩ := bind_ok loaded
  obtain ⟨modelRouting, -, loaded⟩ := bind_ok loaded
  obtain rfl := Except.ok.inj loaded
  exact ⟨rfl, rfl⟩

variable [DecidableEq Json] {codec : AgentRunCodec Json} {errors : AdmissionErrors Json}
  {tables after : RunTables Json}

theorem saveRun_write {value saved : AgentRunProps Json}
    (returned : saveRun codec value tables = .ok (saved, after)) :
    Write tables value.persistenceToken after ∧
      (after = tables ∨ after.row.map (·.status) = some value.status) := by
  unfold saveRun at returned
  split at returned
  · next absent =>
      cases returned
      exact ⟨.inserted absent (appendRunEvent_appends ..), .inr rfl⟩
  · next row found =>
      obtain ⟨current, loaded, returned⟩ := bind_ok returned
      obtain ⟨status, updatedAt⟩ := load_ok loaded
      obtain ⟨-, returned⟩ := guard_ok returned
      split at returned
      · split at returned
        · cases returned
          exact ⟨.kept, .inl rfl⟩
        · cases returned
      · next different =>
          obtain ⟨tokened, returned⟩ := guard_ok returned
          obtain ⟨permitted, returned⟩ := guard_ok returned
          cases returned
          simp only [not_or, Bool.not_eq_true', Bool.not_eq_false] at permitted
          have advances := advances_of_canPersist permitted.1 different
          have named := not_not.mp tokened
          rw [status, updatedAt] at named
          rw [status] at advances
          exact ⟨.advanced found named advances (appendRunEvent_appends _ value.toAgentRunState _), .inr rfl⟩

theorem admitQueuedRun_write {authorities : AuthorityTables} {input : RunAdmission}
    {admitted : Option (AgentRunProps Json)} {locks : List TaskLock}
    (returned : admitQueuedRun codec errors authorities input tables = .ok (admitted, after, locks)) :
    after = tables ∨ ∃ before, tables.row = some before ∧ before.status = .queued ∧
      Write tables (some ⟨.queued, before.updatedAt⟩) after := by
  unfold admitQueuedRun at returned
  split at returned
  · cases returned
    exact .inl rfl
  · next row found =>
      split at returned
      · cases returned
        exact .inl rfl
      · next eligible =>
          simp only [not_or, not_not] at eligible
          obtain ⟨value, loaded, returned⟩ := bind_ok returned
          obtain ⟨moved, transitioned, returned⟩ := bind_ok returned
          obtain ⟨events, inserted, returned⟩ := bind_ok returned
          cases returned
          obtain ⟨status, -⟩ := load_ok loaded
          obtain ⟨allowed, reached, -⟩ := AgentRun.transition_ok transitioned
          rw [← reached, status] at allowed
          exact .inr ⟨row, found, eligible.2, .advanced found (by rw [eligible.2]) (.single allowed)
            (insertRunEvent_appends inserted)⟩

theorem acceptWorkerResult_write {authorities : AuthorityTables} {fence : WorkerAuthorityFence Json}
    {run : AgentRunProps Json} {result : Json} {acceptedAt : Date} {accepted : Bool}
    (returned : acceptWorkerResult authorities fence run result acceptedAt tables = .ok (accepted, after)) :
    accepted = false ∧ after = tables ∨ accepted = true ∧ ∃ before, tables.row = some before ∧
      before.status = .running ∧ Write tables (some ⟨.running, run.updatedAt⟩) after := by
  unfold acceptWorkerResult at returned
  split at returned
  · cases returned
    exact .inl ⟨rfl, rfl⟩
  · next row found =>
      split at returned
      · cases returned
        exact .inl ⟨rfl, rfl⟩
      · next holds =>
          obtain ⟨events, inserted, returned⟩ := bind_ok returned
          cases returned
          simp only [not_or, Bool.not_eq_true', Bool.not_eq_false, fencedRow, Bool.and_eq_true,
            decide_eq_true_eq] at holds
          obtain ⟨⟨⟨⟨-, running⟩, updatedAt⟩, -⟩, -⟩ := holds
          have edge : Transition row.status .reviewing := by
            rw [running]
            decide
          exact .inr ⟨rfl, row, found, running, .advanced found (by rw [running, updatedAt]) (.single edge)
            (insertRunEvent_appends inserted)⟩

end AiOffice.Storage.AgentRuntime
