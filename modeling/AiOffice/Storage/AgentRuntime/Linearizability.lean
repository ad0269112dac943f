import AiOffice.Storage.AgentRuntime.Versions

namespace AiOffice.Storage.AgentRuntime

open Data Outcome Domain

variable {Json : Type}

/-- A persistence call with all that it is given: an object as it was loaded or changed at any earlier
time, and the tables that authority is checked against now. -/
inductive Call (Json : Type)
  | save (value : AgentRunProps Json)
  | admitRun (authorities : AuthorityTables) (input : RunAdmission)
  | accept (authorities : AuthorityTables) (fence : WorkerAuthorityFence Json) (run : AgentRunProps Json)
      (result : Json) (acceptedAt : Date)

def Call.runId : Call Json → String
  | .save value => value.id
  | .admitRun _ input => input.runId
  | .accept _ fence _ _ _ => fence.runId

/-- The tables of a run, and all rows that were persisted for it, the newest first. -/
structure Persisted (Json : Type) where
  tables : RunTables Json
  versions : List (AgentRunState Json)

variable {state : Persisted Json}

/-- The row is the newest version, the events are the statuses of the versions, and every version is
ahead of all before it. -/
structure Linear (state : Persisted Json) : Prop where
  current : state.tables.row = state.versions.head?
  events : state.tables.events.map (·.status) = (state.versions.map (·.status)).reverse
  path : state.versions.Pairwise fun later earlier => Advances earlier.status later.status

theorem Linear.head {row : AgentRunState Json} (linear : Linear state) (found : state.tables.row = some row) :
    ∃ earlier, state.versions = row :: earlier ∧
      ∀ version ∈ earlier, Advances version.status row.status := by
  have newest := linear.current.symm.trans found
  cases split : state.versions with
  | nil => simp [split] at newest
  | cons version earlier =>
    rw [split] at newest
    obtain rfl := Option.some.inj newest
    have path := linear.path
    rw [split, List.pairwise_cons] at path
    exact ⟨earlier, rfl, path.1⟩

theorem Linear.ahead {row version : AgentRunState Json} {status : AgentRunStatus} (linear : Linear state)
    (found : state.tables.row = some row) (advances : Advances row.status status)
    (member : version ∈ state.versions) : Advances version.status status := by
  obtain ⟨earlier, split, behind⟩ := linear.head found
  rw [split] at member
  rcases List.mem_cons.mp member with rfl | member
  · exact advances
  · exact (behind version member).trans advances

theorem Linear.unique {row version : AgentRunState Json} (linear : Linear state)
    (found : state.tables.row = some row) (member : version ∈ state.versions)
    (status : version.status = row.status) : version = row := by
  obtain ⟨earlier, split, behind⟩ := linear.head found
  rw [split] at member
  rcases List.mem_cons.mp member with same | member
  · exact same
  · have advances := behind version member
    rw [status] at advances
    exact advances.irrefl.elim

theorem Linear.appended {status : AgentRunStatus} {events : List (AgentRunEvent Json)} (linear : Linear state)
    (fresh : ∀ version ∈ state.versions, version.status ≠ status)
    (appends : Appends state.tables.events status events) :
    events.map (·.status) = (state.versions.map (·.status)).reverse ++ [status] := by
  rcases appends with ⟨event, same, rfl⟩ | ⟨⟨stored, member, same⟩, -⟩
  · rw [List.map_append, linear.events, List.map_singleton, same]
  · have known : status ∈ (state.versions.map (·.status)).reverse := by
      rw [← linear.events, ← same]
      exact List.mem_map_of_mem member
    obtain ⟨version, present, equal⟩ := List.mem_map.mp (List.mem_reverse.mp known)
    exact (fresh version present equal).elim

variable [DecidableEq Json] (codec : AgentRunCodec Json) (errors : AdmissionErrors Json)

def Call.perform (call : Call Json) (tables : RunTables Json) : Except Thrown (RunTables Json) :=
  match call with
  | .save value => (saveRun codec value tables).map (·.2)
  | .admitRun authorities input => (admitQueuedRun codec errors authorities input tables).map (·.2.1)
  | .accept authorities fence run result acceptedAt =>
    (acceptWorkerResult authorities fence run result acceptedAt tables).map (·.2)

def Persisted.commit (persisted : Persisted Json) (tables : RunTables Json) : Persisted Json :=
  ⟨tables, if tables.row = persisted.tables.row then persisted.versions
    else tables.row.toList ++ persisted.versions⟩

/-- One call on the run `runId`. A call for another run leaves it alone, as does one that throws. -/
def Persisted.step (runId : String) (persisted : Persisted Json) (call : Call Json) : Persisted Json :=
  if call.runId ≠ runId then persisted
  else match call.perform codec errors persisted.tables with
    | .ok tables => persisted.commit tables
    | .error _ => persisted

/-- What a sequence of transactions leaves of a run that did not exist before. -/
def persisted (runId : String) (calls : List (Call Json)) : Persisted Json :=
  calls.foldl (Persisted.step codec errors runId) ⟨⟨none, []⟩, []⟩

variable {codec errors} {call : Call Json} {runId : String}

theorem Linear.write {token : Option AgentRunPersistenceToken} {after : RunTables Json} (linear : Linear state)
    (write : Write state.tables token after) : Linear (state.commit after) := by
  cases write with
  | kept => simpa [Persisted.commit] using linear
  | @inserted row events absent appended =>
    have empty : state.versions = [] := List.head?_eq_none_iff.mp (linear.current.symm.trans absent)
    have statuses := linear.appended (by simp [empty]) appended
    have committed : (state.commit ⟨some row, events⟩).versions = [row] := by
      simp [Persisted.commit, absent, empty]
    refine ⟨?_, ?_, ?_⟩ <;> rw [committed]
    · rfl
    · simpa [Persisted.commit, empty] using statuses
    · exact List.pairwise_singleton ..
  | @advanced before row events found named advances appended =>
    have ahead : ∀ version ∈ state.versions, Advances version.status row.status :=
      fun version member => linear.ahead found advances member
    have statuses := linear.appended (fun version member same => (same ▸ ahead version member).irrefl) appended
    have moved : some row ≠ state.tables.row := by
      rw [found]
      intro same
      obtain rfl := Option.some.inj same
      exact advances.irrefl
    have committed : (state.commit ⟨some row, events⟩).versions = row :: state.versions := by
      simp [Persisted.commit, moved]
    refine ⟨?_, ?_, ?_⟩ <;> rw [committed]
    · rfl
    · simpa [Persisted.commit] using statuses
    · exact List.pairwise_cons.mpr ⟨ahead, linear.path⟩

/-- The version that a call means to start from: an object its token, an admission the queued row, a
result the running row that its worker had. -/
def Call.Names (row : AgentRunState Json) : Call Json → Prop
  | .save value => value.persistenceToken = some ⟨row.status, row.updatedAt⟩
  | .admitRun _ _ => row.status = .queued
  | .accept _ _ run _ _ => row.status = .running ∧ row.updatedAt = run.updatedAt

theorem Call.perform_write {tables after : RunTables Json} (returned : call.perform codec errors tables = .ok after)
    (changed : after ≠ tables) :
    (∃ token, Write tables token after) ∧
      (tables.row = none ∨ ∃ row, tables.row = some row ∧ call.Names row) := by
  cases call with
  | save value =>
    obtain ⟨⟨saved, written⟩, saves, rfl⟩ := map_ok returned
    have write := (saveRun_write saves).1
    exact ⟨⟨_, write⟩, write.named changed⟩
  | admitRun authorities input =>
    obtain ⟨⟨admitted, written, locks⟩, admits, rfl⟩ := map_ok returned
    rcases admitQueuedRun_write admits with same | ⟨row, found, queued, write⟩
    · exact (changed same).elim
    · exact ⟨⟨_, write⟩, .inr ⟨row, found, queued⟩⟩
  | accept authorities fence run result acceptedAt =>
    obtain ⟨⟨accepted, written⟩, accepts, rfl⟩ := map_ok returned
    rcases acceptWorkerResult_write accepts with ⟨-, same⟩ | ⟨-, row, found, running, write⟩
    · exact (changed same).elim
    · refine ⟨⟨_, write⟩, (write.named changed).imp id ?_⟩
      rintro ⟨other, same, token⟩
      obtain rfl := Option.some.inj (found.symm.trans same)
      exact ⟨row, found, running, (congrArg (·.updatedAt) (Option.some.inj token)).symm⟩

theorem Persisted.step_cases (state : Persisted Json) (call : Call Json) :
    state.step codec errors runId call = state ∨
      ∃ after, call.perform codec errors state.tables = .ok after ∧ after ≠ state.tables ∧
        state.step codec errors runId call = state.commit after := by
  unfold Persisted.step
  by_cases other : call.runId ≠ runId
  · exact .inl (if_pos other)
  · rw [if_neg other]
    cases performed : call.perform codec errors state.tables with
    | error thrown => exact .inl rfl
    | ok after =>
      by_cases same : after = state.tables
      · left
        simp [Persisted.commit, same]
      · exact .inr ⟨after, rfl, same, rfl⟩

theorem Linear.step {state : Persisted Json} (linear : Linear state) (call : Call Json) :
    Linear (state.step codec errors runId call) := by
  rcases state.step_cases call with same | ⟨after, performed, changed, committed⟩
  · rwa [same]
  · obtain ⟨⟨token, write⟩, -⟩ := call.perform_write performed changed
    rw [committed]
    exact linear.write write

theorem persisted_linear (calls : List (Call Json)) : Linear (persisted codec errors runId calls) := by
  induction calls using List.reverseRecOn with
  | nil => exact ⟨rfl, rfl, .nil⟩
  | append_singleton calls call ih =>
    have last : persisted codec errors runId (calls ++ [call]) =
        (persisted codec errors runId calls).step codec errors runId call := by
      simp [persisted]
    rw [last]
    exact ih.step call

theorem Persisted.terminal {state : Persisted Json} {row : AgentRunState Json}
    (found : state.tables.row = some row) (terminal : AgentRun.isTerminal row.status = true) (call : Call Json) :
    state.step codec errors runId call = state := by
  rcases state.step_cases call with same | ⟨after, performed, changed, -⟩
  · exact same
  · obtain ⟨⟨token, write⟩, -⟩ := call.perform_write performed changed
    cases write with
    | kept => exact (changed rfl).elim
    | inserted absent => cases found.symm.trans absent
    | advanced current named advances =>
      obtain rfl := Option.some.inj (found.symm.trans current)
      cases terminal.symm.trans advances.not_terminal

theorem Linear.replay {state : Persisted Json} {value : AgentRunProps Json} (linear : Linear state)
    (known : ∃ version ∈ state.versions, version.status = value.status) :
    state.step codec errors runId (.save value) = state := by
  rcases state.step_cases (.save value) with same | ⟨after, performed, changed, -⟩
  · exact same
  · obtain ⟨⟨saved, written⟩, saves, rfl⟩ := map_ok performed
    obtain ⟨write, same | status⟩ := saveRun_write saves
    · exact (changed same).elim
    · obtain ⟨version, member, equal⟩ := known
      cases write with
      | kept => exact (changed rfl).elim
      | inserted absent =>
        have empty : state.versions = [] := List.head?_eq_none_iff.mp (linear.current.symm.trans absent)
        simp [empty] at member
      | @advanced before row events found named advances =>
        have ahead := linear.ahead found advances member
        rw [equal, ← Option.some.inj status] at ahead
        exact ahead.irrefl.elim

/-- After any calls on a run, in any order and with objects of any age: the row is the last of the
persisted versions, the events are the statuses of the versions in order, and the statuses are a path
that the domain's transitions can take. A further call changes a row only from the version that it names,
which is one version only, and never a terminal one; it changes nothing when it saves a status that was
persisted before; and it accepts a result only for a running row. -/
theorem persistence_linearizable (codec : AgentRunCodec Json) (errors : AdmissionErrors Json) (runId : String)
    (calls : List (Call Json)) :
    let state := persisted codec errors runId calls
    (state.tables.row = state.versions.head? ∧
      state.tables.events.map (·.status) = (state.versions.map (·.status)).reverse ∧
      state.versions.Pairwise fun later earlier => Relation.TransGen Transition earlier.status later.status) ∧
    (∀ call row, state.tables.row = some row → AgentRun.isTerminal row.status = true →
      state.step codec errors runId call = state) ∧
    (∀ call, state.step codec errors runId call ≠ state → state.tables.row = none ∨
      ∃ row, state.tables.row = some row ∧ call.Names row ∧
        ∀ version ∈ state.versions, version.status = row.status → version = row) ∧
    (∀ value, (∃ version ∈ state.versions, version.status = value.status) →
      state.step codec errors runId (.save value) = state) ∧
    (∀ authorities fence run result acceptedAt after,
      acceptWorkerResult authorities fence run result acceptedAt state.tables = .ok (true, after) →
        ∃ row, state.tables.row = some row ∧ row.status = .running) := by
  intro state
  have linear : Linear state := persisted_linear calls
  refine ⟨⟨linear.current, linear.events, linear.path⟩, fun call row found terminal =>
    Persisted.terminal found terminal call, fun call changed => ?_, fun value known => linear.replay known, ?_⟩
  · rcases state.step_cases call with same | ⟨after, performed, written, -⟩
    · exact (changed same).elim
    · refine (call.perform_write performed written).2.imp id ?_
      rintro ⟨row, found, names⟩
      exact ⟨row, found, names, fun version member status => linear.unique found member status⟩
  · intro authorities fence run result acceptedAt after accepted
    rcases acceptWorkerResult_write accepted with ⟨refused, -⟩ | ⟨-, row, found, running, -⟩
    · cases refused
    · exact ⟨row, found, running⟩

end AiOffice.Storage.AgentRuntime
