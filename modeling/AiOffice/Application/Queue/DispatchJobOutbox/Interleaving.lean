import AiOffice.Application.Pipeline.OrchestratePipelineStage.Interleaving
import AiOffice.Application.Pipeline.StageIntents
import AiOffice.Application.Queue.DispatchJobOutbox

namespace AiOffice.Application.Queue

open Data Domain Storage.AgentRuntime Storage.Office Application.Pipeline
  Application.ScheduleAgentRun

/-- A job that the queue accepted, and the intent that it was published for. -/
structure Acceptance where
  intent : JobIntent
  job : QueueJob

def JobOutboxRecord.acceptance (record : JobOutboxRecord) : Acceptance := ⟨record.intent, record.intent.queueJob⟩

/-- A runtime with its outbox, under any number of dispatchers, and what the queue has accepted so far. -/
structure Outbox (Json : Type) where
  runtime : Runtime Json
  records : List JobOutboxRecord
  accepted : List Acceptance
  dispatchers : Nat → Option DispatcherPhase

variable {Json : Type}

def intents (runtime : Runtime Json) : List JobIntent :=
  runtime.office.outbox.map .orchestratePipeline ++ runtime.jobs.map .executeAgentRun

namespace Outbox

variable (outbox : Outbox Json)

def rows : List (AgentRunState Json) := outbox.runtime.host.tables.runs

def tables : OfficeTables :=
  { outbox.runtime.office with agentRuns := outbox.rows.map OrchestratePipelineStage.binding }

/-- A transaction of the runtime, and the records of the intents that it appends. -/
def setRuntime (runtime : Runtime Json) (now : Date) : Outbox Json :=
  { outbox with
    runtime
    records := outbox.records ++
      ((intents runtime).filter fun intent => intent ∉ intents outbox.runtime).map (JobOutboxRecord.appended now) }

def setDispatcher (caller : Nat) (phase : Option DispatcherPhase) : Outbox Json :=
  { outbox with dispatchers := Function.update outbox.dispatchers caller phase }

def setRecords (records : List JobOutboxRecord) : Outbox Json := { outbox with records }

def accept (record : JobOutboxRecord) : Outbox Json :=
  { outbox with accepted := outbox.accepted ++ [record.acceptance] }

end Outbox

/-- How the queue answers: it accepts the job, it does not, or it accepts it and the answer is lost. -/
inductive Answer
  | accepted
  | refused
  | lost
  deriving DecidableEq

/-- The steps between the await points of the calls. The times are those that a call takes from its clock. -/
inductive Label (Json : Type)
  | office (transaction : OfficeTransaction) (now : Date)
  | runtime (label : ScheduleAgentRun.Label Json) (now : Date)
  | dispatch (caller : Nat) (now : Date) (limit : Option Int)
  | replay (caller : Nat) (limit : Option Int)
  | enqueue (caller : Nat) (answer : Answer)
  | mark (caller : Nat) (now : Date)
  | throw (caller : Nat)
  | crash (caller : Nat)

variable [DecidableEq Json]

/-- One step of the pipelines, of the agent runs, or of one call of the dispatcher. A transaction that throws changes
nothing. A write that throws after it began is one that was not made. -/
inductive Step (services : ScheduleServices Json) (recovery : RunRecovery Json) (errors : AdmissionErrors Json) :
    Outbox Json → Label Json → Outbox Json → Prop
  | office {outbox transaction now office} (keeps : transaction.KeepsOutbox outbox.tables)
      (committed : transaction.perform outbox.tables = .ok office) :
      Step services recovery errors outbox (.office transaction now)
        (outbox.setRuntime { outbox.runtime with office } now)
  | runtime {outbox label now later}
      (step : ScheduleAgentRun.Step services recovery errors outbox.runtime label later)
      (office : later.office = outbox.runtime.office) :
      Step services recovery errors outbox (.runtime label now) (outbox.setRuntime later now)
  | dispatched {outbox caller now limit} (absent : outbox.dispatchers caller = none) :
      Step services recovery errors outbox (.dispatch caller now limit)
        (outbox.setDispatcher caller (began (pending now (limitOf limit) outbox.records) fun records =>
          .publishing records 0))
  | replayed {outbox caller limit} (absent : outbox.dispatchers caller = none) :
      Step services recovery errors outbox (.replay caller limit)
        (outbox.setDispatcher caller
          (began (replayable outbox.tables outbox.rows (limitOf limit) outbox.records) fun records => .replaying records 0))
  | published {outbox caller record rest dispatched}
      (here : outbox.dispatchers caller = some (.publishing (record :: rest) dispatched)) :
      Step services recovery errors outbox (.enqueue caller .accepted)
        ((outbox.accept record).setDispatcher caller (some (.marking record rest dispatched)))
  | unpublished {outbox caller record rest dispatched}
      (here : outbox.dispatchers caller = some (.publishing (record :: rest) dispatched)) :
      Step services recovery errors outbox (.enqueue caller .refused)
        (outbox.setDispatcher caller (some (.failing record rest dispatched)))
  | unconfirmed {outbox caller record rest dispatched}
      (here : outbox.dispatchers caller = some (.publishing (record :: rest) dispatched)) :
      Step services recovery errors outbox (.enqueue caller .lost)
        ((outbox.accept record).setDispatcher caller (some (.failing record rest dispatched)))
  | marked {outbox caller record rest dispatched now}
      (here : outbox.dispatchers caller = some (.marking record rest dispatched)) :
      Step services recovery errors outbox (.mark caller now)
        ((outbox.setRecords (markDispatched record.intent now outbox.records).2).setDispatcher caller
          (some (.publishing rest
            (if (markDispatched record.intent now outbox.records).1 = true then dispatched + 1 else dispatched))))
  | unmarked {outbox caller record rest dispatched}
      (here : outbox.dispatchers caller = some (.marking record rest dispatched)) :
      Step services recovery errors outbox (.throw caller)
        (outbox.setDispatcher caller (some (.failing record rest dispatched)))
  | postponed {outbox caller record rest dispatched now}
      (here : outbox.dispatchers caller = some (.failing record rest dispatched)) :
      Step services recovery errors outbox (.mark caller now)
        ((outbox.setRecords (markFailed record.intent (retryAt now record.attemptCount) outbox.records).2).setDispatcher
          caller (some (.publishing rest dispatched)))
  | abandoned {outbox caller record rest dispatched}
      (here : outbox.dispatchers caller = some (.failing record rest dispatched)) :
      Step services recovery errors outbox (.throw caller) (outbox.setDispatcher caller none)
  | republished {outbox caller record rest accepted}
      (here : outbox.dispatchers caller = some (.replaying (record :: rest) accepted)) :
      Step services recovery errors outbox (.enqueue caller .accepted)
        ((outbox.accept record).setDispatcher caller (some (.replaying rest (accepted + 1))))
  | unrepublished {outbox caller record rest accepted}
      (here : outbox.dispatchers caller = some (.replaying (record :: rest) accepted)) :
      Step services recovery errors outbox (.enqueue caller .refused)
        (outbox.setDispatcher caller (some (.replaying rest accepted)))
  | unreconfirmed {outbox caller record rest accepted}
      (here : outbox.dispatchers caller = some (.replaying (record :: rest) accepted)) :
      Step services recovery errors outbox (.enqueue caller .lost)
        ((outbox.accept record).setDispatcher caller (some (.replaying rest accepted)))
  | crashed {outbox caller} :
      Step services recovery errors outbox (.crash caller) (outbox.setDispatcher caller none)

end AiOffice.Application.Queue

namespace AiOffice.Application.Queue

open Data Domain Storage.AgentRuntime Storage.Office

variable {Json : Type} (office : OfficeTables) (rows : List (AgentRunState Json)) (records : List JobOutboxRecord)

/-- What a replay has offered to the queue, and how many of its offers the queue accepted. -/
structure Replayed where
  offered : List JobOutboxRecord
  accepted : Nat

/-- One record of a replay. A job that the queue refuses is left to a later replay. -/
def Replayed.offer (enqueue : QueueJob → Bool) (replayed : Replayed) (record : JobOutboxRecord) : Replayed :=
  ⟨replayed.offered ++ [record],
    if enqueue record.intent.queueJob then replayed.accepted + 1 else replayed.accepted⟩

def replay (enqueue : QueueJob → Bool) (limit : Option Int) : Except Thrown Replayed := do
  let candidates ← replayable office rows (limitOf limit) records
  return candidates.foldl (Replayed.offer enqueue) ⟨[], 0⟩

/-- A record was offered within the first of several calls. The queue answers each call as it likes. -/
def OfferedWithin (answers : Nat → QueueJob → Bool) (limit : Option Int) (calls : Nat) (record : JobOutboxRecord) : Prop :=
  ∃ call < calls, ∃ replayed,
    replay office rows records (answers call) limit = .ok replayed ∧ record ∈ replayed.offered

variable {office rows records} {enqueue : QueueJob → Bool} {answers : Nat → QueueJob → Bool} {limit : Option Int}
  {calls : Nat} {record : JobOutboxRecord}

theorem offer_offered (candidates : List JobOutboxRecord) (replayed : Replayed) :
    (candidates.foldl (Replayed.offer enqueue) replayed).offered = replayed.offered ++ candidates := by
  induction candidates generalizing replayed with
  | nil => simp
  | cons record candidates ih => simp [ih, Replayed.offer]

theorem replay_offers : (∃ replayed, replay office rows records enqueue limit = .ok replayed ∧ record ∈ replayed.offered) ↔
    (1 ≤ limitOf limit ∧ limitOf limit ≤ 1000) ∧
      record ∈ batch (limitOf limit) (records.filter (isReplayable office rows)) := by
  by_cases valid : limitOf limit < 1 ∨ 1000 < limitOf limit
  · have refused : replay office rows records enqueue limit =
        .error (invalidLimit "Outbox replay limit is invalid") := by
      rw [replay, replayable, if_pos valid]
      rfl
    simp only [refused, reduceCtorEq, false_and, exists_false, false_iff]
    omega
  · have answered : replay office rows records enqueue limit = .ok
        ((batch (limitOf limit) (records.filter (isReplayable office rows))).foldl (Replayed.offer enqueue) ⟨[], 0⟩) := by
      rw [replay, replayable, if_neg valid]
      rfl
    have within : 1 ≤ limitOf limit ∧ limitOf limit ≤ 1000 := by omega
    simp only [answered, Except.ok.injEq, exists_eq_left', offer_offered, List.nil_append, within, and_self, true_and]

theorem offeredWithin_iff : OfferedWithin office rows records answers limit calls record ↔
    0 < calls ∧ (1 ≤ limitOf limit ∧ limitOf limit ≤ 1000) ∧
      record ∈ batch (limitOf limit) (records.filter (isReplayable office rows)) := by
  simp only [OfferedWithin, replay_offers]
  constructor
  · rintro ⟨call, before, offered⟩
    exact ⟨by omega, offered⟩
  · rintro ⟨some, offered⟩
    exact ⟨0, some, offered⟩

theorem batch_covers {candidates : List JobOutboxRecord} {size : Int} (distinct : candidates.Nodup) :
    (∀ record ∈ candidates, record ∈ batch size candidates) ↔ candidates.length ≤ size.toNat := by
  have sorted := sortOn_perm (fun record => toLex (record.createdAt, record.intent.id)) candidates
  constructor
  · intro covered
    have fits := (List.subperm_of_subset distinct covered).length_le
    rw [batch, List.length_take] at fits
    omega
  · intro fits record member
    rw [batch, List.take_of_length_le (sorted.length_eq.trans_le fits)]
    exact mem_sortOn.mpr member

/-- Replays of an unchanged state reach every replayable record if and only if one batch has room for all of them. -/
theorem replay_reaches_iff (positive : 0 < limitOf limit) (distinct : records.Nodup) :
    (∀ record ∈ records.filter (isReplayable office rows), OfferedWithin office rows records answers limit
        (records.filter (isReplayable office rows)).length record) ↔
      records.filter (isReplayable office rows) = [] ∨
        limitOf limit ≤ 1000 ∧ ((records.filter (isReplayable office rows)).length : Int) ≤ limitOf limit := by
  have covers := @batch_covers (records.filter (isReplayable office rows)) (limitOf limit)
    (distinct.filter (isReplayable office rows))
  simp only [offeredWithin_iff]
  generalize records.filter (isReplayable office rows) = candidates at covers ⊢
  constructor
  · intro reached
    cases candidates with
    | nil => exact .inl rfl
    | cons first rest =>
      obtain ⟨-, ⟨-, most⟩, -⟩ := reached first List.mem_cons_self
      have fits := covers.mp fun record member => (reached record member).2.2
      exact .inr ⟨most, by omega⟩
  · rintro (rfl | ⟨most, fits⟩) record member
    · cases member
    · have some := List.length_pos_of_mem member
      exact ⟨some, ⟨by omega, most⟩, covers.mpr (by omega) record member⟩

def untouchedOffice : OfficeTables := ⟨[], [], [], [], [], [], [], [], [], []⟩

def queuedRun (id : String) : AgentRunState String where
  id
  projectId := "project"
  taskId := "task"
  agentId := "agent"
  pipelineRunId := none
  pipelineStageRunId := none
  actionIntent := none
  roleGuidance := none
  execution := none
  modelRouting := none
  status := .queued
  worktreePath := none
  result := none
  error := none
  createdAt := 0
  startedAt := none
  completedAt := none
  updatedAt := 0

def publishedRun (id : String) (createdAt : Date) : JobOutboxRecord where
  intent := .executeAgentRun ⟨"project", id, none⟩
  availableAt := createdAt
  attemptCount := 0
  dispatchedAt := some createdAt
  createdAt

def lostRuns : List JobOutboxRecord := [publishedRun "first" 0, publishedRun "second" 1]

theorem lostRuns_replayable :
    lostRuns.filter (isReplayable untouchedOffice [queuedRun "first", queuedRun "second"]) = lostRuns := by decide

theorem replay_reaches_iff_lostRuns :
    (∀ record ∈ lostRuns.filter (isReplayable untouchedOffice [queuedRun "first", queuedRun "second"]),
      OfferedWithin untouchedOffice [queuedRun "first", queuedRun "second"] lostRuns (fun _ _ => true) (some 2)
        (lostRuns.filter (isReplayable untouchedOffice [queuedRun "first", queuedRun "second"])).length record) ↔
      lostRuns.filter (isReplayable untouchedOffice [queuedRun "first", queuedRun "second"]) = [] ∨
        limitOf (some 2) ≤ 1000 ∧
          ((lostRuns.filter (isReplayable untouchedOffice [queuedRun "first", queuedRun "second"])).length : Int) ≤
            limitOf (some 2) :=
  replay_reaches_iff (by decide) (by decide)

/-- With batches of one, the second run waits for as long as the first stays queued. -/
theorem replay_starves :
    ¬∀ record ∈ lostRuns.filter (isReplayable untouchedOffice [queuedRun "first", queuedRun "second"]),
      OfferedWithin untouchedOffice [queuedRun "first", queuedRun "second"] lostRuns (fun _ _ => true) (some 1)
        (lostRuns.filter (isReplayable untouchedOffice [queuedRun "first", queuedRun "second"])).length record := by
  intro reached
  rw [lostRuns_replayable] at reached
  have offered := reached (publishedRun "second" 1) (by decide)
  rw [offeredWithin_iff, lostRuns_replayable] at offered
  exact absurd offered.2.2 (by decide)

end AiOffice.Application.Queue
