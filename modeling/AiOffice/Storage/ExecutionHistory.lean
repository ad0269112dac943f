import AiOffice.Domain.AgentRun
import AiOffice.Domain.IsoDate
import AiOffice.Domain.PipelineRun
import AiOffice.Domain.Task
import Mathlib.Data.List.Perm.Basic
import Mathlib.Order.WithBot

namespace AiOffice.Storage.ExecutionHistory

open Domain Domain.IsoDate

inductive HistoryState
  | unknown
  | executed
  deriving DecidableEq

/-- A row of the history. The first instant is stored as its text. -/
structure HistoryRow where
  projectId : String
  state : HistoryState
  firstKnownAt : Option Date
  check : state = .executed ∨ firstKnownAt = none

structure TaskRecord where
  id : String
  projectId : String
  status : TaskStatus

structure DependencyEdge where
  projectId : String
  taskId : String
  dependsOnTaskId : String

/-- What the triggers read and write. The history has one row a task at most. -/
structure Tables where
  tasks : List TaskRecord
  dependencies : List DependencyEdge
  history : String → Option HistoryRow

def incompletePrerequisites : String := "task has incomplete prerequisites"

def historyOwnership : String := "task execution history must belong to task project"

def historyMonotonic : String := "task execution history is monotonic"

def agentRunOwnership : String := "agent run references must belong to the same project"

def ownsTask (tables : Tables) (taskId projectId : String) : Bool :=
  tables.tasks.any fun task => task.id = taskId && task.projectId = projectId

def waits (tables : Tables) (met : List TaskStatus) (projectId taskId : String) : Bool :=
  tables.dependencies.any fun edge => edge.projectId = projectId && edge.taskId = taskId &&
    tables.tasks.any fun prerequisite => prerequisite.id = edge.dependsOnTaskId && prerequisite.status ∉ met

def earlierText (instant other : Date) : Bool := toISOString instant < toISOString other

def noRegression (old new : HistoryRow) : Bool :=
  new.projectId = old.projectId &&
    (old.state = .unknown && new.state = .executed ||
      old.state = .executed && new.state = .executed &&
        (new.firstKnownAt.map toISOString = old.firstKnownAt.map toISOString ||
          new.firstKnownAt.any fun instant => old.firstKnownAt.all fun known => earlierText instant known))

def mergeInstants (known excluded : Option Date) : Option Date :=
  match known, excluded with
  | none, excluded => excluded
  | some known, none => some known
  | some known, some excluded => if earlierText excluded known then some excluded else some known

def updates (row : HistoryRow) (excluded : Option Date) : Bool :=
  row.state = .unknown ||
    row.state = .executed && excluded.any fun instant => row.firstKnownAt.all fun known => earlierText instant known

def store (tables : Tables) (taskId : String) (row : HistoryRow) : Tables :=
  { tables with history := Function.update tables.history taskId (some row) }

/-- The statement of all three triggers: a row for the task, or a merge with the row it has. -/
def recordExecution (tables : Tables) (taskId projectId : String) (instant : Option Date) : Except String Tables :=
  if !ownsTask tables taskId projectId then .error historyOwnership
  else
    match tables.history taskId with
    | none => .ok (store tables taskId ⟨projectId, .executed, instant, .inl rfl⟩)
    | some row =>
      if updates row instant then
        let merged : HistoryRow := ⟨row.projectId, .executed, mergeInstants row.firstKnownAt instant, .inl rfl⟩
        if noRegression row merged then .ok (store tables taskId merged) else .error historyMonotonic
      else .ok tables

/-- A change of the status of a task, or the insert of a run of it. -/
inductive Evidence
  | taskStatus (taskId : String) (status : TaskStatus) (updatedAt : Date)
  | agentRun (projectId taskId : String) (status : AgentRunStatus) (createdAt : Date)
  | pipelineRun (projectId taskId : String) (status : PipelineRunStatus) (createdAt : Date)

def withStatus (taskId : String) (status : TaskStatus) (task : TaskRecord) : TaskRecord :=
  if task.id = taskId then { task with status } else task

def updateTaskStatus (tables : Tables) (taskId : String) (status : TaskStatus) (updatedAt : Date) : Except String Tables :=
  match tables.tasks.find? fun task => task.id = taskId with
  | none => .ok tables
  | some old =>
    if status = .completed && old.status ∈ [.running, .waitingReview] && waits tables [.completed] old.projectId taskId then
      .error incompletePrerequisites
    else
      let updated := { tables with tasks := tables.tasks.map (withStatus taskId status) }
      if status ∈ [.running, .waitingReview] && old.status ≠ status then
        if status = .running && waits updated [.completed, .waitingReview] old.projectId taskId then
          .error incompletePrerequisites
        else recordExecution updated taskId old.projectId (if status = .running then some updatedAt else none)
      else .ok updated

def insertAgentRun (tables : Tables) (projectId taskId : String) (status : AgentRunStatus) (createdAt : Date) :
    Except String Tables :=
  if !ownsTask tables taskId projectId then .error agentRunOwnership
  else if status ∈ [.queued, .preparing, .running, .reviewing] &&
      waits tables [.completed, .waitingReview] projectId taskId then .error incompletePrerequisites
  else recordExecution tables taskId projectId (some createdAt)

def insertPipelineRun (tables : Tables) (projectId taskId : String) (status : PipelineRunStatus) (createdAt : Date) :
    Except String Tables :=
  if status = .active && waits tables [.completed, .waitingReview] projectId taskId then .error incompletePrerequisites
  else recordExecution tables taskId projectId (some createdAt)

def apply (tables : Tables) : Evidence → Except String Tables
  | .taskStatus taskId status updatedAt => updateTaskStatus tables taskId status updatedAt
  | .agentRun projectId taskId status createdAt => insertAgentRun tables projectId taskId status createdAt
  | .pipelineRun projectId taskId status createdAt => insertPipelineRun tables projectId taskId status createdAt

def advance (tables : Tables) (evidence : Evidence) : Tables := (apply tables evidence).toOption.getD tables

def run (tables : Tables) (evidence : List Evidence) : Tables := evidence.foldl advance tables

/-- The task that evidence is recorded for, and its instant, when no check aborts the statement. -/
def Evidence.records (tables : Tables) : Evidence → Option (String × Option Date)
  | .taskStatus taskId status updatedAt =>
    match tables.tasks.find? fun task => task.id = taskId with
    | none => none
    | some old =>
      if status ∈ [.running, .waitingReview] && old.status ≠ status then
        some (taskId, if status = .running then some updatedAt else none)
      else none
  | .agentRun _ taskId _ createdAt => some (taskId, some createdAt)
  | .pipelineRun _ taskId _ createdAt => some (taskId, some createdAt)

/--
What is known of the execution of a task, the less the more: execution at an instant, at a later one, at an unknown one,
an unknown history, no history.
-/
abbrev Knowledge := WithTop (WithTop (WithTop String))

def instantText : Option Date → WithTop String
  | none => ⊤
  | some instant => (toISOString instant : WithTop String)

def executedAt (first : Option Date) : Knowledge := ((instantText first : WithTop (WithTop String)) : Knowledge)

def knowledge : Option HistoryRow → Knowledge
  | none => ⊤
  | some row =>
    match row.state with
    | .unknown => ((⊤ : WithTop (WithTop String)) : Knowledge)
    | .executed => executedAt row.firstKnownAt

section Recording

variable {tables after : Tables} {taskId projectId other : String} {instant known excluded : Option Date} {row : HistoryRow}
  {evidence : Evidence}

theorem earlierText_iff {first second : Date} : earlierText first second = true ↔ toISOString first < toISOString second :=
  decide_eq_true_iff

theorem executedAt_le : executedAt known ≤ executedAt excluded ↔ instantText known ≤ instantText excluded := by
  rw [executedAt, executedAt, WithTop.coe_le_coe, WithTop.coe_le_coe]

theorem mergeInstants_text : instantText (mergeInstants known excluded) = min (instantText known) (instantText excluded) := by
  cases known with
  | none => exact (min_eq_right le_top).symm
  | some known =>
    cases excluded with
    | none => exact (min_eq_left le_top).symm
    | some excluded =>
      rw [mergeInstants]
      by_cases earlier : toISOString excluded < toISOString known
      · rw [if_pos (earlierText_iff.mpr earlier)]
        exact (min_eq_right (WithTop.coe_le_coe.mpr earlier.le)).symm
      · rw [if_neg (earlierText_iff.not.mpr earlier)]
        exact (min_eq_left (WithTop.coe_le_coe.mpr (not_lt.mp earlier))).symm

theorem offers_iff : (excluded.any fun instant => known.all fun known => earlierText instant known) = true ↔
    instantText excluded < instantText known := by
  cases excluded with
  | none => simp [instantText]
  | some excluded =>
    cases known with
    | none => simp [instantText]
    | some known => simp [instantText, earlierText_iff]

@[simp] theorem store_self : (store tables taskId row).history taskId = some row := by
  simp [store]

theorem store_other (different : other ≠ taskId) : (store tables taskId row).history other = tables.history other := by
  simp [store, different]

theorem knowledge_executed (executed : row.state = .executed) : knowledge (some row) = executedAt row.firstKnownAt := by
  simp only [knowledge, executed]

theorem knowledge_unknown (unknown : row.state = .unknown) : knowledge (some row) = ((⊤ : WithTop (WithTop String)) : Knowledge) := by
  simp only [knowledge, unknown]

theorem executedAt_lt_unknown : executedAt instant < ((⊤ : WithTop (WithTop String)) : Knowledge) :=
  WithTop.coe_lt_coe.mpr (WithTop.coe_lt_top _)

theorem updates_iff : updates row excluded = true ↔ executedAt excluded < knowledge (some row) := by
  cases state : row.state with
  | unknown => simp [updates, state, knowledge_unknown state, executedAt_lt_unknown]
  | executed =>
    rw [knowledge_executed state, ← not_le, executedAt_le, not_le, ← offers_iff]
    simp [updates, state]

theorem knowledge_merged : executedAt (mergeInstants row.firstKnownAt excluded) =
    min (knowledge (some row)) (executedAt excluded) := by
  cases state : row.state with
  | unknown =>
    have none : row.firstKnownAt = none := row.check.resolve_left (by simp [state])
    rw [knowledge_unknown state, none, min_eq_right executedAt_lt_unknown.le]
    rfl
  | executed =>
    rw [knowledge_executed state, executedAt, mergeInstants_text, executedAt, executedAt, WithTop.coe_min, WithTop.coe_min]

theorem noRegression_merged (adds : updates row excluded = true) :
    noRegression row ⟨row.projectId, .executed, mergeInstants row.firstKnownAt excluded, .inl rfl⟩ = true := by
  cases state : row.state with
  | unknown => simp [noRegression, state]
  | executed =>
    have offers : (excluded.any fun instant => row.firstKnownAt.all fun known => earlierText instant known) = true := by
      simpa [updates, state] using adds
    have same : mergeInstants row.firstKnownAt excluded = excluded := by
      cases excluded with
      | none => cases offers
      | some excluded =>
        cases known : row.firstKnownAt with
        | none => rfl
        | some first =>
          rw [mergeInstants, if_pos (by simpa [known] using offers)]
    simp [noRegression, state, same, offers]

theorem recordExecution_spec (tables : Tables) (taskId projectId : String) (instant : Option Date) :
    recordExecution tables taskId projectId instant = .error historyOwnership ∨
      ∃ after, recordExecution tables taskId projectId instant = .ok after ∧
        knowledge (after.history taskId) = min (knowledge (tables.history taskId)) (executedAt instant) ∧
        ∀ other, other ≠ taskId → after.history other = tables.history other := by
  rw [recordExecution]
  split
  · exact .inl rfl
  · right
    split
    · next absent =>
        refine ⟨_, rfl, ?_, fun other different => store_other different⟩
        rw [store_self, absent, knowledge_executed rfl]
        exact (min_eq_right le_top).symm
    · next row found =>
        rw [found]
        split
        · next adds =>
            refine ⟨_, if_pos (noRegression_merged adds), ?_, fun other different => store_other different⟩
            rw [store_self, knowledge_executed rfl, knowledge_merged]
        · next keeps =>
            have least : knowledge (some row) ≤ executedAt instant := not_lt.mp (updates_iff.not.mp keeps)
            exact ⟨tables, rfl, by rw [found, min_eq_left least], fun _ _ => rfl⟩

end Recording

section Run

variable {tables after : Tables} {taskId other message : String} {instant : Option Date} {evidence : Evidence}

def joined (records : Option (String × Option Date)) (other : String) (known : Knowledge) : Knowledge :=
  match records with
  | some (taskId, instant) => if other = taskId then min known (executedAt instant) else known
  | none => known

/-- What a statement does: it is aborted, but not for a regression, or joins its evidence to what is known of its task. -/
def Joins (tables : Tables) (records : Option (String × Option Date)) : Except String Tables → Prop
  | .error message => message ≠ historyMonotonic
  | .ok after => ∀ other, knowledge (after.history other) = joined records other (knowledge (tables.history other))

theorem recordExecution_joins (updated : Tables) (same : updated.history = tables.history) (projectId : String) :
    Joins tables (some (taskId, instant)) (recordExecution updated taskId projectId instant) := by
  rcases recordExecution_spec updated taskId projectId instant with aborted | ⟨after, returned, here, elsewhere⟩
  · rw [aborted]
    exact (by decide : historyOwnership ≠ historyMonotonic)
  · rw [returned]
    intro other
    rw [same] at here elsewhere
    by_cases equal : other = taskId
    · subst equal
      rw [here, joined, if_pos rfl]
    · rw [elsewhere other equal, joined, if_neg equal]

theorem apply_joins (tables : Tables) (evidence : Evidence) :
    Joins tables (evidence.records tables) (apply tables evidence) := by
  have incomplete : incompletePrerequisites ≠ historyMonotonic := by decide
  cases evidence with
  | taskStatus taskId status updatedAt =>
    rw [apply, updateTaskStatus, Evidence.records]
    cases tables.tasks.find? fun task => task.id = taskId with
    | none => exact fun _ => rfl
    | some old =>
      simp only
      generalize (if status = .running then some updatedAt else none) = instant
      split
      · split
        · exact incomplete
        · split
          · exact incomplete
          · exact recordExecution_joins _ rfl old.projectId
      · split
        · exact incomplete
        · exact fun _ => rfl
  | agentRun projectId taskId status createdAt =>
    rw [apply, insertAgentRun]
    split
    · exact (by decide : agentRunOwnership ≠ historyMonotonic)
    · split
      · exact incomplete
      · exact recordExecution_joins tables rfl projectId
  | pipelineRun projectId taskId status createdAt =>
    rw [apply, insertPipelineRun]
    split
    · exact incomplete
    · exact recordExecution_joins tables rfl projectId

/-- What accepted evidence offers to the history of a task: an instant or none. -/
def offer (tables : Tables) (evidence : Evidence) (taskId : String) : List (Option Date) :=
  match apply tables evidence with
  | .error _ => []
  | .ok _ => (((evidence.records tables).filter fun record => record.1 = taskId).map Prod.snd).toList

def offered : Tables → List Evidence → String → List (Option Date)
  | _, [], _ => []
  | tables, evidence :: rest, taskId => offer tables evidence taskId ++ offered (advance tables evidence) rest taskId

def joinAll (known : Knowledge) (offers : List (Option Date)) : Knowledge := (offers.map executedAt).foldl min known

theorem joinAll_append (known : Knowledge) (first second : List (Option Date)) :
    joinAll known (first ++ second) = joinAll (joinAll known first) second := by
  rw [joinAll, List.map_append, List.foldl_append, joinAll, joinAll]

theorem advance_joins (tables : Tables) (evidence : Evidence) (taskId : String) :
    knowledge ((advance tables evidence).history taskId) =
      joinAll (knowledge (tables.history taskId)) (offer tables evidence taskId) := by
  have joins := apply_joins tables evidence
  rw [advance, offer]
  cases returned : apply tables evidence with
  | error message => rfl
  | ok after =>
    rw [returned] at joins
    have here := joins taskId
    change knowledge (after.history taskId) = _
    cases records : evidence.records tables with
    | none =>
      rw [records] at here
      exact here
    | some record =>
      rw [records, joined] at here
      by_cases same : taskId = record.1
      · rw [if_pos same] at here
        simpa [joinAll, Option.filter, same.symm] using here
      · rw [if_neg same] at here
        simpa [joinAll, Option.filter, Ne.symm same] using here

theorem run_joins (tables : Tables) (evidence : List Evidence) (taskId : String) :
    knowledge ((run tables evidence).history taskId) =
      joinAll (knowledge (tables.history taskId)) (offered tables evidence taskId) := by
  induction evidence generalizing tables with
  | nil => rfl
  | cons evidence rest ih => rw [offered, joinAll_append, ← advance_joins, ← ih, run, List.foldl_cons, run]

theorem joinAll_perm {first second : List (Option Date)} (known : Knowledge) (same : first.Perm second) :
    joinAll known first = joinAll known second := by
  have commutes : RightCommutative (min : Knowledge → Knowledge → Knowledge) := ⟨fun a b c => min_right_comm a b c⟩
  exact (same.map executedAt).foldl_eq known

theorem le_joinAll {known bound : Knowledge} {offers : List (Option Date)} :
    bound ≤ joinAll known offers ↔ bound ≤ known ∧ ∀ offer ∈ offers, bound ≤ executedAt offer := by
  induction offers generalizing known with
  | nil => simp [joinAll]
  | cons offer offers ih =>
    have step : joinAll known (offer :: offers) = joinAll (min known (executedAt offer)) offers := rfl
    rw [step, ih, le_min_iff, List.forall_mem_cons, and_assoc]

theorem joinAll_attained (known : Knowledge) (offers : List (Option Date)) :
    joinAll known offers = known ∨ ∃ offer ∈ offers, joinAll known offers = executedAt offer := by
  induction offers generalizing known with
  | nil => exact .inl rfl
  | cons offer offers ih =>
    have step : joinAll known (offer :: offers) = joinAll (min known (executedAt offer)) offers := rfl
    rw [step]
    rcases ih (min known (executedAt offer)) with same | ⟨other, member, same⟩
    · rw [same]
      rcases min_choice known (executedAt offer) with first | second
      · exact .inl first
      · exact .inr ⟨offer, List.mem_cons_self, second⟩
    · exact .inr ⟨other, List.mem_cons_of_mem _ member, same⟩

end Run

section Earliest

variable {tables : Tables} {evidence : List Evidence} {taskId : String} {row : HistoryRow} {known : Option HistoryRow}

def progress : Option HistoryRow → Nat
  | none => 0
  | some row => if row.state = .unknown then 1 else 2

theorem executed_of_lt (less : knowledge known < ((⊤ : WithTop (WithTop String)) : Knowledge)) :
    ∃ row, known = some row ∧ row.state = .executed := by
  cases known with
  | none => simp [knowledge] at less
  | some row =>
    cases state : row.state with
    | unknown => simp [knowledge_unknown state] at less
    | executed => exact ⟨row, rfl, state⟩

theorem progress_le {before after : Option HistoryRow} (joins : knowledge after ≤ knowledge before) :
    progress before ≤ progress after := by
  cases before with
  | none => exact Nat.zero_le _
  | some row =>
    cases state : row.state with
    | unknown =>
      rw [knowledge_unknown state] at joins
      cases after with
      | none => simp [knowledge] at joins
      | some later =>
        simp only [progress, state, if_true]
        split <;> omega
    | executed =>
      rw [knowledge_executed state] at joins
      obtain ⟨later, rfl, executed⟩ := executed_of_lt (joins.trans_lt executedAt_lt_unknown)
      simp [progress, state, executed]

/-- The instants that were known of a task and those that its evidence offers. -/
def instants (tables : Tables) (evidence : List Evidence) (taskId : String) : List Date :=
  ((tables.history taskId).bind HistoryRow.firstKnownAt).toList ++ (offered tables evidence taskId).filterMap id

def Earliest (instants : List Date) (first : Date) : Prop := first ∈ instants ∧ ∀ other ∈ instants, first ≤ other

def TextsInOrder (instants : List Date) : Prop :=
  ∀ first, Earliest instants first → ∀ other ∈ instants, toISOString first ≤ toISOString other

/--
The history of a task joins its evidence, in any order: no evidence is refused as a regression, the state never goes back,
and after any evidence the row is executed, with the earliest of all instants.
-/
structure JoinsEvidence (tables : Tables) (evidence : List Evidence) (taskId : String) : Prop where
  independent : ∀ others, (offered tables others taskId).Perm (offered tables evidence taskId) →
    knowledge ((run tables others).history taskId) = knowledge ((run tables evidence).history taskId)
  accepted : ∀ before next after, evidence = before ++ next :: after → apply (run tables before) next ≠ .error historyMonotonic
  advances : ∀ before middle after, evidence = before ++ middle ++ after →
    progress ((run tables before).history taskId) ≤ progress ((run tables (before ++ middle)).history taskId)
  executed : offered tables evidence taskId ≠ [] → ∃ row, (run tables evidence).history taskId = some row ∧
    row.state = .executed ∧ (instants tables evidence taskId = [] → row.firstKnownAt = none) ∧
    ∀ first, Earliest (instants tables evidence taskId) first → row.firstKnownAt.map toISOString = some (toISOString first)

theorem run_accepts (tables : Tables) (next : Evidence) : apply tables next ≠ .error historyMonotonic := by
  intro aborted
  have joins := apply_joins tables next
  rw [aborted] at joins
  exact joins rfl

theorem run_advances (tables : Tables) (before middle : List Evidence) (taskId : String) :
    progress ((run tables before).history taskId) ≤ progress ((run tables (before ++ middle)).history taskId) := by
  refine progress_le ?_
  have whole : run tables (before ++ middle) = run (run tables before) middle := List.foldl_append
  rw [whole, run_joins]
  exact (le_joinAll.mp le_rfl).1

theorem executedAt_some {first : Option Date} {instant : Date} (less : executedAt first ≤ executedAt (some instant)) :
    ∃ known, first = some known ∧ toISOString known ≤ toISOString instant := by
  rw [executedAt_le] at less
  cases first with
  | none => simp [instantText] at less
  | some known => exact ⟨known, rfl, WithTop.coe_le_coe.mp less⟩

theorem executedAt_same {first : Option Date} {instant : Date} (same : executedAt (some instant) = executedAt first) :
    ∃ known, first = some known ∧ toISOString known = toISOString instant := by
  obtain ⟨known, rfl, above⟩ := executedAt_some same.ge
  obtain ⟨_, isKnown, below⟩ := executedAt_some same.le
  cases isKnown
  exact ⟨known, rfl, le_antisymm above below⟩

theorem run_least (recorded : offered tables evidence taskId ≠ []) : ∃ row, (run tables evidence).history taskId = some row ∧
    row.state = .executed ∧
    (∀ instant ∈ instants tables evidence taskId, ∃ first, row.firstKnownAt = some first ∧
      toISOString first ≤ toISOString instant) ∧
    ∀ first, row.firstKnownAt = some first → ∃ instant ∈ instants tables evidence taskId,
      toISOString instant = toISOString first := by
  have joins := run_joins tables evidence taskId
  obtain ⟨start, each⟩ := le_joinAll.mp joins.le
  obtain ⟨offer, inOffers⟩ := List.exists_mem_of_ne_nil _ recorded
  obtain ⟨row, stored, executed⟩ := executed_of_lt ((each offer inOffers).trans_lt executedAt_lt_unknown)
  rw [stored, knowledge_executed executed] at joins start each
  refine ⟨row, stored, executed, fun instant member => ?_, fun first known => ?_⟩
  · rcases List.mem_append.mp member with old | new
    · obtain ⟨earlier, held, isFirst⟩ := Option.bind_eq_some_iff.mp (Option.mem_toList.mp old)
      have wasExecuted := earlier.check.resolve_right (by simp [isFirst])
      rw [held, knowledge_executed wasExecuted, isFirst] at start
      exact executedAt_some start
    · obtain ⟨_, inOffered, rfl⟩ := List.mem_filterMap.mp new
      exact executedAt_some (each _ inOffered)
  · rw [known] at joins
    rcases joinAll_attained (knowledge (tables.history taskId)) (offered tables evidence taskId) with same | ⟨other, member, same⟩
    · rw [same] at joins
      obtain ⟨earlier, held, wasExecuted⟩ := executed_of_lt (joins ▸ executedAt_lt_unknown)
      rw [held, knowledge_executed wasExecuted] at joins
      obtain ⟨instant, isFirst, text⟩ := executedAt_same joins
      exact ⟨instant, List.mem_append_left _ (by simp [held, isFirst]), text⟩
    · rw [same] at joins
      obtain ⟨instant, rfl, text⟩ := executedAt_same joins
      exact ⟨instant, List.mem_append_right _ (List.mem_filterMap.mpr ⟨_, member, rfl⟩), text⟩

/-- The history joins its evidence just when no text is before that of the earliest instant. -/
theorem joinsEvidence_iff (tables : Tables) (evidence : List Evidence) (taskId : String) :
    JoinsEvidence tables evidence taskId ↔
      (offered tables evidence taskId ≠ [] → TextsInOrder (instants tables evidence taskId)) := by
  constructor
  · intro joins recorded first earliest other member
    obtain ⟨row, stored, -, least, -⟩ := run_least recorded
    obtain ⟨same, stored', -, -, isFirst⟩ := joins.executed recorded
    obtain rfl : row = same := Option.some.inj (stored.symm.trans stored')
    obtain ⟨kept, known, below⟩ := least other member
    have text := isFirst first earliest
    rw [known, Option.map_some, Option.some.injEq] at text
    rwa [← text]
  · intro inOrder
    refine ⟨fun others same => by rw [run_joins, run_joins, joinAll_perm _ same], fun before next _ _ => run_accepts _ next, fun before middle _ _ => run_advances tables before middle taskId,
      fun recorded => ?_⟩
    obtain ⟨row, stored, executed, least, attained⟩ := run_least recorded
    refine ⟨row, stored, executed, fun empty => ?_, fun first earliest => ?_⟩
    · by_contra some
      obtain ⟨kept, known⟩ := Option.ne_none_iff_exists'.mp some
      obtain ⟨instant, member, -⟩ := attained kept known
      rw [empty] at member
      cases member
    · obtain ⟨kept, known, below⟩ := least first earliest.1
      obtain ⟨instant, member, text⟩ := attained kept known
      have above := inOrder recorded first earliest instant member
      rw [text] at above
      rw [known, Option.map_some, le_antisymm below above]

end Earliest

section Instances

def pendingTask : Tables where
  tasks := [⟨"task-1", "project-1", .pending⟩]
  dependencies := []
  history := fun _ => none

/-- A run is queued in the last millisecond of the year 9999, and the task starts in the next one. -/
def yearEndEvidence : List Evidence :=
  [.agentRun "project-1" "task-1" .queued 253402300799999, .taskStatus "task-1" .running 253402300800000]

theorem yearEnd_forgetsEarliest : ¬JoinsEvidence pendingTask yearEndEvidence "task-1" := by
  intro joins
  obtain ⟨row, stored, -, -, isFirst⟩ := joins.executed (by decide)
  have first := isFirst 253402300799999 ⟨by decide, by decide⟩
  have kept : ((run pendingTask yearEndEvidence).history "task-1").bind HistoryRow.firstKnownAt = some 253402300800000 := by
    decide
  rw [stored, Option.bind_some] at kept
  rw [kept] at first
  revert first
  decide

end Instances

end AiOffice.Storage.ExecutionHistory
