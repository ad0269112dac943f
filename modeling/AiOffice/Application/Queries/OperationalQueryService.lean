import AiOffice.Storage.OperationalRead
import Mathlib.Algebra.BigOperators.Group.List.Lemmas

namespace AiOffice.Application.Queries

open Domain Application.ReadModels Storage.OperationalRead

/-- Rows of the five kinds that ask for attention, each kind in the order of its query. -/
structure AttentionRows where
  reviews : List OperationalReviewRecord
  failedRuns : List OperationalAgentRunRecord
  stages : List OperationalActivePipelineStageRecord
  tasks : List OperationalAttentionTaskRecord
  unleased : List TaskLeaseAnomalyRecord

namespace AttentionRows

variable (rows : AttentionRows)

def ofProject (projectId : String) : AttentionRows :=
  { reviews := rows.reviews.filter fun review => review.projectId = projectId
    failedRuns := rows.failedRuns.filter fun run => run.projectId = projectId
    stages := rows.stages.filter fun stage => stage.projectId = projectId
    tasks := rows.tasks.filter fun task => task.projectId = projectId
    unleased := rows.unleased.filter fun task => task.projectId = projectId }

def take (limit : Nat) : AttentionRows :=
  ⟨rows.reviews.take limit, rows.failedRuns.take limit, rows.stages.take limit, rows.tasks.take limit,
    rows.unleased.take limit⟩

def drop (limit : Nat) : AttentionRows :=
  ⟨rows.reviews.drop limit, rows.failedRuns.drop limit, rows.stages.drop limit, rows.tasks.drop limit,
    rows.unleased.drop limit⟩

def size : Nat :=
  rows.reviews.length + rows.failedRuns.length + rows.stages.length + rows.unleased.length + rows.tasks.length

def items : List AttentionReason :=
  rows.reviews.filterMap reviewAttentionReason ++ rows.failedRuns.flatMap agentRunAttentionReasons ++
    rows.stages.filterMap activePipelineStageAttention ++ rows.tasks.map attentionTaskReason ++
    rows.unleased.map TaskLeaseAnomalyRecord.attention

end AttentionRows

structure AttentionCounts where
  pendingReviews : List CountRecord
  failedRuns : List CountRecord
  stages : List CountRecord
  unleased : List CountRecord
  tasks : List StatusCountRecord

def attentionTaskTotal (counts : List StatusCountRecord) : Nat :=
  ((counts.filter fun record => record.status ∈ [TaskStatus.blocked, .failed]).map StatusCountRecord.count).sum

def AttentionCounts.total (counts : AttentionCounts) (projectId : String) : Nat :=
  countOf counts.pendingReviews projectId + countOf counts.failedRuns projectId + countOf counts.stages projectId +
    countOf counts.unleased projectId +
    attentionTaskTotal (counts.tasks.filter fun record => record.projectId = projectId)

def firstCount (records : List CountRecord) : Nat := (records.head?.map CountRecord.count).getD 0

def AttentionCounts.onlyTotal (counts : AttentionCounts) : Nat :=
  firstCount counts.pendingReviews + firstCount counts.failedRuns + firstCount counts.stages +
    firstCount counts.unleased + attentionTaskTotal counts.tasks

/-- The list of the service: the flag is of the items before they are cut. -/
def attentionList (items : List AttentionReason) (total limit : Nat) : BoundedList AttentionReason :=
  { total, items := items.take limit, truncated := items.length < total }

structure ProjectSummary where
  projectId : String
  name : String
  attentionRequired : Bool
  attention : BoundedList AttentionReason

def projectProjectSummary (project : ProjectRow) (attention : BoundedList AttentionReason) : ProjectSummary :=
  { projectId := project.id, name := project.name, attentionRequired := 0 < attention.total, attention }

structure DashboardOverview where
  projects : List ProjectSummary
  attention : BoundedList AttentionReason

def defaultAttentionLimit : Nat := 50

section Service

variable (tables : OperationalTables) (now : Date) (projectIds : List String)

def attentionRows : AttentionRows :=
  { reviews := rankedReviews tables projectIds [.pending]
    failedRuns := rankedAgentRuns tables projectIds [.failed]
    stages := rankedAttentionStages tables projectIds
    tasks := rankedAttentionTasks tables projectIds
    unleased := rankedLeaseAnomalies tables now projectIds }

def attentionSamples (limit : Nat) : AttentionRows :=
  { reviews := listReviews tables projectIds [.pending] limit
    failedRuns := listAgentRuns tables projectIds [.failed] limit
    stages := listActivePipelineStages tables projectIds limit
    tasks := listAttentionTasks tables projectIds limit
    unleased := listTasksWithoutValidRunLease tables now projectIds limit }

def attentionCounts : AttentionCounts :=
  { pendingReviews := countReviews tables projectIds [.pending]
    failedRuns := countAgentRuns tables projectIds [.failed]
    stages := countAttentionStages tables projectIds
    unleased := countTasksWithoutValidRunLease tables now projectIds
    tasks := countTasksByStatus tables projectIds }

def dashboardProjectIds : List String := (listProjects tables).map ProjectRow.id

def getDashboardOverview (limit : Nat := defaultAttentionLimit) : DashboardOverview :=
  let samples := attentionSamples tables now (dashboardProjectIds tables) limit
  let counts := attentionCounts tables now (dashboardProjectIds tables)
  let summaries := (listProjects tables).map fun project =>
    projectProjectSummary project
      (attentionList (samples.ofProject project.id).items (counts.total project.id) limit)
  { projects := summaries
    attention := attentionList (summaries.flatMap fun summary => summary.attention.items)
      (summaries.map fun summary => summary.attention.total).sum limit }

def getProjectDetail (projectId : String) : Option ProjectSummary :=
  (tables.projects.find? fun project => project.id = projectId).map fun project =>
    projectProjectSummary project
      (attentionList (attentionSamples tables now [projectId] defaultAttentionLimit).items
        (attentionCounts tables now [projectId]).onlyTotal defaultAttentionLimit)

def matchingItems : List AttentionReason := (attentionRows tables now projectIds).items

def BeyondSample (limit : Nat) (projectId : String) : Prop :=
  0 < (((attentionRows tables now projectIds).drop limit).ofProject projectId).size

instance (limit : Nat) (projectId : String) : Decidable (BeyondSample tables now projectIds limit projectId) :=
  inferInstanceAs (Decidable (0 < _))

end Service

structure Truthful (list : BoundedList AttentionReason) (matching : List AttentionReason) (limit : Nat) : Prop where
  bounded : list.items.length ≤ limit
  total : list.total = matching.length
  flag : list.truncated = true ↔ list.items.length < list.total

/-- The lists of the overview: one for each project, and one over all of them. -/
structure OverviewTruthful (tables : OperationalTables) (now : Date) (limit : Nat) : Prop where
  projects : ∀ summary ∈ (getDashboardOverview tables now limit).projects,
    Truthful summary.attention (matchingItems tables now [summary.projectId]) limit
  overall : Truthful (getDashboardOverview tables now limit).attention
    (matchingItems tables now (dashboardProjectIds tables)) limit

variable {tables : OperationalTables} {now : Date} {projectIds : List String} {projectId : String} {limit total : Nat}
  {rows : AttentionRows} {items matching : List AttentionReason}

section Lists

theorem truthful_iff (gathered : items.length ≤ matching.length) (counted : total = matching.length) :
    Truthful (attentionList items total limit) matching limit ↔ (limit < matching.length → items.length < matching.length) := by
  have cut : (attentionList items total limit).items.length = min limit items.length := List.length_take
  constructor
  · intro truthful less
    have flag := truthful.flag
    rw [cut] at flag
    simp only [attentionList, decide_eq_true_eq] at flag
    omega
  · intro flag
    refine ⟨by rw [cut]; omega, counted, ?_⟩
    rw [cut]
    simp only [attentionList, decide_eq_true_eq]
    omega

structure AttentionRows.Valid (rows : AttentionRows) : Prop where
  reviews : ∀ review ∈ rows.reviews, review.status = .pending
  failedRuns : ∀ run ∈ rows.failedRuns, run.status = .failed
  stages : ∀ stage ∈ rows.stages, (activePipelineStageAttention stage).isSome = true

theorem AttentionRows.Valid.ofProject (valid : rows.Valid) : (rows.ofProject projectId).Valid where
  reviews review member := valid.reviews review (List.mem_of_mem_filter member)
  failedRuns run member := valid.failedRuns run (List.mem_of_mem_filter member)
  stages stage member := valid.stages stage (List.mem_of_mem_filter member)

theorem AttentionRows.Valid.take (valid : rows.Valid) : (rows.take limit).Valid where
  reviews review member := valid.reviews review (List.mem_of_mem_take member)
  failedRuns run member := valid.failedRuns run (List.mem_of_mem_take member)
  stages stage member := valid.stages stage (List.mem_of_mem_take member)

theorem AttentionRows.Valid.length_items (valid : rows.Valid) : rows.items.length = rows.size := by
  have reviews : (rows.reviews.filterMap reviewAttentionReason).length = rows.reviews.length := by
    rw [List.length_filterMap_eq_countP, List.countP_eq_length]
    intro review member
    rw [reviewAttentionReason, if_neg (by simp [valid.reviews review member])]
    rfl
  have runs : (rows.failedRuns.flatMap agentRunAttentionReasons).length = rows.failedRuns.length := by
    have single : rows.failedRuns.map (fun run => (agentRunAttentionReasons run).length) =
        rows.failedRuns.map fun _ => 1 := by
      refine List.map_congr_left fun run member => ?_
      rw [agentRunAttentionReasons, if_neg (by simp [valid.failedRuns run member])]
      rfl
    rw [List.length_flatMap, single]
    simp
  have stages : (rows.stages.filterMap activePipelineStageAttention).length = rows.stages.length := by
    rw [List.length_filterMap_eq_countP, List.countP_eq_length]
    exact valid.stages
  simp only [AttentionRows.items, AttentionRows.size, List.length_append, List.length_map, reviews, runs, stages]
  omega

theorem length_take_drop {Row : Type} (list : List Row) (limit : Nat) (selected : Row → Bool) :
    ((list.take limit).filter selected).length + ((list.drop limit).filter selected).length =
      (list.filter selected).length := by
  rw [← List.length_append, ← List.filter_append, List.take_append_drop]

theorem AttentionRows.size_take_drop (rows : AttentionRows) (limit : Nat) (projectId : String) :
    ((rows.take limit).ofProject projectId).size + ((rows.drop limit).ofProject projectId).size =
      (rows.ofProject projectId).size := by
  have reviews := length_take_drop rows.reviews limit fun review => review.projectId = projectId
  have runs := length_take_drop rows.failedRuns limit fun run => run.projectId = projectId
  have stages := length_take_drop rows.stages limit fun stage => stage.projectId = projectId
  have tasks := length_take_drop rows.tasks limit fun task => task.projectId = projectId
  have unleased := length_take_drop rows.unleased limit fun task => task.projectId = projectId
  simp only [AttentionRows.size, AttentionRows.ofProject, AttentionRows.take, AttentionRows.drop]
  omega

end Lists

section Totals

theorem samples_eq : attentionSamples tables now projectIds limit = (attentionRows tables now projectIds).take limit :=
  rfl

theorem attentionRows_valid : (attentionRows tables now projectIds).Valid where
  reviews review member := by
    have listed := (newestFirst_perm _ _ _).mem_iff.mp member
    simp only [reviewRows, List.mem_filter, decide_eq_true_eq] at listed
    simpa using listed.2.2
  failedRuns run member := by
    have listed := (newestFirst_perm _ _ _).mem_iff.mp member
    simp only [agentRunRows, List.mem_filter, decide_eq_true_eq] at listed
    simpa using listed.2.2
  stages stage member := by
    have listed := (newestFirst_perm _ _ _).mem_iff.mp member
    obtain ⟨run, _, joined⟩ := List.mem_filterMap.mp (List.mem_of_mem_filter listed)
    unfold attentionStage at joined
    split at joined
    · cases joined
    · split at joined
      · next asks =>
          cases joined
          obtain ⟨_, awaiting | ⟨active, unassigned⟩⟩ := asks
          · rw [activePipelineStageAttention, if_pos awaiting]
            rfl
          · rw [activePipelineStageAttention, if_neg (by rw [active]; nofun), if_pos ⟨active, unassigned⟩]
            rfl
      · cases joined

theorem length_ranked {Row : Type} {since id : Row → String} {rows : List Row} {selected : Row → Bool} :
    ((newestFirst since id rows).filter selected).length = (rows.filter selected).length :=
  ((newestFirst_perm since id rows).filter selected).length_eq

theorem countOf_rows {Row : Type} {project : Row → String} {rows : List Row} :
    countOf (groupedCounts (rows.map project)) projectId =
      (rows.filter fun row => project row = projectId).length := by
  rw [countOf_groupedCounts, List.count_eq_countP, List.countP_map, List.countP_eq_length_filter]
  rfl

theorem countOf_unleased : countOf (countTasksWithoutValidRunLease tables now projectIds) projectId =
    ((leaseAnomalies tables now projectIds).filter fun row => row.projectId = projectId).length := by
  rw [countTasksWithoutValidRunLease, countOf_rows, leaseAnomalies, List.filter_map, List.length_map]
  rfl

theorem attentionTaskTotal_eq : attentionTaskTotal
    ((countTasksByStatus tables projectIds).filter fun record => record.projectId = projectId) =
      ((attentionTaskRows tables projectIds).filter fun task => task.projectId = projectId).length := by
  have counted := List.sum_map_count_dedup_filter_eq_countP
    (fun key : String × TaskStatus => decide (key.2 ∈ [TaskStatus.blocked, .failed]) && decide (key.1 = projectId))
    ((tables.tasks.filter fun task => task.projectId ∈ projectIds).map fun task => (task.projectId, task.status))
  rw [attentionTaskTotal, countTasksByStatus, List.filter_map, List.filter_map, List.map_map, List.filter_filter]
  rw [List.countP_map, List.countP_filter] at counted
  rw [attentionTaskRows, List.filter_map, List.length_map, List.filter_filter, ← List.countP_eq_length_filter]
  change (List.map (fun key => List.countP (· = key) _) (List.filter (fun key : String × TaskStatus =>
    decide (key.2 ∈ [TaskStatus.blocked, .failed]) && decide (key.1 = projectId)) _)).sum = _
  refine counted.trans (List.countP_congr fun task _ => ?_)
  simp only [Function.comp_apply, Bool.and_eq_true, decide_eq_true_eq]
  constructor
  · rintro ⟨⟨status, project⟩, queried⟩
    exact ⟨project, queried, status⟩
  · rintro ⟨project, queried, status⟩
    exact ⟨⟨status, project⟩, queried⟩

theorem total_eq : (attentionCounts tables now projectIds).total projectId =
    ((attentionRows tables now projectIds).ofProject projectId).size := by
  simp only [AttentionCounts.total, attentionCounts, countReviews, countAgentRuns, countAttentionStages, countOf_rows,
    countOf_unleased, attentionTaskTotal_eq, AttentionRows.size, AttentionRows.ofProject, attentionRows, rankedReviews,
    rankedAgentRuns, rankedAttentionStages, rankedAttentionTasks, rankedLeaseAnomalies, length_ranked]

theorem filter_project {Row : Type} {project : Row → String} {rows : List Row} {selects : Row → Prop}
    [DecidablePred selects] (queried : projectId ∈ projectIds) :
    (rows.filter fun row => project row ∈ projectIds ∧ selects row).filter (fun row => project row = projectId) =
      rows.filter fun row => project row ∈ [projectId] ∧ selects row := by
  rw [List.filter_filter]
  refine List.filter_congr fun row _ => ?_
  rw [← Bool.decide_and, decide_eq_decide, List.mem_singleton]
  exact ⟨fun ⟨same, _, selected⟩ => ⟨same, selected⟩, fun ⟨same, selected⟩ => ⟨same, same ▸ queried, selected⟩⟩

theorem filter_anomalies (queried : projectId ∈ projectIds) :
    ((leaseAnomalies tables now projectIds).filter fun row => row.projectId = projectId).length =
      (leaseAnomalies tables now [projectId]).length := by
  rw [leaseAnomalies, leaseAnomalies, List.filter_map, List.length_map, List.length_map]
  refine List.Perm.length_eq ((List.perm_ext_iff_of_nodup ((List.nodup_dedup _).filter _) (List.nodup_dedup _)).mpr ?_)
  intro key
  simp only [List.mem_filter, List.mem_dedup, Function.comp_apply, taskLeaseAnomaly, decide_eq_true_eq, unleasedKeys,
    unleasedRuns, agentRunRows, List.mem_map, List.mem_singleton]
  constructor
  · rintro ⟨⟨run, ⟨⟨member, _, active⟩, invalid⟩, rfl⟩, project⟩
    exact ⟨run, ⟨⟨member, project, active⟩, invalid⟩, rfl⟩
  · rintro ⟨run, ⟨⟨member, project, active⟩, invalid⟩, rfl⟩
    exact ⟨⟨run, ⟨⟨member, project ▸ queried, active⟩, invalid⟩, rfl⟩, project⟩

theorem size_ofProject (queried : projectId ∈ projectIds) :
    ((attentionRows tables now projectIds).ofProject projectId).size = (attentionRows tables now [projectId]).size := by
  have reviews := congrArg List.length (@filter_project projectIds projectId _ OperationalReviewRecord.projectId
    tables.reviews (fun review => review.status ∈ [ReviewStatus.pending]) _ queried)
  have runs := congrArg List.length (@filter_project projectIds projectId _ OperationalAgentRunRecord.projectId
    tables.agentRuns (fun run => run.status ∈ [AgentRunStatus.failed]) _ queried)
  have tasks := congrArg List.length (@filter_project projectIds projectId _ TaskProps.projectId
    tables.tasks (fun task => task.status ∈ [TaskStatus.blocked, .failed]) _ queried)
  have stages := congrArg List.length (@filter_project projectIds projectId _
    OperationalActivePipelineStageRecord.projectId (tables.pipelineRuns.filterMap attentionStage) (fun _ => True) _ queried)
  have unleased := @filter_anomalies tables now projectIds projectId queried
  simp only [and_true] at stages
  simp only [AttentionRows.size, AttentionRows.ofProject, attentionRows, rankedReviews, rankedAgentRuns,
    rankedAttentionStages, rankedAttentionTasks, rankedLeaseAnomalies, length_ranked,
    (newestFirst_perm _ _ _).length_eq, reviewRows, agentRunRows, attentionStageRows, attentionTaskRows, List.filter_map,
    List.length_map, Function.comp_def, reviews, runs, stages, tasks, unleased]

private theorem sum_indicator (name : String) (projectIds : List String) :
    (projectIds.map fun projectId => if name = projectId then 1 else 0).sum = projectIds.count name := by
  induction projectIds with
  | nil => rfl
  | cons projectId projectIds ih =>
    rw [List.map_cons, List.sum_cons, ih, List.count_cons, Nat.add_comm]
    by_cases same : name = projectId
    · simp [same]
    · simp [same, Ne.symm same]

theorem sum_filter_project {Row : Type} {project : Row → String} {rows : List Row} (distinct : projectIds.Nodup)
    (queried : ∀ row ∈ rows, project row ∈ projectIds) :
    (projectIds.map fun projectId => (rows.filter fun row => project row = projectId).length).sum = rows.length := by
  induction rows with
  | nil => simp
  | cons row rows ih =>
    have rest := ih fun other member => queried other (List.mem_cons_of_mem _ member)
    have one : (projectIds.map fun projectId => if project row = projectId then 1 else 0).sum = 1 := by
      rw [sum_indicator, List.count_eq_one_of_mem distinct (queried row List.mem_cons_self)]
    have parts : ∀ projectId, ((row :: rows).filter fun row => project row = projectId).length =
        (if project row = projectId then 1 else 0) + (rows.filter fun row => project row = projectId).length := by
      intro projectId
      rw [List.filter_cons]
      by_cases same : project row = projectId
      · simp only [same, decide_true, if_true, List.length_cons]
        omega
      · simp only [same, decide_false, Bool.false_eq_true, if_false]
        omega
    simp only [parts, List.sum_map_add, one, rest, List.length_cons]
    omega

end Totals

section Scope

structure AttentionRows.Within (rows : AttentionRows) (projectIds : List String) : Prop where
  reviews : ∀ review ∈ rows.reviews, review.projectId ∈ projectIds
  failedRuns : ∀ run ∈ rows.failedRuns, run.projectId ∈ projectIds
  stages : ∀ stage ∈ rows.stages, stage.projectId ∈ projectIds
  tasks : ∀ task ∈ rows.tasks, task.projectId ∈ projectIds
  unleased : ∀ task ∈ rows.unleased, task.projectId ∈ projectIds

theorem attentionRows_within : (attentionRows tables now projectIds).Within projectIds where
  reviews review member := by
    have listed := (newestFirst_perm _ _ _).mem_iff.mp member
    simp only [reviewRows, List.mem_filter, decide_eq_true_eq] at listed
    exact listed.2.1
  failedRuns run member := by
    have listed := (newestFirst_perm _ _ _).mem_iff.mp member
    simp only [agentRunRows, List.mem_filter, decide_eq_true_eq] at listed
    exact listed.2.1
  stages stage member := by
    have listed := (newestFirst_perm _ _ _).mem_iff.mp member
    simp only [attentionStageRows, List.mem_filter, decide_eq_true_eq] at listed
    exact listed.2
  tasks task member := by
    have listed := (newestFirst_perm _ _ _).mem_iff.mp member
    simp only [attentionTaskRows, List.mem_map, List.mem_filter, decide_eq_true_eq] at listed
    obtain ⟨row, ⟨_, queried, _⟩, rfl⟩ := listed
    exact queried
  unleased task member := by
    have listed := (newestFirst_perm _ _ _).mem_iff.mp member
    simp only [leaseAnomalies, List.mem_map, List.mem_dedup, unleasedKeys, unleasedRuns, agentRunRows, List.mem_filter,
      decide_eq_true_eq] at listed
    obtain ⟨_, ⟨run, ⟨⟨_, queried, _⟩, _⟩, rfl⟩, rfl⟩ := listed
    exact queried

theorem AttentionRows.Within.take (within : rows.Within projectIds) : (rows.take limit).Within projectIds where
  reviews review member := within.reviews review (List.mem_of_mem_take member)
  failedRuns run member := within.failedRuns run (List.mem_of_mem_take member)
  stages stage member := within.stages stage (List.mem_of_mem_take member)
  tasks task member := within.tasks task (List.mem_of_mem_take member)
  unleased task member := within.unleased task (List.mem_of_mem_take member)

theorem AttentionRows.Within.ofProject (within : rows.Within [projectId]) : rows.ofProject projectId = rows := by
  have reviews : rows.reviews.filter (fun review => review.projectId = projectId) = rows.reviews :=
    List.filter_eq_self.mpr fun review member => by simpa using within.reviews review member
  have runs : rows.failedRuns.filter (fun run => run.projectId = projectId) = rows.failedRuns :=
    List.filter_eq_self.mpr fun run member => by simpa using within.failedRuns run member
  have stages : rows.stages.filter (fun stage => stage.projectId = projectId) = rows.stages :=
    List.filter_eq_self.mpr fun stage member => by simpa using within.stages stage member
  have tasks : rows.tasks.filter (fun task => task.projectId = projectId) = rows.tasks :=
    List.filter_eq_self.mpr fun task member => by simpa using within.tasks task member
  have unleased : rows.unleased.filter (fun task => task.projectId = projectId) = rows.unleased :=
    List.filter_eq_self.mpr fun task member => by simpa using within.unleased task member
  rw [AttentionRows.ofProject, reviews, runs, stages, tasks, unleased]

theorem AttentionRows.Within.sum_size (within : rows.Within projectIds) (distinct : projectIds.Nodup) :
    (projectIds.map fun projectId => (rows.ofProject projectId).size).sum = rows.size := by
  simp only [AttentionRows.size, AttentionRows.ofProject, List.sum_map_add,
    sum_filter_project distinct within.reviews, sum_filter_project distinct within.failedRuns,
    sum_filter_project distinct within.stages, sum_filter_project distinct within.tasks,
    sum_filter_project distinct within.unleased]

theorem firstCount_eq {records : List CountRecord} (only : ∀ record ∈ records, record.projectId = projectId) :
    firstCount records = countOf records projectId := by
  cases records with
  | nil => rfl
  | cons record records => simp [firstCount, countOf, only record List.mem_cons_self]

theorem groupedCounts_only {names : List String} (only : ∀ name ∈ names, name = projectId) :
    firstCount (groupedCounts names) = countOf (groupedCounts names) projectId := by
  refine firstCount_eq fun record member => ?_
  obtain ⟨name, listed, rfl⟩ := List.mem_map.mp member
  exact only name (List.mem_dedup.mp listed)

/-- Of one project, the first count is its count. -/
theorem onlyTotal_eq : (attentionCounts tables now [projectId]).onlyTotal =
    (attentionCounts tables now [projectId]).total projectId := by
  have reviews : firstCount (countReviews tables [projectId] [.pending]) =
      countOf (countReviews tables [projectId] [.pending]) projectId :=
    groupedCounts_only fun name member => by
      simp only [reviewRows, List.mem_map, List.mem_filter, decide_eq_true_eq, List.mem_singleton] at member
      obtain ⟨review, ⟨_, project, _⟩, rfl⟩ := member
      exact project
  have runs : firstCount (countAgentRuns tables [projectId] [.failed]) =
      countOf (countAgentRuns tables [projectId] [.failed]) projectId :=
    groupedCounts_only fun name member => by
      simp only [agentRunRows, List.mem_map, List.mem_filter, decide_eq_true_eq, List.mem_singleton] at member
      obtain ⟨run, ⟨_, project, _⟩, rfl⟩ := member
      exact project
  have stages : firstCount (countAttentionStages tables [projectId]) =
      countOf (countAttentionStages tables [projectId]) projectId :=
    groupedCounts_only fun name member => by
      simp only [attentionStageRows, List.mem_map, List.mem_filter, decide_eq_true_eq, List.mem_singleton] at member
      obtain ⟨stage, ⟨_, project⟩, rfl⟩ := member
      exact project
  have unleased : firstCount (countTasksWithoutValidRunLease tables now [projectId]) =
      countOf (countTasksWithoutValidRunLease tables now [projectId]) projectId :=
    groupedCounts_only fun name member => by
      simp only [unleasedKeys, unleasedRuns, agentRunRows, List.mem_map, List.mem_dedup, List.mem_filter,
        decide_eq_true_eq, List.mem_singleton] at member
      obtain ⟨_, ⟨run, ⟨⟨_, project, _⟩, _⟩, rfl⟩, rfl⟩ := member
      exact project
  have tasks : (countTasksByStatus tables [projectId]).filter (fun record => record.projectId = projectId) =
      countTasksByStatus tables [projectId] := by
    rw [List.filter_eq_self]
    intro record member
    simp only [countTasksByStatus, List.mem_map, List.mem_dedup, List.mem_filter, decide_eq_true_eq,
      List.mem_singleton] at member
    obtain ⟨_, ⟨task, ⟨_, project⟩, rfl⟩, rfl⟩ := member
    exact decide_eq_true project
  simp only [AttentionCounts.onlyTotal, AttentionCounts.total, attentionCounts, reviews, runs, stages, unleased, tasks]

end Scope

section Service

theorem length_matchingItems :
    (matchingItems tables now projectIds).length = (attentionRows tables now projectIds).size :=
  attentionRows_valid.length_items

theorem gathered_add_beyond (queried : projectId ∈ projectIds) (limit : Nat) :
    ((attentionSamples tables now projectIds limit).ofProject projectId).items.length +
        (((attentionRows tables now projectIds).drop limit).ofProject projectId).size =
      (matchingItems tables now [projectId]).length := by
  rw [samples_eq, attentionRows_valid.take.ofProject.length_items, AttentionRows.size_take_drop, size_ofProject queried,
    length_matchingItems]

theorem total_matching (queried : projectId ∈ projectIds) :
    (attentionCounts tables now projectIds).total projectId = (matchingItems tables now [projectId]).length := by
  rw [total_eq, size_ofProject queried, length_matchingItems]

theorem sum_matching (distinct : projectIds.Nodup) :
    (projectIds.map fun projectId => (matchingItems tables now [projectId]).length).sum =
      (matchingItems tables now projectIds).length := by
  rw [length_matchingItems, ← attentionRows_within.sum_size distinct]
  refine congrArg List.sum (List.map_congr_left fun projectId queried => ?_)
  rw [length_matchingItems, size_ofProject queried]

theorem sum_lt_iff {Item : Type} {list : List Item} {less more : Item → Nat} (below : ∀ item ∈ list, less item ≤ more item) :
    (list.map less).sum ≤ (list.map more).sum ∧
      ((list.map less).sum < (list.map more).sum ↔ ∃ item ∈ list, less item < more item) := by
  induction list with
  | nil => simp
  | cons item list ih =>
    obtain ⟨rest, strict⟩ := ih fun other member => below other (List.mem_cons_of_mem _ member)
    have first := below item List.mem_cons_self
    simp only [List.map_cons, List.sum_cons, List.exists_mem_cons_iff, ← strict]
    omega

theorem dashboardProjectIds_nodup (consistent : tables.Consistent) : (dashboardProjectIds tables).Nodup :=
  ((List.perm_insertionSort _ tables.projects).map ProjectRow.id).nodup_iff.mpr consistent.projectKeys

theorem project_truthful_iff (queried : projectId ∈ projectIds) :
    Truthful (attentionList ((attentionSamples tables now projectIds limit).ofProject projectId).items
        ((attentionCounts tables now projectIds).total projectId) limit) (matchingItems tables now [projectId]) limit ↔
      (limit < (matchingItems tables now [projectId]).length → BeyondSample tables now projectIds limit projectId) := by
  have parts := @gathered_add_beyond tables now projectIds projectId queried limit
  rw [truthful_iff (by omega) (total_matching queried), BeyondSample]
  omega

theorem overall_truthful_iff (consistent : tables.Consistent) :
    Truthful (getDashboardOverview tables now limit).attention (matchingItems tables now (dashboardProjectIds tables))
        limit ↔
      (limit < (matchingItems tables now (dashboardProjectIds tables)).length →
        ∃ projectId ∈ dashboardProjectIds tables, limit < (matchingItems tables now [projectId]).length ∨
          BeyondSample tables now (dashboardProjectIds tables) limit projectId) := by
  have parts := fun projectId queried =>
    @gathered_add_beyond tables now (dashboardProjectIds tables) projectId queried limit
  have total := @sum_matching tables now _ (dashboardProjectIds_nodup consistent)
  have counted : ((dashboardProjectIds tables).map fun projectId =>
      (attentionCounts tables now (dashboardProjectIds tables)).total projectId) =
      (dashboardProjectIds tables).map fun projectId => (matchingItems tables now [projectId]).length :=
    List.map_congr_left fun projectId queried => total_matching queried
  obtain ⟨most, strict⟩ := @sum_lt_iff String (dashboardProjectIds tables)
    (fun projectId => min limit
      ((attentionSamples tables now (dashboardProjectIds tables) limit).ofProject projectId).items.length)
    (fun projectId => (matchingItems tables now [projectId]).length)
    (fun projectId queried => by have := parts projectId queried; omega)
  have gathered : ((((getDashboardOverview tables now limit).projects).flatMap fun summary =>
      summary.attention.items).length) = ((dashboardProjectIds tables).map fun projectId => min limit
        ((attentionSamples tables now (dashboardProjectIds tables) limit).ofProject projectId).items.length).sum := by
    simp only [getDashboardOverview, dashboardProjectIds, List.length_flatMap, List.map_map, Function.comp_def,
      projectProjectSummary, attentionList, List.length_take]
  have sums : (((getDashboardOverview tables now limit).projects).map fun summary => summary.attention.total).sum =
      (matchingItems tables now (dashboardProjectIds tables)).length := by
    rw [← total, ← counted]
    simp only [getDashboardOverview, dashboardProjectIds, List.map_map, Function.comp_def, projectProjectSummary,
      attentionList]
  have list : (getDashboardOverview tables now limit).attention =
      attentionList ((getDashboardOverview tables now limit).projects.flatMap fun summary => summary.attention.items)
        ((getDashboardOverview tables now limit).projects.map fun summary => summary.attention.total).sum limit := rfl
  rw [list, truthful_iff (by omega) sums, gathered, ← total, strict]
  refine forall_congr' fun _ => exists_congr fun projectId => and_congr_right fun queried => ?_
  have held := parts projectId queried
  rw [BeyondSample]
  omega

/-- The lists are truthful exactly when each list with more matching items than the limit has, in one of its projects, a
row that is not among the first rows of its kind. -/
theorem attention_truthful_iff (consistent : tables.Consistent) (now : Date) (limit : Nat) :
    (OverviewTruthful tables now limit ↔
      (∀ projectId ∈ dashboardProjectIds tables, limit < (matchingItems tables now [projectId]).length →
        BeyondSample tables now (dashboardProjectIds tables) limit projectId) ∧
      (limit < (matchingItems tables now (dashboardProjectIds tables)).length →
        ∃ projectId ∈ dashboardProjectIds tables,
          BeyondSample tables now (dashboardProjectIds tables) limit projectId)) ∧
    ∀ projectId detail, getProjectDetail tables now projectId = some detail →
      (Truthful detail.attention (matchingItems tables now [projectId]) defaultAttentionLimit ↔
        (defaultAttentionLimit < (matchingItems tables now [projectId]).length →
          BeyondSample tables now [projectId] defaultAttentionLimit projectId)) := by
  refine ⟨⟨fun truthful => ?_, fun ⟨each, overall⟩ => ?_⟩, fun projectId detail found => ?_⟩
  · have each : ∀ projectId ∈ dashboardProjectIds tables, limit < (matchingItems tables now [projectId]).length →
        BeyondSample tables now (dashboardProjectIds tables) limit projectId := by
      intro projectId queried
      obtain ⟨project, listed, rfl⟩ := List.mem_map.mp queried
      exact (project_truthful_iff queried).mp (truthful.projects _ (List.mem_map.mpr ⟨project, listed, rfl⟩))
    refine ⟨each, fun more => ?_⟩
    obtain ⟨projectId, queried, exceeds | beyond⟩ := (overall_truthful_iff consistent).mp truthful.overall more
    · exact ⟨projectId, queried, each projectId queried exceeds⟩
    · exact ⟨projectId, queried, beyond⟩
  · refine ⟨fun summary listed => ?_, (overall_truthful_iff consistent).mpr fun more => ?_⟩
    · obtain ⟨project, stored, rfl⟩ := List.mem_map.mp listed
      have queried : project.id ∈ dashboardProjectIds tables := List.mem_map_of_mem stored
      exact (project_truthful_iff queried).mpr (each project.id queried)
    · obtain ⟨projectId, queried, beyond⟩ := overall more
      exact ⟨projectId, queried, .inr beyond⟩
  · obtain ⟨project, _, rfl⟩ := Option.map_eq_some_iff.mp found
    have only : (attentionSamples tables now [projectId] defaultAttentionLimit).ofProject projectId =
        attentionSamples tables now [projectId] defaultAttentionLimit := by
      rw [samples_eq, attentionRows_within.take.ofProject]
    have shown := @project_truthful_iff tables now [projectId] projectId defaultAttentionLimit (List.mem_singleton_self _)
    rw [only, ← onlyTotal_eq] at shown
    exact shown

end Service

section Instances

def blockedTables : OperationalTables :=
  { projects := [⟨"project-1", "Office"⟩]
    tasks := [⟨"task-1", "project-1", "Ship", none, .blocked, 1, 0, 0⟩]
    agentRuns := [], taskLocks := []
    reviews := [⟨"review-1", "project-1", .task, "task-1", .pending, 0⟩]
    pipelineRuns := [] }

theorem blockedTables_consistent : blockedTables.Consistent where
  projectKeys := List.nodup_singleton _
  taskKeys := List.nodup_singleton _
  runKeys := List.nodup_nil
  lockKeys := List.nodup_nil
  runTasks := nofun
  lockRuns := nofun

theorem attention_truthful_iff_blocked : OverviewTruthful blockedTables 0 2 :=
  (attention_truthful_iff blockedTables_consistent 0 2).1.mpr
    ⟨by decide, fun more => absurd more (by decide)⟩

/-- One item of two is returned, each kind being complete in its sample. -/
theorem cut_list_unflagged : ∃ tables now limit, tables.Consistent ∧ ¬OverviewTruthful tables now limit := by
  refine ⟨blockedTables, 0, 1, blockedTables_consistent, fun truthful => ?_⟩
  have flags : ∀ summary ∈ (getDashboardOverview blockedTables 0 1).projects,
      (summary.attention.truncated = true ↔ summary.attention.items.length < summary.attention.total) :=
    fun summary listed => (truthful.projects summary listed).flag
  revert flags
  decide

end Instances

end AiOffice.Application.Queries
