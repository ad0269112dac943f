import AiOffice.Application.ManageAgentRuns

namespace AiOffice.Application.ManageAgentRuns

open Data Outcome Domain Domain.Capability Storage Storage.AgentRuntime

variable {Json : Type} {recovery : RunRecovery Json} {host after : RuntimeHost Json} {run : AgentRunProps Json}
  {row : AgentRunState Json} {projectId taskId runId reason : String} {now : Date}

theorem requireRun_ok (required : requireRun recovery host projectId runId = .ok run) :
    ∃ row, host.tables.findRow runId = some row ∧ load recovery.codec row = .ok run ∧ run.projectId = projectId := by
  obtain ⟨found, read, required⟩ := bind_ok required
  unfold RuntimeTables.findRun at read
  cases stored : host.tables.findRow runId with
  | none =>
    rw [stored] at read
    cases read
    cases required
  | some row =>
    rw [stored] at read
    obtain ⟨value, loaded, same⟩ := map_ok read
    subst same
    obtain ⟨inProject, required⟩ := guard_ok required
    cases required
    exact ⟨row, rfl, loaded, not_not.mp inProject⟩

theorem requireRun_returns (found : host.tables.findRow runId = some row) (loaded : load recovery.codec row = .ok run)
    (inProject : run.projectId = projectId) : requireRun recovery host projectId runId = .ok run := by
  have read : host.tables.findRun recovery.codec runId = .ok (some run) := by
    rw [RuntimeTables.findRun, found]
    change (load recovery.codec row).map some = _
    rw [loaded]
    rfl
  rw [requireRun, bind_returns read]
  exact if_neg (not_not.mpr inProject)

/-- An object as it is loaded is of the run of its row, and carries the token of the row. -/
structure Loaded (row : AgentRunState Json) (run : AgentRunProps Json) : Prop where
  id : run.id = row.id
  projectId : run.projectId = row.projectId
  taskId : run.taskId = row.taskId
  status : run.status = row.status
  updatedAt : run.updatedAt = row.updatedAt
  token : run.persistenceToken = some ⟨row.status, row.updatedAt⟩

theorem loaded_ok {codec : AgentRunCodec Json} (loaded : load codec row = .ok run) : Loaded row run := by
  obtain ⟨execution, -, loaded⟩ := bind_ok loaded
  obtain ⟨actionIntent, -, loaded⟩ := bind_ok loaded
  obtain ⟨roleGuidance, -, loaded⟩ := bind_ok loaded
  obtain ⟨modelRouting, -, loaded⟩ := bind_ok loaded
  obtain rfl := Except.ok.inj loaded
  exact ⟨rfl, rfl, rfl, rfl, rfl, rfl⟩

section

variable [DecidableEq Json]

theorem open_cancels {status : AgentRunStatus} (opened : AgentRun.isTerminal status = false) :
    .cancelled ∈ AgentRun.transitions status := by
  cases status <;> first | decide | cases opened

def ended (run : AgentRunProps Json) (now : Date) (error : Json) : AgentRunProps Json :=
  { run with error := some error, status := .cancelled, completedAt := some now, updatedAt := now }

omit [DecidableEq Json] in
theorem findRow_withRun {tables : RuntimeTables Json} {part : RunTables Json} {id : String}
    (kept : ∀ next, part.row = some next → next.id = runId) (other : id ≠ runId) :
    (tables.withRun runId part).findRow id = tables.findRow id := by
  unfold RuntimeTables.withRun RuntimeTables.findRow
  dsimp only
  cases written : part.row with
  | none => rfl
  | some next =>
    have about := kept next written
    rw [RuntimeTables.writeRow]
    split
    · rw [List.find?_map]
      have selects : (fun row : AgentRunState Json => decide (row.id = id)) ∘
          (fun stored => if stored.id = runId then next else stored) = fun row => decide (row.id = id) := by
        funext stored
        rw [Function.comp_apply]
        split
        · next same => rw [about, same]
        · rfl
      rw [selects]
      cases found : tables.runs.find? fun row => decide (row.id = id) with
      | none => rfl
      | some stored =>
        have named := List.find?_some found
        rw [decide_eq_true_eq] at named
        rw [Option.map_some, if_neg (named ▸ other)]
    · have unlike : decide (next.id = id) = false := decide_eq_false fun same => other (same.symm.trans about)
      rw [List.find?_append, List.find?_cons, unlike]
      exact Option.or_none

omit [DecidableEq Json] in
@[simp] theorem findRow_releaseTaskLock (tables : RuntimeTables Json) (runId id : String) :
    (tables.releaseTaskLock runId).findRow id = tables.findRow id := rfl

theorem saveRun_ended {tables : RuntimeTables Json} (found : tables.findRow row.id = some row)
    (loaded : load recovery.codec row = .ok run) (opened : AgentRun.isTerminal row.status = false)
    (inTime : row.updatedAt ≤ now) (error : Json) :
    AgentRuntime.saveRun recovery.codec (ended run now error) (tables.ofRun row.id) =
      .ok (AgentRun.markPersisted (ended run now error),
        ⟨some (overwrite row (ended run now error).toAgentRunState),
          appendRunEvent (tables.ofRun row.id).events (ended run now error).toAgentRunState (some run.status)⟩) := by
  have fields := loaded_ok loaded
  have identity : sameIdentity recovery.codec run.toAgentRunState (ended run now error).toAgentRunState = true := by
    simp [sameIdentity, sameValue, ended]
  have moves : run.status ≠ .cancelled := by
    rw [fields.status]
    intro same
    rw [same] at opened
    cases opened
  have persists : canPersistAgentRunTransition run.status .cancelled = true := by
    rw [fields.status]
    revert opened
    cases row.status <;> decide
  have inOrder : ¬now < run.updatedAt := by rw [fields.updatedAt]; exact Int.not_lt.mpr inTime
  unfold AgentRuntime.saveRun
  rw [show (tables.ofRun row.id).row = some row from found]
  dsimp only
  rw [bind_returns loaded, identity]
  simp only [Bool.not_true, Bool.false_eq_true, if_false]
  rw [if_neg (show run.status ≠ (ended run now error).status from moves),
    if_neg (not_not.mpr (show (ended run now error).persistenceToken = _ by
      rw [fields.status, fields.updatedAt]; exact fields.token)), if_neg]
  · rfl
  · simp only [not_or, Bool.not_eq_true, Bool.not_eq_false']
    exact ⟨persists, inOrder⟩

theorem resolve_returns {tables : RuntimeTables Json} (found : tables.findRow row.id = some row)
    (loaded : load recovery.codec row = .ok run) (opened : AgentRun.isTerminal row.status = false)
    (inTime : row.updatedAt ≤ now) (error : Json) :
    ∃ final, resolve recovery run now error tables = .ok final ∧
      ∀ id, id ≠ row.id → final.findRow id = tables.findRow id := by
  have fields := loaded_ok loaded
  have allowed : .cancelled ∈ AgentRun.transitions run.status := by rw [fields.status]; exact open_cancels opened
  have moved : AgentRun.transition recovery.codec run .cancelled now { error := some error } =
      .ok (ended run now error) := by
    rw [AgentRun.transition, if_neg (not_not.mpr allowed)]
    change (if run.execution.isSome ∧ run.execution ≠ run.execution then _ else _) = _
    rw [if_neg fun changed => changed.2 rfl]
    rfl
  have saved := saveRun_ended found loaded opened inTime error
  have stored : tables.saveRun recovery.codec (ended run now error) = .ok (AgentRun.markPersisted (ended run now error),
      tables.withRun row.id ⟨some (overwrite row (ended run now error).toAgentRunState),
        appendRunEvent (tables.ofRun row.id).events (ended run now error).toAgentRunState (some run.status)⟩) := by
    rw [RuntimeTables.saveRun, show (ended run now error).id = row.id from fields.id, saved]
    rfl
  refine ⟨_, by rw [resolve, bind_returns moved, bind_returns stored]; rfl, fun id other => ?_⟩
  rw [findRow_releaseTaskLock]
  refine findRow_withRun (fun next written => ?_) other
  cases written
  rfl

/-- A run that nothing keeps from being cancelled: none of its actions is ambiguous, and the clock did not go back. -/
structure Cancellable (recovery : RunRecovery Json) (host : RuntimeHost Json) (projectId : String)
    (now : String → Date) (run : AgentRunProps Json) : Prop where
  stored : ∃ row, host.tables.findRow run.id = some row ∧ load recovery.codec row = .ok run ∧
    row.updatedAt ≤ now run.id
  inProject : run.projectId = projectId
  clear : (actionsOf recovery host projectId run.id).any isAmbiguous = false

/-- What the cancellation of a run leaves of the host for the others. -/
structure Spares (before after : RuntimeHost Json) (runId : String) : Prop where
  actions : after.actions = before.actions
  live : ∀ id, after.has id = before.has id
  rows : ∀ id, id ≠ runId → after.tables.findRow id = before.tables.findRow id

omit [DecidableEq Json] in
theorem stop_has (runId id : String) : (host.stop runId).has id = host.has id := by
  unfold RuntimeHost.has RuntimeHost.stop
  rw [List.any_map]
  congr 1
  funext handle
  rw [Function.comp_apply]
  split <;> rfl

omit [DecidableEq Json] in
theorem inspect_returns {input : RunCommand} {given : String} (found : host.tables.findRow input.runId = some row)
    (loaded : load recovery.codec row = .ok run) (inProject : run.projectId = input.projectId)
    (normalized : normalizeTaskReason input.reason "Recovery reason" = .ok given) :
    inspect recovery input host = .ok (evidence recovery host run given) := by
  rw [inspect, bind_returns (requireRun_returns found loaded inProject), bind_returns normalized]
  rfl

theorem cancel_returns {now : String → Date} {given : String}
    (cancellable : Cancellable recovery host projectId now run) (chosen : isCancelled host taskId run = true)
    (normalized : normalizeTaskReason reason "Cancellation reason" = .ok given)
    (again : normalizeTaskReason given "Recovery reason" = .ok given) :
    ∃ status after, cancel recovery ⟨projectId, run.id, reason⟩ (now run.id) host = .ok (status, after) ∧
      Spares host after run.id := by
  obtain ⟨row, found, loaded, inTime⟩ := cancellable.stored
  have inspected : inspect recovery ⟨projectId, run.id, given⟩ host = .ok (evidence recovery host run given) :=
    inspect_returns found loaded cancellable.inProject again
  simp only [isCancelled, Bool.and_eq_true, Bool.or_eq_true, decide_eq_true_eq, Bool.not_eq_true'] at chosen
  obtain ⟨⟨-, opened⟩, waits⟩ := chosen
  have clear := cancellable.clear
  rw [← cancellable.inProject] at clear
  rw [cancel, bind_returns normalized, bind_returns inspected]
  cases live : host.has run.id with
  | true =>
    have classified : (evidence recovery host run given).classification = .live := by
      simp [evidence, classify, clear, live]
    rw [classified]
    exact ⟨_, _, rfl, rfl, stop_has run.id, fun _ _ => rfl⟩
  | false =>
    have queued : run.status = .queued := waits.resolve_right (by simp [live])
    have classified : (evidence recovery host run given).classification = .queued := by
      simp [evidence, classify, clear, live, queued, AgentRun.isTerminal, AgentRun.transitions]
    have fields := loaded_ok loaded
    have rowFound : host.tables.findRow row.id = some row := fields.id ▸ found
    obtain ⟨final, resolved, others⟩ := resolve_returns rowFound loaded (fields.status ▸ opened)
      inTime recovery.operatorCancelled
    have committed : cancelQueued recovery projectId run.id (now run.id) host = .ok final := by
      rw [cancelQueued, bind_returns (requireRun_returns found loaded cancellable.inProject),
        if_neg (by simp [queued, live]), resolved]
    rw [classified]
    dsimp only
    rw [bind_returns committed]
    exact ⟨_, _, rfl, rfl, fun _ => rfl, fun id other => others id (fields.id ▸ other)⟩

omit [DecidableEq Json] in
theorem inspect_ok {input : RunCommand} {report : RunRecoveryEvidence}
    (inspected : inspect recovery input host = .ok report) :
    ∃ run given, requireRun recovery host input.projectId input.runId = .ok run ∧
      report = evidence recovery host run given := by
  obtain ⟨run, required, inspected⟩ := bind_ok inspected
  obtain ⟨given, -, inspected⟩ := bind_ok inspected
  exact ⟨run, given, required, (Except.ok.inj inspected).symm⟩

theorem cancel_ok {input : RunCommand} {status : CancellationStatus}
    (cancelled : cancel recovery input now host = .ok (status, after)) :
    (actionsOf recovery host input.projectId input.runId).any isAmbiguous = false ∧
      after.actions = host.actions ∧ ∀ id, after.has id = host.has id := by
  obtain ⟨given, -, cancelled⟩ := bind_ok cancelled
  obtain ⟨report, inspected, cancelled⟩ := bind_ok cancelled
  obtain ⟨run, shown, required, rfl⟩ := inspect_ok inspected
  obtain ⟨row, found, loaded, inProject⟩ := requireRun_ok required
  have named : run.id = input.runId := (loaded_ok loaded).id.trans (RuntimeTables.findRow_some found).2
  have clear : (evidence recovery host run shown).classification ≠ .ambiguous →
      (actionsOf recovery host input.projectId input.runId).any isAmbiguous = false := by
    intro classified
    rw [← inProject, ← named, ← Bool.not_eq_true]
    intro ambiguous
    exact classified (if_pos ambiguous)
  split at cancelled
  · next classified =>
    cases cancelled
    exact ⟨clear (by rw [classified]; decide), rfl, fun _ => rfl⟩
  · cases cancelled
  · next classified =>
    cases cancelled
    exact ⟨clear (by rw [classified]; decide), rfl, stop_has _⟩
  · next classified =>
    obtain ⟨tables, -, cancelled⟩ := bind_ok cancelled
    cases cancelled
    exact ⟨clear (by rw [classified]; decide), rfl, fun _ => rfl⟩
  · cases cancelled
  · cases cancelled

omit [DecidableEq Json] in
theorem actionsOf_congr (same : after.actions = host.actions) (projectId runId : String) :
    actionsOf recovery after projectId runId = actionsOf recovery host projectId runId := by
  rw [actionsOf, actionsOf, same]

omit [DecidableEq Json] in
theorem isCancelled_congr (same : ∀ id, after.has id = host.has id) (taskId : String) (run : AgentRunProps Json) :
    isCancelled after taskId run = isCancelled host taskId run := by
  rw [isCancelled, isCancelled, same]

variable {runs : List (AgentRunProps Json)} {cancelledAt : String → Date}

theorem cancelEach_returns {given : String} (unique : (runs.map fun run => run.id).Nodup)
    (each : ∀ run ∈ runs, isCancelled host taskId run = true → Cancellable recovery host projectId cancelledAt run)
    (normalized : normalizeTaskReason reason "Cancellation reason" = .ok given)
    (again : normalizeTaskReason given "Recovery reason" = .ok given) :
    (cancelEach recovery projectId taskId reason cancelledAt runs host).1 = .ok ⟨⟩ := by
  induction runs generalizing host with
  | nil => rfl
  | cons run runs ih =>
    obtain ⟨fresh, unique⟩ := List.nodup_cons.mp unique
    obtain ⟨first, later⟩ := List.forall_mem_cons.mp each
    rw [cancelEach]
    split
    · next chosen =>
      obtain ⟨status, after, cancelled, spares⟩ := cancel_returns (first chosen) chosen normalized again
      rw [cancelled]
      refine ih unique fun other member otherChosen => ?_
      rw [isCancelled_congr spares.live] at otherChosen
      have cancellable := later other member otherChosen
      have different : other.id ≠ run.id := fun same => fresh (List.mem_map.mpr ⟨other, member, same⟩)
      refine ⟨?_, cancellable.inProject, ?_⟩
      · rw [spares.rows other.id different]
        exact cancellable.stored
      · rw [actionsOf_congr spares.actions]
        exact cancellable.clear
    · exact ih unique later

theorem cancelEach_refuses (member : run ∈ runs) (chosen : isCancelled host taskId run = true)
    (ambiguous : (actionsOf recovery host projectId run.id).any isAmbiguous = true) :
    (cancelEach recovery projectId taskId reason cancelledAt runs host).1 ≠ .ok ⟨⟩ := by
  induction runs generalizing host with
  | nil => cases member
  | cons first runs ih =>
    rw [cancelEach]
    by_cases cancels : isCancelled host taskId first = true
    · rw [if_pos cancels]
      cases cancelled : cancel recovery ⟨projectId, first.id, reason⟩ (cancelledAt first.id) host with
      | error thrown => simp only [ne_eq, reduceCtorEq, not_false_eq_true]
      | ok left =>
        obtain ⟨status, after⟩ := left
        obtain ⟨clear, actions, live⟩ := cancel_ok cancelled
        rcases List.mem_cons.mp member with rfl | later
        · rw [clear] at ambiguous
          cases ambiguous
        · refine ih later ?_ ?_
          · rw [isCancelled_congr live]
            exact chosen
          · rw [actionsOf_congr actions]
            exact ambiguous
    · rw [if_neg cancels]
      rcases List.mem_cons.mp member with rfl | later
      · exact absurd chosen cancels
      · exact ih later chosen ambiguous

/-- The rows of a project as they are stored: ids are unique, every row can be read, and no row is ahead of the clock. -/
structure StoredRuns (recovery : RunRecovery Json) (host : RuntimeHost Json) (projectId : String)
    (cancelledAt : String → Date) : Prop where
  unique : (host.tables.runs.map fun row => row.id).Nodup
  loads : ∀ row ∈ host.tables.runs, row.projectId = projectId → ∃ run, load recovery.codec row = .ok run
  inTime : ∀ row ∈ host.tables.runs, row.updatedAt ≤ cancelledAt row.id

/-- A run that the cancellation of its task would cancel, but for the effects of its actions. -/
def BlocksCancellation (recovery : RunRecovery Json) (host : RuntimeHost Json) (projectId taskId : String)
    (row : AgentRunState Json) : Prop :=
  row.projectId = projectId ∧ row.taskId = taskId ∧ AgentRun.isTerminal row.status = false ∧
    (row.status = .queued ∨ host.has row.id = true) ∧
    (actionsOf recovery host projectId row.id).any isAmbiguous = true

omit [DecidableEq Json] in
theorem StoredRuns.listed (stored : StoredRuns recovery host projectId cancelledAt) :
    ∃ runs, host.tables.listRuns recovery.codec projectId = .ok runs ∧ (runs.map fun run => run.id).Nodup ∧
      (∀ run ∈ runs, ∃ row ∈ host.tables.runs, row.projectId = projectId ∧ load recovery.codec row = .ok run) ∧
      ∀ row ∈ host.tables.runs, row.projectId = projectId →
        ∃ run ∈ runs, load recovery.codec row = .ok run := by
  have mem_rows (row : AgentRunState Json) :
      row ∈ sortOn (fun row => toLex (row.createdAt, row.id))
        (host.tables.runs.filter fun row => row.projectId = projectId) ↔
      row ∈ host.tables.runs ∧ row.projectId = projectId := by
    rw [mem_sortOn, List.mem_filter, decide_eq_true_eq]
  obtain ⟨runs, listed⟩ := Outcome.mapM_total fun row member =>
    stored.loads row ((mem_rows row).mp member).1 ((mem_rows row).mp member).2
  refine ⟨runs, listed, ?_, fun run member => ?_, fun row member inProject => ?_⟩
  · rw [Outcome.mapM_keys listed fun row run loaded => (loaded_ok loaded).id]
    exact (((sortOn_perm _ _).map _).nodup_iff).mpr (stored.unique.sublist (List.filter_sublist.map _))
  · obtain ⟨row, inRows, loaded⟩ := Outcome.mapM_mem listed member
    obtain ⟨inTable, inProject⟩ := (mem_rows row).mp inRows
    exact ⟨row, inTable, inProject, loaded⟩
  · exact Outcome.mapM_covers listed ((mem_rows row).mpr ⟨member, inProject⟩)

/-- The cancellation of a task returns exactly when no run that it would cancel has an ambiguous effect. -/
theorem cancelTaskRuns_returns_iff {given : String} (stored : StoredRuns recovery host projectId cancelledAt)
    (normalized : normalizeTaskReason reason "Cancellation reason" = .ok given)
    (again : normalizeTaskReason given "Recovery reason" = .ok given) :
    (cancelTaskRuns recovery projectId taskId reason cancelledAt host).1 = .ok ⟨⟩ ↔
      ∀ row ∈ host.tables.runs, ¬BlocksCancellation recovery host projectId taskId row := by
  obtain ⟨runs, listed, unique, loads, covers⟩ := stored.listed
  rw [cancelTaskRuns, listed]
  dsimp only
  constructor
  · intro returned row member blocks
    obtain ⟨inProject, sameTask, opened, waits, ambiguous⟩ := blocks
    obtain ⟨run, inRuns, loaded⟩ := covers row member inProject
    have fields := loaded_ok loaded
    refine cancelEach_refuses inRuns ?_ ?_ returned
    · rw [isCancelled, fields.taskId, fields.status, fields.id, opened]
      simpa [sameTask] using waits
    · rw [fields.id]
      exact ambiguous
  · intro clear
    refine cancelEach_returns unique (fun run member chosen => ?_) normalized again
    obtain ⟨row, inRows, inProject, loaded⟩ := loads run member
    have fields := loaded_ok loaded
    refine ⟨⟨row, ?_, loaded, ?_⟩, fields.projectId.trans inProject, ?_⟩
    · rw [fields.id]
      exact RuntimeTables.findRow_of_mem stored.unique inRows
    · rw [fields.id]
      exact stored.inTime row inRows
    · rw [isCancelled, fields.taskId, fields.status, fields.id] at chosen
      simp only [Bool.and_eq_true, Bool.or_eq_true, decide_eq_true_eq, Bool.not_eq_true'] at chosen
      rw [← Bool.not_eq_true, fields.id]
      exact fun ambiguous => clear row inRows ⟨inProject, chosen.1.1, chosen.1.2, chosen.2, ambiguous⟩

end

end AiOffice.Application.ManageAgentRuns
