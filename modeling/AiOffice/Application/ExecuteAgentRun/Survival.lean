import AiOffice.Application.ExecuteAgentRun.Faults

namespace AiOffice.Application.AgentRunExecution

open Data Domain

variable {Json : Type}

@[simp] def savedEnd : ExecutionEffect Json → Option AgentRunStatus
  | .runSaved run => if AgentRun.isTerminal run.status then some run.status else none
  | .worktreePrepared _ | .worktreeReleased _ | .taskLockReleased => none

@[simp] def preparedWorktree : ExecutionEffect Json → Option String
  | .worktreePrepared path => some path
  | .runSaved _ | .worktreeReleased _ | .taskLockReleased => none

@[simp] def releasedWorktree : ExecutionEffect Json → Option String
  | .worktreeReleased path => some path
  | .runSaved _ | .worktreePrepared _ | .taskLockReleased => none

@[simp] def releasesLock : ExecutionEffect Json → Bool
  | .taskLockReleased => true
  | .runSaved _ | .worktreePrepared _ | .worktreeReleased _ => false

def savedEnds (effects : List (ExecutionEffect Json)) : List AgentRunStatus := effects.filterMap savedEnd

def preparedWorktrees (effects : List (ExecutionEffect Json)) : List String := effects.filterMap preparedWorktree

def releasedWorktrees (effects : List (ExecutionEffect Json)) : List String := effects.filterMap releasedWorktree

def lockReleases (effects : List (ExecutionEffect Json)) : Nat := effects.countP releasesLock

section Effects

variable (effects : List (ExecutionEffect Json)) (effect : ExecutionEffect Json)

@[simp] theorem savedEnds_snoc : savedEnds (effects ++ [effect]) = savedEnds effects ++ (savedEnd effect).toList := by
  rw [savedEnds, savedEnds, List.filterMap_append]
  cases effect with
  | runSaved run => by_cases ended : AgentRun.isTerminal run.status = true <;> simp [ended]
  | _ => simp

@[simp] theorem preparedWorktrees_snoc :
    preparedWorktrees (effects ++ [effect]) = preparedWorktrees effects ++ (preparedWorktree effect).toList := by
  rw [preparedWorktrees, preparedWorktrees, List.filterMap_append]
  cases effect <;> simp

@[simp] theorem releasedWorktrees_snoc :
    releasedWorktrees (effects ++ [effect]) = releasedWorktrees effects ++ (releasedWorktree effect).toList := by
  rw [releasedWorktrees, releasedWorktrees, List.filterMap_append]
  cases effect <;> simp

@[simp] theorem lockReleases_snoc :
    lockReleases (effects ++ [effect]) = lockReleases effects + (releasesLock effect).toNat := by
  rw [lockReleases, lockReleases, List.countP_append]
  cases effect <;> simp

end Effects

/-- What holds until the clean-up: the prepared worktree is the one held, and nothing was released. -/
structure Held (progress : Progress Json) : Prop where
  worktree : preparedWorktrees progress.effects = progress.worktree.toList
  unreleased : releasedWorktrees progress.effects = []
  locked : lockReleases progress.effects = 0

/-- The run is in one of the statuses, and was not saved ended. Before the worktree is prepared it is `fresh`. -/
structure Unended (fresh : Bool) (statuses : List AgentRunStatus) (progress : Progress Json) : Prop
    extends Held progress where
  noWorktree : fresh = true → progress.worktree = none
  status : progress.run.status ∈ statuses
  ends : savedEnds progress.effects = []
  notPersisted : progress.terminalPersisted = false
  notInterrupted : progress.persistenceInterrupted = false

structure Ended (progress : Progress Json) : Prop extends Held progress where
  status : progress.run.status ∈ [AgentRunStatus.completed, .failed, .cancelled]
  ends : savedEnds progress.effects = [progress.run.status]
  persisted : progress.terminalPersisted = true
  notInterrupted : progress.persistenceInterrupted = false

structure Interrupted (progress : Progress Json) : Prop extends Held progress where
  ends : savedEnds progress.effects = []
  notPersisted : progress.terminalPersisted = false
  interrupted : progress.persistenceInterrupted = true

def underway : List AgentRunStatus := [.preparing, .running, .reviewing, .completed, .cancelled]

theorem Unended.mono {fresh : Bool} {statuses others : List AgentRunStatus} {progress : Progress Json}
    (unended : Unended fresh statuses progress) (within : statuses ⊆ others) : Unended false others progress :=
  { unended with noWorktree := nofun, status := within unended.status }

section Steps

variable [DecidableEq Json] {codec : AgentRunCodec Json} {answers : Answers Json} {fresh : Bool}
  {statuses : List AgentRunStatus}

omit [DecidableEq Json] in
theorem now_unended {thrown : Failure → Progress Json → Prop} :
    Method.Triple (Unended fresh statuses) (now answers) (fun _ => Unended fresh statuses) thrown :=
  fun _ unended => { unended with }

theorem transitionAt_unended {status : AgentRunStatus} {moment : Date} {details : AgentRunDetails Json} :
    Method.Triple (Unended fresh statuses) (transitionAt codec status moment details) (fun _ => Unended fresh [status])
      (fun _ => Unended fresh statuses) := by
  refine .get_bind fun _ unended => ?_
  rintro progress rfl
  cases moved : AgentRun.transition codec progress.run status moment details with
  | error thrown => exact unended
  | ok run => exact { unended with status := List.mem_singleton.mpr (AgentRun.transition_ok moved).2.1 }

theorem transition_unended {status : AgentRunStatus} {details : AgentRunDetails Json} :
    Method.Triple (Unended fresh statuses) (transition codec answers status details) (fun _ => Unended fresh [status])
      (fun _ => Unended fresh statuses) :=
  now_unended.bind fun _ => transitionAt_unended

theorem transition_allowed {status : AgentRunStatus} {details : AgentRunDetails Json}
    {thrown : Failure → Progress Json → Prop} (allowed : ∀ current ∈ statuses, status ∈ AgentRun.transitions current)
    (none : details.execution = none) :
    Method.Triple (Unended fresh statuses) (transition codec answers status details) (fun _ => Unended fresh [status]) thrown := by
  refine now_unended.bind fun moment => .get_bind fun _ unended => ?_
  rintro progress rfl
  obtain ⟨run, moved⟩ := AgentRun.transition_returns codec (allowed _ unended.status) moment none
  rw [moved]
  exact { unended with status := List.mem_singleton.mpr (AgentRun.transition_ok moved).2.1 }

omit [DecidableEq Json] in
theorem call_persist (progress : Progress Json) :
    Method.call (persist answers) progress =
      match answers.saveRun progress.saves with
      | .error failure => (.error failure, { progress with saves := progress.saves + 1 })
      | .ok _ => (.ok ⟨⟩, { progress with
          saves := progress.saves + 1
          run := AgentRun.markPersisted progress.run
          effects := progress.effects ++ [.runSaved progress.run] }) := by
  unfold persist
  rw [Method.call_bind_ok (Method.call_get progress), Method.call_bind_ok (Method.call_modify _ _)]
  cases answers.saveRun progress.saves <;> rfl

omit [DecidableEq Json] in
theorem persist_unended (unsaved : ∀ status ∈ statuses, AgentRun.isTerminal status = false) :
    Method.Triple (Unended fresh statuses) (persist answers) (fun _ => Unended fresh statuses) (fun _ => Unended fresh statuses) := by
  intro progress unended
  rw [call_persist]
  cases answers.saveRun progress.saves with
  | error failure => exact { unended with }
  | ok _ => exact {
        worktree := by simp [unended.worktree]
        unreleased := by simp [unended.unreleased]
        locked := by simp [unended.locked]
        noWorktree := unended.noWorktree
        status := unended.status
        ends := by simp [unended.ends, unsaved _ unended.status]
        notPersisted := unended.notPersisted
        notInterrupted := unended.notInterrupted }

theorem terminal_iff {status : AgentRunStatus} :
    AgentRun.isTerminal status = true ↔ status ∈ [AgentRunStatus.completed, .failed, .cancelled] := by
  cases status <;> decide

omit [DecidableEq Json] in
theorem persistTerminal_ends (ended : statuses ⊆ [.completed, .failed, .cancelled]) :
    Method.Triple (Unended fresh statuses) (persistTerminal answers) (fun _ => Ended) (fun _ => Unended fresh statuses) := by
  intro progress unended
  unfold persistTerminal
  rw [Method.call_bind, call_persist]
  cases answers.saveRun progress.saves with
  | error failure => exact { unended with }
  | ok _ => exact {
        worktree := by simp [unended.worktree]
        unreleased := by simp [unended.unreleased]
        locked := by simp [unended.locked]
        status := ended unended.status
        ends := by simp [unended.ends, terminal_iff.mpr (ended unended.status), AgentRun.markPersisted]
        persisted := rfl
        notInterrupted := unended.notInterrupted }

omit [DecidableEq Json] in
theorem underway_throwing {Result : Type} {method : Work Json Result} {before : Progress Json → Prop}
    {returns : Result → Progress Json → Prop}
    (triple : Method.Triple before method returns fun _ => Unended fresh statuses) (within : statuses ⊆ underway) :
    Method.Triple before method returns fun _ => Unended false underway :=
  triple.throwing fun _ _ unended => unended.mono within

theorem cancelAtStart_ends :
    Method.Triple (Unended true [.queued, .preparing]) (cancelAtStart codec answers) (fun _ => Ended)
      (fun _ => Unended false underway) := by
  refine Method.Triple.seq (fun _ => Unended true [.queued, .preparing])
    (Method.Triple.modify fun _ unended => { unended with }) fun _ => ?_
  refine (transition_allowed (by decide) rfl).bind fun _ => ?_
  exact underway_throwing (persistTerminal_ends (by decide)) (by decide)

theorem claim_prepares :
    Method.Triple (Unended true [.queued, .preparing]) (claim codec answers) (fun _ => Unended true [.preparing])
      (fun _ => Unended false underway) := by
  refine .get_bind fun _ unended => ?_
  refine .ite (fun queued => ?_) fun other => ?_
  · have claimed : Unended true [.queued] _ := { unended with status := List.mem_singleton.mpr queued }
    refine Method.Triple.startingAt (Method.Triple.bind (transition_allowed (by decide) rfl) fun _ => ?_) claimed
    exact underway_throwing (persist_unended (by decide)) (by decide)
  · refine .pure ?_
    rintro progress rfl
    have preparing := unended.status
    simp only [List.mem_cons, List.not_mem_nil, or_false, other, false_or] at preparing
    exact { unended with status := List.mem_singleton.mpr preparing }

theorem lift_keeps {Object Result : Type} {computed : Except Failure Result} {holds : Object → Prop} :
    Method.Triple holds (Method.lift computed) (fun _ => holds) (fun _ => holds) := by
  intro object held
  rw [Method.call_lift]
  cases computed <;> exact held

omit [DecidableEq Json] in
theorem prepareWorktree_held (prepared : Option (PreparedExecution Json)) :
    Method.Triple (Unended true [.preparing]) (prepareWorktree answers prepared) (fun _ => Unended false [.preparing])
      (fun _ => Unended false underway) := by
  refine .ite (fun _ => .pure fun _ unended => { unended with noWorktree := nofun }) fun _ => ?_
  refine (underway_throwing lift_keeps (by decide)).bind fun path => .modify fun progress unended => ?_
  exact {
    worktree := by simp [unended.worktree, unended.noWorktree]
    unreleased := by simp [unended.unreleased]
    locked := by simp [unended.locked]
    noWorktree := nofun
    status := unended.status
    ends := by simp [unended.ends]
    notPersisted := unended.notPersisted
    notInterrupted := unended.notInterrupted }

theorem startRunning_runs (prepared : Option (PreparedExecution Json)) :
    Method.Triple (Unended false [.preparing]) (startRunning codec answers prepared) (fun _ => Unended false [.running])
      (fun _ => Unended false underway) := by
  refine .get_bind fun _ unended => ?_
  refine Method.Triple.startingAt ((underway_throwing transition_unended (by decide)).bind fun _ => ?_) unended
  exact underway_throwing (persist_unended (by decide)) (by decide)

omit [DecidableEq Json] in
theorem answerOf_keeps (prepared : Option (PreparedExecution Json)) :
    Method.Triple (Unended false [.running]) (answerOf answers prepared) (fun _ => Unended false [.running])
      (fun _ => Unended false underway) := by
  refine (underway_throwing lift_keeps (by decide)).bind fun answer => ?_
  refine Method.Triple.seq (fun _ => Unended false [.running])
    (Method.Triple.modify fun _ unended => { unended with }) fun _ => ?_
  exact .ite (fun _ => .throw fun _ unended => unended.mono (by decide)) fun _ => .pure fun _ unended => unended

theorem review_reviews (prepared : Option (PreparedExecution Json)) (result : Json) :
    Method.Triple (Unended false [.running]) (review codec answers prepared result)
      (fun _ => Unended false [.reviewing]) (fun _ => Unended false underway) := by
  refine now_unended.bind fun moment => ?_
  cases prepared.bind PreparedExecution.accept with
  | none =>
    refine (underway_throwing transitionAt_unended (by decide)).bind fun _ => ?_
    exact underway_throwing (persist_unended (by decide)) (by decide)
  | some accept =>
    refine (underway_throwing lift_keeps (by decide)).bind fun persisted => ?_
    refine (underway_throwing transitionAt_unended (by decide)).bind fun _ => ?_
    exact .ite (fun _ => .modify fun _ unended => { unended with }) fun _ => .pure fun _ unended => unended

theorem complete_ends (result : Json) :
    Method.Triple (Unended false [.reviewing]) (complete codec answers result) (fun _ => Ended)
      (fun _ => Unended false underway) := by
  refine (underway_throwing transition_unended (by decide)).bind fun _ => ?_
  exact underway_throwing (persistTerminal_ends (by decide)) (by decide)

theorem work_ends :
    Method.Triple (Unended true [.queued, .preparing]) (work codec answers) (fun _ => Ended)
      (fun _ => Unended false underway) := by
  refine .ite (fun _ => cancelAtStart_ends) fun _ => ?_
  refine claim_prepares.bind fun _ => ?_
  refine (underway_throwing lift_keeps (by decide)).bind fun prepared => ?_
  refine (prepareWorktree_held prepared).bind fun _ => ?_
  refine (startRunning_runs prepared).bind fun _ => ?_
  refine (answerOf_keeps prepared).bind fun result => ?_
  exact (review_reviews prepared result).bind fun _ => complete_ends result

def Settled (progress : Progress Json) : Prop := Ended progress ∨ Interrupted progress

theorem underway_open {status : AgentRunStatus} (member : status ∈ underway)
    (opened : status ∉ [AgentRunStatus.completed, .failed, .cancelled]) :
    status ∈ [AgentRunStatus.preparing, .running, .reviewing] := by
  cases status <;> simp_all [underway]

theorem handle_settles (error : Failure) {thrown : Failure → Progress Json → Prop} :
    Method.Triple (Unended false underway) (handle codec answers error) (fun _ => Settled) thrown := by
  refine .get_bind fun _ unended => ?_
  refine .ite (fun opened => ?_) fun closed => .ite (fun _ => .modify ?_) fun persisted => ?_
  · have opened : Unended false [.preparing, .running, .reviewing] _ :=
      { unended with status := underway_open unended.status opened }
    refine Method.Triple.startingAt (Method.Triple.seq (fun _ => Unended false [.preparing, .running, .reviewing])
      (Method.Triple.modify fun _ unended => { unended with }) fun _ => ?_) opened
    refine (transition_allowed ?_ rfl).bind fun _ => ?_
    · cases isCancelled (some error) answers.abortedOnError <;> decide
    · have ends : [if isCancelled (some error) answers.abortedOnError = true then AgentRunStatus.cancelled else .failed] ⊆
          [.completed, .failed, .cancelled] := by
        cases isCancelled (some error) answers.abortedOnError <;> decide
      refine Method.Triple.tryCatch ((persistTerminal_ends ends).weaken (fun _ holds => holds)
        (fun _ _ ended => .inl ended) fun _ _ holds => holds) fun _ => .modify fun progress unended => ?_
      exact .inr { unended with interrupted := rfl }
  · rintro progress rfl
    exact .inr { unended with interrupted := rfl }
  · simp [unended.notPersisted] at persisted

/-- Either the run was saved ended, as it is, or no ended run could be saved. -/
def Decided (progress : Progress Json) : Prop :=
  progress.persistenceInterrupted = true ∧ progress.terminalPersisted = false ∧ savedEnds progress.effects = [] ∨
    progress.persistenceInterrupted = false ∧ progress.terminalPersisted = true ∧
      savedEnds progress.effects = [progress.run.status] ∧
      progress.run.status ∈ [AgentRunStatus.completed, .failed, .cancelled]

structure WorktreeReleased (progress : Progress Json) : Prop where
  released : releasedWorktrees progress.effects = preparedWorktrees progress.effects
  once : (preparedWorktrees progress.effects).length ≤ 1
  locked : lockReleases progress.effects = 0
  decided : Decided progress

/-- After the clean-up: what was prepared is released, and the lock with an ended run that was saved. -/
structure CleanedUp (answers : Answers Json) (progress : Progress Json) : Prop where
  released : releasedWorktrees progress.effects = preparedWorktrees progress.effects
  once : (preparedWorktrees progress.effects).length ≤ 1
  lock : lockReleases progress.effects =
    if savedEnds progress.effects ≠ [] ∧ answers.releaseTaskLock = .ok true then 1 else 0
  decided : Decided progress

omit [DecidableEq Json] in
theorem releaseWorktree_releases {thrown : Failure → Progress Json → Prop} :
    Method.Triple Settled (releaseWorktree answers) (fun _ => WorktreeReleased) thrown := by
  refine .get_bind fun _ settled => ?_
  rintro progress rfl
  have held : Held progress := settled.elim (·.toHeld) (·.toHeld)
  have decided : Decided progress := by
    rcases settled with ended | interrupted
    · exact .inr ⟨ended.notInterrupted, ended.persisted, ended.ends, ended.status⟩
    · exact .inl ⟨interrupted.interrupted, interrupted.notPersisted, interrupted.ends⟩
  cases worktree : progress.worktree with
  | none => exact {
      released := by rw [held.unreleased, held.worktree, worktree]; rfl
      once := by simp [held.worktree, worktree]
      locked := held.locked
      decided }
  | some path =>
    have released : WorktreeReleased { progress with effects := progress.effects ++ [.worktreeReleased path] } := {
      released := by simp [held.unreleased, held.worktree, worktree]
      once := by simp [held.worktree, worktree]
      locked := by simp [held.locked]
      decided := by simpa [Decided] using decided }
    cases answers.releaseWorktree with
    | ok _ => exact released
    | error failure => exact { released with }

omit [DecidableEq Json] in
theorem releaseTaskLock_releases {thrown : Failure → Progress Json → Prop} :
    Method.Triple WorktreeReleased (releaseTaskLock answers) (fun _ => CleanedUp answers) thrown := by
  refine .get_bind fun _ worktree => ?_
  rintro progress rfl
  have decided := worktree.decided
  rcases decided with ⟨-, notPersisted, ends⟩ | ⟨-, persisted, ends, -⟩
  · rw [if_neg (by rw [notPersisted]; exact Bool.false_ne_true)]
    exact { worktree with lock := by rw [worktree.locked, ends, if_neg fun both => both.1 rfl] }
  · rw [if_pos persisted]
    have saved : savedEnds progress.effects ≠ [] := by rw [ends]; exact List.cons_ne_nil _ _
    cases outcome : answers.releaseTaskLock with
    | error failure => exact { worktree with
        lock := by rw [outcome, if_neg fun both => nomatch both.2]; exact worktree.locked }
    | ok owned =>
      cases owned with
      | false => exact { worktree with
          lock := by rw [outcome, if_neg fun both => nomatch both.2]; exact worktree.locked }
      | true => exact {
          released := by simpa using worktree.released
          once := by simpa using worktree.once
          lock := by simp [worktree.locked, saved, outcome]
          decided := by simpa [Decided] using worktree.decided }

omit [DecidableEq Json] in
theorem conclude_reports :
    Method.Triple (CleanedUp answers) (conclude : Work Json (AgentRunExecutionResult Json))
      (fun result progress => CleanedUp answers progress ∧
        (result.status = .interrupted ∧ savedEnds progress.effects = [] ∨
          ∃ status, savedEnds progress.effects = [status] ∧ reportedStatus status = some result.status))
      (fun _ _ => False) := by
  refine .get_bind fun _ cleaned => ?_
  rintro progress rfl
  rcases cleaned.decided with ⟨interrupted, -, ends⟩ | ⟨notInterrupted, -, ends, status⟩
  · rw [if_pos interrupted]
    exact ⟨cleaned, .inl ⟨rfl, ends⟩⟩
  · rw [if_neg (by rw [notInterrupted]; exact Bool.false_ne_true)]
    cases reported : reportedStatus progress.run.status with
    | none =>
      generalize progress.run.status = current at status reported
      cases current <;> simp_all [reportedStatus]
    | some status => exact ⟨cleaned, .inr ⟨_, ends, reported⟩⟩

end Steps

def plainCodec : AgentRunCodec String := ⟨"null", .ok, .ok, .ok, .ok⟩

def queuedRun : AgentRunProps String where
  id := "run"
  projectId := "project"
  taskId := "task"
  agentId := "agent"
  pipelineRunId := none
  pipelineStageRunId := none
  actionIntent := none
  roleGuidance := none
  execution := none
  modelRouting := none
  status := .queued
  worktreePath := none
  result := none
  error := none
  createdAt := 1
  startedAt := none
  completedAt := none
  updatedAt := 1
  persistenceToken := none

/-- An execution whose third save, that of its end, throws, as does the release of its worktree. -/
def faultyAnswers : Answers String where
  abortedAtStart := false
  abortedAfterResult := false
  abortedOnError := false
  prepare := .ok none
  execute := .ok ⟨"result", []⟩
  prepareWorktree := .ok "worktree"
  releaseWorktree := .error .other
  saveRun := fun index => if index < 3 then .ok ⟨⟩ else .error .other
  releaseTaskLock := .ok true
  now := fun index => index + 2
  errorJson := AgentRunExecutionError.message

/-- The worktree is released although that throws, and the lock stays. -/
example : (Method.call (execute plainCodec faultyAnswers) { run := queuedRun }).1.map (·.status) = .ok .interrupted ∧
    releasedWorktrees (Method.call (execute plainCodec faultyAnswers) { run := queuedRun }).2.effects = ["worktree"] := by
  decide

end AiOffice.Application.AgentRunExecution
