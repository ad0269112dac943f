import AiOffice.Domain.PipelineRun

namespace AiOffice.Domain.PipelineRun

open Data

def Current (run : PipelineRunProps) (stage : PipelineStageRunProps) : Prop :=
  run.status = .active ∧ run.stages[run.currentStageIndex]? = some stage

def Indexed (run : PipelineRunProps) : Prop :=
  ∀ (index : Nat) (stage : PipelineStageRunProps), run.stages[index]? = some stage → stage.stageIndex = index

/-- What `replaceStage` leaves behind. -/
def withStage (run : PipelineRunProps) (index : Nat) (value : PipelineStageRunProps) : PipelineRunProps :=
  { run with stages := run.stages.set index value }

def done (stage : PipelineStageRunProps) (now : Date) : PipelineStageRunProps :=
  { stage with status := .completed, completedAt := some now }

def activated (stage : PipelineStageRunProps) : PipelineStageRunProps :=
  { stage with status := .active }

/-- What `finishCurrent` leaves behind when `stage` is the current stage. -/
def finished (run : PipelineRunProps) (stage : PipelineStageRunProps) (now : Date) : PipelineRunProps :=
  match run.stages[stage.stageIndex + 1]? with
  | none => { run with
      stages := run.stages.set stage.stageIndex (done stage now)
      status := .completed
      version := run.version + 1
      updatedAt := now
      completedAt := some now }
  | some next => { run with
      stages := (run.stages.set stage.stageIndex (done stage now)).set (stage.stageIndex + 1) (activated next)
      currentStageIndex := stage.stageIndex + 1
      version := run.version + 1
      updatedAt := now }

theorem call_currentStage (run : PipelineRunProps) :
    Method.call currentStage run =
      if run.status ≠ .active then (.ok none, run)
      else match run.stages[run.currentStageIndex]? with
        | some stage => (.ok (some stage), run)
        | none => (.error undefinedValue, run) := by
  simp only [currentStage, Method.call_bind, Method.call_get, Method.call_ite]
  split
  · rfl
  · cases run.stages[run.currentStageIndex]? <;> rfl

theorem call_currentStage_current {run : PipelineRunProps} {stage : PipelineStageRunProps}
    (current : Current run stage) : Method.call currentStage run = (.ok (some stage), run) := by
  simp [call_currentStage, current.1, current.2]

theorem call_replaceStage (index : Nat) (value : PipelineStageRunProps) (run : PipelineRunProps) :
    Method.call (replaceStage index value) run = (.ok ⟨⟩, withStage run index value) := by
  have replaced : run.stages.mapIdx (fun candidate stage => if candidate = index then value else stage) =
      run.stages.set index value := by
    apply List.ext_getElem?
    intro position
    rw [List.getElem?_mapIdx, List.getElem?_set]
    by_cases same : index = position
    · subst same
      cases lookup : run.stages[index]? with
      | none => simp [List.getElem?_eq_none_iff.mp lookup]
      | some stage => simp [(List.getElem?_eq_some_iff.mp lookup).1]
    · simp [same, Ne.symm same]
  simp [replaceStage, withStage, replaced]

@[simp] theorem call_changed (now : Date) (run : PipelineRunProps) :
    Method.call (changed now) run = (.ok ⟨⟩, { run with version := run.version + 1, updatedAt := now }) := rfl

theorem currentStage_ends (run : PipelineRunProps) :
    Method.Ends currentStage run fun answer after =>
      after = run ∧ ∀ stage, answer = some stage → Current run stage := by
  by_cases active : run.status = .active
  · cases lookup : run.stages[run.currentStageIndex]? with
    | none => exact .throws (by simp [call_currentStage, active, lookup]; rfl)
    | some stage =>
      refine .returns (call_currentStage_current ⟨active, lookup⟩) ⟨rfl, ?_⟩
      rintro stage ⟨⟩
      exact ⟨active, lookup⟩
  · exact .returns (by simp [call_currentStage, active]; rfl) ⟨rfl, by simp⟩

theorem requireCurrent_ends (status : PipelineStageRunStatus) (run : PipelineRunProps) :
    Method.Ends (requireCurrent status) run fun stage after =>
      after = run ∧ Current run stage ∧ stage.status = status := by
  refine (currentStage_ends run).bind fun answer current => ?_
  cases answer with
  | none => exact .throw _
  | some stage =>
    refine .ite (fun _ => .throw _) fun wanted => ?_
    exact .returns (Method.call_pure stage run) ⟨rfl, current stage rfl, not_not.mp wanted⟩

theorem stageDefinition_ends (index : Nat) (run : PipelineRunProps) :
    Method.Ends (stageDefinition index) run fun definition after =>
      after = run ∧ run.definition.stages[index]? = some definition := by
  refine .get_bind ?_
  cases lookup : run.definition.stages[index]? with
  | none => exact .throw _
  | some definition => exact .returns (Method.call_pure definition run) ⟨rfl, rfl⟩

theorem call_finishCurrent {run : PipelineRunProps} {stage : PipelineStageRunProps}
    (current : Current run stage) (now : Date) :
    Method.call (finishCurrent now) run = (.ok ⟨⟩, finished run stage now) := by
  unfold finishCurrent finished
  rw [Method.call_bind_ok (call_currentStage_current current)]
  simp only [Method.call_bind, call_replaceStage, Method.call_get, withStage,
    List.getElem?_set_ne (Nat.lt_succ_self stage.stageIndex).ne]
  cases run.stages[stage.stageIndex + 1]? with
  | none => rfl
  | some next =>
    simp only [Method.call_bind, call_replaceStage, withStage]
    rfl

inductive Command
  | assign (agentId agentRoleId : String) (now : Date)
  | completeStage (agentId : String) (now : Date)
  | approveStage (actorId : String) (rationale : Option String) (now : Date)
  | rejectStage (actorId rationale : String) (now : Date)
  | overrideCurrent (input : Override)
  | cancel (actorId : String) (now : Date)

def Command.perform : Command → Operation (Option PipelineOverrideRecord)
  | .assign agentId agentRoleId now => do PipelineRun.assign agentId agentRoleId now; return none
  | .completeStage agentId now => do PipelineRun.completeStage agentId now; return none
  | .approveStage actorId rationale now => do PipelineRun.approveStage actorId rationale now; return none
  | .rejectStage actorId rationale now => do PipelineRun.rejectStage actorId rationale now; return none
  | .overrideCurrent input => do let record ← PipelineRun.overrideCurrent input; return some record
  | .cancel actorId now => do PipelineRun.cancel actorId now; return none

def staffed (stage : PipelineStageRunProps) (agentId : String) (now : Date) : PipelineStageRunProps :=
  { stage with assignedAgentId := some agentId, assignedAt := some now }

def submitted (stage : PipelineStageRunProps) : PipelineStageRunProps :=
  { stage with status := .awaitingApproval }

def stepped (run : PipelineRunProps) (index : Nat) (value : PipelineStageRunProps) (now : Date) :
    PipelineRunProps :=
  { withStage run index value with version := run.version + 1, updatedAt := now }

def approved (stage : PipelineStageRunProps) (actor : String) (rationale : Option String) (now : Date) :
    PipelineStageRunProps :=
  { stage with
    approvedBy := some actor
    approvalDecision := some .approved
    approvalRationale := rationale <|> stage.approvalRationale
    approvedAt := some now }

def rejected (stage : PipelineStageRunProps) (actor rationale : String) (now : Date) :
    PipelineStageRunProps :=
  { stage with
    status := .cancelled
    approvedBy := some actor
    approvalDecision := some .rejected
    approvalRationale := some rationale
    approvedAt := some now }

/-- A run closed by a cancellation: the stages in a status that `closes` are cancelled with it. -/
def closed (run : PipelineRunProps) (closes : PipelineStageRunStatus → Bool) (now : Date) : PipelineRunProps :=
  { run with
    status := .cancelled
    stages := run.stages.map fun stage =>
      if closes stage.status then { stage with status := .cancelled } else stage
    version := run.version + 1
    updatedAt := now
    cancelledAt := some now }

/-- Whether an approval or rejection by `actor` is refused as the assigned agent's own. -/
def OwnDecision (definition : OfficePipelineStage) (stage : PipelineStageRunProps) (actor : String) : Prop :=
  definition.requiresIndependentApproval = some true ∧ stage.assignedAgentId = some actor

/-- Everything that an operation which returns can do, with the checks it passed. -/
inductive Effect (run : PipelineRunProps) :
    Command → Option PipelineOverrideRecord → PipelineRunProps → Prop
  | assigned {stage definition agentId now}
      (current : Current run stage) (active : stage.status = .active)
      (unassigned : stage.assignedAgentId = none)
      (defined : run.definition.stages[stage.stageIndex]? = some definition)
      (separated : ∀ predecessorId ∈ definition.separatedFrom,
        assignedTo run.stages predecessorId ≠ some agentId)
      (nonempty : trim agentId ≠ "") :
      Effect run (.assign agentId stage.roleId now) none
        (stepped run stage.stageIndex (staffed stage (trim agentId) now) now)
  | submitted {stage definition agentId now}
      (current : Current run stage) (active : stage.status = .active)
      (assigned : stage.assignedAgentId = some agentId)
      (defined : run.definition.stages[stage.stageIndex]? = some definition)
      (gated : definition.requiresApproval = true) :
      Effect run (.completeStage agentId now) none
        (stepped run stage.stageIndex (submitted stage) now)
  | completed {stage definition agentId now}
      (current : Current run stage) (active : stage.status = .active)
      (assigned : stage.assignedAgentId = some agentId)
      (defined : run.definition.stages[stage.stageIndex]? = some definition)
      (ungated : definition.requiresApproval = false) :
      Effect run (.completeStage agentId now) none (finished run stage now)
  | approved {stage definition actorId rationale recorded now}
      (current : Current run stage) (awaiting : stage.status = .awaitingApproval)
      (defined : run.definition.stages[stage.stageIndex]? = some definition)
      (independent : ¬OwnDecision definition stage (trim actorId)) :
      Effect run (.approveStage actorId rationale now) none
        (finished run (approved stage (trim actorId) recorded now) now)
  | rejected {stage definition actorId rationale now}
      (current : Current run stage) (awaiting : stage.status = .awaitingApproval)
      (defined : run.definition.stages[stage.stageIndex]? = some definition)
      (independent : ¬OwnDecision definition stage (trim actorId)) :
      Effect run (.rejectStage actorId rationale now) none
        (closed (withStage run stage.stageIndex (rejected stage (trim actorId) (trim rationale) now))
          (· = .pending) now)
  | overridden {stage input record}
      (current : Current run stage)
      (issued : record.stageRunId = stage.id ∧ record.pipelineRunId = run.id) :
      Effect run (.overrideCurrent input) (some record) (finished run stage input.now)
  | cancelled {actorId now}
      (active : run.status = .active) :
      Effect run (.cancel actorId now) none (closed run PipelineStageRunStatus.isOpen now)

theorem finished_withStage {run : PipelineRunProps} {index : Nat} {value : PipelineStageRunProps}
    (same : value.stageIndex = index) (now : Date) :
    finished (withStage run index value) value now = finished run value now := by
  subst same
  simp only [finished, withStage, List.set_set,
    List.getElem?_set_ne (Nat.lt_succ_self value.stageIndex).ne]

theorem finished_version (run : PipelineRunProps) (stage : PipelineStageRunProps) (now : Date) :
    (finished run stage now).version = run.version + 1 := by
  unfold finished
  split <;> rfl

theorem Current.withStage {run : PipelineRunProps} {stage : PipelineStageRunProps} (indexed : Indexed run)
    (current : Current run stage) (value : PipelineStageRunProps) :
    Current (withStage run stage.stageIndex value) value := by
  have position := indexed _ _ current.2
  have within := (List.getElem?_eq_some_iff.mp current.2).1
  refine ⟨current.1, ?_⟩
  simp only [PipelineRun.withStage, position, List.getElem?_set_self within]

private theorem assign_ends (agentId agentRoleId : String) (now : Date) (run : PipelineRunProps) :
    Method.Ends (PipelineRun.assign agentId agentRoleId now) run fun _ after =>
      Effect run (.assign agentId agentRoleId now) none after := by
  refine (requireCurrent_ends .active run).bind fun stage ⟨current, active⟩ => ?_
  refine .ite (fun _ => .throw _) fun unassigned => .ite (fun _ => .throw _) fun role => ?_
  obtain rfl : agentRoleId = stage.roleId := not_not.mp role
  refine (stageDefinition_ends stage.stageIndex run).bind fun definition defined => ?_
  refine .get_bind ?_
  cases conflict : definition.separatedFrom.find? fun predecessorId =>
      assignedTo run.stages predecessorId = some agentId with
  | some predecessorId => exact .throw _
  | none =>
    have separated : ∀ predecessorId ∈ definition.separatedFrom,
        assignedTo run.stages predecessorId ≠ some agentId := by
      simpa using conflict
    refine (Method.Ends.lift fun stored accepted => ⟨rfl, required_ok accepted⟩).bind ?_
    rintro stored ⟨rfl, nonempty⟩
    exact .returns (by rw [Method.call_bind_ok (call_replaceStage ..)]; rfl)
      (.assigned current active (not_not.mp unassigned) defined separated nonempty)

private theorem completeStage_ends (agentId : String) (now : Date) (run : PipelineRunProps) :
    Method.Ends (PipelineRun.completeStage agentId now) run fun _ after =>
      Effect run (.completeStage agentId now) none after := by
  refine (requireCurrent_ends .active run).bind fun stage ⟨current, active⟩ => ?_
  refine .ite (fun _ => .throw _) fun _ => .ite (fun _ => .throw _) fun assigned => ?_
  refine (stageDefinition_ends stage.stageIndex run).bind fun definition defined => ?_
  refine .ite (fun gated => ?_) fun ungated => ?_
  · exact .returns (by rw [Method.call_bind_ok (call_replaceStage ..)]; rfl)
      (.submitted current active (not_not.mp assigned) defined gated)
  · exact .returns (call_finishCurrent current now)
      (.completed current active (not_not.mp assigned) defined (by simpa using ungated))

private theorem approveStage_ends {run : PipelineRunProps} (indexed : Indexed run)
    (actorId : String) (rationale : Option String) (now : Date) :
    Method.Ends (PipelineRun.approveStage actorId rationale now) run fun _ after =>
      Effect run (.approveStage actorId rationale now) none after := by
  refine (requireCurrent_ends .awaitingApproval run).bind fun stage ⟨current, awaiting⟩ => ?_
  refine (Method.Ends.lift fun actor accepted => ⟨rfl, (required_ok accepted).1⟩).bind ?_
  rintro actor rfl
  refine (stageDefinition_ends stage.stageIndex run).bind fun definition defined => ?_
  refine .ite (fun _ => .throw _) fun independent => ?_
  refine (Method.Ends.lift fun recorded _ => ⟨rfl, trivial⟩).bind fun recorded _ => ?_
  have finishes := call_finishCurrent (current.withStage indexed (approved stage (trim actorId) recorded now)) now
  have kept : (approved stage (trim actorId) recorded now).stageIndex = stage.stageIndex := rfl
  rw [finished_withStage kept] at finishes
  exact .returns (by rw [Method.call_bind_ok (call_replaceStage ..)]; exact finishes)
    (.approved current awaiting defined independent)

private theorem rejectStage_ends (actorId rationale : String) (now : Date) (run : PipelineRunProps) :
    Method.Ends (PipelineRun.rejectStage actorId rationale now) run fun _ after =>
      Effect run (.rejectStage actorId rationale now) none after := by
  refine (requireCurrent_ends .awaitingApproval run).bind fun stage ⟨current, awaiting⟩ => ?_
  refine (Method.Ends.lift fun actor accepted => ⟨rfl, (required_ok accepted).1⟩).bind ?_
  rintro actor rfl
  refine (stageDefinition_ends stage.stageIndex run).bind fun definition defined => ?_
  refine .ite (fun _ => .throw _) fun independent => ?_
  refine (Method.Ends.lift fun noted accepted => ⟨rfl, (required_ok accepted).1⟩).bind ?_
  rintro noted rfl
  refine .returns (by rw [Method.call_bind_ok (call_replaceStage ..), Method.call_modify]) ?_
  have effect : Effect run (.rejectStage actorId rationale now) none _ :=
    .rejected current awaiting defined independent
  simpa [closed, rejected] using effect

private theorem overrideCurrent_ends (input : Override) (run : PipelineRunProps) :
    Method.Ends (PipelineRun.overrideCurrent input) run fun record after =>
      Effect run (.overrideCurrent input) (some record) after := by
  refine (currentStage_ends run).bind fun answer current => ?_
  cases answer with
  | none => exact .throw _
  | some stage =>
    refine .get_bind ?_
    refine (Method.Ends.lift fun _ _ => ⟨rfl, trivial⟩).bind fun id _ => ?_
    refine (Method.Ends.lift fun _ _ => ⟨rfl, trivial⟩).bind fun actorId _ => ?_
    refine (Method.Ends.lift fun _ _ => ⟨rfl, trivial⟩).bind fun reason _ => ?_
    exact .then_pure (.returns (call_finishCurrent (current stage rfl) input.now)
      (.overridden (current stage rfl) ⟨rfl, rfl⟩))

private theorem cancel_ends (actorId : String) (now : Date) (run : PipelineRunProps) :
    Method.Ends (PipelineRun.cancel actorId now) run fun _ after =>
      Effect run (.cancel actorId now) none after := by
  refine (Method.Ends.lift fun _ _ => ⟨rfl, trivial⟩).bind fun _ _ => ?_
  refine .get_bind ?_
  refine .ite (fun _ => .throw _) fun active => ?_
  exact .returns (Method.call_modify ..) (.cancelled (not_not.mp active))

theorem perform_ends {run : PipelineRunProps} (indexed : Indexed run) (command : Command) :
    Method.Ends command.perform run (Effect run command) := by
  cases command with
  | assign agentId agentRoleId now => exact (assign_ends agentId agentRoleId now run).then_pure
  | completeStage agentId now => exact (completeStage_ends agentId now run).then_pure
  | approveStage actorId rationale now => exact (approveStage_ends indexed actorId rationale now).then_pure
  | rejectStage actorId rationale now => exact (rejectStage_ends actorId rationale now run).then_pure
  | overrideCurrent input => exact (overrideCurrent_ends input run).then_pure
  | cancel actorId now => exact (cancel_ends actorId now run).then_pure

end AiOffice.Domain.PipelineRun
