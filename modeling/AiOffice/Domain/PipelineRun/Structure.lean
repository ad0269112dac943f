import AiOffice.Data.Outcome
import AiOffice.Domain.PipelineRun.Effects

namespace AiOffice.Domain.PipelineRun

open Data Outcome

/-- The statuses that a stage at `index` may have, by the status of its run and the run's position. -/
def StatusFits (current index : Nat) (status : PipelineStageRunStatus) : PipelineRunStatus → Prop
  | .active =>
    (index < current → status = .completed) ∧
    (index = current → status = .active ∨ status = .awaitingApproval) ∧
    (current < index → status = .pending)
  | .completed => status = .completed
  | .cancelled => status = .completed ∨ status = .cancelled

/-- The invariant of a pipeline run: its position is one of its stages, every stage run knows its own
position, and every status fits the position and the status of the run. -/
structure WellFormed (run : PipelineRunProps) : Prop where
  within : run.currentStageIndex < run.stages.length
  indexed : Indexed run
  fits : ∀ (index : Nat) (stage : PipelineStageRunProps), run.stages[index]? = some stage →
    StatusFits run.currentStageIndex index stage.status run.status

/-- A new stage run: its identity is that of its definition, and nothing is recorded on it. -/
structure NewStage (index : Nat) (definition : OfficePipelineStage) (stage : PipelineStageRunProps) : Prop where
  stageId : stage.stageId = definition.id
  roleId : stage.roleId = definition.roleId
  stageIndex : stage.stageIndex = index
  status : stage.status = if index = 0 then .active else .pending
  unassigned : stage.assignedAgentId = none
  unapproved : stage.approvedBy = none

theorem createStages_new {index : Nat} {definitions : List OfficePipelineStage} {stageRunIds : List String}
    {stages : List PipelineStageRunProps}
    (created : createStages index definitions stageRunIds = .ok stages) :
    stages.length = definitions.length ∧
      ∀ (offset : Nat) (stage : PipelineStageRunProps), stages[offset]? = some stage →
        ∃ definition, definitions[offset]? = some definition ∧ NewStage (index + offset) definition stage := by
  induction definitions generalizing index stageRunIds stages with
  | nil => cases created; simp
  | cons definition definitions ih =>
    cases stageRunIds with
    | nil => cases created
    | cons stageRunId stageRunIds =>
      obtain ⟨id, -, created⟩ := bind_ok created
      obtain ⟨later, rest, created⟩ := bind_ok created
      obtain ⟨sameLength, new⟩ := ih rest
      cases created
      refine ⟨by simp [sameLength], ?_⟩
      intro offset stage found
      cases offset with
      | zero =>
        simp only [List.getElem?_cons_zero, Option.some.injEq] at found
        subst found
        exact ⟨definition, rfl, ⟨rfl, rfl, rfl, rfl, rfl, rfl⟩⟩
      | succ offset =>
        obtain ⟨definition, defined, fresh⟩ := new offset stage (by simpa using found)
        exact ⟨definition, by simpa using defined, by rwa [Nat.add_right_comm] at fresh⟩

/-- What `create` returns, with the checks it made. -/
structure Created (input : CreatePipelineRun) (run : PipelineRunProps) : Prop where
  enforced : input.definition.enforcement = some .enforced
  definition : run.definition = input.definition
  status : run.status = .active
  position : run.currentStageIndex = 0
  version : run.version = 1
  nonempty : 0 < run.stages.length
  sameLength : run.stages.length = run.definition.stages.length
  new : ∀ (index : Nat) (stage : PipelineStageRunProps), run.stages[index]? = some stage →
    ∃ definition, run.definition.stages[index]? = some definition ∧ NewStage index definition stage

theorem create_created {input : CreatePipelineRun} {run : PipelineRunProps}
    (succeeded : create input = .ok run) : Created input run := by
  unfold create at succeeded
  obtain ⟨enforced, succeeded⟩ := guard_ok succeeded
  obtain ⟨nonempty, succeeded⟩ := guard_ok succeeded
  obtain ⟨-, succeeded⟩ := guard_ok succeeded
  obtain ⟨stages, created, succeeded⟩ := bind_ok succeeded
  obtain ⟨id, -, succeeded⟩ := bind_ok succeeded
  obtain ⟨projectId, -, succeeded⟩ := bind_ok succeeded
  obtain ⟨taskId, -, succeeded⟩ := bind_ok succeeded
  obtain ⟨manifestRevisionId, -, succeeded⟩ := bind_ok succeeded
  obtain ⟨startedBy, -, succeeded⟩ := bind_ok succeeded
  obtain ⟨configurationPin, -, succeeded⟩ := bind_ok succeeded
  cases succeeded
  obtain ⟨sameLength, new⟩ := createStages_new created
  refine ⟨not_not.mp enforced, rfl, rfl, rfl, rfl, ?_, sameLength, ?_⟩
  · rw [sameLength]
    exact Nat.pos_of_ne_zero nonempty
  · simpa using new

theorem Created.wellFormed {input : CreatePipelineRun} {run : PipelineRunProps} (created : Created input run) :
    WellFormed run := by
  refine ⟨by rw [created.position]; exact created.nonempty, ?_, ?_⟩
  · intro index stage found
    obtain ⟨definition, -, new⟩ := created.new index stage found
    exact new.stageIndex
  · intro index stage found
    obtain ⟨definition, -, new⟩ := created.new index stage found
    rw [created.status, created.position, new.status]
    split
    · next first => exact ⟨by omega, fun _ => .inl rfl, by omega⟩
    · next later => exact ⟨by omega, by omega, fun _ => rfl⟩

theorem set_stage {stages : List PipelineStageRunProps} {index position : Nat}
    {value stage : PipelineStageRunProps} (found : (stages.set index value)[position]? = some stage) :
    (position = index ∧ stage = value) ∨ (position ≠ index ∧ stages[position]? = some stage) := by
  rw [List.getElem?_set] at found
  split at found
  · next same =>
      split at found
      · exact .inl ⟨same.symm, (Option.some.inj found).symm⟩
      · cases found
  · next other => exact .inr ⟨Ne.symm other, found⟩

variable {run : PipelineRunProps} {stage value : PipelineStageRunProps} {now : Date}

theorem WellFormed.position (wellFormed : WellFormed run) (current : Current run stage) :
    stage.stageIndex = run.currentStageIndex :=
  wellFormed.indexed _ _ current.2

theorem finished_position (run : PipelineRunProps) (stage : PipelineStageRunProps) (now : Date) :
    (finished run stage now).currentStageIndex = run.currentStageIndex ∨
      (finished run stage now).currentStageIndex = stage.stageIndex + 1 := by
  unfold finished
  split
  · exact .inl rfl
  · exact .inr rfl

theorem Effect.position {changed : PipelineRunProps} {command : Command} {record : Option PipelineOverrideRecord}
    (effect : Effect run command record changed) (wellFormed : WellFormed run) :
    run.currentStageIndex ≤ changed.currentStageIndex := by
  have moved : ∀ (current value : PipelineStageRunProps) (now : Date), Current run current →
      value.stageIndex = current.stageIndex → run.currentStageIndex ≤ (finished run value now).currentStageIndex := by
    intro current value now here same
    have position := wellFormed.position here
    rcases finished_position run value now with stays | next <;> omega
  cases effect with
  | assigned | submitted | rejected | cancelled => exact Nat.le_refl _
  | completed current | approved current | overridden current => exact moved _ _ _ current rfl

theorem WellFormed.stepped (wellFormed : WellFormed run) (current : Current run stage)
    (same : value.stageIndex = stage.stageIndex)
    (waiting : value.status = .active ∨ value.status = .awaitingApproval) :
    WellFormed (stepped run stage.stageIndex value now) := by
  have position := wellFormed.position current
  refine ⟨by simpa [PipelineRun.stepped, withStage] using wellFormed.within, ?_, ?_⟩
  · intro index found lookup
    obtain ⟨rfl, rfl⟩ | ⟨-, kept⟩ := set_stage lookup
    · exact same
    · exact wellFormed.indexed index found kept
  · intro index found lookup
    obtain ⟨rfl, rfl⟩ | ⟨-, kept⟩ := set_stage lookup
    · simp only [PipelineRun.stepped, PipelineRun.withStage, current.1, StatusFits, position, lt_irrefl, false_implies,
        true_and, and_true, true_implies]
      exact waiting
    · exact wellFormed.fits index found kept

/-- Finishing the current stage completes the run at its last stage, and else moves it to the next. -/
theorem WellFormed.finished (wellFormed : WellFormed run) (current : Current run stage)
    (same : value.stageIndex = stage.stageIndex) : WellFormed (finished run value now) := by
  have position : value.stageIndex = run.currentStageIndex := same.trans (wellFormed.position current)
  have fits := wellFormed.fits
  rw [current.1] at fits
  unfold PipelineRun.finished
  cases later : run.stages[value.stageIndex + 1]? with
  | none =>
    have last : run.stages.length ≤ value.stageIndex + 1 := List.getElem?_eq_none_iff.mp later
    refine ⟨by simpa using wellFormed.within, ?_, ?_⟩
    · intro index found lookup
      obtain ⟨rfl, rfl⟩ | ⟨-, kept⟩ := set_stage lookup
      · rfl
      · exact wellFormed.indexed index found kept
    · intro index found lookup
      obtain ⟨rfl, rfl⟩ | ⟨other, kept⟩ := set_stage lookup
      · rfl
      · have within := (List.getElem?_eq_some_iff.mp kept).1
        exact (fits index found kept).1 (by omega)
  | some next =>
    have within := (List.getElem?_eq_some_iff.mp later).1
    refine ⟨by simpa using within, ?_, ?_⟩
    · intro index found lookup
      obtain ⟨rfl, rfl⟩ | ⟨-, kept⟩ := set_stage lookup
      · exact wellFormed.indexed _ next later
      · obtain ⟨rfl, rfl⟩ | ⟨-, kept⟩ := set_stage kept
        · rfl
        · exact wellFormed.indexed index found kept
    · intro index found lookup
      change StatusFits (value.stageIndex + 1) index found.status run.status
      rw [current.1]
      obtain ⟨rfl, rfl⟩ | ⟨notNext, kept⟩ := set_stage lookup
      · exact ⟨by omega, fun _ => .inl rfl, by omega⟩
      · obtain ⟨rfl, rfl⟩ | ⟨notCurrent, kept⟩ := set_stage kept
        · exact ⟨fun _ => rfl, by omega, by omega⟩
        · obtain ⟨before, -, after⟩ := fits index found kept
          refine ⟨fun earlier => before (by omega), fun reached => absurd reached notNext, ?_⟩
          exact fun later => after (by omega)

theorem WellFormed.closed (within : run.currentStageIndex < run.stages.length) (indexed : Indexed run)
    {closes : PipelineStageRunStatus → Bool}
    (remaining : ∀ (index : Nat) (stage : PipelineStageRunProps), run.stages[index]? = some stage →
      closes stage.status = false → stage.status = .completed ∨ stage.status = .cancelled) :
    WellFormed (closed run closes now) := by
  refine ⟨by simpa [PipelineRun.closed] using within, ?_, ?_⟩
  all_goals
    intro index found lookup
    simp only [PipelineRun.closed, List.getElem?_map, Option.map_eq_some_iff] at lookup
    obtain ⟨before, kept, rfl⟩ := lookup
    split
  · exact indexed index before kept
  · exact indexed index before kept
  · exact .inr rfl
  · next stays => exact remaining index before kept (by simpa using stays)

private theorem WellFormed.completed_or_open (wellFormed : WellFormed run) (active : run.status = .active)
    {index : Nat} (found : run.stages[index]? = some stage) :
    stage.status = .completed ∨ index = run.currentStageIndex ∨ stage.status = .pending := by
  have fits := wellFormed.fits index stage found
  rw [active] at fits
  obtain ⟨before, -, after⟩ := fits
  rcases Nat.lt_trichotomy index run.currentStageIndex with earlier | here | later
  · exact .inl (before earlier)
  · exact .inr (.inl here)
  · exact .inr (.inr (after later))

/-- Every operation that returns keeps the invariant and counts one version. -/
theorem Effect.wellFormed {command : Command} {record : Option PipelineOverrideRecord}
    {after : PipelineRunProps} (effect : Effect run command record after) (wellFormed : WellFormed run) :
    WellFormed after ∧ after.version = run.version + 1 := by
  cases effect with
  | assigned current active =>
    exact ⟨wellFormed.stepped current rfl (.inl active), rfl⟩
  | submitted current =>
    exact ⟨wellFormed.stepped current rfl (.inr rfl), rfl⟩
  | completed current => exact ⟨wellFormed.finished current rfl, finished_version ..⟩
  | approved current => exact ⟨wellFormed.finished current rfl, finished_version ..⟩
  | overridden current => exact ⟨wellFormed.finished current rfl, finished_version ..⟩
  | rejected current awaiting =>
    refine ⟨.closed (by simpa [PipelineRun.withStage] using wellFormed.within) ?_ ?_, rfl⟩
    · intro index found lookup
      obtain ⟨rfl, rfl⟩ | ⟨-, kept⟩ := set_stage lookup
      · rfl
      · exact wellFormed.indexed index found kept
    · intro index found lookup stays
      obtain ⟨rfl, rfl⟩ | ⟨other, kept⟩ := set_stage lookup
      · exact .inr rfl
      · rw [wellFormed.position current] at other
        obtain completed | here | pending := wellFormed.completed_or_open current.1 kept
        · exact .inl completed
        · exact absurd here other
        · simp [pending] at stays
  | cancelled active =>
    refine ⟨.closed wellFormed.within wellFormed.indexed ?_, rfl⟩
    intro index found lookup stays
    cases status : found.status with
    | completed => exact .inl rfl
    | cancelled => exact .inr rfl
    | pending | active | awaitingApproval => simp [status, PipelineStageRunStatus.isOpen] at stays

/-- Everything that an operation can do to one stage run, with the checks that allowed it. -/
inductive StageChange (run : PipelineRunProps) (index : Nat) (stage : PipelineStageRunProps) :
    Command → PipelineStageRunProps → Prop
  | kept {command} : StageChange run index stage command stage
  | staffed {definition agentId now}
      (current : Current run stage) (here : index = run.currentStageIndex)
      (active : stage.status = .active) (unassigned : stage.assignedAgentId = none)
      (defined : run.definition.stages[stage.stageIndex]? = some definition)
      (separated : ∀ predecessorId ∈ definition.separatedFrom,
        assignedTo run.stages predecessorId ≠ some agentId)
      (nonempty : trim agentId ≠ "") :
      StageChange run index stage (.assign agentId stage.roleId now) (staffed stage (trim agentId) now)
  | submitted {agentId now} (active : stage.status = .active) :
      StageChange run index stage (.completeStage agentId now) (submitted stage)
  | completed {definition agentId now} (active : stage.status = .active)
      (defined : run.definition.stages[index]? = some definition)
      (ungated : definition.requiresApproval = false) :
      StageChange run index stage (.completeStage agentId now) (done stage now)
  | approved {definition actorId rationale recorded now} (awaiting : stage.status = .awaitingApproval)
      (defined : run.definition.stages[index]? = some definition)
      (independent : ¬OwnDecision definition stage (trim actorId)) :
      StageChange run index stage (.approveStage actorId rationale now)
        (done (approved stage (trim actorId) recorded now) now)
  | rejected {definition actorId rationale now} (awaiting : stage.status = .awaitingApproval)
      (defined : run.definition.stages[index]? = some definition)
      (independent : ¬OwnDecision definition stage (trim actorId)) :
      StageChange run index stage (.rejectStage actorId rationale now)
        (rejected stage (trim actorId) (trim rationale) now)
  | overridden {input} (current : Current run stage) (here : index = run.currentStageIndex) :
      StageChange run index stage (.overrideCurrent input) (done stage input.now)
  | activated {command} (pending : stage.status = .pending) (next : index = run.currentStageIndex + 1) :
      StageChange run index stage command (activated stage)
  | cancelled {command} (opened : stage.status.isOpen = true) :
      StageChange run index stage command { stage with status := .cancelled }

theorem finished_stage {index : Nat} {final : PipelineStageRunProps}
    (found : (finished run value now).stages[index]? = some final) :
    (index = value.stageIndex ∧ final = done value now) ∨
      (∃ next, index = value.stageIndex + 1 ∧ run.stages[index]? = some next ∧ final = activated next) ∨
      run.stages[index]? = some final := by
  unfold PipelineRun.finished at found
  cases later : run.stages[value.stageIndex + 1]? with
  | none =>
    rw [later] at found
    obtain ⟨here, same⟩ | ⟨-, kept⟩ := set_stage found
    · exact .inl ⟨here, same⟩
    · exact .inr (.inr kept)
  | some next =>
    rw [later] at found
    obtain ⟨rfl, same⟩ | ⟨-, kept⟩ := set_stage found
    · exact .inr (.inl ⟨next, rfl, later, same⟩)
    · obtain ⟨here, same⟩ | ⟨-, kept⟩ := set_stage kept
      · exact .inl ⟨here, same⟩
      · exact .inr (.inr kept)

theorem closed_stage {closes : PipelineStageRunStatus → Bool} {index : Nat} {final : PipelineStageRunProps}
    (found : (closed run closes now).stages[index]? = some final) :
    ∃ stage, run.stages[index]? = some stage ∧
      (final = stage ∨ closes stage.status = true ∧ final = { stage with status := .cancelled }) := by
  rw [PipelineRun.closed, List.getElem?_map, Option.map_eq_some_iff] at found
  obtain ⟨stage, lookup, rfl⟩ := found
  refine ⟨stage, lookup, ?_⟩
  split
  · next closing => exact .inr ⟨closing, rfl⟩
  · exact .inl rfl

theorem WellFormed.next_pending (wellFormed : WellFormed run) (active : run.status = .active)
    (found : run.stages[run.currentStageIndex + 1]? = some stage) : stage.status = .pending := by
  have fits := wellFormed.fits _ stage found
  rw [active] at fits
  exact fits.2.2 (Nat.lt_succ_self _)

private theorem finished_change {command : Command} {index : Nat} {final : PipelineStageRunProps}
    (found : (finished run value now).stages[index]? = some final) (wellFormed : WellFormed run)
    (current : Current run stage) (same : value.stageIndex = stage.stageIndex)
    (change : StageChange run run.currentStageIndex stage command (done value now)) :
    ∃ before, run.stages[index]? = some before ∧ StageChange run index before command final := by
  have position := same.trans (wellFormed.position current)
  obtain ⟨rfl, rfl⟩ | ⟨next, rfl, lookup, rfl⟩ | kept := finished_stage found
  · rw [position]
    exact ⟨stage, current.2, change⟩
  · rw [position] at lookup ⊢
    exact ⟨next, lookup, .activated (wellFormed.next_pending current.1 lookup) rfl⟩
  · exact ⟨final, kept, .kept⟩

theorem Effect.stageChange {command : Command} {record : Option PipelineOverrideRecord}
    {after : PipelineRunProps} (effect : Effect run command record after) (wellFormed : WellFormed run)
    {index : Nat} {final : PipelineStageRunProps} (found : after.stages[index]? = some final) :
    ∃ stage, run.stages[index]? = some stage ∧ StageChange run index stage command final := by
  cases effect with
  | assigned current active unassigned defined separated nonempty =>
    have position := wellFormed.position current
    obtain ⟨rfl, rfl⟩ | ⟨-, kept⟩ := set_stage found
    · exact ⟨_, position ▸ current.2, .staffed current position active unassigned defined separated nonempty⟩
    · exact ⟨final, kept, .kept⟩
  | submitted current active =>
    obtain ⟨rfl, rfl⟩ | ⟨-, kept⟩ := set_stage found
    · exact ⟨_, wellFormed.position current ▸ current.2, .submitted active⟩
    · exact ⟨final, kept, .kept⟩
  | completed current active assigned defined ungated =>
    rw [wellFormed.position current] at defined
    exact finished_change found wellFormed current rfl (.completed active defined ungated)
  | approved current awaiting defined independent =>
    rw [wellFormed.position current] at defined
    exact finished_change found wellFormed current rfl (.approved awaiting defined independent)
  | overridden current =>
    exact finished_change found wellFormed current rfl (.overridden current rfl)
  | rejected current awaiting defined independent =>
    obtain ⟨before, lookup, same⟩ := closed_stage found
    obtain ⟨rfl, rfl⟩ | ⟨other, kept⟩ := set_stage lookup
    · obtain rfl | ⟨closing, -⟩ := same
      · exact ⟨_, wellFormed.position current ▸ current.2, .rejected awaiting defined independent⟩
      · cases closing
    · obtain rfl | ⟨closing, rfl⟩ := same
      · exact ⟨final, kept, .kept⟩
      · refine ⟨before, kept, .cancelled ?_⟩
        rw [of_decide_eq_true closing]
        rfl
  | cancelled active =>
    obtain ⟨before, lookup, rfl | ⟨closing, rfl⟩⟩ := closed_stage found
    · exact ⟨final, lookup, .kept⟩
    · exact ⟨before, lookup, .cancelled closing⟩

theorem Effect.active {command : Command} {record : Option PipelineOverrideRecord}
    {after : PipelineRunProps} (effect : Effect run command record after) : run.status = .active := by
  cases effect with
  | cancelled active => exact active
  | assigned current | submitted current | completed current | approved current | rejected current
  | overridden current => exact current.1

theorem Effect.assign_active {command : Command} {record : Option PipelineOverrideRecord} {after : PipelineRunProps}
    {agentId agentRoleId : String} (effect : Effect run command record after)
    (assigns : command = .assign agentId agentRoleId now) : after.status = .active := by
  cases effect with
  | assigned current => exact current.1
  | submitted | completed | approved | rejected | overridden | cancelled => cases assigns

theorem Effect.cancel_status {command : Command} {record : Option PipelineOverrideRecord} {after : PipelineRunProps}
    {actorId : String} (effect : Effect run command record after) (cancels : command = .cancel actorId now) :
    after.status = .cancelled := by
  cases effect with
  | cancelled => rfl
  | assigned | submitted | completed | approved | rejected | overridden => cases cancels

end AiOffice.Domain.PipelineRun

namespace AiOffice.Domain.PipelineRun

open Data Outcome

variable {run changed after : PipelineRunProps} {command : Command} {record : Option PipelineOverrideRecord}
  {index : Nat} {stage final : PipelineStageRunProps} {clock : Date}

def Command.now : Command → Date
  | .assign _ _ now | .completeStage _ now | .approveStage _ _ now | .rejectStage _ _ now | .cancel _ now => now
  | .overrideCurrent input => input.now

def Command.decides : Command → Bool
  | .approveStage .. | .rejectStage .. => true
  | _ => false

/-- The runs that the operations reach, with the last reading of a clock that never goes back. An
operation that throws takes its reading too. -/
inductive Operated : PipelineRunProps → Date → Prop
  | created {input run} (succeeded : create input = .ok run) : Operated run input.now
  | performed {run clock outcome after} {command : Command} (earlier : Operated run clock)
      (later : clock ≤ command.now) (called : Method.call command.perform run = (outcome, after)) : Operated after command.now

def Undecided (run : PipelineRunProps) : Prop :=
  ∀ stage ∈ run.stages, stage.status.isOpen = true → stage.approvedBy = none

theorem finished_updatedAt (run : PipelineRunProps) (stage : PipelineStageRunProps) (now : Date) :
    (finished run stage now).updatedAt = now := by
  unfold finished
  split <;> rfl

theorem Effect.updatedAt (effect : Effect run command record changed) : changed.updatedAt = command.now := by
  cases effect with
  | assigned | submitted | rejected | cancelled => rfl
  | completed | approved | overridden => exact finished_updatedAt ..

theorem StageChange.undecided (change : StageChange run index stage command final)
    (before : stage.status.isOpen = true → stage.approvedBy = none) (opened : final.status.isOpen = true) :
    final.approvedBy = none := by
  cases change with
  | kept => exact before opened
  | staffed _ _ active => exact before (by rw [active]; rfl)
  | submitted active => exact before (by rw [active]; rfl)
  | activated pending => exact before (by rw [pending]; rfl)
  | completed | approved | rejected | overridden | cancelled => cases opened

theorem Effect.undecided (effect : Effect run command record changed) (wellFormed : WellFormed run)
    (undecided : Undecided run) : Undecided changed := by
  intro final member opened
  obtain ⟨index, found⟩ := List.getElem?_of_mem member
  obtain ⟨stage, before, change⟩ := effect.stageChange wellFormed found
  exact change.undecided (undecided stage (List.mem_of_getElem? before)) opened

theorem Created.undecided {input : CreatePipelineRun} (created : Created input run) : Undecided run := by
  intro stage member _
  obtain ⟨index, found⟩ := List.getElem?_of_mem member
  obtain ⟨definition, -, new⟩ := created.new index stage found
  exact new.unapproved

theorem create_updatedAt {input : CreatePipelineRun} (succeeded : create input = .ok run) :
    run.updatedAt = input.now := by
  unfold create at succeeded
  obtain ⟨-, succeeded⟩ := guard_ok succeeded
  obtain ⟨-, succeeded⟩ := guard_ok succeeded
  obtain ⟨-, succeeded⟩ := guard_ok succeeded
  obtain ⟨_, -, succeeded⟩ := bind_ok succeeded
  obtain ⟨_, -, succeeded⟩ := bind_ok succeeded
  obtain ⟨_, -, succeeded⟩ := bind_ok succeeded
  obtain ⟨_, -, succeeded⟩ := bind_ok succeeded
  obtain ⟨_, -, succeeded⟩ := bind_ok succeeded
  obtain ⟨_, -, succeeded⟩ := bind_ok succeeded
  obtain ⟨_, -, succeeded⟩ := bind_ok succeeded
  cases succeeded
  rfl

theorem Operated.kept (operated : Operated run clock) :
    WellFormed run ∧ Undecided run ∧ run.updatedAt ≤ clock := by
  induction operated with
  | created succeeded =>
    have created := create_created succeeded
    exact ⟨created.wellFormed, created.undecided, Int.le_of_eq (create_updatedAt succeeded)⟩
  | @performed run clock outcome after command _ later called ih =>
    obtain ⟨wellFormed, undecided, inOrder⟩ := ih
    obtain ⟨thrown, threw⟩ | ⟨record, final, returned, effect⟩ := perform_ends wellFormed.indexed command
    · rw [threw] at called
      cases called
      exact ⟨wellFormed, undecided, Int.le_trans inOrder later⟩
    · rw [returned] at called
      cases called
      exact ⟨(effect.wellFormed wellFormed).1, effect.undecided wellFormed undecided,
        Int.le_of_eq effect.updatedAt⟩

theorem Operated.effect (operated : Operated run clock)
    (returned : Method.call command.perform run = (.ok record, after)) : Effect run command record after := by
  obtain ⟨thrown, threw⟩ | ⟨issued, final, ended, effect⟩ := perform_ends operated.kept.1.indexed command
  · rw [threw] at returned
    cases returned
  · rw [ended] at returned
    cases returned
    exact effect

end AiOffice.Domain.PipelineRun
