import Mathlib.Data.List.Nodup
import AiOffice.Domain.PipelineRun.Structure
import AiOffice.Storage.Office

namespace AiOffice.Storage.Office

open Data Domain Domain.PipelineRun

/-- A run whose rows pass their checks and whose stages are those of its definition. -/
structure RunStored (run : PipelineRunProps) : Prop where
  wellFormed : WellFormed run
  sameLength : run.stages.length = run.definition.stages.length
  rowValid : runRowValid run = true
  stagesValid : run.stages.all stageRowValid = true

variable {tables after : OfficeTables} {run changed : PipelineRunProps} {command : Command}
  {record : Option PipelineOverrideRecord} {index : Nat} {stage final : PipelineStageRunProps} {now : Date}

private theorem countP_le_one {Value : Type} {holds : Value → Bool} {values : List Value}
    (unique : ∀ (first second : Nat) (left right : Value), values[first]? = some left → values[second]? = some right →
      holds left = true → holds right = true → first = second) : values.countP holds ≤ 1 := by
  induction values with
  | nil => exact Nat.zero_le 1
  | cons value values ih =>
    by_cases held : holds value = true
    · have none : values.countP holds = 0 := by
        rw [List.countP_eq_zero]
        intro other member also
        obtain ⟨position, found⟩ := List.getElem?_of_mem member
        have same := unique 0 (position + 1) value other rfl (by simpa using found) held also
        omega
      rw [List.countP_cons_of_pos held, none]
    · rw [List.countP_cons_of_neg held]
      refine ih fun first second left right foundLeft foundRight heldLeft heldRight => ?_
      have same := unique (first + 1) (second + 1) left right (by simpa using foundLeft) (by simpa using foundRight)
        heldLeft heldRight
      omega

theorem atWork_current (wellFormed : WellFormed run) (found : run.stages[index]? = some stage)
    (working : atWork stage = true) : index = run.currentStageIndex := by
  have fits := wellFormed.fits index stage found
  simp only [atWork, Bool.or_eq_true, decide_eq_true_eq] at working
  cases status : run.status with
  | active =>
    rw [status] at fits
    obtain ⟨before, -, later⟩ := fits
    rcases Nat.lt_trichotomy index run.currentStageIndex with earlier | here | afterwards
    · rw [before earlier] at working
      simp at working
    · exact here
    · rw [later afterwards] at working
      simp at working
  | completed =>
    rw [status] at fits
    rw [show stage.status = .completed from fits] at working
    simp at working
  | cancelled =>
    rw [status] at fits
    rcases fits with completed | cancelled
    · rw [completed] at working
      simp at working
    · rw [cancelled] at working
      simp at working

theorem oneAtWork_stages (wellFormed : WellFormed run) : oneAtWork run.stages = true := by
  have atMostOne : run.stages.countP atWork ≤ 1 := countP_le_one fun first second left right foundLeft foundRight
    workingLeft workingRight => (atWork_current wellFormed foundLeft workingLeft).trans
      (atWork_current wellFormed foundRight workingRight).symm
  exact decide_eq_true atMostOne

theorem Effect.overwrites (effect : Effect run command record changed) : overwriteRun run changed = changed := by
  cases effect with
  | assigned | submitted | rejected | cancelled => rfl
  | completed | approved | overridden =>
    unfold finished
    split <;> rfl

theorem Effect.stages_length (effect : Effect run command record changed) :
    changed.stages.length = run.stages.length := by
  cases effect with
  | assigned | submitted | rejected | cancelled => simp [stepped, withStage, closed]
  | completed | approved | overridden =>
    unfold finished
    split <;> simp

def MovesStatuses (now : Date) : Command → Prop
  | .completeStage _ time | .cancel _ time => time = now
  | _ => False

/-- The row of a stage passes every trigger and check of its columns, unless a decision is already there. -/
theorem StageChange.accepted (change : StageChange run index stage command final) (wellFormed : WellFormed run)
    (valid : stageRowValid stage = true)
    (undecided : command.decides = true → stage.status = .awaitingApproval → stage.approvedBy = none) :
    stageStatusMoves stage.status final.status = true ∧ assignmentKept stage final = true ∧
      approvalKept stage final = true ∧ stageRowValid final = true := by
  simp only [stageRowValid, Bool.and_eq_true, decide_eq_true_eq, Bool.or_eq_true, Option.isNone_iff_eq_none] at valid
  obtain ⟨⟨⟨⟨⟨⟨name, role⟩, staffing⟩, decided⟩, decision⟩, rationale⟩, completion⟩ := valid
  replace decided := decided.symm
  replace decision := decision.symm
  have unfinished : stage.status ≠ .completed → stage.completedAt.isSome = false := by
    intro unclosed
    rw [← Bool.not_eq_true, ← completion]
    exact unclosed
  cases change with
  | kept =>
    refine ⟨by simp [stageStatusMoves], by simp [assignmentKept], by simp [approvalKept], ?_⟩
    simp [stageRowValid, name, role, staffing, decided, decision, rationale, completion]
  | staffed _ _ active unassigned =>
    refine ⟨by simp [stageStatusMoves, staffed], by simp [assignmentKept, staffed, unassigned, active],
      by simp [approvalKept, staffed], ?_⟩
    simp [stageRowValid, staffed, name, role, decided, decision, rationale, completion]
  | submitted active =>
    refine ⟨by simp [stageStatusMoves, submitted, active], by simp [assignmentKept, submitted],
      by simp [approvalKept, submitted], ?_⟩
    simp [stageRowValid, submitted, name, role, staffing, decided, decision, rationale,
      unfinished (by simp [active])]
  | completed active =>
    refine ⟨by simp [stageStatusMoves, done, active], by simp [assignmentKept, done],
      by simp [approvalKept, done], ?_⟩
    simp [stageRowValid, done, name, role, staffing, decided, decision, rationale]
  | approved awaiting =>
    have before := undecided rfl awaiting
    refine ⟨by simp [stageStatusMoves, done, approved, awaiting], by simp [assignmentKept, done, approved],
      by simp [approvalKept, done, approved, awaiting, before], ?_⟩
    simp [stageRowValid, done, approved, name, role, staffing]
  | rejected awaiting =>
    have before := undecided rfl awaiting
    refine ⟨by simp [stageStatusMoves, rejected, awaiting], by simp [assignmentKept, rejected],
      by simp [approvalKept, rejected, awaiting, before], ?_⟩
    simp [stageRowValid, rejected, name, role, staffing, unfinished (by simp [awaiting])]
  | overridden current here =>
    have working := (wellFormed.fits _ stage current.2)
    rw [current.1] at working
    refine ⟨?_, by simp [assignmentKept, done], by simp [approvalKept, done], ?_⟩
    · rcases working.2.1 rfl with active | awaiting
      · simp [stageStatusMoves, done, active]
      · simp [stageStatusMoves, done, awaiting]
    · simp [stageRowValid, done, name, role, staffing, decided, decision, rationale]
  | activated pending =>
    refine ⟨by simp [stageStatusMoves, activated, pending], by simp [assignmentKept, activated],
      by simp [approvalKept, activated], ?_⟩
    simp [stageRowValid, activated, name, role, staffing, decided, decision, rationale,
      unfinished (by simp [pending])]
  | cancelled opened =>
    have unclosed : stage.status ≠ .completed := by
      intro completed
      rw [completed] at opened
      cases opened
    refine ⟨?_, by simp [assignmentKept], by simp [approvalKept], ?_⟩
    · revert opened
      cases stage.status <;> simp [stageStatusMoves, PipelineStageRunStatus.isOpen]
    · simp [stageRowValid, name, role, staffing, decided, decision, rationale, unfinished unclosed]

theorem StageChange.assignee (change : StageChange run index stage command final) :
    final.assignedAgentId = stage.assignedAgentId ∨
      ∃ agentId now, command = .assign agentId stage.roleId now ∧ final.assignedAgentId = some (trim agentId) := by
  cases change with
  | staffed => exact .inr ⟨_, _, rfl, rfl⟩
  | kept | submitted | completed | approved | rejected | overridden | activated | cancelled => exact .inl rfl

theorem MovesStatuses.eq_now (moves : MovesStatuses now command) : command.now = now := by
  cases command with
  | completeStage | cancel => exact moves
  | assign | approveStage | rejectStage | overrideCurrent => cases moves

theorem MovesStatuses.undecided (moves : MovesStatuses now command) : command.decides = false := by
  cases command with
  | approveStage | rejectStage => cases moves
  | completeStage | cancel | assign | overrideCurrent => rfl

theorem MovesStatuses.assignee (moves : MovesStatuses now command)
    (change : StageChange run index stage command final) : final.assignedAgentId = stage.assignedAgentId := by
  rcases StageChange.assignee change with same | ⟨agentId, time, rfl, -⟩
  · exact same
  · cases moves

theorem Effect.kept (effect : Effect run command record changed) :
    changed.id = run.id ∧ changed.projectId = run.projectId ∧ changed.taskId = run.taskId ∧
      changed.definition = run.definition := by
  rw [← Effect.overwrites effect]
  exact ⟨rfl, rfl, rfl, rfl⟩

theorem Effect.rowValid (effect : Effect run command record changed)
    (valid : runRowValid run = true) : runRowValid changed = true := by
  have active := effect.active
  simp only [runRowValid, active, Bool.and_eq_true, decide_eq_true_eq] at valid
  obtain ⟨⟨⟨revision, -⟩, actor⟩, incomplete, uncancelled⟩ := valid
  cases effect with
  | assigned | submitted => simp [runRowValid, stepped, withStage, active, revision, actor, incomplete, uncancelled]
  | rejected => simp [runRowValid, closed, withStage, revision, actor, incomplete]
  | cancelled => simp [runRowValid, closed, revision, actor, incomplete]
  | completed | approved | overridden =>
    unfold finished
    split
    · simp [runRowValid, revision, actor, uncancelled]
    · simp [runRowValid, active, revision, actor, incomplete, uncancelled]

theorem Effect.runAccepted (effect : Effect run command record changed) (wellFormed : WellFormed run)
    (valid : runRowValid run = true) (later : run.updatedAt ≤ command.now) : runUpdateRefusal run changed = none := by
  have inOrder : ¬command.now < run.updatedAt := Int.not_lt.mpr later
  simp [runUpdateRefusal, (effect.wellFormed wellFormed).2, effect.updatedAt, inOrder, effect.active,
    Effect.rowValid effect valid]

theorem Effect.accepted (effect : Effect run command record changed) (stored : RunStored run)
    (moves : MovesStatuses now command) (later : run.updatedAt ≤ now) :
    (runUpdateRefusal run changed).or (stagesUpdateRefusal tables run changed) = none := by
  have runPasses : runUpdateRefusal run changed = none :=
    Effect.runAccepted effect stored.wellFormed stored.rowValid (by rwa [MovesStatuses.eq_now moves])
  have stagesPass : stagesUpdateRefusal tables run changed = none := by
    simp only [stagesUpdateRefusal, oneAtWork_stages (effect.wellFormed stored.wellFormed).1, Bool.not_true,
      Bool.false_eq_true, if_false]
    rw [List.findSome?_eq_none_iff]
    rintro ⟨stage, final⟩ member
    obtain ⟨index, found⟩ := List.getElem?_of_mem member
    obtain ⟨here, after⟩ : run.stages[index]? = some stage ∧ changed.stages[index]? = some final :=
      List.getElem?_zip_eq_some.mp found
    obtain ⟨before, same, change⟩ := effect.stageChange stored.wellFormed after
    obtain rfl : stage = before := Option.some.inj (here.symm.trans same)
    have valid := List.all_eq_true.mp stored.stagesValid stage (List.mem_of_getElem? here)
    obtain ⟨moved, assignment, approval, rowValid⟩ := StageChange.accepted change stored.wellFormed valid
      (by simp [MovesStatuses.undecided moves])
    have known : assigneeKnown tables run.projectId stage final = true := by
      simp [assigneeKnown, MovesStatuses.assignee moves change]
    simp [stageUpdateRefusal, moved, assignment, approval, rowValid, known]
  rw [runPasses, stagesPass]
  rfl

theorem Effect.stored (effect : Effect run command record changed) (stored : RunStored run)
    (passed : (runUpdateRefusal run changed).or (stagesUpdateRefusal tables run changed) = none) :
    RunStored changed := by
  rw [Option.or_eq_none_iff] at passed
  obtain ⟨runPasses, stagesPass⟩ := passed
  have sameLength := Effect.stages_length effect
  refine ⟨(effect.wellFormed stored.wellFormed).1, ?_, ?_, ?_⟩
  · rw [sameLength, (Effect.kept effect).2.2.2, stored.sameLength]
  · unfold runUpdateRefusal at runPasses
    split_ifs at runPasses with _ _ invalid
    simpa using invalid
  · simp only [stagesUpdateRefusal] at stagesPass
    split at stagesPass
    · cases stagesPass
    · rw [List.findSome?_eq_none_iff] at stagesPass
      rw [List.all_eq_true]
      intro final member
      obtain ⟨index, found⟩ := List.getElem?_of_mem member
      obtain ⟨within, -⟩ := List.getElem?_eq_some_iff.mp found
      obtain ⟨stage, before⟩ : ∃ stage, run.stages[index]? = some stage :=
        ⟨_, List.getElem?_eq_getElem (sameLength ▸ within)⟩
      have paired : (stage, final) ∈ run.stages.zip changed.stages :=
        List.mem_of_getElem? (List.getElem?_zip_eq_some.mpr ⟨before, found⟩)
      have passes := stagesPass _ paired
      unfold stageUpdateRefusal at passes
      split_ifs at passes with _ _ _ invalid
      simpa using invalid

theorem Effect.inOrder (passed : (runUpdateRefusal run changed).or (stagesUpdateRefusal tables run changed) = none) :
    run.updatedAt ≤ changed.updatedAt := by
  have runPasses := (Option.or_eq_none_iff.mp passed).1
  unfold runUpdateRefusal at runPasses
  split at runPasses
  · cases runPasses
  · next inOrder => exact Int.not_lt.mp (not_or.mp inOrder).2

def replaceRun (runs : List PipelineRunProps) (changed : PipelineRunProps) : List PipelineRunProps :=
  runs.map fun stored => if stored.id = changed.id then changed else stored

theorem replaceRun_ids (runs : List PipelineRunProps) (changed : PipelineRunProps) :
    (replaceRun runs changed).map PipelineRunProps.id = runs.map PipelineRunProps.id := by
  simp only [replaceRun, List.map_map]
  refine List.map_congr_left fun other _ => ?_
  simp only [Function.comp_apply]
  split
  · next same => exact same.symm
  · rfl

theorem mem_replaceRun {runs : List PipelineRunProps} (member : run ∈ replaceRun runs changed) :
    run = changed ∨ run ∈ runs ∧ run.id ≠ changed.id := by
  obtain ⟨before, stored, rfl⟩ := List.mem_map.mp member
  split
  · exact .inl rfl
  · next other => exact .inr ⟨stored, other⟩

theorem unique_run (unique : (tables.pipelines.map PipelineRunProps.id).Nodup) {other : PipelineRunProps}
    (member : run ∈ tables.pipelines) (also : other ∈ tables.pipelines) (same : other.id = run.id) : other = run :=
  List.inj_on_of_nodup_map unique also member same

theorem findPipelineRun_of_mem (unique : (tables.pipelines.map PipelineRunProps.id).Nodup)
    (member : run ∈ tables.pipelines) : tables.findPipelineRun run.id run.projectId = some run := by
  cases lookup : tables.findPipelineRun run.id run.projectId with
  | none =>
    have absent := List.find?_eq_none.mp lookup run member
    simp at absent
  | some found =>
    obtain ⟨stored, same, -⟩ := findPipelineRun_found lookup
    rw [unique_run unique member stored same]

theorem replaceRun_found (unique : (tables.pipelines.map PipelineRunProps.id).Nodup) (member : run ∈ tables.pipelines)
    (sameId : changed.id = run.id) (sameProject : changed.projectId = run.projectId) :
    OfficeTables.findPipelineRun { tables with pipelines := replaceRun tables.pipelines changed } run.id run.projectId =
      some changed := by
  have present : changed ∈ replaceRun tables.pipelines changed :=
    List.mem_map.mpr ⟨run, member, if_pos sameId.symm⟩
  rw [← sameId, ← sameProject]
  exact findPipelineRun_of_mem (by rw [replaceRun_ids]; exact unique) present

theorem savePipelineRun_effect (unique : (tables.pipelines.map PipelineRunProps.id).Nodup)
    (member : run ∈ tables.pipelines) (effect : Effect run command record changed) :
    savePipelineRun changed run.version tables =
      match (runUpdateRefusal run changed).or (stagesUpdateRefusal tables run changed) with
      | some message => .error (abort message)
      | none => .ok (true, { tables with pipelines := replaceRun tables.pipelines changed }) := by
  obtain ⟨sameId, sameProject, -⟩ := Effect.kept effect
  have versioned : hasVersion changed run.version run = true := by simp [hasVersion, sameId, sameProject]
  have only : ∀ stored ∈ tables.pipelines, hasVersion changed run.version stored = true → stored = run := by
    intro stored also matched
    simp only [hasVersion, Bool.and_eq_true, decide_eq_true_eq] at matched
    exact unique_run unique member also (matched.1.1.trans sameId)
  have found : tables.pipelines.find? (hasVersion changed run.version) = some run := by
    cases lookup : tables.pipelines.find? (hasVersion changed run.version) with
    | none => exact absurd versioned (by simpa using List.find?_eq_none.mp lookup run member)
    | some stored => rw [only stored (List.mem_of_find?_eq_some lookup) (List.find?_some lookup)]
  have replaced : tables.replacePipelineRun changed run.version =
      { tables with pipelines := replaceRun tables.pipelines changed } := by
    unfold OfficeTables.replacePipelineRun replaceRun
    congr 1
    refine List.map_congr_left fun stored also => ?_
    by_cases same : stored.id = run.id
    · obtain rfl := unique_run unique member also same
      rw [if_pos versioned, if_pos sameId.symm, Effect.overwrites effect]
    · have other : hasVersion changed run.version stored = false := by simp [hasVersion, sameId, same]
      rw [if_neg (by rw [other]; exact Bool.false_ne_true), if_neg (by rw [sameId]; exact same)]
  unfold savePipelineRun
  cases refused : (runUpdateRefusal run changed).or (stagesUpdateRefusal tables run changed) <;>
    simp only [found, replaced, refused]

end AiOffice.Storage.Office
