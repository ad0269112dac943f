import AiOffice.Application.Pipeline.Consistency
import AiOffice.Data.Keyed
import AiOffice.Domain.PipelineRun.Separation

namespace AiOffice.Application.Pipeline

open Data Outcome Domain Domain.PipelineRun Storage.Office

def hasPassed (stage : PipelineStageRunProps) : Prop := stage.status ≠ .pending ∧ stage.status ≠ .active

structure StageKept (before after : PipelineStageRunProps) : Prop where
  id : after.id = before.id
  begun : before.status ≠ .pending → after.status ≠ .pending
  passed : hasPassed before → hasPassed after

structure RunKept (before after : PipelineRunProps) : Prop where
  id : after.id = before.id
  projectId : after.projectId = before.projectId
  taskId : after.taskId = before.taskId
  ended : before.status ≠ .active → after.status ≠ .active
  stages : List.Forall₂ StageKept before.stages after.stages

/-- No run is lost, and a new one has a key for each of its stages. -/
structure PipelinesKept (before after : OfficeTables) : Prop where
  lasting : ∀ run ∈ before.pipelines, ∃ later ∈ after.pipelines, RunKept run later
  origin : ∀ later ∈ after.pipelines, (∃ run ∈ before.pipelines, RunKept run later) ∨
    (later.stages.map PipelineStageRunProps.id).Nodup

def StagesKeyed (tables : OfficeTables) : Prop :=
  ∀ run ∈ tables.pipelines, (run.stages.map PipelineStageRunProps.id).Nodup

variable {tables after : OfficeTables} {run changed later : PipelineRunProps} {stage final : PipelineStageRunProps}
  {command : Command} {record : Option PipelineOverrideRecord} {index : Nat}

theorem StageKept.refl (stage : PipelineStageRunProps) : StageKept stage stage := ⟨rfl, fun begun => begun, fun passed => passed⟩

theorem RunKept.refl (run : PipelineRunProps) : RunKept run run :=
  ⟨rfl, rfl, rfl, fun ended => ended, List.forall₂_same.mpr fun stage _ => .refl stage⟩

theorem PipelinesKept.of_same (same : after.pipelines = tables.pipelines) : PipelinesKept tables after where
  lasting run member := ⟨run, same ▸ member, .refl run⟩
  origin run member := .inl ⟨run, same ▸ member, .refl run⟩

theorem RunKept.stageIds (kept : RunKept run later) :
    later.stages.map PipelineStageRunProps.id = run.stages.map PipelineStageRunProps.id := by
  have each := kept.stages
  generalize run.stages = before at each
  generalize later.stages = after at each
  induction each with
  | nil => rfl
  | cons first _ ih => simp [first.id, ih]

theorem PipelinesKept.keyed (kept : PipelinesKept tables after) (keyed : StagesKeyed tables) : StagesKeyed after := by
  intro later member
  rcases kept.origin later member with ⟨run, stored, same⟩ | unique
  · rw [same.stageIds]
    exact keyed run stored
  · exact unique

theorem StageChange.stageKept (change : StageChange run index stage command final) :
    StageKept stage final := by
  cases change with
  | kept => exact .refl stage
  | staffed _ _ active => exact ⟨rfl, by simp [staffed, active], by simp [hasPassed, active]⟩
  | submitted active => exact ⟨rfl, by simp [submitted], by simp [hasPassed, active]⟩
  | completed | approved | overridden => exact ⟨rfl, by simp [done], by simp [done, hasPassed]⟩
  | rejected => exact ⟨rfl, by simp [rejected], by simp [rejected, hasPassed]⟩
  | activated pending => exact ⟨rfl, by simp [pending], by simp [hasPassed, pending]⟩
  | cancelled => exact ⟨rfl, by simp, by simp [hasPassed]⟩

theorem Effect.runKept (effect : Effect run command record changed) (wellFormed : WellFormed run) :
    RunKept run changed := by
  obtain ⟨sameId, sameProject, sameTask, -⟩ := Effect.kept effect
  refine ⟨sameId, sameProject, sameTask, fun ended => absurd effect.active ended, ?_⟩
  have sameLength := Effect.stages_length effect
  refine List.forall₂_iff_get.mpr ⟨sameLength.symm, fun index here there => ?_⟩
  obtain ⟨stage, found, change⟩ := effect.stageChange wellFormed (List.getElem?_eq_getElem there)
  have same : run.stages.get ⟨index, here⟩ = stage := Option.some.inj ((List.getElem?_eq_getElem here).symm.trans found)
  rw [same]
  exact StageChange.stageKept change

theorem PipelinesKept.trans {middle : OfficeTables} (first : PipelinesKept tables middle)
    (same : after.pipelines = middle.pipelines) : PipelinesKept tables after where
  lasting := by rw [same]; exact first.lasting
  origin := by rw [same]; exact first.origin

theorem PipelinesKept.replaceRun (unique : (tables.pipelines.map PipelineRunProps.id).Nodup)
    (member : run ∈ tables.pipelines) (kept : RunKept run changed) :
    PipelinesKept tables { tables with pipelines := replaceRun tables.pipelines changed } where
  lasting other stored := by
    by_cases same : other.id = changed.id
    · obtain rfl := unique_run unique member stored (same.trans kept.id)
      exact ⟨changed, List.mem_map.mpr ⟨other, stored, if_pos same⟩, kept⟩
    · exact ⟨other, List.mem_map.mpr ⟨other, stored, if_neg same⟩, .refl other⟩
  origin other stored := by
    rcases mem_replaceRun stored with rfl | ⟨also, -⟩
    · exact .inl ⟨run, member, kept⟩
    · exact .inl ⟨other, also, .refl other⟩

theorem saveTask_pipelines {value : TaskProps} (saved : saveTask value tables = .ok after) :
    after.pipelines = tables.pipelines := by
  rw [saveTask_tasks saved]

theorem PipelinesKept.advanced (consistent : Consistent tables) (advance : Advanced tables after run changed) :
    PipelinesKept tables after := by
  obtain ⟨command, record, effect⟩ := advance.effect
  obtain ⟨now, settled, synced, rest⟩ := advance.synced
  have wellFormed := (consistent.stored run advance.member).wellFormed
  have kept := PipelinesKept.replaceRun consistent.runIds advance.member (Effect.runKept effect wellFormed)
  have same : settled.pipelines = Storage.Office.replaceRun tables.pipelines changed := by
    rcases syncTaskTerminal_ok synced with ⟨-, rfl⟩ | ⟨-, row, value, -, -, -, saved⟩
    · rfl
    · exact saveTask_pipelines saved
  exact kept.trans (by rw [rest, same])

theorem insertPipelineRun_keyed (inserted : insertPipelineRun run tables = .ok after) :
    (run.stages.map PipelineStageRunProps.id).Nodup := by
  obtain ⟨-, inserted⟩ := guard_ok inserted
  obtain ⟨-, inserted⟩ := guard_ok inserted
  obtain ⟨-, inserted⟩ := guard_ok inserted
  obtain ⟨-, inserted⟩ := guard_ok inserted
  obtain ⟨-, inserted⟩ := guard_ok inserted
  obtain ⟨-, inserted⟩ := guard_ok inserted
  obtain ⟨-, inserted⟩ := guard_ok inserted
  obtain ⟨keyed, -⟩ := guard_ok inserted
  exact not_not.mp (not_or.mp keyed).1

theorem PipelinesKept.committed (consistent : Consistent tables) {command : OfficeCommand}
    (committed : Committed tables command after) : PipelinesKept tables after := by
  cases committed with
  | created create saved => exact .of_same (saveTask_pipelines saved)
  | moved found sameId moves saved => exact .of_same (saveTask_pipelines saved)
  | @started _ _ _ _ _ new _ settled inserted _ found inProject create sameProject sameTask start saved insert rest =>
    have settledSame := saveTask_pipelines saved
    have added : after.pipelines = tables.pipelines ++ [new] := by
      rw [rest, (insertPipelineRun_ok insert).1, ← settledSame]
    refine ⟨fun run member => ⟨run, ?_, .refl run⟩, fun later member => ?_⟩
    · rw [added]
      exact List.mem_append_left _ member
    · rw [added, List.mem_append, List.mem_singleton] at member
      rcases member with stored | rfl
      · exact .inl ⟨later, stored, .refl later⟩
      · exact .inr (insertPipelineRun_keyed insert)
  | advanced advance => exact .advanced consistent advance
  | replaced known tasks pipelines => exact .of_same pipelines

theorem PipelinesKept.performs (consistent : Consistent tables) {command : OfficeCommand}
    (performs : Performs tables command after) : PipelinesKept tables after := by
  cases performs with
  | committed generated performed =>
    exact .committed consistent (command.perform_committed consistent.runIds consistent.stored performed)
  | refused => exact .of_same rfl

/-- A stage of a run that has passed, or whose run has ended: no agent run can be bound to it any more. -/
def Closed (tables : OfficeTables) (pipelineRunId stageRunId : String) : Prop :=
  ∃ run ∈ tables.pipelines, run.id = pipelineRunId ∧
    (run.status ≠ .active ∨ ∃ stage ∈ run.stages, stage.id = stageRunId ∧ hasPassed stage)

def Begun (tables : OfficeTables) (projectId taskId pipelineRunId stageRunId : String) : Prop :=
  ∃ run ∈ tables.pipelines, run.id = pipelineRunId ∧ run.projectId = projectId ∧ run.taskId = taskId ∧
    ∃ stage ∈ run.stages, stage.id = stageRunId ∧ stage.status ≠ .pending

theorem RunKept.stage_mem (kept : RunKept run later) (member : stage ∈ run.stages) :
    ∃ final ∈ later.stages, StageKept stage final := by
  have each := kept.stages
  generalize run.stages = before at each member
  generalize later.stages = after at each
  induction each with
  | nil => cases member
  | cons first _ ih =>
    rcases List.mem_cons.mp member with rfl | rest
    · exact ⟨_, List.mem_cons_self, first⟩
    · obtain ⟨final, inAfter, same⟩ := ih rest
      exact ⟨final, List.mem_cons_of_mem _ inAfter, same⟩

variable {projectId taskId pipelineRunId stageRunId : String}

theorem Closed.kept (closed : Closed tables pipelineRunId stageRunId) (kept : PipelinesKept tables after) :
    Closed after pipelineRunId stageRunId := by
  obtain ⟨run, member, named, why⟩ := closed
  obtain ⟨later, inAfter, same⟩ := kept.lasting run member
  refine ⟨later, inAfter, same.id.trans named, why.imp same.ended ?_⟩
  rintro ⟨stage, inStages, about, passed⟩
  obtain ⟨final, inFinal, stays⟩ := same.stage_mem inStages
  exact ⟨final, inFinal, stays.id.trans about, stays.passed passed⟩

theorem Begun.kept (begun : Begun tables projectId taskId pipelineRunId stageRunId)
    (kept : PipelinesKept tables after) : Begun after projectId taskId pipelineRunId stageRunId := by
  obtain ⟨run, member, named, inProject, ofTask, stage, inStages, about, started⟩ := begun
  obtain ⟨later, inAfter, same⟩ := kept.lasting run member
  obtain ⟨final, inFinal, stays⟩ := same.stage_mem inStages
  exact ⟨later, inAfter, same.id.trans named, same.projectId.trans inProject, same.taskId.trans ofTask, final, inFinal,
    stays.id.trans about, stays.begun started⟩

theorem not_closed (consistent : Consistent tables) (keyed : StagesKeyed tables) (member : run ∈ tables.pipelines)
    (active : run.status = .active) (inStages : stage ∈ run.stages) (working : stage.status = .active) :
    ¬Closed tables run.id stage.id := by
  rintro ⟨other, also, same, why⟩
  obtain rfl := unique_run consistent.runIds member also same
  rcases why with ended | ⟨second, alsoStage, sameStage, passed⟩
  · exact ended active
  · obtain rfl := keyed_eq (keyed other also) inStages alsoStage sameStage
    exact passed.2 working

theorem begun_cases (wellFormed : WellFormed run) {current : PipelineStageRunProps} (here : Current run current)
    (inStages : stage ∈ run.stages) (begun : stage.status ≠ .pending) : stage = current ∨ hasPassed stage := by
  obtain ⟨index, found⟩ := List.getElem?_of_mem inStages
  have fits := wellFormed.fits index stage found
  rw [here.1] at fits
  obtain ⟨before, -, after⟩ := fits
  rcases Nat.lt_trichotomy index run.currentStageIndex with earlier | rfl | later
  · refine .inr ?_
    simp [hasPassed, before earlier]
  · exact .inl (Option.some.inj (found.symm.trans here.2))
  · exact absurd (after later) begun

theorem Effect.completes {agentId : String} {now : Date}
    (effect : Effect run (.completeStage agentId now) record changed) (wellFormed : WellFormed run) :
    ∃ stage, Current run stage ∧ stage.status = .active ∧ ∃ final ∈ changed.stages, final.id = stage.id ∧ hasPassed final := by
  have placed {stage : PipelineStageRunProps} (current : Current run stage) : stage.stageIndex < run.stages.length := by
    rw [wellFormed.indexed _ _ current.2]
    exact wellFormed.within
  cases effect with
  | @submitted stage _ _ _ current active =>
    refine ⟨stage, current, active, submitted stage, ?_, rfl, by simp [hasPassed, submitted]⟩
    exact List.mem_set (placed current) _
  | @completed stage _ _ _ current active =>
    refine ⟨stage, current, active, done stage now, ?_, rfl, by simp [hasPassed, done]⟩
    unfold finished
    split
    · exact List.mem_set (placed current) _
    · refine List.mem_of_getElem? (i := stage.stageIndex) ?_
      rw [List.getElem?_set_ne (Nat.succ_ne_self _), List.getElem?_set_self (placed current)]

section Continuity

/-- What no command takes from a run: its identity and its plan, the row of every closed stage, and all of a run that has
ended. -/
structure Continues (before after : PipelineRunProps) : Prop where
  identity : after.id = before.id ∧ after.projectId = before.projectId ∧ after.taskId = before.taskId ∧
    after.definition = before.definition
  length : after.stages.length = before.stages.length
  stages : ∀ (index : Nat) (stage : PipelineStageRunProps), before.stages[index]? = some stage →
    ∃ final, after.stages[index]? = some final ∧ StageKept stage final ∧ (stage.status.isOpen = false → final = stage)
  ended : before.status ≠ .active → after = before

theorem Continues.refl (run : PipelineRunProps) : Continues run run :=
  ⟨⟨rfl, rfl, rfl, rfl⟩, rfl, fun _ stage found => ⟨stage, found, .refl stage, fun _ => rfl⟩, fun _ => rfl⟩

theorem Continues.trans (first : Continues run changed) (second : Continues changed later) : Continues run later where
  identity := by
    obtain ⟨sameId, sameProject, sameTask, samePlan⟩ := first.identity
    obtain ⟨againId, againProject, againTask, againPlan⟩ := second.identity
    exact ⟨againId.trans sameId, againProject.trans sameProject, againTask.trans sameTask, againPlan.trans samePlan⟩
  length := second.length.trans first.length
  stages index stage found := by
    obtain ⟨middle, between, kept, closed⟩ := first.stages index stage found
    obtain ⟨final, last, again, closedToo⟩ := second.stages index middle between
    refine ⟨final, last, ⟨again.id.trans kept.id, again.begun ∘ kept.begun, again.passed ∘ kept.passed⟩, fun isClosed => ?_⟩
    obtain rfl := closed isClosed
    exact closedToo isClosed
  ended isEnded := by
    obtain rfl := first.ended isEnded
    exact second.ended isEnded

theorem StageChange.closed_kept (change : StageChange run index stage command final) (wellFormed : WellFormed run)
    (isClosed : stage.status.isOpen = false) : final = stage := by
  cases change with
  | kept => rfl
  | staffed _ _ working | submitted working | completed working | approved working | rejected working
    | activated working =>
    rw [working] at isClosed
    cases isClosed
  | overridden current here =>
    have fits := wellFormed.fits _ stage current.2
    rw [current.1] at fits
    rcases fits.2.1 rfl with working | working <;>
    · rw [working] at isClosed
      cases isClosed
  | cancelled opened =>
    rw [opened] at isClosed
    cases isClosed

theorem Effect.continues (effect : Effect run command record changed) (wellFormed : WellFormed run) :
    Continues run changed := by
  have sameLength := Effect.stages_length effect
  refine ⟨Effect.kept effect, sameLength, fun index stage found => ?_, fun ended => absurd effect.active ended⟩
  have there : index < changed.stages.length := by
    rw [sameLength]
    exact (List.getElem?_eq_some_iff.mp found).1
  obtain ⟨before, here, change⟩ := effect.stageChange wellFormed (List.getElem?_eq_getElem there)
  obtain rfl := Option.some.inj (found.symm.trans here)
  exact ⟨_, List.getElem?_eq_getElem there, StageChange.stageKept change, StageChange.closed_kept change wellFormed⟩

theorem Consistent.continues (consistent : Consistent tables) {command : OfficeCommand}
    (performs : Performs tables command after) (member : run ∈ tables.pipelines) :
    ∃ later ∈ after.pipelines, Continues run later := by
  have unchanged (same : after.pipelines = tables.pipelines) : ∃ later ∈ after.pipelines, Continues run later :=
    ⟨run, same ▸ member, .refl run⟩
  cases performs with
  | refused => exact ⟨run, member, .refl run⟩
  | committed generated performed =>
    cases command.perform_committed consistent.runIds consistent.stored performed with
    | created create saved => exact unchanged (saveTask_pipelines saved)
    | moved found sameId moves saved => exact unchanged (saveTask_pipelines saved)
    | replaced known tasks pipelines => exact unchanged pipelines
    | started _ _ _ _ _ _ saved insert rest =>
      refine ⟨run, ?_, .refl run⟩
      rw [rest, (insertPipelineRun_ok insert).1, saveTask_pipelines saved]
      exact List.mem_append_left _ member
    | @advanced _ before changed _ advance =>
      obtain ⟨command, record, effect⟩ := advance.effect
      obtain ⟨now, settled, synced, rest⟩ := advance.synced
      have replaced : after.pipelines = Storage.Office.replaceRun tables.pipelines changed := by
        rw [rest]
        rcases syncTaskTerminal_ok synced with ⟨-, rfl⟩ | ⟨-, row, value, -, -, -, saved⟩
        · rfl
        · exact saveTask_pipelines saved
      have continued := Effect.continues effect (consistent.stored before advance.member).wellFormed
      rw [replaced]
      by_cases same : run.id = changed.id
      · obtain rfl := unique_run consistent.runIds advance.member member (same.trans continued.identity.1)
        exact ⟨changed, List.mem_map.mpr ⟨run, member, if_pos same⟩, continued⟩
      · exact ⟨run, List.mem_map.mpr ⟨run, member, if_neg same⟩, .refl run⟩

/-- Whatever commands are performed or refused, and in whatever order: the tables stay consistent, with one active run
at most of a task, and every run that was there continues. -/
theorem runs_continue {start : OfficeTables} (blank : Blank start)
    (reached : Transition.Reachable Performs start tables) (further : Transition.Reachable Performs tables after) :
    Consistent after ∧ ∀ run ∈ tables.pipelines, ∃ later ∈ after.pipelines, Continues run later := by
  refine further.invariant (fun after => Consistent after ∧ ∀ run ∈ tables.pipelines, ∃ later ∈ after.pipelines,
    Continues run later) ⟨reachable_consistent blank reached, fun run member => ⟨run, member, .refl run⟩⟩ ?_
  intro before command after ⟨consistent, continued⟩ performs
  refine ⟨consistent.performs performs, fun run member => ?_⟩
  obtain ⟨middle, stored, first⟩ := continued run member
  obtain ⟨later, inAfter, second⟩ := consistent.continues performs stored
  exact ⟨later, inAfter, first.trans second⟩

theorem runs_continue_started : ∃ later ∈ startedOffice.pipelines, Continues startedRun later :=
  (runs_continue ⟨rfl, rfl, rfl⟩ ((Transition.Reachable.refl emptyOffice).snoc emptyOffice_creates |>.snoc
    buildOffice_starts) (.refl startedOffice)).2 startedRun List.mem_cons_self

end Continuity

end AiOffice.Application.Pipeline
