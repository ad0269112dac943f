import AiOffice.Application.Pipeline.OrchestratePipelineStage.Interleaving
import AiOffice.Application.Pipeline.OrchestratePipelineStage.Stages
import AiOffice.Application.ScheduleAgentRun.Exclusion

namespace AiOffice.Application.Pipeline.OrchestratePipelineStage

open Data Outcome Domain Domain.PipelineRun Storage.AgentRuntime Storage.Office
  Application.ScheduleAgentRun ManagePipelineRuns

variable {Json : Type} {office after : OfficeTables} {pipeline run : PipelineRunProps} {stage : PipelineStageRunProps}

theorem currentStage_found (returned : (Method.call currentStage run).1 = .ok (some stage)) : Current run stage := by
  rw [call_currentStage] at returned
  split at returned
  · cases returned
  · next active =>
    split at returned
    · next found =>
      cases returned
      exact ⟨not_not.mp active, found⟩
    · cases returned

theorem readPipeline_found {intent : PipelineStageIntent}
    (read : readPipeline intent office = .ok (some (pipeline, stage))) :
    pipeline ∈ office.pipelines ∧ pipeline.projectId = intent.projectId ∧ Current pipeline stage ∧
      stage.status = .active := by
  unfold readPipeline at read
  split at read
  · cases read
  · next run found =>
    obtain ⟨member, -, inProject⟩ := findPipelineRun_found found
    obtain ⟨answer, returned, read⟩ := bind_ok read
    split at read
    · cases read
    · next current =>
      split at read
      · cases read
      · next working =>
        cases read
        simp only [not_or, not_not] at working
        exact ⟨member, inProject, currentStage_found returned, working.2.1⟩

theorem readStage_found {input : ScheduleInput Json} {pipelineRunId stageRunId : String}
    (read : readStage input office = .ok (some (pipelineRunId, stageRunId))) :
    ∃ pipeline ∈ office.pipelines, pipeline.id = pipelineRunId ∧ pipeline.projectId = input.projectId ∧
      pipeline.taskId = input.taskId ∧ ∃ stage, Current pipeline stage ∧ stage.status = .active ∧ stage.id = stageRunId := by
  unfold readStage at read
  split at read
  · cases read
  · next pipeline found =>
    have matched := List.find?_some found
    simp only [Bool.and_eq_true, decide_eq_true_eq] at matched
    obtain ⟨answer, returned, read⟩ := bind_ok read
    unfold bound at read
    split at read
    · cases read
    · next stage =>
      split at read
      · cases read
      · next working =>
        cases read
        simp only [not_or, not_not] at working
        exact ⟨pipeline, List.mem_of_find?_eq_some found, rfl, matched.1.2, matched.1.1, stage,
          currentStage_found returned, working.1, rfl⟩

theorem Current.mem (current : Current run stage) : stage ∈ run.stages := List.mem_of_getElem? current.2

theorem createRun_bound {services : ScheduleServices Json} {input : ScheduleInput Json} {id : String} {now : Date}
    {created : AgentRunProps Json} (creates : createRun services input id now office = .ok created) :
    created.projectId = input.projectId ∧ ∃ stage, readStage input office = .ok stage ∧
      created.pipelineRunId = stage.map (·.1) ∧ created.pipelineStageRunId = stage.map (·.2) := by
  obtain ⟨agent, -, creates⟩ := bind_ok creates
  obtain ⟨role, -, creates⟩ := bind_ok creates
  obtain ⟨stage, read, creates⟩ := bind_ok creates
  obtain ⟨modelRouting, -, creates⟩ := bind_ok creates
  obtain ⟨inProject, pipelineRun, stageRun⟩ := AgentRun.create_bound creates
  exact ⟨inProject, stage, read, pipelineRun, stageRun⟩

theorem admitted_bound {services : ScheduleServices Json} {input : ScheduleInput Json} {id : String} {now : Date}
    {run : AgentRunProps Json} (created : createRun services input id now office = .ok run)
    {pipelineRunId stageRunId : String} (bound : boundTo pipelineRunId stageRunId run.toAgentRunState) :
    readStage input office = .ok (some (pipelineRunId, stageRunId)) := by
  obtain ⟨-, stage, read, pipelineRun, stageRun⟩ := createRun_bound created
  obtain ⟨ofPipeline, ofStage⟩ := bound
  rw [pipelineRun] at ofPipeline
  rw [stageRun] at ofStage
  cases stage with
  | none => cases ofPipeline
  | some stage =>
    cases ofPipeline
    cases ofStage
    exact read

theorem commitAssignment_advanced (consistent : Consistent office) {input : AssignStage} {roleKey : String} {now : Date}
    (committed : commitAssignment input roleKey now office = .ok (run, after)) :
    ∃ before, Advanced office after before run := by
  obtain ⟨before, required, committed⟩ := bind_ok committed
  obtain ⟨⟨performed, persisted⟩, changed, committed⟩ := bind_ok committed
  cases committed
  have member := (requireRun_ok required).1
  obtain ⟨effect, stored, -, rfl⟩ :=
    performAndPersist_ok consistent.runIds member (consistent.stored before member) changed
  have sync : syncTaskTerminal performed.run now
      { office with pipelines := replaceRun office.pipelines performed.run } =
      .ok { office with pipelines := replaceRun office.pipelines performed.run } := by
    rw [syncTaskTerminal, if_pos (effect.assign_active rfl)]
  exact ⟨before, member, ⟨_, _, effect⟩, stored, ⟨now, _, sync, rfl⟩⟩

/-- A completion closes the stage of its principal, which was not closed before. -/
theorem commitCompletion_closes (consistent : Consistent office) (keyed : StagesKeyed office) {projectId : String}
    {principal : AgentExecutionPrincipal} {now synced : Date}
    (committed : commitCompletion projectId principal now synced office = .ok (run, after)) :
    (∃ before, Advanced office after before run) ∧
      ¬Closed office principal.pipelineRunId principal.pipelineStageRunId ∧
      Closed after principal.pipelineRunId principal.pipelineStageRunId := by
  obtain ⟨before, required, committed⟩ := bind_ok committed
  obtain ⟨granted, authorized, committed⟩ := bind_ok committed
  obtain ⟨⟨performed, persisted⟩, changed, committed⟩ := bind_ok committed
  obtain ⟨settled, sync, committed⟩ := bind_ok committed
  obtain ⟨enqueued, enqueue, committed⟩ := bind_ok committed
  cases committed
  obtain ⟨member, about, -⟩ := requireRun_ok required
  have wellFormed := (consistent.stored before member).wellFormed
  obtain ⟨effect, stored, -, rfl⟩ :=
    performAndPersist_ok consistent.runIds member (consistent.stored before member) changed
  obtain ⟨answer, returned, authorized⟩ := bind_ok authorized
  obtain ⟨stage, here, active, final, inFinal, sameId, passed⟩ := Effect.completes effect wellFormed
  rw [call_currentStage_current here] at returned
  cases returned
  obtain ⟨refused, -⟩ := guard_ok authorized
  have named : stage.id = principal.pipelineStageRunId := by
    simp only [authorizesStage, not_or, Bool.not_eq_false, Bool.and_eq_true, decide_eq_true_eq] at refused
    exact refused.2.1.1.1
  have opened := not_closed consistent keyed member here.1 (Current.mem here) active
  have replaced : Closed { office with pipelines := replaceRun office.pipelines performed.run }
      principal.pipelineRunId principal.pipelineStageRunId := by
    have sameRun := (Effect.kept effect).1
    refine ⟨performed.run, List.mem_map.mpr ⟨before, member, if_pos sameRun.symm⟩, sameRun.trans about,
      .inr ⟨final, inFinal, sameId.trans named, passed⟩⟩
  refine ⟨⟨before, member, ⟨_, _, effect⟩, stored, ⟨synced, settled, sync, ?_⟩⟩, about ▸ named ▸ opened, ?_⟩
  · rw [enqueueNext_ok enqueue]
  · have same : after.pipelines = replaceRun office.pipelines performed.run := by
      rw [enqueueNext_ok enqueue]
      rcases syncTaskTerminal_ok sync with ⟨-, rfl⟩ | ⟨-, row, value, -, -, -, saved⟩
      · rfl
      · exact saveTask_pipelines saved
    exact replaced.kept (.of_same same)

theorem completedBy_closes (consistent : Consistent office) (keyed : StagesKeyed office) {command : OfficeCommand}
    (performs : Performs office command after) {pipelineRunId stageRunId : String}
    (completes : completedBy office command = some (pipelineRunId, stageRunId)) :
    ¬Closed office pipelineRunId stageRunId ∧ Closed after pipelineRunId stageRunId := by
  cases command with
  | completeStage input now synced =>
    unfold completedBy at completes
    cases bound : agentPrincipal input office with
    | error thrown => simp [bound] at completes
    | ok principal =>
      have parts : completeStageFromAgentRun input now synced office =
          commitCompletion input.projectId principal now synced office := by
        rw [completeStage_parts, bound]
        rfl
      cases completed : commitCompletion input.projectId principal now synced office with
      | error thrown => simp [bound, parts, completed] at completes
      | ok result =>
        simp only [bound, parts, completed, Option.some.injEq, Prod.mk.injEq] at completes
        obtain ⟨rfl, rfl⟩ := completes
        have left : (completeStageFromAgentRun input now synced office).map Prod.snd = .ok result.2 := by
          rw [parts, completed]
          rfl
        cases performs with
        | committed generated performed =>
          obtain rfl : result.2 = after := Except.ok.inj (left.symm.trans performed)
          exact (commitCompletion_closes consistent keyed completed).2
        | refused threw => cases left.symm.trans threw
  | createTask | task | start | assign | approveStage | rejectStage | overrideStage | cancel | replaceOthers =>
    cases completes

end AiOffice.Application.Pipeline.OrchestratePipelineStage
