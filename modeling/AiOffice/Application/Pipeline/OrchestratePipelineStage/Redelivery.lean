import AiOffice.Application.Pipeline.OrchestratePipelineStage.Leases

namespace AiOffice.Application.Pipeline.OrchestratePipelineStage

open Data Outcome Domain Domain.PipelineRun Storage.AgentRuntime
  Storage.AgentRuntime.RuntimeTables Storage.Office Application.ScheduleAgentRun
  ManagePipelineRuns

variable {Json : Type}

/-- The pipeline that a delivery is about to schedule a run for, with the stage whose runs it has still to check. -/
def awaits : OrchestrationPhase → Option (PipelineRunProps × Option (String × String))
  | .runs pipeline stage => some (pipeline, some (pipeline.id, stage.id))
  | .agents pipeline _ | .candidate pipeline _ | .assignment pipeline _ _ | .task pipeline _ => some (pipeline, none)
  | _ => none

/-- The stages of the runs of a task that had ended are closed, but for one. -/
def Passed (orchestration : Orchestration Json) (ended : List String) (taskId : String)
    (checking : Option (String × String)) : Prop :=
  ∀ row ∈ orchestration.rows, row.id ∈ ended → row.taskId = taskId → ∀ pipelineRunId stageRunId,
    boundTo pipelineRunId stageRunId row → Closed orchestration.runtime.office pipelineRunId stageRunId ∨
      checking = some (pipelineRunId, stageRunId)

structure Sound (orchestration : Orchestration Json) : Prop where
  exclusive : Exclusive orchestration.runtime
  consistent : Consistent orchestration.runtime.office
  keyed : StagesKeyed orchestration.runtime.office
  leased : Leased orchestration.runtime
  begun : ∀ row ∈ orchestration.rows, ∀ pipelineRunId stageRunId, boundTo pipelineRunId stageRunId row →
    Begun orchestration.runtime.office row.projectId row.taskId pipelineRunId stageRunId
  ended : ∀ caller delivery, orchestration.deliveries caller = some delivery → ∀ id ∈ delivery.ended,
    ∃ row ∈ orchestration.rows, row.id = id ∧ failedOrCancelled row = true
  awaiting : ∀ caller delivery pipeline checking, orchestration.deliveries caller = some delivery →
    awaits delivery.phase = some (pipeline, checking) →
      Known orchestration.runtime.office delivery.intent.projectId pipeline.taskId ∧
        Passed orchestration delivery.ended pipeline.taskId checking
  scheduling : ∀ caller call, orchestration.runtime.scheduling caller = some call →
    ∃ delivery, orchestration.deliveries caller = some delivery ∧ delivery.phase = .schedule ∧
      Passed orchestration delivery.ended call.input.taskId none
  completed : orchestration.completions.Nodup ∧
    ∀ stage ∈ orchestration.completions, Closed orchestration.runtime.office stage.1 stage.2

structure Evolves (before after : Orchestration Json) : Prop where
  lasting : ∀ row ∈ before.rows, ∃ later ∈ after.rows, Follows row later
  origin : ∀ later ∈ after.rows, (∃ row ∈ before.rows, Follows row later) ∨ ∀ row ∈ before.rows, row.id ≠ later.id
  pipelines : PipelinesKept before.runtime.office after.runtime.office

variable {orchestration before after : Orchestration Json} {ended : List String} {taskId : String}
  {checking : Option (String × String)} {caller : Nat} {delivery : Delivery}

theorem failedOrCancelled_kept {row later : AgentRunState Json} (follows : Follows row later)
    (ended : failedOrCancelled row = true) : failedOrCancelled later = true := by
  rcases follows.status with same | advances
  · rwa [failedOrCancelled, same]
  · have opened := advances.not_terminal
    simp only [failedOrCancelled, List.mem_cons, List.not_mem_nil, or_false, decide_eq_true_eq] at ended
    rcases ended with same | same <;> · rw [same] at opened; cases opened

theorem Passed.evolves (passed : Passed before ended taskId checking) (evolves : Evolves before after)
    (stood : ∀ id ∈ ended, ∃ row ∈ before.rows, row.id = id) : Passed after ended taskId checking := by
  intro later member inEnded ofTask pipelineRunId stageRunId bound
  rcases evolves.origin later member with ⟨row, earlier, follows⟩ | new
  · rw [boundTo, follows.pipelineRunId, follows.pipelineStageRunId] at bound
    refine (passed row earlier (follows.id ▸ inEnded) (follows.taskId ▸ ofTask) _ _ bound).imp_left fun closed => ?_
    exact closed.kept evolves.pipelines
  · obtain ⟨row, earlier, same⟩ := stood later.id inEnded
    exact absurd same (new row earlier)

/-- What changes the rows or the office keeps the invariant. -/
theorem Sound.evolves (sound : Sound before) (evolves : Evolves before after) (exclusive : Exclusive after.runtime)
    (consistent : Consistent after.runtime.office) (leased : Leased after.runtime)
    (begun : ∀ row ∈ after.rows, (∀ earlier ∈ before.rows, earlier.id ≠ row.id) → ∀ pipelineRunId stageRunId,
      boundTo pipelineRunId stageRunId row →
        Begun after.runtime.office row.projectId row.taskId pipelineRunId stageRunId)
    (deliveries : after.deliveries = before.deliveries)
    (calls : ∀ caller call, after.runtime.scheduling caller = some call →
      ∃ earlier, before.runtime.scheduling caller = some earlier ∧ earlier.input = call.input)
    (completions : after.completions = before.completions) : Sound after := by
  have stood (caller : Nat) (delivery : Delivery) (here : before.deliveries caller = some delivery) :
      ∀ id ∈ delivery.ended, ∃ row ∈ before.rows, row.id = id := fun id member => by
    obtain ⟨row, earlier, same, -⟩ := sound.ended caller delivery here id member
    exact ⟨row, earlier, same⟩
  refine ⟨exclusive, consistent, evolves.pipelines.keyed sound.keyed, leased, ?_, ?_, ?_, ?_, ?_⟩
  · intro later member pipelineRunId stageRunId bound
    rcases evolves.origin later member with ⟨row, earlier, follows⟩ | new
    · rw [boundTo, follows.pipelineRunId, follows.pipelineStageRunId] at bound
      rw [follows.projectId, follows.taskId]
      exact (sound.begun row earlier _ _ bound).kept evolves.pipelines
    · exact begun later member new _ _ bound
  · rw [deliveries]
    intro caller delivery here id member
    obtain ⟨row, earlier, same, failed⟩ := sound.ended caller delivery here id member
    obtain ⟨later, inAfter, follows⟩ := evolves.lasting row earlier
    exact ⟨later, inAfter, follows.id.trans same, failedOrCancelled_kept follows failed⟩
  · rw [deliveries]
    intro caller delivery pipeline checking here waits
    obtain ⟨known, passed⟩ := sound.awaiting caller delivery pipeline checking here waits
    exact ⟨known.kept evolves.pipelines, passed.evolves evolves (stood caller delivery here)⟩
  · rw [deliveries]
    intro caller call here
    obtain ⟨earlier, found, same⟩ := calls caller call here
    obtain ⟨delivery, delivered, scheduling, passed⟩ := sound.scheduling caller earlier found
    exact ⟨delivery, delivered, scheduling, same ▸ passed.evolves evolves (stood caller delivery delivered)⟩
  · rw [completions]
    exact ⟨sound.completed.1, fun stage member => (sound.completed.2 stage member).kept evolves.pipelines⟩

theorem delivery_self : (orchestration.setDelivery caller delivery).deliveries caller = some delivery :=
  Function.update_self ..

theorem delivery_other {other : Nat} (different : other ≠ caller) :
    (orchestration.setDelivery caller delivery).deliveries other = orchestration.deliveries other :=
  Function.update_of_ne different ..

theorem setDelivery_cases {other : Nat} {found : Delivery}
    (here : (orchestration.setDelivery caller delivery).deliveries other = some found) :
    found = delivery ∨ orchestration.deliveries other = some found := by
  by_cases same : other = caller
  · subst same
    rw [delivery_self] at here
    exact .inl (Option.some.inj here).symm
  · rw [delivery_other same] at here
    exact .inr here

theorem Sound.setDelivery (sound : Sound orchestration) (idle : orchestration.runtime.scheduling caller = none)
    (ended : ∀ id ∈ delivery.ended, ∃ row ∈ orchestration.rows, row.id = id ∧ failedOrCancelled row = true)
    (awaiting : ∀ pipeline checking, awaits delivery.phase = some (pipeline, checking) →
      Known orchestration.runtime.office delivery.intent.projectId pipeline.taskId ∧
        Passed orchestration delivery.ended pipeline.taskId checking) :
    Sound (orchestration.setDelivery caller delivery) := by
  refine ⟨sound.exclusive, sound.consistent, sound.keyed, sound.leased, sound.begun, ?_, ?_, ?_, sound.completed⟩
  · intro other found here
    rcases setDelivery_cases here with rfl | earlier
    · exact ended
    · exact sound.ended other found earlier
  · intro other found pipeline checking here waits
    rcases setDelivery_cases here with rfl | earlier
    · exact awaiting pipeline checking waits
    · exact sound.awaiting other found pipeline checking earlier waits
  · intro other call here
    obtain ⟨found, delivered, rest⟩ := sound.scheduling other call here
    refine ⟨found, ?_, rest⟩
    have different : other ≠ caller := by
      rintro rfl
      cases idle.symm.trans here
    rw [delivery_other different]
    exact delivered

theorem Sound.idle (sound : Sound orchestration) (here : orchestration.deliveries caller = some delivery)
    (early : delivery.phase ≠ .schedule) : orchestration.runtime.scheduling caller = none := by
  cases found : orchestration.runtime.scheduling caller with
  | none => rfl
  | some call =>
    obtain ⟨other, delivered, scheduling, -⟩ := sound.scheduling caller call found
    cases here.symm.trans delivered
    exact absurd scheduling early

theorem Sound.ends (sound : Sound orchestration) {intent : PipelineStageIntent} {phase next : OrchestrationPhase}
    (here : orchestration.deliveries caller = some ⟨intent, phase, ended⟩) (early : phase ≠ .schedule)
    (silent : awaits next = none) : Sound (orchestration.setDelivery caller ⟨intent, next, ended⟩) := by
  refine sound.setDelivery (sound.idle here early) (fun id member => sound.ended caller _ here id member)
    fun pipeline checking waits => ?_
  cases silent.symm.trans waits

theorem Sound.recordCompletion (sound : Sound orchestration) {completed : Option (String × String)}
    (new : ∀ stage, completed = some stage → stage ∉ orchestration.completions ∧
      Closed orchestration.runtime.office stage.1 stage.2) : Sound (orchestration.recordCompletion completed) := by
  refine { sound with completed := ?_ }
  cases completed with
  | none =>
    simp only [Orchestration.recordCompletion, Option.toList_none, List.append_nil]
    exact sound.completed
  | some stage =>
    obtain ⟨absent, closed⟩ := new stage rfl
    simp only [Orchestration.recordCompletion, Option.toList_some]
    refine ⟨?_, fun other member => ?_⟩
    · rw [List.nodup_append']
      exact ⟨sound.completed.1, List.nodup_singleton _, by simpa [List.disjoint_singleton] using absent⟩
    · rcases List.mem_append.mp member with earlier | last
      · exact sound.completed.2 other earlier
      · rw [List.mem_singleton.mp last]
        exact closed

section

variable {pipeline found : PipelineRunProps} {stage : PipelineStageRunProps} {boundRuns : List (AgentRunProps Json)}
  {intent : PipelineStageIntent} {codec : AgentRunCodec Json} {tables : RuntimeTables Json}
  {phase next : OrchestrationPhase}

theorem afterRuns_awaits (waits : awaits (afterRuns pipeline stage boundRuns) = some (found, checking)) :
    found = pipeline ∧ checking = none ∧
      ∀ run ∈ boundRuns, run.status ∉ [AgentRunStatus.failed, .cancelled] := by
  unfold afterRuns at waits
  split at waits
  · cases waits
  · split at waits
    · split at waits <;> cases waits
    · split at waits
      · cases waits
      · next fine =>
        have spared : ∀ run ∈ boundRuns, run.status ∉ [AgentRunStatus.failed, .cancelled] := by
          simpa only [List.any_eq_true, decide_eq_true_eq, not_exists, not_and] using fine
        split at waits
        · cases waits
          exact ⟨rfl, rfl, spared⟩
        · cases waits
          exact ⟨rfl, rfl, spared⟩

theorem load_bound {row : AgentRunState Json} {run : AgentRunProps Json} (loaded : load codec row = .ok run) :
    run.pipelineRunId = row.pipelineRunId ∧ run.pipelineStageRunId = row.pipelineStageRunId := by
  obtain ⟨execution, -, loaded⟩ := bind_ok loaded
  obtain ⟨actionIntent, -, loaded⟩ := bind_ok loaded
  obtain ⟨roleGuidance, -, loaded⟩ := bind_ok loaded
  obtain ⟨modelRouting, -, loaded⟩ := bind_ok loaded
  obtain rfl := Except.ok.inj loaded
  exact ⟨rfl, rfl⟩

theorem readRuns_awaits (read : readRuns codec intent pipeline stage tables = .ok next)
    (waits : awaits next = some (found, checking)) :
    found = pipeline ∧ checking = none ∧ ∀ row ∈ tables.runs, row.projectId = intent.projectId →
      boundTo pipeline.id stage.id row → failedOrCancelled row = false := by
  obtain ⟨runs, loaded, rfl⟩ := map_ok read
  obtain ⟨same, checked, spared⟩ := afterRuns_awaits waits
  refine ⟨same, checked, fun row member inProject bound => ?_⟩
  have inRows : row ∈ sortOn (fun row => toLex (row.createdAt, row.id))
      (tables.runs.filter fun row => row.projectId = intent.projectId) := by
    rw [mem_sortOn, List.mem_filter]
    exact ⟨member, decide_eq_true inProject⟩
  obtain ⟨run, inRuns, stored⟩ := Outcome.mapM_covers loaded inRows
  obtain ⟨pipelineRun, stageRun⟩ := load_bound stored
  have isOne : isBound pipeline stage run = true := by
    simp [isBound, pipelineRun, stageRun, bound.1, bound.2]
  have status := (ManageAgentRuns.loaded_ok stored).status
  have fine := spared run (List.mem_filter.mpr ⟨inRuns, isOne⟩)
  rw [status] at fine
  exact decide_eq_false fine

theorem replayed_silent (thrown : Thrown) : awaits (replayed thrown) = none := by
  unfold replayed
  split <;> rfl

theorem proceed_awaits {Result : Type} {outcome : Except Thrown Result} {following : Result → OrchestrationPhase}
    (waits : awaits (proceed outcome following) = some (found, checking)) :
    ∃ result, outcome = .ok result ∧ awaits (following result) = some (found, checking) := by
  cases outcome with
  | ok result => exact ⟨result, rfl, waits⟩
  | error thrown => cases waits

/-- A delivery that read something waits for what it waited for, and has checked the runs of the stage. -/
theorem read_awaits {localeCompare : String → String → Int} {office : OfficeTables}
    (reads : read codec localeCompare intent office tables phase = some next)
    (waits : awaits next = some (pipeline, checking)) :
    checking = none ∧ ∃ earlier, awaits phase = some (pipeline, earlier) ∧
      ∀ pipelineRunId stageRunId, earlier = some (pipelineRunId, stageRunId) →
        ∀ row ∈ tables.runs, row.projectId = intent.projectId → boundTo pipelineRunId stageRunId row →
          failedOrCancelled row = false := by
  cases phase with
  | runs snapshot stage =>
    cases reads
    obtain ⟨after, read, waits⟩ := proceed_awaits waits
    obtain ⟨rfl, rfl, spared⟩ := readRuns_awaits read waits
    refine ⟨rfl, _, rfl, fun pipelineRunId stageRunId same => ?_⟩
    cases same
    exact spared
  | completed snapshot agentRunId =>
    cases reads
    split at waits
    · cases waits
    · next thrown _ => cases (replayed_silent thrown).symm.trans waits
  | agents snapshot stage =>
    cases reads
    obtain ⟨agentId, -, waits⟩ := proceed_awaits waits
    cases waits
    exact ⟨rfl, none, rfl, nofun⟩
  | candidate snapshot agentId =>
    cases reads
    obtain ⟨roleKey, -, waits⟩ := proceed_awaits waits
    cases waits
    exact ⟨rfl, none, rfl, nofun⟩
  | pipeline | completion | assignment | task | schedule | returned | failed => cases reads

end

theorem Sound.opens (sound : Sound orchestration) {pipeline : PipelineRunProps}
    {stage : PipelineStageRunProps} (member : pipeline ∈ orchestration.runtime.office.pipelines)
    (current : Current pipeline stage) :
    Passed orchestration orchestration.ended pipeline.taskId (some (pipeline.id, stage.id)) := by
  intro row inRows _ ofTask pipelineRunId stageRunId bound
  obtain ⟨run, stored, rfl, inProject, sameTask, other, inStages, rfl, begun⟩ :=
    sound.begun row inRows pipelineRunId stageRunId bound
  by_cases active : run.status = .active
  · have shared : run.taskId = pipeline.taskId := sameTask.trans ofTask
    have project := Known.unique sound.consistent ⟨run, stored, rfl, shared⟩ ⟨pipeline, member, rfl, rfl⟩
    have same := sound.consistent.oneActive run stored pipeline member active current.1 shared project
    obtain rfl := unique_run sound.consistent.runIds member stored same
    rcases begun_cases (sound.consistent.stored run stored).wellFormed current inStages begun with rfl | passed
    · exact .inr rfl
    · exact .inl ⟨run, stored, rfl, .inr ⟨other, inStages, rfl, passed⟩⟩
  · exact .inl ⟨run, stored, rfl, .inl active⟩

theorem Evolves.of_rows (rows : after.rows = before.rows)
    (pipelines : PipelinesKept before.runtime.office after.runtime.office) : Evolves before after where
  lasting row member := ⟨row, rows ▸ member, .refl row⟩
  origin later member := .inl ⟨later, rows ▸ member, .refl later⟩
  pipelines := pipelines

theorem Consistent.bind (consistent : Consistent orchestration.runtime.office) : Consistent orchestration.tables :=
  ⟨consistent.taskIds, consistent.trimmed, consistent.prerequisites, consistent.runIds, consistent.stored,
    consistent.known, consistent.oneActive⟩

theorem kept_of_bound {office : OfficeTables} (kept : PipelinesKept orchestration.tables office) :
    PipelinesKept orchestration.runtime.office office := ⟨kept.lasting, kept.origin⟩

theorem Sound.setOffice (sound : Sound orchestration) {office : OfficeTables} (consistent : Consistent office)
    (kept : PipelinesKept orchestration.runtime.office office) : Sound (orchestration.setOffice office) := by
  have evolves : Evolves orchestration (orchestration.setOffice office) := .of_rows rfl kept
  refine sound.evolves evolves (sound.exclusive.congr rfl rfl rfl rfl) consistent
    (sound.leased.congr kept rfl rfl (fun _ _ here => here) rfl) ?_ rfl (fun _ call here => ⟨call, here, rfl⟩) rfl
  intro row member new
  exact absurd rfl (new row member)

theorem Sound.schedules (sound : Sound orchestration) (services : ScheduleServices Json) {intent : PipelineStageIntent} {pipeline : PipelineRunProps}
    {agentId : String} {ended : List String}
    (here : orchestration.deliveries caller = some ⟨intent, .task pipeline agentId, ended⟩) :
    Sound ((orchestration.setRuntime (orchestration.runtime.setScheduling caller
      ⟨scheduled Json intent pipeline agentId, .project⟩)).setDelivery caller ⟨intent, .schedule, ended⟩) := by
  obtain ⟨known, passed⟩ := sound.awaiting caller _ pipeline none here rfl
  refine ⟨sound.exclusive.setScheduling (fun id member => absurd member List.not_mem_nil) nofun, sound.consistent,
    sound.keyed, sound.leased.proceeded services sound.consistent known nofun nofun, sound.begun,
    fun other found there => ?_, fun other found awaited checking there waits => ?_, fun other call there => ?_,
    sound.completed⟩
  · rcases setDelivery_cases there with rfl | earlier
    · exact fun id member => sound.ended caller _ here id member
    · exact sound.ended other found earlier
  · rcases setDelivery_cases there with rfl | earlier
    · cases waits
    · exact sound.awaiting other found awaited checking earlier waits
  · rcases setScheduling_cases there with ⟨rfl, rfl⟩ | ⟨different, earlier⟩
    · exact ⟨_, delivery_self, rfl, passed⟩
    · obtain ⟨found, delivered, rest⟩ := sound.scheduling other call earlier
      exact ⟨found, (delivery_other different).trans delivered, rest⟩

section

variable [DecidableEq Json] {services : ScheduleServices Json} {recovery : RunRecovery Json}
  {errors : AdmissionErrors Json} {localeCompare : String → String → Int} {label : Label Json}

/-- Every step of the runtime keeps the invariant. -/
theorem Sound.progress (sound : Sound orchestration) {label : ScheduleAgentRun.Label Json} {later : Runtime Json}
    (exclusive : Exclusive later) (office : later.office = orchestration.runtime.office)
    (progress : Progress services orchestration.runtime label later)
    (leases : LeasesHold orchestration (orchestration.setRuntime later)) : Sound (orchestration.setRuntime later) := by
  have kept : PipelinesKept orchestration.runtime.office later.office := .of_same (by rw [office])
  have consistent : Consistent later.office := office ▸ sound.consistent
  have old {row : AgentRunState Json} (member : row ∈ orchestration.rows)
      (new : ∀ earlier ∈ orchestration.rows, earlier.id ≠ row.id) {goal : Prop} : goal := absurd rfl (new row member)
  cases progress with
  | moved succeeds clock scheduling takeovers =>
    have evolves : Evolves orchestration (orchestration.setRuntime later) :=
      ⟨fun row member => mem_of_follows succeeds.rows member,
        fun row member => .inl (follows_mem succeeds.rows member), kept⟩
    refine sound.evolves evolves exclusive consistent (sound.leased.moved succeeds office clock scheduling takeovers)
      ?_ rfl (fun _ call here => ⟨call, scheduling ▸ here, rfl⟩) rfl
    intro row member new
    obtain ⟨earlier, stood, follows⟩ := follows_mem succeeds.rows member
    exact absurd follows.id.symm (new earlier stood)
  | @proceeded caller input phase next here same listed named =>
    subst same
    have known := sound.leased.calls caller _ here
    have leased := sound.leased.proceeded services sound.consistent known
      (fun looked => (listed looked).imp_left fun ⟨before, sameList⟩ => ⟨phase, here, before, sameList⟩) named
    refine sound.evolves (.of_rows rfl kept) exclusive consistent leased (fun row member new => old member new) rfl ?_ rfl
    intro other call found
    rcases setScheduling_cases found with ⟨rfl, rfl⟩ | ⟨-, earlier⟩
    · exact ⟨_, here, rfl⟩
    · exact ⟨call, earlier, rfl⟩
  | @admitted caller input listed id now tables jobs committing here committed same =>
    subst same
    have fresh := sound.exclusive.fresh caller input listed id now here
    obtain ⟨run, created, runs, -, -⟩ := commitAdmission_ok fresh committed
    obtain ⟨named, ofTask⟩ := createRun_ok created
    have rows {row : AgentRunState Json} (member : row ∈ tables.runs) :
        row ∈ orchestration.rows ∨ row = run.toAgentRunState := by
      rw [runs, List.mem_append, List.mem_singleton] at member
      exact member
    refine sound.evolves ⟨fun row member => ⟨row, ?_, .refl row⟩, fun row member => ?_, kept⟩ exclusive consistent
      (sound.leased.admitted sound.exclusive here committed) (fun row member new pipelineRunId stageRunId bound => ?_) rfl
      (fun other call found => ?_) rfl
    · change row ∈ tables.runs
      rw [runs]
      exact List.mem_append_left _ member
    · rcases rows member with stood | rfl
      · exact .inl ⟨row, stood, .refl row⟩
      · exact .inr fun earlier stood same => fresh earlier stood (same.trans named)
    · rcases rows member with stood | rfl
      · exact old stood new
      · obtain ⟨pipeline, stored, about, inProject, sameTask, stage, current, active, isStage⟩ :=
          readStage_found (admitted_bound created bound)
        refine ⟨pipeline, stored, about, inProject.trans (createRun_bound created).1.symm, sameTask.trans ofTask.symm,
          stage, Current.mem current, isStage, ?_⟩
        simp [active]
    · rcases setScheduling_cases found with ⟨rfl, rfl⟩ | ⟨-, earlier⟩
      · exact ⟨_, here, rfl⟩
      · exact ⟨call, earlier, rfl⟩
  | @advanced clock onward same =>
    subst same
    have leased := sound.leased.advanced onward fun time ends after within caller call here => by
      obtain ⟨delivery, delivered, scheduling, -⟩ := sound.scheduling caller call here
      have gone := leases time ends after within caller delivery delivered
      rw [inProgress, scheduling] at gone
      simp only [not_forall, not_and_or, not_not] at gone
      obtain ⟨input, id, thrown, same | same⟩ := gone <;>
        · cases here.symm.trans same
          rfl
    exact sound.evolves (.of_rows rfl kept) exclusive consistent leased (fun row member new => old member new) rfl
      (fun _ call here => ⟨call, here, rfl⟩) rfl

/-- Every step keeps the invariant while the leases hold. -/
theorem Sound.step (sound : Sound before) (step : Step services recovery errors localeCompare before label after)
    (leases : LeasesHold before after) : Sound after := by
  have tables := Consistent.bind sound.consistent
  cases step with
  | @delivered caller intent absent =>
    refine sound.setDelivery ?_ (fun id member => absurd member List.not_mem_nil)
      fun _ _ waits => absurd waits (Option.some_ne_none _).symm
    cases found : before.runtime.scheduling caller with
    | none => rfl
    | some call =>
      obtain ⟨delivery, here, -⟩ := sound.scheduling caller call found
      cases absent.symm.trans here
  | @opened caller intent ended here =>
    refine sound.setDelivery (sound.idle here nofun) (fun id member => ?_) fun pipeline checking waits => ?_
    · obtain ⟨row, chosen, about⟩ := List.mem_map.mp member
      obtain ⟨inRows, failed⟩ := List.mem_filter.mp chosen
      exact ⟨row, inRows, about, failed⟩
    · unfold opened at waits
      split at waits
      · next snapshot stage read =>
        obtain ⟨stored, inProject, current, -⟩ := readPipeline_found read
        obtain ⟨rfl, rfl⟩ := Prod.mk.inj (Option.some.inj waits)
        exact ⟨⟨snapshot, stored, inProject, rfl⟩, sound.opens stored current⟩
      · cases waits
      · cases waits
  | @read caller intent phase ended next here reads =>
    have early : phase ≠ .schedule := by
      rintro rfl
      cases reads
    refine sound.setDelivery (sound.idle here early) (fun id member => sound.ended caller _ here id member)
      fun pipeline checking waits => ?_
    obtain ⟨rfl, earlier, waited, spared⟩ := read_awaits reads waits
    obtain ⟨known, passed⟩ := sound.awaiting caller _ pipeline earlier here waited
    refine ⟨known, fun row member inEnded ofTask pipelineRunId stageRunId bound => ?_⟩
    refine (passed row member inEnded ofTask pipelineRunId stageRunId bound).imp_right fun same => ?_
    obtain ⟨other, stood, about, failed⟩ := sound.ended caller _ here row.id inEnded
    obtain rfl := keyed_eq sound.exclusive.runIds member stood about
    have inProject := Known.unique sound.consistent (sound.leased.rows other member) (ofTask ▸ known)
    rw [spared pipelineRunId stageRunId same other member inProject bound] at failed
    cases failed
  | @completed caller intent principal ended run office here committed =>
    obtain ⟨⟨changed, advance⟩, opened, closed⟩ := commitCompletion_closes tables sound.keyed committed
    have moved := sound.setOffice (tables.advanced advance)
      (kept_of_bound (PipelinesKept.advanced tables advance))
    refine (moved.ends here nofun rfl).recordCompletion ?_
    rintro stage ⟨⟩
    exact ⟨fun member => opened (sound.completed.2 _ member), closed⟩
  | @uncompleted caller intent principal ended thrown here threw =>
    exact sound.ends here nofun (replayed_silent thrown)
  | @assigned caller intent pipeline agentId roleKey ended run office here committed =>
    obtain ⟨changed, advance⟩ := commitAssignment_advanced tables committed
    have moved := sound.setOffice (tables.advanced advance) (kept_of_bound (PipelinesKept.advanced tables advance))
    refine moved.setDelivery (sound.idle here nofun) (fun id member => moved.ended caller _ here id member)
      fun found checking waits => ?_
    have awaited := moved.awaiting caller _ pipeline none here rfl
    cases waits
    exact awaited
  | @unassigned caller intent pipeline agentId roleKey ended thrown here threw =>
    exact sound.ends here nofun rfl
  | scheduled here found => exact sound.schedules services here
  | @unavailable caller intent pipeline agentId ended thrown here threw =>
    exact sound.ends here nofun rfl
  | runtime allowed step office =>
    exact sound.progress (sound.exclusive.step step) office (.of_step sound.exclusive allowed step office) leases
  | @commanded command office performs =>
    have moved := sound.setOffice (tables.performs performs) (kept_of_bound (PipelinesKept.performs tables performs))
    refine moved.recordCompletion fun stage completes => ?_
    obtain ⟨opened, closed⟩ := completedBy_closes tables sound.keyed performs completes
    exact ⟨fun member => opened (sound.completed.2 stage member), closed⟩
  | crashed step =>
    cases step
    exact ⟨sound.exclusive.crashed, sound.consistent, sound.keyed,
      sound.leased.congr (.of_same rfl) rfl rfl (fun _ _ here => absurd here (Option.some_ne_none _).symm) rfl,
      sound.begun, fun _ _ here => absurd here (Option.some_ne_none _).symm,
      fun _ _ _ _ here => absurd here (Option.some_ne_none _).symm,
      fun _ _ here => absurd here (Option.some_ne_none _).symm, sound.completed⟩

omit [DecidableEq Json] in
theorem Sound.alone (sound : Sound orchestration) {row other : AgentRunState Json} {pipelineRunId stageRunId : String}
    (member : row ∈ orchestration.rows) (also : other ∈ orchestration.rows) (bound : boundTo pipelineRunId stageRunId row)
    (boundToo : boundTo pipelineRunId stageRunId other) (opened : AgentRun.isTerminal row.status = false)
    (openedToo : AgentRun.isTerminal other.status = false) : row = other := by
  obtain ⟨run, stored, about, -, ofTask, -⟩ := sound.begun row member pipelineRunId stageRunId bound
  obtain ⟨second, storedToo, aboutToo, -, ofTaskToo, -⟩ := sound.begun other also pipelineRunId stageRunId boundToo
  obtain rfl := unique_run sound.consistent.runIds stored storedToo (aboutToo.trans about.symm)
  have holds := (sound.exclusive.held row member opened).resolve_right (sound.leased.never_lost row)
  have holdsToo := (sound.exclusive.held other also openedToo).resolve_right (sound.leased.never_lost other)
  exact sound.exclusive.holds_unique member also (ofTask.symm.trans ofTaskToo) holds holdsToo

/-- A run is only created for a stage of which no run has failed or been cancelled. -/
theorem Sound.unrevived (sound : Sound before) (step : Step services recovery errors localeCompare before label after)
    (since : NoneEndedSince before label) {row : AgentRunState Json} (member : row ∈ after.rows)
    (new : ∀ earlier ∈ before.rows, earlier.id ≠ row.id) {pipelineRunId stageRunId : String}
    (bound : boundTo pipelineRunId stageRunId row) {earlier : AgentRunState Json} (stood : earlier ∈ before.rows)
    (boundEarlier : boundTo pipelineRunId stageRunId earlier) : failedOrCancelled earlier = false := by
  have old (inRows : row ∈ before.rows) {goal : Prop} : goal := absurd rfl (new row inRows)
  cases step with
  | delivered | opened | read | completed | uncompleted | assigned | unassigned | scheduled | unavailable | commanded =>
    exact old member
  | crashed step =>
    cases step
    exact old member
  | @runtime label later allowed step office =>
    cases Progress.of_step sound.exclusive allowed step office with
    | moved succeeds =>
      obtain ⟨previous, inRows, follows⟩ := follows_mem succeeds.rows member
      exact absurd follows.id.symm (new previous inRows)
    | proceeded _ same =>
      subst same
      exact old member
    | advanced _ same =>
      subst same
      exact old member
    | @admitted caller input listed id now tables jobs committing here committed same =>
      subst same
      obtain ⟨run, created, runs, -, -⟩ := commitAdmission_ok (sound.exclusive.fresh caller input listed id now here) committed
      change row ∈ tables.runs at member
      rw [runs, List.mem_append, List.mem_singleton] at member
      rcases member with inRows | rfl
      · exact old inRows
      · have read := admitted_bound created bound
        obtain ⟨delivery, delivered, -, passed⟩ := sound.scheduling caller _ here
        obtain ⟨pipeline, stored, rfl, -, ofTask, stage, current, active, rfl⟩ := readStage_found read
        obtain ⟨_, storedToo, about, -, sameTask, -⟩ := sound.begun earlier stood _ _ boundEarlier
        obtain rfl := unique_run sound.consistent.runIds stored storedToo about
        rw [← Bool.not_eq_true]
        intro failed
        have known := since caller delivery input listed id now _ _ (by rw [committing]) delivered here read earlier
          stood boundEarlier failed
        rcases passed earlier stood known (sameTask.symm.trans ofTask) _ _ boundEarlier with closed | checking
        · exact not_closed sound.consistent sound.keyed stored current.1 (Current.mem current) active closed
        · cases checking

end

def Orchestration.initial (clock : Date) (office : OfficeTables) (actions : List ControlledAction) : Orchestration Json where
  runtime := .initial clock office actions
  deliveries := fun _ => none
  completions := []

theorem Sound.initial {office : OfficeTables} (blank : Blank office) (clock : Date) (actions : List ControlledAction) :
    Sound (Orchestration.initial clock office actions : Orchestration Json) where
  exclusive := .initial clock office actions
  consistent := blank.consistent
  keyed := fun _ member => absurd (blank.pipelines ▸ member) List.not_mem_nil
  leased := {
    locked := fun _ member => absurd member List.not_mem_nil
    rows := fun _ member => absurd member List.not_mem_nil
    calls := fun _ _ here => absurd here (Option.some_ne_none _).symm
    recent := fun _ _ _ _ _ here => absurd here (Option.some_ne_none _).symm
    seen := fun _ _ here => absurd here (Option.some_ne_none _).symm
    lost := fun _ member => absurd member List.not_mem_nil }
  begun := fun _ member => absurd member List.not_mem_nil
  ended := fun _ _ here => absurd here (Option.some_ne_none _).symm
  awaiting := fun _ _ _ _ here => absurd here (Option.some_ne_none _).symm
  scheduling := fun _ _ here => absurd here (Option.some_ne_none _).symm
  completed := ⟨List.nodup_nil, fun _ member => absurd member List.not_mem_nil⟩

section

variable [DecidableEq Json] {services : ScheduleServices Json} {recovery : RunRecovery Json}
  {errors : AdmissionErrors Json} {localeCompare : String → String → Int} {label : Label Json}

/-- A step during which the leases hold, and that admits no run after another run of its stage ended unnoticed. -/
structure Watched (services : ScheduleServices Json) (recovery : RunRecovery Json) (errors : AdmissionErrors Json)
    (localeCompare : String → String → Int) (before : Orchestration Json) (label : Label Json)
    (after : Orchestration Json) : Prop where
  step : Step services recovery errors localeCompare before label after
  leases : LeasesHold before after
  since : NoneEndedSince before label

/-- Deliveries in any number and order are harmless while no run of their stages ends between their reads and their
admissions. -/
theorem redelivery_harmless {clock : Date} {office : OfficeTables} {actions : List ControlledAction} (blank : Blank office)
    (reached : Transition.Reachable (Watched services recovery errors localeCompare) (.initial clock office actions) before)
    (watched : Watched services recovery errors localeCompare before label after) : Harmless before after := by
  have sound : Sound before := reached.invariant Sound (.initial blank clock actions)
    fun _ _ _ holds next => holds.step next.step next.leases
  have later : Sound after := sound.step watched.step watched.leases
  refine ⟨fun row member other also pipelineRunId stageRunId => ?_, fun row member new pipelineRunId stageRunId bound => ?_,
    later.completed.1⟩
  · exact later.alone member also
  · exact fun earlier stood => sound.unrevived watched.step watched.since member new bound stood

end

def plainCompare : String → String → Int := plainRunRecovery.localeCompare

def placed {Item : Type} (items : List Item) (caller : Nat) : Option Item := items[caller]?

theorem update_placed {Item : Type} {items : List Item} {item : Item} (within : caller < items.length) :
    Function.update (placed items) caller (some item) = placed (items.set caller item) := by
  funext other
  by_cases same : other = caller
  · subst same
    simp [placed, within]
  · simp [placed, Function.update_of_ne same, List.getElem?_set_ne (Ne.symm same)]

theorem update_placed_append {Item : Type} {items : List Item} {item : Item} :
    Function.update (placed items) items.length (some item) = placed (items ++ [item]) := by
  funext other
  rcases Nat.lt_trichotomy other items.length with before | rfl | beyond
  · simp [placed, Function.update_of_ne before.ne, List.getElem?_append_left before]
  · simp [placed]
  · rw [Function.update_of_ne beyond.ne']
    simp only [placed, List.getElem?_eq_none beyond.le]
    rw [List.getElem?_eq_none (by simp; omega)]

def racing (office : OfficeTables) (tables : RuntimeTables String) (jobs : List AgentRunJob)
    (deliveries : List Delivery) (calls : List (Scheduling String)) : Orchestration String where
  runtime := ⟨1, office, ⟨tables, [], []⟩, jobs, placed calls, fun _ => none, []⟩
  deliveries := placed deliveries
  completions := []

abbrev PlainWatched := Watched plainServices plainRunRecovery plainErrors plainCompare

def start : Orchestration String := .initial 1 emptyOffice []

variable {office later : OfficeTables} {tables : RuntimeTables String} {jobs : List AgentRunJob}
  {deliveries : List Delivery} {calls : List (Scheduling String)}

theorem leases_still {before after : Orchestration String} (still : after.runtime.clock = before.runtime.clock) :
    LeasesHold before after :=
  fun _ _ ahead within => absurd ahead (not_lt.mpr (within.trans_eq still))

theorem Watched.of_step {before after : Orchestration String} {label : Label String}
    (step : Step plainServices plainRunRecovery plainErrors plainCompare before label after)
    (still : after.runtime.clock = before.runtime.clock) (early : ∀ caller, label ≠ .runtime (.commit caller)) :
    PlainWatched before label after :=
  ⟨step, leases_still still, fun caller _ _ _ _ _ _ _ same => absurd same (early caller)⟩

theorem racing_delivers (reached : Transition.Reachable PlainWatched start (racing office tables jobs deliveries calls))
    (intent : PipelineStageIntent) :
    Transition.Reachable PlainWatched start (racing office tables jobs (deliveries ++ [⟨intent, .pipeline, []⟩]) calls) := by
  have step : PlainWatched (racing office tables jobs deliveries calls) _ _ :=
    .of_step (@Step.delivered _ _ _ _ _ _ _ deliveries.length intent (by simp [racing, placed])) rfl nofun
  simp only [Orchestration.setDelivery, racing, update_placed_append] at step
  exact reached.snoc step

theorem racing_set (caller : Nat)
    (reached : Transition.Reachable PlainWatched start (racing office tables jobs deliveries calls)) {intent : PipelineStageIntent} {phase next : OrchestrationPhase} {before ended : List String}
    (here : deliveries[caller]? = some ⟨intent, phase, before⟩)
    (step : Step plainServices plainRunRecovery plainErrors plainCompare (racing office tables jobs deliveries calls) (.advance caller)
      ((racing later tables jobs deliveries calls).setDelivery caller ⟨intent, next, ended⟩)) :
    Transition.Reachable PlainWatched start
      (racing later tables jobs (deliveries.set caller ⟨intent, next, ended⟩) calls) := by
  have within : caller < deliveries.length := (List.getElem?_eq_some_iff.mp here).1
  have watched : PlainWatched (racing office tables jobs deliveries calls) _ _ := .of_step step rfl nofun
  simp only [Orchestration.setDelivery, racing, update_placed within] at watched
  exact reached.snoc watched

theorem racing_opens (caller : Nat)
    (reached : Transition.Reachable PlainWatched start (racing office tables jobs deliveries calls)) {intent : PipelineStageIntent} (pipeline : PipelineRunProps) (stage : PipelineStageRunProps)
    (here : deliveries[caller]? = some ⟨intent, .pipeline, []⟩)
    (read : readPipeline intent (racing office tables jobs deliveries calls).tables = .ok (some (pipeline, stage)))
    (unended : (racing office tables jobs deliveries calls).ended = []) :
    Transition.Reachable PlainWatched start
      (racing office tables jobs (deliveries.set caller ⟨intent, .runs pipeline stage, []⟩) calls) := by
  have step : Step plainServices plainRunRecovery plainErrors plainCompare (racing office tables jobs deliveries calls)
      (.advance caller) _ := .opened here
  rw [read, unended] at step
  exact racing_set caller reached here step

theorem racing_reads (caller : Nat)
    (reached : Transition.Reachable PlainWatched start (racing office tables jobs deliveries calls)) {intent : PipelineStageIntent} {phase : OrchestrationPhase} (next : OrchestrationPhase)
    (here : deliveries[caller]? = some ⟨intent, phase, []⟩)
    (reads : read plainServices.codec plainCompare intent (racing office tables jobs deliveries calls).tables tables phase =
      some next) :
    Transition.Reachable PlainWatched start
      (racing office tables jobs (deliveries.set caller ⟨intent, next, []⟩) calls) :=
  racing_set caller reached here (.read here reads)

theorem racing_schedules (caller : Nat)
    (reached : Transition.Reachable PlainWatched start (racing office tables jobs deliveries calls)) {intent : PipelineStageIntent} {pipeline : PipelineRunProps} {agentId : String} (last : calls.length = caller)
    (here : deliveries[caller]? = some ⟨intent, .task pipeline agentId, []⟩)
    (found : OrchestratePipelineStage.readTask intent pipeline (racing office tables jobs deliveries calls).tables = .ok ()) :
    Transition.Reachable PlainWatched start
      (racing office tables jobs (deliveries.set caller ⟨intent, .schedule, []⟩)
        (calls ++ [⟨scheduled String intent pipeline agentId, .project⟩])) := by
  have within : caller < deliveries.length := (List.getElem?_eq_some_iff.mp here).1
  have step : PlainWatched (racing office tables jobs deliveries calls) _ _ := .of_step (.scheduled here found) rfl nofun
  subst last
  simp only [Orchestration.setDelivery, Orchestration.setRuntime, Runtime.setScheduling, racing, update_placed within,
    update_placed_append] at step
  exact reached.snoc step

theorem racing_calls (caller : Nat) (label : ScheduleAgentRun.Label String)
    (reached : Transition.Reachable PlainWatched start (racing office tables jobs deliveries calls))
    {input : ScheduleInput String} {phase next : SchedulingPhase}
    (here : calls[caller]? = some ⟨input, phase⟩) (allowed : isRuntimeLabel label = true) (early : ∀ other, label ≠ .commit other)
    (step : ScheduleAgentRun.Step plainServices plainRunRecovery plainErrors (racing office tables jobs deliveries calls).runtime
      label ((racing office tables jobs deliveries calls).runtime.setScheduling caller ⟨input, next⟩)) :
    Transition.Reachable PlainWatched start
      (racing office tables jobs deliveries (calls.set caller ⟨input, next⟩)) := by
  have within : caller < calls.length := (List.getElem?_eq_some_iff.mp here).1
  have watched : PlainWatched (racing office tables jobs deliveries calls) _ _ :=
    .of_step (.runtime allowed step rfl) rfl fun other same => early other (Label.runtime.inj same)
  simp only [Orchestration.setRuntime, Runtime.setScheduling, racing, update_placed within] at watched
  exact reached.snoc watched

def stageIntent : PipelineStageIntent := ⟨"project", "ii", "i"⟩

def startedStage : PipelineStageRunProps :=
  ⟨"i", "build", 0, "developer", .active, none, none, none, none, none, none, none⟩

def assignedStage : PipelineStageRunProps := { startedStage with assignedAgentId := some "agent", assignedAt := some 1 }

def assignedRun : PipelineRunProps := { startedRun with stages := [assignedStage], version := 2 }

def assignedOffice : OfficeTables := { startedOffice with pipelines := [assignedRun] }

def stageInput : ScheduleInput String := ⟨"project", "task", "agent", none⟩

def stageRow (id : String) : AgentRunState String :=
  { queuedRow id 1 with pipelineRunId := some "ii", pipelineStageRunId := some "i" }

def stageLock (id : String) : TaskLock := ⟨"task", id, 1 + taskRunLeaseDurationMs⟩

def noTables : RuntimeTables String := ⟨[], [], []⟩

def firstTables : RuntimeTables String := ⟨[stageRow "first"], [queuedEvent "first" 1], [stageLock "first"]⟩

def cancelledRow : AgentRunState String :=
  { stageRow "first" with status := .cancelled, error := some "OPERATOR_CANCELLED", completedAt := some 1 }

def cancelledEvents : List (AgentRunEvent String) :=
  [queuedEvent "first" 1, ⟨"first", .cancelled, false, true, none, none, none, 1⟩]

def cancelledTables : RuntimeTables String := ⟨[cancelledRow], cancelledEvents, []⟩

def secondTables : RuntimeTables String :=
  ⟨[cancelledRow, stageRow "second"], cancelledEvents ++ [queuedEvent "second" 1], [stageLock "second"]⟩

def stageJob (id : String) : AgentRunJob := ⟨"project", id, some "i"⟩

def calling (tables : RuntimeTables String) (jobs : List AgentRunJob) (first second : SchedulingPhase) : Orchestration String :=
  racing assignedOffice tables jobs [⟨stageIntent, .schedule, []⟩, ⟨stageIntent, .schedule, []⟩]
    [⟨stageInput, first⟩, ⟨stageInput, second⟩]

theorem racing_commands {command : OfficeCommand}
    (reached : Transition.Reachable PlainWatched start (racing office tables jobs deliveries calls))
    (performs : Performs (racing office tables jobs deliveries calls).tables command later)
    (silent : completedBy (racing office tables jobs deliveries calls).tables command = none) :
    Transition.Reachable PlainWatched start (racing later tables jobs deliveries calls) := by
  have step : PlainWatched (racing office tables jobs deliveries calls) _ _ := .of_step (.commanded performs) rfl nofun
  rw [silent] at step
  exact reached.snoc step

theorem started_reachable : Transition.Reachable PlainWatched start (racing startedOffice noTables [] [] []) := by
  have same : start = racing emptyOffice noTables [] [] [] := by
    simp only [start, Orchestration.initial, Runtime.initial, racing, noTables]
    rfl
  have initially : Transition.Reachable PlainWatched start (racing emptyOffice noTables [] [] []) := same ▸ .refl start
  have created := racing_commands initially emptyOffice_creates rfl
  exact racing_commands created buildOffice_starts rfl

theorem assigned_reachable : Transition.Reachable PlainWatched start
    (racing assignedOffice noTables [] [⟨stageIntent, .task startedRun "agent", []⟩] []) := by
  have delivered := racing_delivers started_reachable stageIntent
  have opened := racing_opens 0 delivered startedRun startedStage rfl (by decide) rfl
  have agents := racing_reads 0 opened (.agents startedRun startedStage) rfl (by decide)
  have candidate := racing_reads 0 agents (.candidate startedRun "agent") rfl (by decide)
  have assigning := racing_reads 0 candidate (.assignment startedRun "agent" "developer") rfl (by decide)
  have committed : commitAssignment (assignment stageIntent startedRun "agent") "developer" 1
      (racing startedOffice noTables [] [] []).tables = .ok (assignedRun, assignedOffice) := by
    decide
  exact racing_set 0 assigning rfl (.assigned rfl committed)

theorem racing_check (reached : Transition.Reachable PlainWatched start (racing assignedOffice noTables jobs deliveries calls))
    {phase : SchedulingPhase} (next : SchedulingPhase) (here : calls[caller]? = some ⟨stageInput, phase⟩)
    (read : check plainServices stageInput assignedOffice noTables phase = some next) :
    Transition.Reachable PlainWatched start
      (racing assignedOffice noTables jobs deliveries (calls.set caller ⟨stageInput, next⟩)) :=
  racing_calls caller (.check caller) reached here rfl nofun (.checked here read)

theorem racing_checks (caller : Nat)
    (reached : Transition.Reachable PlainWatched start (racing assignedOffice noTables jobs deliveries calls))
    (here : calls[caller]? = some ⟨stageInput, .project⟩) :
    Transition.Reachable PlainWatched start
      (racing assignedOffice noTables jobs deliveries (calls.set caller ⟨stageInput, .agent []⟩)) := by
  have within : caller < calls.length := (List.getElem?_eq_some_iff.mp here).1
  have task := racing_check reached .task here (by decide)
  have prerequisites := racing_check task .prerequisites (List.getElem?_set_self within) (by decide)
  rw [List.set_set] at prerequisites
  have runs := racing_check prerequisites .runs (List.getElem?_set_self within) (by decide)
  rw [List.set_set] at runs
  have agent := racing_check runs (.agent []) (List.getElem?_set_self within) (by decide)
  rwa [List.set_set] at agent

theorem calling_reachable : Transition.Reachable PlainWatched start (calling noTables [] (.agent []) (.agent [])) := by
  have called := racing_schedules 0 assigned_reachable rfl rfl (by decide)
  have first := racing_checks 0 called rfl
  have delivered := racing_delivers first stageIntent
  have opened := racing_opens 1 delivered assignedRun assignedStage rfl (by decide) rfl
  have task := racing_reads 1 opened (.task assignedRun "agent") rfl (by decide)
  have calledToo := racing_schedules 1 task rfl rfl (by decide)
  exact racing_checks 1 calledToo rfl

theorem stageInput_agent :
    readAgent stageInput assignedOffice = .ok ⟨"agent", "project", "Agent", "role", true, 0, 0⟩ := by
  decide

theorem calling_fresh {first second : SchedulingPhase} {id : String} (unused : ∀ row ∈ tables.runs, row.id ≠ id)
    (firstEarly : ∀ listed now, first ≠ .admission listed id now)
    (secondEarly : ∀ listed now, second ≠ .admission listed id now) :
    Fresh (calling tables jobs first second).runtime id := by
  refine ⟨unused, fun caller input listed now here => ?_⟩
  match caller with
  | 0 =>
    cases here
    exact firstEarly listed now rfl
  | 1 =>
    cases here
    exact secondEarly listed now rfl
  | _ + 2 => cases here

theorem named_reachable : Transition.Reachable PlainWatched start
    (calling noTables [] (.agent []) (.admission [] "first" 1)) := by
  have fresh : Fresh (calling noTables [] (.agent []) (.agent [])).runtime "first" :=
    calling_fresh (fun row member => absurd member List.not_mem_nil) nofun nofun
  exact racing_calls 1 (.findAgent 1 "first") calling_reachable rfl rfl nofun
    (.named rfl stageInput_agent fresh)

def firstAdmitted : Orchestration String :=
  calling firstTables [stageJob "first"] (.agent []) (.scheduled "first")

theorem firstAdmission : Step plainServices plainRunRecovery plainErrors plainCompare
    (calling noTables [] (.agent []) (.admission [] "first" 1)) (.runtime (.commit 1)) firstAdmitted := by
  have committed : commitAdmission plainServices stageInput "first" 1 assignedOffice noTables [] =
      .ok (firstTables, [stageJob "first"]) := by
    decide
  have step : Step plainServices plainRunRecovery plainErrors plainCompare
      (calling noTables [] (.agent []) (.admission [] "first" 1)) (.runtime (.commit 1)) _ :=
    .runtime rfl (.admitted rfl committed) rfl
  have within : 1 < [(⟨stageInput, .agent []⟩ : Scheduling String), ⟨stageInput, .admission [] "first" 1⟩].length := by decide
  simp only [Orchestration.setRuntime, Runtime.setScheduling, Runtime.setTables, calling, racing, update_placed within] at step
  exact step

theorem firstAdmission_watched : PlainWatched (calling noTables [] (.agent []) (.admission [] "first" 1))
    (.runtime (.commit 1)) firstAdmitted :=
  ⟨firstAdmission, leases_still rfl, fun _ _ _ _ _ _ _ _ _ _ _ _ _ member => absurd member List.not_mem_nil⟩

theorem redelivery_harmless_first :
    Harmless (calling noTables [] (.agent []) (.admission [] "first" 1)) firstAdmitted :=
  redelivery_harmless ⟨rfl, rfl, rfl⟩ named_reachable firstAdmission_watched

theorem cancelled_reachable : Transition.Reachable PlainWatched start
    (calling cancelledTables [stageJob "first"] (.admission [] "second" 1) (.scheduled "first")) := by
  have admitted := named_reachable.snoc firstAdmission_watched
  have committed : ManageAgentRuns.cancelQueued plainRunRecovery "project" "first" 1 firstAdmitted.runtime.host = .ok cancelledTables := by
    decide
  have step : PlainWatched firstAdmitted (.runtime (.cancel "project" "first"))
      (calling cancelledTables [stageJob "first"] (.agent []) (.scheduled "first")) :=
    .of_step (.runtime rfl (.cancelled committed) rfl) rfl nofun
  have fresh : Fresh (calling cancelledTables [stageJob "first"] (.agent []) (.scheduled "first")).runtime "second" :=
    calling_fresh (fun row member => by rw [List.mem_singleton.mp member]; decide) nofun nofun
  exact racing_calls 0 (.findAgent 0 "second") (admitted.snoc step) rfl rfl nofun
    (.named rfl stageInput_agent fresh)

theorem secondAdmission : Step plainServices plainRunRecovery plainErrors plainCompare
    (calling cancelledTables [stageJob "first"] (.admission [] "second" 1) (.scheduled "first")) (.runtime (.commit 0))
    (calling secondTables [stageJob "first", stageJob "second"] (.scheduled "second") (.scheduled "first")) := by
  have committed : commitAdmission plainServices stageInput "second" 1 assignedOffice cancelledTables [stageJob "first"] =
      .ok (secondTables, [stageJob "first", stageJob "second"]) := by
    decide
  have step : Step plainServices plainRunRecovery plainErrors plainCompare
      (calling cancelledTables [stageJob "first"] (.admission [] "second" 1) (.scheduled "first")) (.runtime (.commit 0)) _ :=
    .runtime rfl (.admitted rfl committed) rfl
  have within : 0 < [(⟨stageInput, .admission [] "second" 1⟩ : Scheduling String), ⟨stageInput, .scheduled "first"⟩].length := by
    decide
  simp only [Orchestration.setRuntime, Runtime.setScheduling, Runtime.setTables, calling, racing, update_placed within] at step
  exact step

/-- Two deliveries of one intent, the second of which schedules a run that is cancelled before the first goes on. -/
theorem redelivery_revives : ∃ before label after,
    Transition.Reachable (fun earlier step later => Step plainServices plainRunRecovery plainErrors plainCompare earlier step later ∧
        LeasesHold earlier later) (.initial 1 emptyOffice []) before ∧
      Step plainServices plainRunRecovery plainErrors plainCompare before label after ∧ LeasesHold before after ∧
      ¬Harmless before after := by
  obtain ⟨labels, run⟩ := cancelled_reachable
  refine ⟨_, _, _, ⟨labels, run.weaken fun _ _ _ watched => ⟨watched.step, watched.leases⟩⟩, secondAdmission,
    leases_still rfl, fun harmless => ?_⟩
  have revived := harmless.unrevived (stageRow "second") (List.mem_cons_of_mem _ List.mem_cons_self)
    (fun earlier member => by rw [List.mem_singleton.mp member]; decide) "ii" "i" ⟨rfl, rfl⟩ cancelledRow
    List.mem_cons_self ⟨rfl, rfl⟩
  cases revived

end AiOffice.Application.Pipeline.OrchestratePipelineStage
