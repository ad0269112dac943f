import AiOffice.Data.Keyed
import AiOffice.Domain.PipelineRun.History
import AiOffice.Storage.Office.PipelineRows
import AiOffice.Storage.PipelineTables

namespace AiOffice.Storage.Pipeline

open Data Domain Domain.PipelineRun Storage.Office

variable {tables : PipelineTables} {run after : PipelineRunProps} {command : Command}
  {record : Option PipelineOverrideRecord} {clock : Date} {index count : Nat} {row : StageRow} {runRow : RunRow}
  {stage item : PipelineStageRunProps}

theorem overwriteStage_change (change : StageChange run index stage command item) :
    overwriteStage stage item = item := by
  cases change <;> rfl

theorem belongsTo_iff {runId projectId : String} :
    row.belongsTo runId projectId = true ↔ row.pipelineRunId = runId ∧ row.projectId = projectId := by
  simp [StageRow.belongsTo]

structure Restored (tables : PipelineTables) (run : PipelineRunProps) (runRow : RunRow) : Prop where
  member : runRow ∈ tables.runs
  id : runRow.id = run.id
  projectId : runRow.projectId = run.projectId
  whole : run = runRow.restore ((tables.stagesOf run.id run.projectId).map StageRow.stage)

theorem findById_restored (found : tables.findById run.id run.projectId = some run) :
    ∃ runRow, Restored tables run runRow := by
  obtain ⟨runRow, lookup, same⟩ := Option.map_eq_some_iff.mp found
  have keyed := List.find?_some lookup
  simp only [Bool.and_eq_true, decide_eq_true_eq] at keyed
  obtain ⟨sameId, sameProject⟩ := keyed
  exact ⟨runRow, List.mem_of_find?_eq_some lookup, sameId, sameProject, by rw [← sameId, ← sameProject, same]⟩

theorem Restored.stages (restored : Restored tables run runRow) :
    run.stages = (tables.stagesOf run.id run.projectId).map StageRow.stage :=
  congrArg PipelineRunProps.stages restored.whole

theorem mem_stagesOf {runId projectId : String} :
    row ∈ tables.stagesOf runId projectId ↔ row ∈ tables.stages ∧ row.belongsTo runId projectId = true := by
  rw [PipelineTables.stagesOf, List.mem_mergeSort, List.mem_filter]

theorem Restored.stage_at (restored : Restored tables run runRow) (indexed : Indexed run) (member : row ∈ tables.stages)
    (belongs : row.belongsTo run.id run.projectId = true) : run.stages[row.stage.stageIndex]? = some row.stage := by
  have listed : row.stage ∈ run.stages := by
    rw [restored.stages]
    exact List.mem_map_of_mem (mem_stagesOf.mpr ⟨member, belongs⟩)
  obtain ⟨index, found⟩ := List.getElem?_of_mem listed
  rwa [indexed index row.stage found]

theorem Restored.row_at (restored : Restored tables run runRow) (found : run.stages[index]? = some stage) :
    ∃ row ∈ tables.stages, row.belongsTo run.id run.projectId = true ∧ row.stage = stage := by
  rw [restored.stages, List.getElem?_map, Option.map_eq_some_iff] at found
  obtain ⟨row, lookup, rfl⟩ := found
  obtain ⟨member, belongs⟩ := mem_stagesOf.mp (List.mem_of_getElem? lookup)
  exact ⟨row, member, belongs, rfl⟩

/-- A stage row once the updates of the first `count` stages are made. -/
def settled (run after : PipelineRunProps) (count : Nat) (row : StageRow) : StageRow :=
  if row.belongsTo run.id run.projectId = true ∧ row.stage.stageIndex < count then
    (after.stages[row.stage.stageIndex]?).elim row fun item => row.overwrite item
  else row

theorem settled_kept (run after : PipelineRunProps) (count : Nat) (row : StageRow) :
    (settled run after count row).stage.id = row.stage.id ∧
      (settled run after count row).stage.stageIndex = row.stage.stageIndex ∧
      (settled run after count row).pipelineRunId = row.pipelineRunId ∧
      (settled run after count row).projectId = row.projectId := by
  unfold settled
  split
  · cases after.stages[row.stage.stageIndex]? <;> exact ⟨rfl, rfl, rfl, rfl⟩
  · exact ⟨rfl, rfl, rfl, rfl⟩

theorem settled_belongsTo (runId projectId : String) :
    (settled run after count row).belongsTo runId projectId = row.belongsTo runId projectId := by
  obtain ⟨-, -, sameRun, sameProject⟩ := settled_kept run after count row
  rw [StageRow.belongsTo, sameRun, sameProject, StageRow.belongsTo]

theorem settled_later (later : count ≤ row.stage.stageIndex) : settled run after count row = row := by
  rw [settled, if_neg (fun holds => Nat.not_lt.mpr later holds.2)]

theorem settled_other (other : row.belongsTo run.id run.projectId = false) : settled run after count row = row := by
  rw [settled, if_neg (by simp [other])]

theorem settled_written (belongs : row.belongsTo run.id run.projectId = true) (earlier : row.stage.stageIndex < count)
    (found : after.stages[row.stage.stageIndex]? = some item) : settled run after count row = row.overwrite item := by
  rw [settled, if_pos ⟨belongs, earlier⟩, found]
  rfl

/-- The tables once the run row and the first `count` stage rows are updated. -/
def progress (tables : PipelineTables) (run after : PipelineRunProps) (runRow : RunRow) (count : Nat) :
    PipelineTables :=
  { tables with
    runs := tables.runs.map fun other => if other.id = runRow.id then runRow.overwrite after else other
    stages := tables.stages.map (settled run after count) }

def AssigneeUnknown (tables : PipelineTables) (run : PipelineRunProps) (command : Command) : Prop :=
  ∃ agentId agentRoleId now, command = .assign agentId agentRoleId now ∧
    ∀ agent ∈ tables.agents, ¬(agent.id = trim agentId ∧ agent.projectId = run.projectId)

section

variable (restored : Restored tables run runRow) (wellFormed : WellFormed run) (effect : Effect run command record after)

include restored wellFormed effect

theorem row_change (member : row ∈ tables.stages) (belongs : row.belongsTo run.id run.projectId = true) :
    ∃ item, after.stages[row.stage.stageIndex]? = some item ∧
      StageChange run row.stage.stageIndex row.stage command item := by
  have here := restored.stage_at wellFormed.indexed member belongs
  have within := (List.getElem?_eq_some_iff.mp here).1
  obtain ⟨item, found⟩ : ∃ item, after.stages[row.stage.stageIndex]? = some item :=
    ⟨_, List.getElem?_eq_getElem (by rwa [Effect.stages_length effect])⟩
  obtain ⟨stage, same, change⟩ := effect.stageChange wellFormed found
  obtain rfl : row.stage = stage := Option.some.inj (here.symm.trans same)
  exact ⟨item, found, change⟩

/-- Among the stages of the run at any moment of the loop, the one at work is its new current stage when it is
written already, and its old one else. -/
theorem settled_atWork (member : row ∈ tables.stages) (belongs : row.belongsTo run.id run.projectId = true)
    (working : atWork (settled run after count row).stage = true) :
    row.stage.stageIndex < count ∧ row.stage.stageIndex = after.currentStageIndex ∨
      count ≤ row.stage.stageIndex ∧ row.stage.stageIndex = run.currentStageIndex := by
  obtain ⟨item, found, change⟩ := row_change restored wellFormed effect member belongs
  by_cases earlier : row.stage.stageIndex < count
  · rw [settled_written belongs earlier found, StageRow.overwrite, overwriteStage_change change] at working
    exact .inl ⟨earlier, atWork_current (effect.wellFormed wellFormed).1 found working⟩
  · have here := restored.stage_at wellFormed.indexed member belongs
    rw [settled_later (Nat.not_lt.mp earlier)] at working
    exact .inr ⟨Nat.not_lt.mp earlier, atWork_current wellFormed here working⟩

end

section

variable (schema : Schema tables) (restored : Restored tables run runRow)

include schema restored

theorem sibling_belongs {other : StageRow} (belongs : row.belongsTo run.id run.projectId = true)
    (also : other ∈ tables.stages) (sibling : other.pipelineRunId = row.pipelineRunId) :
    other.belongsTo run.id run.projectId = true := by
  obtain ⟨known, member, owner⟩ := schema.runKnown other also
  obtain ⟨sameRun, sameProject⟩ := belongsTo_iff.mp owner
  have sameId : known.id = runRow.id := by
    rw [← sameRun, sibling, (belongsTo_iff.mp belongs).1, restored.id]
  obtain rfl : known = runRow := keyed_eq schema.runIds restored.member member sameId
  rw [belongsTo_iff, ← restored.id, ← restored.projectId]
  exact ⟨sameRun, sameProject⟩

variable (wellFormed : WellFormed run) (undecided : Undecided run) (effect : Effect run command record after)

include wellFormed undecided effect

/-- The update of one stage passes the triggers, checks and index by the rows of its moment, and is refused
only by the key of an assignee that has no row. -/
theorem updateStage_step (found : after.stages[index]? = some item) :
    updateStage after.id after.projectId (progress tables run after runRow index) item =
        .ok (progress tables run after runRow (index + 1)) ∨
      updateStage after.id after.projectId (progress tables run after runRow index) item =
        .error (abort foreignKeyFailed) ∧ AssigneeUnknown tables run command := by
  obtain ⟨stage, before, change⟩ := effect.stageChange wellFormed found
  obtain ⟨row, member, belongs, rfl⟩ := restored.row_at before
  have position : row.stage.stageIndex = index := wellFormed.indexed index row.stage before
  have sameStage : overwriteStage row.stage item = item := overwriteStage_change change
  have sameId : item.id = row.stage.id := by rw [← sameStage, overwriteStage]
  obtain ⟨runKept, projectKept, -⟩ := Effect.kept effect
  have untouched : settled run after index row = row := settled_later (Nat.le_of_eq position.symm)
  have lookup : (progress tables run after runRow index).stages.find? (fun other =>
      other.stage.id = item.id && other.belongsTo after.id after.projectId) = some row := by
    refine find_keyed (keyed_map (fun other => (settled_kept run after index other).1) schema.stageIds)
      (List.mem_map.mpr ⟨row, member, untouched⟩) ?_ ?_
    · simp [sameId, runKept, projectKept, belongs]
    · intro other _ selected
      simp only [Bool.and_eq_true, decide_eq_true_eq] at selected
      exact selected.1.trans sameId
  obtain ⟨moved, assignment, approval, valid⟩ := StageChange.accepted change wellFormed
    (schema.stagesValid row member) fun _ awaiting =>
      undecided row.stage (List.mem_of_getElem? before) (by rw [awaiting]; rfl)
  have alone : (atWork item && (progress tables run after runRow index).stages.any fun other =>
      other.stage.id ≠ row.stage.id && other.pipelineRunId = row.pipelineRunId && atWork other.stage) = false := by
    rw [Bool.eq_false_iff]
    intro clash
    simp only [Bool.and_eq_true, List.any_eq_true, decide_eq_true_eq] at clash
    obtain ⟨working, shown, listed, ⟨different, sibling⟩, alsoWorking⟩ := clash
    obtain ⟨other, also, rfl⟩ := List.mem_map.mp listed
    obtain ⟨sameKey, -, sameRun, -⟩ := settled_kept run after index other
    rw [sameRun] at sibling
    have otherBelongs := sibling_belongs schema restored belongs also sibling
    have here : index = after.currentStageIndex := atWork_current (effect.wellFormed wellFormed).1 found working
    have forward := effect.position wellFormed
    have apart : other.stage.stageIndex ≠ index := by
      intro same
      have there := restored.stage_at wellFormed.indexed also otherBelongs
      rw [same, before, Option.some.injEq] at there
      exact different (by rw [sameKey, there])
    rcases settled_atWork restored wellFormed effect also otherBelongs alsoWorking with ⟨-, there⟩ | ⟨later, there⟩
    · exact apart (there.trans here.symm)
    · omega
  have rewritten : (progress tables run after runRow index).stages.map (fun other =>
      if other.stage.id = row.stage.id then row.overwrite item else other) =
      tables.stages.map (settled run after (index + 1)) := by
    rw [progress, List.map_map]
    refine List.map_congr_left fun other also => ?_
    obtain ⟨sameKey, -⟩ := settled_kept run after index other
    rw [Function.comp_apply, sameKey]
    split
    · next same =>
        obtain rfl : other = row := keyed_eq schema.stageIds member also same
        exact (settled_written belongs (by omega) (by rw [position, found])).symm
    · next different =>
        by_cases otherBelongs : other.belongsTo run.id run.projectId = true
        · have apart : other.stage.stageIndex ≠ index := by
            intro same
            have there := restored.stage_at wellFormed.indexed also otherBelongs
            rw [same, before, Option.some.injEq] at there
            exact different (by rw [there])
          unfold settled
          by_cases earlier : other.stage.stageIndex < index
          · rw [if_pos ⟨otherBelongs, earlier⟩, if_pos ⟨otherBelongs, by omega⟩]
          · rw [if_neg (fun holds => earlier holds.2), if_neg (fun holds => by omega)]
        · rw [Bool.not_eq_true] at otherBelongs
          rw [settled_other otherBelongs, settled_other otherBelongs]
  have refusal : stageRefusal (progress tables run after runRow index) row (row.overwrite item) =
      if agentKnown (progress tables run after runRow index) row (row.overwrite item) then none
      else some foreignKeyFailed := by
    simp only [stageRefusal, StageRow.overwrite, sameStage, moved, assignment, approval, valid, alone, Bool.not_true,
      Bool.false_eq_true, if_false]
    cases agentKnown (progress tables run after runRow index) row { row with stage := item } <;> rfl
  unfold updateStage
  rw [lookup]
  by_cases known : agentKnown (progress tables run after runRow index) row (row.overwrite item) = true
  · left
    simp only [refusal, known, if_true]
    rw [rewritten]
    rfl
  · right
    refine ⟨by simp only [refusal, known]; rfl, ?_⟩
    rw [Bool.not_eq_true, agentKnown, Bool.or_eq_false_iff, StageRow.overwrite, sameStage, decide_eq_false_iff_not] at known
    obtain ⟨written, missing⟩ := known
    rcases StageChange.assignee change with same | ⟨agentId, now, assigns, recorded⟩
    · exact absurd same written
    · refine ⟨agentId, _, now, assigns, fun agent listed present => ?_⟩
      rw [recorded] at missing
      simp only [Option.all_some, List.any_eq_false, Bool.and_eq_true, decide_eq_true_eq] at missing
      exact missing agent listed ⟨present.1, by rw [present.2, (belongsTo_iff.mp belongs).2]⟩

omit undecided in
theorem runRefusal_none (inOrder : run.updatedAt ≤ command.now) :
    runRefusal tables runRow (runRow.overwrite after) = none := by
  have version := (effect.wellFormed wellFormed).2
  have same : runUpdateRefusal (runRow.restore []) ((runRow.overwrite after).restore []) =
      runUpdateRefusal run after := by
    have overwritten := Effect.overwrites effect
    rw [← overwritten, restored.whole]
    rfl
  have valid : runRowValid run = true := by
    rw [restored.whole]
    exact schema.runsValid runRow restored.member
  have active : runRow.status = .active := by
    rw [← effect.active, restored.whole]
    rfl
  have alone : ¬((runRow.overwrite after).status = .active ∧ (tables.runs.any fun other =>
      other.id ≠ runRow.id && other.projectId = (runRow.overwrite after).projectId &&
        other.taskId = (runRow.overwrite after).taskId && other.status = .active) = true) := by
    rintro ⟨-, clash⟩
    simp only [List.any_eq_true, Bool.and_eq_true, decide_eq_true_eq] at clash
    obtain ⟨other, also, ⟨⟨different, sameProject⟩, sameTask⟩, alsoActive⟩ := clash
    exact different (schema.oneActive runRow restored.member other also active alsoActive sameProject sameTask)
  rw [runRefusal, same, Effect.runAccepted effect wellFormed valid inOrder, if_neg alone]
  rfl

/-- The save writes the run row and all stage rows, or the key of an assignee refuses it. -/
theorem save_writes (inOrder : run.updatedAt ≤ command.now) :
    save after run.version tables = .ok (true, progress tables run after runRow after.stages.length) ∨
      save after run.version tables = .error (abort foreignKeyFailed) ∧ AssigneeUnknown tables run command := by
  obtain ⟨runKept, projectKept, -⟩ := Effect.kept effect
  have sameVersion : runRow.version = run.version := by
    rw [restored.whole]
    rfl
  have lookup : tables.runs.find? (fun row =>
      row.id = after.id && row.projectId = after.projectId && row.version = run.version) = some runRow := by
    refine find_keyed schema.runIds restored.member ?_ ?_
    · simp [runKept, projectKept, restored.id, restored.projectId, sameVersion]
    · intro other _ selected
      simp only [Bool.and_eq_true, decide_eq_true_eq] at selected
      rw [selected.1.1, runKept, restored.id]
  have first : ({ tables with
      runs := tables.runs.map fun other => if other.id = runRow.id then runRow.overwrite after else other } :
        PipelineTables) = progress tables run after runRow 0 := by
    have untouched : tables.stages.map (settled run after 0) = tables.stages :=
      List.map_id'' (fun row => settled_later (Nat.zero_le _)) _
    rw [progress, untouched]
  unfold save
  rw [lookup]
  simp only [runRefusal_none schema restored wellFormed effect inOrder, first]
  rcases Outcome.foldlM_ends (progress tables run after runRow) fun index item found =>
      updateStage_step schema restored wellFormed undecided effect found with returned | ⟨threw, unknown⟩
  · left
    rw [Outcome.bind_returns returned]
    rfl
  · right
    rw [threw]
    exact ⟨rfl, unknown⟩

omit undecided in
/-- What is written reads back as the run after the operation. -/
theorem progress_findById :
    (progress tables run after runRow after.stages.length).findById after.id after.projectId = some after := by
  obtain ⟨runKept, projectKept, -⟩ := Effect.kept effect
  have lookup : (progress tables run after runRow after.stages.length).runs.find? (fun row =>
      row.id = after.id && row.projectId = after.projectId) = some (runRow.overwrite after) := by
    refine find_keyed (keyed_map (fun other => ?_) schema.runIds)
      (List.mem_map.mpr ⟨runRow, restored.member, if_pos rfl⟩) ?_ ?_
    · split
      · next same => exact same.symm
      · rfl
    · simp [RunRow.overwrite, runKept, projectKept, restored.id, restored.projectId]
    · intro other _ selected
      simp only [Bool.and_eq_true, decide_eq_true_eq] at selected
      rw [selected.1, runKept, ← restored.id, RunRow.overwrite]
  have stagesRead : ((progress tables run after runRow after.stages.length).stagesOf run.id run.projectId).map
      StageRow.stage = after.stages := by
    have sorted := @sorted_map _ tables.stages (StageRow.belongsTo run.id run.projectId)
      (fun row => row.stage.stageIndex) (settled run after after.stages.length)
      (fun row => (settled_kept run after _ row).2.1) (fun row => settled_belongsTo run.id run.projectId)
    rw [PipelineTables.stagesOf, progress, sorted, ← PipelineTables.stagesOf, List.map_map]
    refine List.ext_getElem? fun index => ?_
    rw [List.getElem?_map]
    cases read : (tables.stagesOf run.id run.projectId)[index]? with
    | none =>
      have beyond : run.stages.length ≤ index := by
        rw [restored.stages, List.length_map]
        exact List.getElem?_eq_none_iff.mp read
      rw [← Effect.stages_length effect] at beyond
      exact (List.getElem?_eq_none_iff.mpr beyond).symm
    | some row =>
      obtain ⟨member, belongs⟩ := mem_stagesOf.mp (List.mem_of_getElem? read)
      obtain ⟨item, found, change⟩ := row_change restored wellFormed effect member belongs
      have position : row.stage.stageIndex = index := by
        refine wellFormed.indexed index row.stage ?_
        rw [restored.stages, List.getElem?_map, read]
        rfl
      rw [Option.map_some, Function.comp_apply,
        settled_written belongs (List.getElem?_eq_some_iff.mp found).1 found, StageRow.overwrite,
        overwriteStage_change change, ← position, found]
  have whole : (runRow.overwrite after).restore after.stages = after := by
    have overwritten := Effect.overwrites effect
    rw [restored.whole] at overwritten
    exact overwritten
  rw [PipelineTables.findById, lookup, Option.map_some]
  have sameRun : (runRow.overwrite after).id = run.id := restored.id
  have sameProject : (runRow.overwrite after).projectId = run.projectId := restored.projectId
  rw [sameRun, sameProject, stagesRead, whole]

omit schema undecided in
theorem settled_final (member : row ∈ tables.stages) (belongs : row.belongsTo run.id run.projectId = true) :
    ∃ item, after.stages[row.stage.stageIndex]? = some item ∧
      StageChange run row.stage.stageIndex row.stage command item ∧
      settled run after after.stages.length row = { row with stage := item } := by
  obtain ⟨item, found, change⟩ := row_change restored wellFormed effect member belongs
  refine ⟨item, found, change, ?_⟩
  rw [settled_written belongs (List.getElem?_eq_some_iff.mp found).1 found, StageRow.overwrite,
    overwriteStage_change change]

theorem progress_stagesValid : ∀ row ∈ (progress tables run after runRow after.stages.length).stages,
    stageRowValid row.stage = true := by
  intro written listed
  obtain ⟨row, member, rfl⟩ := List.mem_map.mp listed
  cases belongs : row.belongsTo run.id run.projectId with
  | true =>
    obtain ⟨item, -, change, same⟩ := settled_final restored wellFormed effect member belongs
    rw [same]
    refine (StageChange.accepted change wellFormed (schema.stagesValid row member) fun _ awaiting => ?_).2.2.2
    have here := restored.stage_at wellFormed.indexed member belongs
    exact undecided row.stage (List.mem_of_getElem? here) (by rw [awaiting]; rfl)
  | false =>
    rw [settled_other belongs]
    exact schema.stagesValid row member

omit undecided in
theorem progress_oneAtWork : ∀ row ∈ (progress tables run after runRow after.stages.length).stages,
    ∀ other ∈ (progress tables run after runRow after.stages.length).stages, atWork row.stage = true →
      atWork other.stage = true → other.pipelineRunId = row.pipelineRunId → other.stage.id = row.stage.id := by
  intro written listed alsoWritten alsoListed working alsoWorking sibling
  obtain ⟨row, member, rfl⟩ := List.mem_map.mp listed
  obtain ⟨other, also, rfl⟩ := List.mem_map.mp alsoListed
  obtain ⟨rowKey, -, rowRun, -⟩ := settled_kept run after after.stages.length row
  obtain ⟨otherKey, -, otherRun, -⟩ := settled_kept run after after.stages.length other
  rw [rowRun, otherRun] at sibling
  rw [rowKey, otherKey]
  cases belongs : row.belongsTo run.id run.projectId with
  | true =>
    have together := sibling_belongs schema restored belongs also sibling
    have left := restored.stage_at wellFormed.indexed member belongs
    have right := restored.stage_at wellFormed.indexed also together
    have leftWithin := (List.getElem?_eq_some_iff.mp left).1
    have rightWithin := (List.getElem?_eq_some_iff.mp right).1
    rw [← Effect.stages_length effect] at leftWithin rightWithin
    have here := settled_atWork restored wellFormed effect member belongs working
    have there := settled_atWork restored wellFormed effect also together alsoWorking
    rw [show other.stage.stageIndex = row.stage.stageIndex by omega, left] at right
    rw [Option.some.inj right]
  | false =>
    have apart : other.belongsTo run.id run.projectId = false := by
      rw [← Bool.not_eq_true]
      intro together
      rw [sibling_belongs schema restored together member sibling.symm] at belongs
      cases belongs
    rw [settled_other belongs] at working
    rw [settled_other apart] at alsoWorking
    exact schema.oneAtWork row member other also working alsoWorking sibling

omit schema wellFormed undecided in
theorem overwritten_active (schema : Schema tables) {other : RunRow} (member : other ∈ tables.runs)
    (working : (if other.id = runRow.id then runRow.overwrite after else other).status = .active) :
    other.status = .active ∧ (if other.id = runRow.id then runRow.overwrite after else other).id = other.id ∧
      (if other.id = runRow.id then runRow.overwrite after else other).projectId = other.projectId ∧
      (if other.id = runRow.id then runRow.overwrite after else other).taskId = other.taskId := by
  split
  · next same =>
      obtain rfl := keyed_eq schema.runIds restored.member member same
      have active : other.status = .active := by
        rw [← effect.active, restored.whole]
        rfl
      exact ⟨active, rfl, rfl, rfl⟩
  · next different =>
      rw [if_neg different] at working
      exact ⟨working, rfl, rfl, rfl⟩

/-- What is written still meets every check and key. -/
theorem progress_schema : Schema (progress tables run after runRow after.stages.length) := by
  refine ⟨keyed_map (fun other => ?_) schema.runIds,
    keyed_map (fun other => (settled_kept run after _ other).1) schema.stageIds, ?_,
    progress_stagesValid schema restored wellFormed undecided effect, ?_,
    progress_oneAtWork schema restored wellFormed effect, ?_⟩
  · split
    · next same => exact same.symm
    · rfl
  · intro written listed
    obtain ⟨other, also, rfl⟩ := List.mem_map.mp listed
    split
    · next same =>
        have valid : runRowValid after = true := by
          refine Effect.rowValid effect ?_
          rw [restored.whole]
          exact schema.runsValid runRow restored.member
        rw [← Effect.overwrites effect, restored.whole] at valid
        exact valid
    · exact schema.runsValid other also
  · intro written listed alsoWritten alsoListed working alsoWorking sameProject sameTask
    obtain ⟨row, member, rfl⟩ := List.mem_map.mp listed
    obtain ⟨other, also, rfl⟩ := List.mem_map.mp alsoListed
    obtain ⟨rowActive, rowId, rowProject, rowTask⟩ := overwritten_active restored effect schema member working
    obtain ⟨otherActive, otherId, otherProject, otherTask⟩ :=
      overwritten_active restored effect schema also alsoWorking
    rw [rowId, otherId]
    rw [rowProject, otherProject] at sameProject
    rw [rowTask, otherTask] at sameTask
    exact schema.oneActive row member other also rowActive otherActive sameProject sameTask
  · intro written listed
    obtain ⟨row, member, rfl⟩ := List.mem_map.mp listed
    obtain ⟨known, stored, owner⟩ := schema.runKnown row member
    refine ⟨_, List.mem_map_of_mem stored, ?_⟩
    rw [settled_belongsTo]
    split
    · next same =>
        obtain rfl := keyed_eq schema.runIds restored.member stored same
        exact owner
    · exact owner

end

theorem save_stale (schema : Schema tables) {value : PipelineRunProps} {expectedVersion : Nat}
    (stale : ∀ stored, tables.findById value.id value.projectId = some stored → stored.version ≠ expectedVersion) :
    save value expectedVersion tables = .ok (false, tables) := by
  have missing : tables.runs.find? (fun row =>
      row.id = value.id && row.projectId = value.projectId && row.version = expectedVersion) = none := by
    rw [List.find?_eq_none]
    intro row member selected
    simp only [Bool.and_eq_true, decide_eq_true_eq] at selected
    obtain ⟨⟨sameId, sameProject⟩, sameVersion⟩ := selected
    have lookup : tables.runs.find? (fun row => row.id = value.id && row.projectId = value.projectId) = some row := by
      refine find_keyed schema.runIds member (by simp [sameId, sameProject]) fun other _ selected => ?_
      simp only [Bool.and_eq_true, decide_eq_true_eq] at selected
      rw [selected.1, sameId]
    exact stale _ (by rw [PipelineTables.findById, lookup]; rfl) sameVersion
  unfold save
  rw [missing]

/-- Whatever an operation makes of a reached run, the save of it at the stored version passes every trigger,
check and index, row by row, and reads back as the new snapshot; only the key of an assignee without a row of
its own can refuse it. A save at any other version changes no row. -/
theorem save_accepts_operations (schema : Schema tables) (operated : Operated run clock)
    (stored : tables.findById run.id run.projectId = some run) (later : clock ≤ command.now)
    (returned : Method.call command.perform run = (.ok record, after)) :
    ((∃ saved, save after run.version tables = .ok (true, saved) ∧ Schema saved ∧
        saved.findById after.id after.projectId = some after) ∨
      save after run.version tables = .error (abort foreignKeyFailed) ∧ AssigneeUnknown tables run command) ∧
    ∀ (value : PipelineRunProps) (expectedVersion : Nat),
      (∀ current, tables.findById value.id value.projectId = some current → current.version ≠ expectedVersion) →
      save value expectedVersion tables = .ok (false, tables) := by
  obtain ⟨wellFormed, undecided, inOrder⟩ := operated.kept
  obtain ⟨runRow, restored⟩ := findById_restored stored
  have effect := operated.effect returned
  refine ⟨?_, fun value expectedVersion stale => save_stale schema stale⟩
  rcases save_writes schema restored wellFormed undecided effect (Int.le_trans inOrder later) with written | refused
  · exact .inl ⟨_, written, progress_schema schema restored wellFormed undecided effect,
      progress_findById schema restored wellFormed effect⟩
  · exact .inr refused

/-- The stages of a new run of `reviewedPipeline`. -/
def newStage (id stageId roleId : String) (stageIndex : Nat) (status : PipelineStageRunStatus) :
    PipelineStageRunProps where
  id := id
  stageId := stageId
  stageIndex := stageIndex
  roleId := roleId
  status := status
  assignedAgentId := none
  assignedAt := none
  completedAt := none
  approvedBy := none
  approvalDecision := none
  approvalRationale := none
  approvedAt := none

def reviewedRow : RunRow where
  id := "run"
  projectId := "p"
  taskId := "task"
  manifestRevisionId := "manifest"
  manifestRevision := 1
  definition := reviewedPipeline
  status := .active
  currentStageIndex := 0
  startedBy := "local-operator"
  version := 1
  createdAt := 0
  updatedAt := 0
  completedAt := none
  cancelledAt := none
  configurationPin := none

def reviewedStages : List PipelineStageRunProps :=
  [newStage "stage-0" "build" "developer" 0 .active, newStage "stage-1" "review" "reviewer" 1 .pending]

def reviewedTables : PipelineTables where
  runs := [reviewedRow]
  stages := reviewedStages.map fun stage => ⟨"run", "p", stage⟩
  agents := [⟨"agent:p:dev", "p", "Dev", "developer", true, 0, 0⟩]

theorem reviewedTables_schema : Schema reviewedTables :=
  ⟨by decide, by decide, by decide, by decide, by decide, by decide, by decide⟩

theorem save_accepts_operations_assigned :
    ∃ after saved, save after 1 reviewedTables = .ok (true, saved) ∧ saved.findById "run" "p" = some after ∧
      after.version = 2 := by
  have created : create createReviewed = .ok (reviewedRow.restore reviewedStages) := by decide
  have stored : reviewedTables.findById "run" "p" = some (reviewedRow.restore reviewedStages) := by
    have sorted : reviewedTables.stagesOf "run" "p" = reviewedTables.stages := List.mergeSort_of_pairwise (by decide)
    rw [PipelineTables.findById, show reviewedTables.runs.find? _ = some reviewedRow from rfl, Option.map_some,
      show reviewedTables.stagesOf reviewedRow.id reviewedRow.projectId = _ from sorted]
    rfl
  obtain ⟨after, returned, kept⟩ : ∃ after, Method.call (Command.assign "agent:p:dev" "developer" 1).perform
      (reviewedRow.restore reviewedStages) = (.ok none, after) ∧
      after.id = "run" ∧ after.projectId = "p" ∧ after.version = 2 := ⟨_, rfl, rfl, rfl, rfl⟩
  have accepted := (save_accepts_operations reviewedTables_schema (.created created) stored (by decide) returned).1
  rcases accepted with ⟨saved, written, -, read⟩ | ⟨-, agentId, agentRoleId, now, assigns, missing⟩
  · rw [kept.1, kept.2.1] at read
    exact ⟨after, saved, written, read, kept.2.2⟩
  · cases assigns
    exact absurd ⟨by decide, rfl⟩ (missing _ (List.mem_singleton.mpr rfl))

end AiOffice.Storage.Pipeline
