import AiOffice.Domain.PipelineRun.Structure

namespace AiOffice.Domain.PipelineRun

open Data

/-- An override record, with the position of the run that it was issued at. -/
structure IssuedOverride where
  stageIndex : Nat
  record : PipelineOverrideRecord

/-- A run object together with its history: how many operations on it have returned, and the
overrides they issued. The history is not part of the program. -/
structure Tracked where
  run : PipelineRunProps
  succeeded : Nat
  overrides : List IssuedOverride

def Tracked.advance (tracked : Tracked) (record : Option PipelineOverrideRecord) (after : PipelineRunProps) :
    Tracked where
  run := after
  succeeded := tracked.succeeded + 1
  overrides := tracked.overrides ++ record.toList.map fun record => ⟨tracked.run.currentStageIndex, record⟩

/-- Perform an operation on a run object; one that throws leaves whatever it has mutated. -/
def Tracked.perform (tracked : Tracked) (command : Command) : Tracked :=
  match Method.call command.perform tracked.run with
  | (.ok record, after) => tracked.advance record after
  | (.error _, after) => { tracked with run := after }

/-- An attempt to create a run, or to perform an operation on one created before. -/
inductive Attempt
  | create (input : CreatePipelineRun)
  | perform (object : Nat) (command : Command)

def attempt (objects : List Tracked) : Attempt → List Tracked
  | .create input =>
    match create input with
    | .ok run => objects ++ [⟨run, 0, []⟩]
    | .error _ => objects
  | .perform object command =>
    objects.modify object fun tracked => tracked.perform command

/-- While a run is active, exactly the stages before its position are completed, the one at its
position is active or awaits approval, and every later one is pending. A completed run has completed
stages only, and a cancelled run no stage that is still open. -/
def Structural (run : PipelineRunProps) : Prop :=
  match run.status with
  | .active =>
    run.currentStageIndex < run.stages.length ∧
    ∀ (index : Nat) (stage : PipelineStageRunProps), run.stages[index]? = some stage →
      (stage.status = .completed ↔ index < run.currentStageIndex) ∧
      (index = run.currentStageIndex → stage.status = .active ∨ stage.status = .awaitingApproval) ∧
      (run.currentStageIndex < index → stage.status = .pending)
  | .completed => ∀ stage ∈ run.stages, stage.status = .completed
  | .cancelled => ∀ stage ∈ run.stages,
      stage.status ≠ .pending ∧ stage.status ≠ .active ∧ stage.status ≠ .awaitingApproval

theorem WellFormed.structural {run : PipelineRunProps} (wellFormed : WellFormed run) : Structural run := by
  have fits := wellFormed.fits
  unfold Structural
  split
  · next active =>
      rw [active] at fits
      refine ⟨wellFormed.within, fun index stage found => ?_⟩
      obtain ⟨before, here, after⟩ := fits index stage found
      refine ⟨⟨fun completed => ?_, before⟩, here, after⟩
      rcases Nat.lt_trichotomy index run.currentStageIndex with earlier | current | later
      · exact earlier
      · cases here current <;> simp_all
      · simp_all
  · next completed =>
      rw [completed] at fits
      intro stage member
      obtain ⟨index, found⟩ := List.getElem?_of_mem member
      exact fits index stage found
  · next cancelled =>
      rw [cancelled] at fits
      intro stage member
      obtain ⟨index, found⟩ := List.getElem?_of_mem member
      obtain status | status := fits index stage found <;> simp [status]

structure Tracked.Valid (tracked : Tracked) : Prop where
  wellFormed : WellFormed tracked.run
  counted : tracked.run.version = 1 + tracked.succeeded

theorem Tracked.perform_cases {tracked : Tracked} (indexed : Indexed tracked.run) (command : Command) :
    tracked.perform command = tracked ∨
      ∃ record after, Effect tracked.run command record after ∧
        tracked.perform command = tracked.advance record after := by
  unfold Tracked.perform
  obtain ⟨thrown, threw⟩ | ⟨record, after, returned, effect⟩ := perform_ends indexed command
  · rw [threw]
    exact .inl rfl
  · rw [returned]
    exact .inr ⟨record, after, effect, rfl⟩

theorem Tracked.Valid.perform {tracked : Tracked} (valid : tracked.Valid) (command : Command) :
    (tracked.perform command).Valid := by
  obtain same | ⟨record, after, effect, same⟩ := tracked.perform_cases valid.wellFormed.indexed command
  · rwa [same]
  · obtain ⟨wellFormed, version⟩ := effect.wellFormed valid.wellFormed
    rw [same]
    exact ⟨wellFormed, by rw [Tracked.advance, version, valid.counted, Nat.add_assoc]⟩

theorem attempt_valid {objects : List Tracked} (valid : ∀ tracked ∈ objects, tracked.Valid) (next : Attempt) :
    ∀ tracked ∈ attempt objects next, tracked.Valid := by
  cases next with
  | create input =>
    simp only [attempt]
    split
    · next run succeeded =>
        have created := create_created succeeded
        intro tracked member
        rcases List.mem_append.mp member with earlier | new
        · exact valid tracked earlier
        · obtain rfl := List.mem_singleton.mp new
          exact ⟨created.wellFormed, created.version⟩
    · exact valid
  | perform object command =>
    intro tracked member
    obtain ⟨index, found⟩ := List.getElem?_of_mem member
    rw [attempt, List.getElem?_modify, Option.map_eq_map, Option.map_eq_some_iff] at found
    obtain ⟨before, lookup, rfl⟩ := found
    have kept := valid before (List.mem_of_getElem? lookup)
    split
    · exact kept.perform command
    · exact kept

def attempts (list : List Attempt) : List Tracked :=
  list.foldl attempt []

theorem attempts_valid (list : List Attempt) : ∀ tracked ∈ attempts list, tracked.Valid :=
  List.foldlRecOn (motive := fun objects => ∀ tracked ∈ objects, Tracked.Valid tracked)
    list attempt (by simp) fun _ valid next _ => attempt_valid valid next

theorem Tracked.perform_inactive {tracked : Tracked} (valid : tracked.Valid)
    (inactive : tracked.run.status ≠ .active) (command : Command) : tracked.perform command = tracked := by
  obtain same | ⟨record, after, effect, -⟩ := tracked.perform_cases valid.wellFormed.indexed command
  · exact same
  · exact absurd effect.active inactive

theorem attempt_inactive {objects : List Tracked} {object : Nat} {tracked : Tracked}
    (valid : tracked.Valid) (inactive : tracked.run.status ≠ .active)
    (found : objects[object]? = some tracked) (next : Attempt) :
    (attempt objects next)[object]? = some tracked := by
  cases next with
  | create input =>
    simp only [attempt]
    split
    · exact List.getElem?_append_left (List.getElem?_eq_some_iff.mp found).1 ▸ found
    · exact found
  | perform other command =>
    simp only [attempt, List.getElem?_modify, found]
    split
    · simp [tracked.perform_inactive valid inactive command]
    · rfl

theorem attempts_inactive {objects : List Tracked} {object : Nat} {tracked : Tracked}
    (valid : tracked.Valid) (inactive : tracked.run.status ≠ .active)
    (found : objects[object]? = some tracked) (later : List Attempt) :
    (later.foldl attempt objects)[object]? = some tracked := by
  induction later generalizing objects with
  | nil => exact found
  | cons next later ih => exact ih (attempt_inactive valid inactive found next)

/-- After any attempts, every run object is structural, its version counts the operations that
returned, it never leaves a terminal status, and an operation that throws leaves it as it was. -/
theorem attempts_structural (list : List Attempt) (object : Nat) (tracked : Tracked)
    (found : (attempts list)[object]? = some tracked) :
    Structural tracked.run ∧
    tracked.run.version = 1 + tracked.succeeded ∧
    (tracked.run.status ≠ .active → ∀ later, (attempts (list ++ later))[object]? = some tracked) ∧
    ∀ (command : Command) thrown after,
      Method.call command.perform tracked.run = (.error thrown, after) → after = tracked.run := by
  have valid := attempts_valid list tracked (List.mem_of_getElem? found)
  refine ⟨valid.wellFormed.structural, valid.counted, ?_, ?_⟩
  · intro inactive later
    rw [attempts, List.foldl_append]
    exact attempts_inactive valid inactive found later
  · intro command thrown after threw
    obtain ⟨thrown, unchanged⟩ | ⟨record, final, returned, -⟩ := perform_ends valid.wellFormed.indexed command
    · rw [unchanged] at threw
      exact (Prod.mk.inj threw).2.symm
    · rw [returned] at threw
      cases threw

def reviewedPipeline : OfficePipeline where
  id := "delivery"
  name := "Delivery"
  description := "Build, then review"
  defaultFor := ["feature"]
  enforcement := some .enforced
  stages := [
    { id := "build", name := "Build", roleId := "developer", objective := "Build it", checks := []
      requiresApproval := false, requiresIndependentApproval := none, capabilities := some []
      requiresDifferentAgentFrom := none },
    { id := "review", name := "Review", roleId := "reviewer", objective := "Review it", checks := []
      requiresApproval := true, requiresIndependentApproval := some true, capabilities := some []
      requiresDifferentAgentFrom := some ["build"] }]

/-- A run of `reviewedPipeline` for a task. -/
def createReviewed : CreatePipelineRun where
  id := "run"
  projectId := "p"
  taskId := "task"
  manifestRevisionId := "manifest"
  manifestRevision := 1
  definition := reviewedPipeline
  startedBy := "local-operator"
  stageRunIds := ["stage-0", "stage-1"]
  configurationPin := none
  now := 0

def reviewedAttempts : List Attempt :=
  [.create createReviewed, .perform 0 (.assign "agent:p:dev" "developer" 1),
    .perform 0 (.completeStage "agent:p:other" 2), .perform 0 (.completeStage "agent:p:dev" 3)]

theorem attempts_structural_reviewed :
    ∃ tracked, (attempts reviewedAttempts)[0]? = some tracked ∧ Structural tracked.run ∧
      tracked.run.version = 1 + tracked.succeeded := by
  obtain ⟨tracked, found⟩ : ∃ tracked, (attempts reviewedAttempts)[0]? = some tracked := ⟨_, rfl⟩
  have holds := attempts_structural reviewedAttempts 0 tracked found
  exact ⟨tracked, found, holds.1, holds.2.1⟩

end AiOffice.Domain.PipelineRun
