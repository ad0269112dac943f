import AiOffice.Application.OfficeManifestSchema
import AiOffice.Application.SyncAgentDefinitions
import AiOffice.Domain.PipelineRun.History

namespace AiOffice.Domain.PipelineRun

open Data Application Application.OfficeManifestSchema

/-- No stage is assigned to an agent that is assigned to a stage it must be separated from. -/
def Separated (run : PipelineRunProps) : Prop :=
  ∀ (index : Nat) stage definition, run.stages[index]? = some stage →
    run.definition.stages[index]? = some definition →
    ∀ predecessor ∈ run.stages, predecessor.stageId ∈ definition.separatedFrom →
    ∀ agentId, stage.assignedAgentId = some agentId → predecessor.assignedAgentId ≠ some agentId

/-- Every completed stage that requires approval carries an approval, or an override completed it. -/
def Approved (tracked : Tracked) : Prop :=
  ∀ (index : Nat) stage definition, tracked.run.stages[index]? = some stage →
    tracked.run.definition.stages[index]? = some definition →
    stage.status = .completed → definition.requiresApproval = true →
    stage.approvalDecision = some .approved ∨
      ∃ issued ∈ tracked.overrides, issued.stageIndex = index ∧
        issued.record.stageRunId = stage.id ∧ issued.record.pipelineRunId = tracked.run.id

/-- Where approval must be independent, whoever decided is not the agent of the stage. -/
def Independent (run : PipelineRunProps) : Prop :=
  ∀ (index : Nat) stage definition, run.stages[index]? = some stage →
    run.definition.stages[index]? = some definition →
    definition.requiresIndependentApproval = some true →
    ∀ actor, stage.approvedBy = some actor → stage.assignedAgentId ≠ some actor

/-- The next operation records a decision only on a stage that awaits approval. -/
def DecidesAwaiting (tracked : Tracked) : Prop :=
  ∀ (command : Command) (index : Nat) before after, tracked.run.stages[index]? = some before →
    (tracked.perform command).run.stages[index]? = some after →
    after.approvalDecision ≠ before.approvalDecision → before.status = .awaitingApproval

/-- An assignment that passes the check on the agent id as it is given, although the id that will be
stored, without its outer white space, is assigned to a stage that must have another agent. -/
def Collides (run : PipelineRunProps) : Command → Prop
  | .assign agentId agentRoleId _ =>
    ∃ stage definition, Current run stage ∧ stage.status = .active ∧ stage.assignedAgentId = none ∧
      agentRoleId = stage.roleId ∧ run.definition.stages[stage.stageIndex]? = some definition ∧
      trim agentId ≠ "" ∧
      (∀ predecessorId ∈ definition.separatedFrom, assignedTo run.stages predecessorId ≠ some agentId) ∧
      ∃ predecessorId ∈ definition.separatedFrom, assignedTo run.stages predecessorId = some (trim agentId)
  | _ => False

structure Governed (tracked : Tracked) : Prop where
  wellFormed : WellFormed tracked.run
  accepted : PipelineAccepted tracked.run.definition
  identified : ∀ (index : Nat) stage, tracked.run.stages[index]? = some stage →
    ∃ definition, tracked.run.definition.stages[index]? = some definition ∧ stage.stageId = definition.id
  unstaffed : tracked.run.status = .active → ∀ (index : Nat) stage, tracked.run.stages[index]? = some stage →
    tracked.run.currentStageIndex < index → stage.assignedAgentId = none
  undecided : ∀ stage ∈ tracked.run.stages, stage.status = .pending ∨ stage.status = .active →
    stage.approvedBy = none
  approved : Approved tracked
  independent : Independent tracked.run

variable {run after : PipelineRunProps} {command : Command} {record : Option PipelineOverrideRecord}
  {index : Nat} {stage final : PipelineStageRunProps}

theorem StageChange.identity (change : StageChange run index stage command final) :
    final.stageId = stage.stageId ∧ final.id = stage.id := by
  cases change <;> exact ⟨rfl, rfl⟩

theorem Effect.identity (effect : Effect run command record after) :
    after.definition = run.definition ∧ after.id = run.id := by
  cases effect with
  | assigned | submitted | rejected | cancelled => exact ⟨rfl, rfl⟩
  | completed | approved | overridden =>
    unfold finished
    split <;> exact ⟨rfl, rfl⟩

theorem StageChange.assignment (change : StageChange run index stage command final) :
    final.assignedAgentId = stage.assignedAgentId ∨
      ∃ agentId now, command = .assign agentId stage.roleId now ∧ index = run.currentStageIndex ∧
        final.assignedAgentId = some (trim agentId) := by
  cases change with
  | staffed current here => exact .inr ⟨_, _, rfl, here, rfl⟩
  | kept | submitted | completed | approved | rejected | overridden | activated | cancelled => exact .inl rfl

theorem StageChange.decision (change : StageChange run index stage command final) :
    (final.approvalDecision = stage.approvalDecision ∧ final.approvedBy = stage.approvedBy) ∨
      stage.status = .awaitingApproval := by
  cases change with
  | approved awaiting | rejected awaiting => exact .inr awaiting
  | kept | staffed | submitted | completed | overridden | activated | cancelled => exact .inl ⟨rfl, rfl⟩

theorem Governed.undecided_after {tracked : Tracked} (governed : Governed tracked)
    (found : tracked.run.stages[index]? = some stage)
    (change : StageChange tracked.run index stage command final)
    (opened : final.status = .pending ∨ final.status = .active) : final.approvedBy = none := by
  have before := governed.undecided stage (List.mem_of_getElem? found)
  cases change with
  | kept => exact before opened
  | staffed current here active => exact before (.inr active)
  | activated pending => exact before (.inl pending)
  | submitted | completed | approved | rejected | overridden | cancelled =>
    rcases opened with status | status <;> cases status

theorem Governed.independent_after {tracked : Tracked} (governed : Governed tracked)
    {definition : OfficePipelineStage} (found : tracked.run.stages[index]? = some stage)
    (defined : tracked.run.definition.stages[index]? = some definition)
    (change : StageChange tracked.run index stage command final)
    (required : definition.requiresIndependentApproval = some true) {actor : String}
    (decided : final.approvedBy = some actor) : final.assignedAgentId ≠ some actor := by
  have before := governed.independent index stage definition found defined required
  cases change with
  | kept | submitted | completed | overridden | activated | cancelled => exact before actor decided
  | staffed current here active =>
    have undecided := governed.undecided stage (List.mem_of_getElem? found) (.inr active)
    change stage.approvedBy = some actor at decided
    rw [undecided] at decided
    cases decided
  | approved awaiting other independent | rejected awaiting other independent =>
    rw [defined] at other
    cases other
    cases decided
    exact fun same => independent ⟨required, same⟩

theorem Governed.approved_after {tracked : Tracked} (governed : Governed tracked)
    {definition : OfficePipelineStage} (effect : Effect tracked.run command record after)
    (found : tracked.run.stages[index]? = some stage)
    (defined : tracked.run.definition.stages[index]? = some definition)
    (change : StageChange tracked.run index stage command final)
    (completed : final.status = .completed) (gated : definition.requiresApproval = true) :
    final.approvalDecision = some .approved ∨
      ∃ issued ∈ (tracked.advance record after).overrides, issued.stageIndex = index ∧
        issued.record.stageRunId = final.id ∧ issued.record.pipelineRunId = tracked.run.id := by
  cases change with
  | kept =>
    obtain decision | ⟨issued, member, same⟩ :=
      governed.approved index stage definition found defined completed gated
    · exact .inl decision
    · exact .inr ⟨issued, List.mem_append_left _ member, same⟩
  | completed active other ungated =>
    rw [defined] at other
    cases other
    rw [gated] at ungated
    cases ungated
  | approved => exact .inl rfl
  | overridden current here =>
    cases effect with
    | @overridden present _ record held issued =>
      have same : present = stage := Option.some.inj (held.2.symm.trans current.2)
      subst same
      refine .inr ⟨⟨_, record⟩, ?_, here.symm, issued⟩
      exact List.mem_append_right _ (List.mem_singleton_self _)
  | staffed current here active =>
    change stage.status = .completed at completed
    rw [active] at completed
    cases completed
  | submitted | rejected | activated | cancelled => cases completed

theorem Governed.advance {tracked : Tracked} (governed : Governed tracked)
    (effect : Effect tracked.run command record after) : Governed (tracked.advance record after) := by
  have wellFormed := governed.wellFormed
  obtain ⟨sameDefinition, sameId⟩ := effect.identity
  have changed {index : Nat} {final : PipelineStageRunProps} (found : after.stages[index]? = some final) :=
    effect.stageChange wellFormed found
  constructor
  case wellFormed => exact (effect.wellFormed wellFormed).1
  case accepted =>
      change PipelineAccepted after.definition
      exact sameDefinition ▸ governed.accepted
  case identified =>
      intro index final found
      obtain ⟨stage, before, change⟩ := changed found
      obtain ⟨definition, defined, same⟩ := governed.identified index stage before
      change ∃ definition, after.definition.stages[index]? = some definition ∧ final.stageId = definition.id
      rw [sameDefinition]
      exact ⟨definition, defined, change.identity.1.trans same⟩
  case unstaffed =>
      intro active index final found later
      obtain ⟨stage, before, change⟩ := changed found
      have beyond : tracked.run.currentStageIndex < index :=
        Nat.lt_of_le_of_lt (effect.position wellFormed) later
      obtain same | ⟨agentId, now, -, here, -⟩ := change.assignment
      · exact same.trans (governed.unstaffed effect.active index stage before beyond)
      · exact absurd here beyond.ne'
  case undecided =>
      intro final member
      obtain ⟨index, found⟩ := List.getElem?_of_mem member
      obtain ⟨stage, before, change⟩ := changed found
      exact governed.undecided_after before change
  case approved =>
      intro index final definition found defined completed gated
      obtain ⟨stage, before, change⟩ := changed found
      change after.definition.stages[index]? = some definition at defined
      rw [sameDefinition] at defined
      obtain decision | ⟨issued, member, here, stageRun, pipelineRun⟩ :=
        governed.approved_after effect before defined change completed gated
      · exact .inl decision
      · exact .inr ⟨issued, member, here, stageRun, pipelineRun.trans sameId.symm⟩
  case independent =>
      intro index final definition found defined required actor decided
      obtain ⟨stage, before, change⟩ := changed found
      rw [show (tracked.advance record after).run.definition = _ from sameDefinition] at defined
      exact governed.independent_after before defined change required decided

theorem Governed.position_unique {tracked : Tracked} (governed : Governed tracked) {position : Nat}
    {definition : OfficePipelineStage} (found : tracked.run.stages[position]? = some stage)
    (defined : tracked.run.definition.stages[index]? = some definition)
    (named : definition.id = stage.stageId) : position = index := by
  obtain ⟨own, ownDefined, ownNamed⟩ := governed.identified position stage found
  have within := (List.getElem?_eq_some_iff.mp ownDefined).1
  apply (List.getElem?_inj (by simpa using within) governed.accepted.uniqueStages).mp
  rw [List.getElem?_map, List.getElem?_map, ownDefined, defined]
  simp [named, ownNamed]

theorem Governed.assignedTo_eq {tracked : Tracked} (governed : Governed tracked)
    (member : stage ∈ tracked.run.stages) :
    assignedTo tracked.run.stages stage.stageId = stage.assignedAgentId := by
  obtain ⟨index, found⟩ := List.getElem?_of_mem member
  obtain ⟨definition, defined, named⟩ := governed.identified index stage found
  cases first : tracked.run.stages.find? fun candidate => candidate.stageId = stage.stageId with
  | none => exact absurd (List.find?_eq_none.mp first stage member) (by simp)
  | some candidate =>
    have sameId : candidate.stageId = stage.stageId := by simpa using List.find?_some first
    obtain ⟨position, other⟩ := List.getElem?_of_mem (List.mem_of_find?_eq_some first)
    have samePosition := governed.position_unique other defined (named.symm.trans sameId.symm)
    subst samePosition
    have same : candidate = stage := Option.some.inj (other.symm.trans found)
    rw [assignedTo, first, same]
    rfl

/-- The operations that return keep the separation unless they collide. -/
theorem Governed.separated_after {tracked : Tracked} (governed : Governed tracked)
    (separated : Separated tracked.run) (effect : Effect tracked.run command record after)
    (apart : ¬Collides tracked.run command) : Separated after := by
  have wellFormed := governed.wellFormed
  intro index final definition found defined predecessor member named agentId assigned same
  rw [effect.identity.1] at defined
  obtain ⟨stage, before, change⟩ := effect.stageChange wellFormed found
  obtain ⟨position, otherFound⟩ := List.getElem?_of_mem member
  obtain ⟨other, otherBefore, otherChange⟩ := effect.stageChange wellFormed otherFound
  rw [otherChange.identity.1] at named
  have otherMember := List.mem_of_getElem? otherBefore
  obtain ⟨earlier, precedes, otherDefinition, otherDefined, otherNamed⟩ :=
    governed.accepted.earlier index definition defined other.stageId named
  have here := governed.position_unique otherBefore otherDefined otherNamed
  obtain kept | ⟨otherId, otherNow, -, otherCurrent, -⟩ := otherChange.assignment
  · rw [kept] at same
    cases change with
    | staffed current position active unassigned currentDefined passed nonempty =>
      cases assigned
      have sameDefinition : some definition = some _ :=
        defined.symm.trans (wellFormed.indexed _ _ before ▸ currentDefined)
      cases sameDefinition
      refine apart ⟨stage, definition, current, active, unassigned, rfl, currentDefined, nonempty, passed,
        other.stageId, named, ?_⟩
      rw [governed.assignedTo_eq otherMember, same]
    | kept | submitted | completed | approved | rejected | overridden | activated | cancelled =>
      exact separated index _ definition before defined other otherMember named agentId assigned same
  · have later : tracked.run.currentStageIndex < index := by omega
    have unstaffed := governed.unstaffed effect.active index stage before later
    obtain unchanged | ⟨-, -, -, current, -⟩ := change.assignment
    · rw [unchanged, unstaffed] at assigned
      cases assigned
    · exact absurd current later.ne'

theorem assign_returns {definition : OfficePipelineStage} {agentId : String} (now : Date)
    (current : Current run stage) (active : stage.status = .active) (unassigned : stage.assignedAgentId = none)
    (defined : run.definition.stages[stage.stageIndex]? = some definition) (nonempty : trim agentId ≠ "")
    (passed : ∀ predecessorId ∈ definition.separatedFrom, assignedTo run.stages predecessorId ≠ some agentId) :
    Method.call (Command.assign agentId stage.roleId now).perform run =
      (.ok none, stepped run stage.stageIndex (staffed stage (trim agentId) now) now) := by
  have noConflict : definition.separatedFrom.find? (fun predecessorId =>
      assignedTo run.stages predecessorId = some agentId) = none := by
    simpa using passed
  have current' : Method.call (requireCurrent .active) run = (.ok stage, run) := by
    unfold requireCurrent
    rw [Method.call_bind_ok (call_currentStage_current current)]
    simp [active]
  have definition' : Method.call (stageDefinition stage.stageIndex) run = (.ok definition, run) := by
    unfold stageDefinition
    rw [Method.call_bind_ok (Method.call_get run), defined]
    rfl
  simp [Command.perform, PipelineRun.assign, Method.call_bind, current', definition', unassigned, noConflict,
    required_trim nonempty, call_replaceStage, stepped, staffed, withStage]

theorem Governed.collides_breaks {tracked : Tracked} (governed : Governed tracked)
    (collides : Collides tracked.run command) : ¬Separated (tracked.perform command).run := by
  cases command with
  | assign agentId agentRoleId now =>
    obtain ⟨stage, definition, current, active, unassigned, rfl, defined, nonempty, passed,
      predecessorId, member, assigned⟩ := collides
    have position := governed.wellFormed.position current
    rw [Tracked.perform, assign_returns now current active unassigned defined nonempty passed]
    intro separated
    obtain ⟨predecessor, first, held⟩ := Option.bind_eq_some_iff.mp assigned
    have named : predecessor.stageId = predecessorId := by simpa using List.find?_some first
    obtain ⟨earlierIndex, found⟩ := List.getElem?_of_mem (List.mem_of_find?_eq_some first)
    obtain ⟨earlier, precedes, earlierDefinition, earlierDefined, earlierNamed⟩ :=
      governed.accepted.earlier _ definition defined predecessorId member
    have here := governed.position_unique found earlierDefined (earlierNamed.trans named.symm)
    have within := (List.getElem?_eq_some_iff.mp current.2).1
    have kept : (tracked.run.stages.set stage.stageIndex (staffed stage (trim agentId) now))[earlierIndex]? =
        some predecessor := by
      rw [List.getElem?_set_ne (by omega), found]
    exact separated stage.stageIndex (staffed stage (trim agentId) now) definition
      (List.getElem?_set_self (position ▸ within)) defined predecessor (List.mem_of_getElem? kept)
      (named ▸ member) (trim agentId) rfl held
  | completeStage | approveStage | rejectStage | overrideCurrent | cancel => exact collides.elim

def performed (run : PipelineRunProps) (commands : List Command) : Tracked :=
  commands.foldl Tracked.perform ⟨run, 0, []⟩

theorem performed_snoc (run : PipelineRunProps) (commands : List Command) (command : Command) :
    performed run (commands ++ [command]) = (performed run commands).perform command := by
  simp [performed]

theorem Created.governed {input : CreatePipelineRun} (created : Created input run)
    (accepted : PipelineAccepted input.definition) : Governed (performed run []) := by
  have new := created.new
  refine ⟨created.wellFormed, ?_, ?_, ?_, ?_, ?_, ?_⟩
  · change PipelineAccepted run.definition
    rwa [created.definition]
  · intro index stage found
    obtain ⟨definition, defined, fresh⟩ := new index stage found
    exact ⟨definition, defined, fresh.stageId⟩
  · intro _ index stage found _
    obtain ⟨definition, -, fresh⟩ := new index stage found
    exact fresh.unassigned
  · intro stage member _
    obtain ⟨index, found⟩ := List.getElem?_of_mem member
    obtain ⟨definition, -, fresh⟩ := new index stage found
    exact fresh.unapproved
  · intro index stage definition found _ completed _
    obtain ⟨definition, -, fresh⟩ := new index stage found
    rw [fresh.status] at completed
    split at completed <;> cases completed
  · intro index stage definition found _ _ actor decided
    obtain ⟨definition, -, fresh⟩ := new index stage found
    rw [fresh.unapproved] at decided
    cases decided

theorem Governed.perform {tracked : Tracked} (governed : Governed tracked) (command : Command) :
    Governed (tracked.perform command) := by
  obtain same | ⟨record, after, effect, same⟩ := tracked.perform_cases governed.wellFormed.indexed command
  · rwa [same]
  · rw [same]
    exact governed.advance effect

theorem Governed.separated_perform {tracked : Tracked} (governed : Governed tracked)
    (separated : Separated tracked.run) (apart : ¬Collides tracked.run command) :
    Separated (tracked.perform command).run := by
  obtain same | ⟨record, after, effect, same⟩ := tracked.perform_cases governed.wellFormed.indexed command
  · rwa [same]
  · rw [same]
    exact governed.separated_after separated effect apart

theorem Governed.decidesAwaiting {tracked : Tracked} (governed : Governed tracked) :
    DecidesAwaiting tracked := by
  intro command index before final found reached changed
  obtain same | ⟨record, after, effect, same⟩ := tracked.perform_cases governed.wellFormed.indexed command
  · rw [same, found] at reached
    cases reached
    exact absurd rfl changed
  · rw [same] at reached
    obtain ⟨stage, lookup, change⟩ := effect.stageChange governed.wellFormed reached
    cases lookup.symm.trans found
    obtain ⟨unchanged, -⟩ | awaiting := change.decision
    · exact absurd unchanged changed
    · exact awaiting

/-- After any operations on a run of an accepted pipeline, approvals are governed; and agents are
separated throughout exactly when no operation collides. -/
theorem separation_of_duties {manifest : OfficeManifest} {input : CreatePipelineRun} {run : PipelineRunProps}
    (accepted : officeManifestIssues manifest = []) (member : input.definition ∈ manifest.pipelines)
    (created : create input = .ok run) (commands : List Command) :
    (Approved (performed run commands) ∧ Independent (performed run commands).run ∧
      DecidesAwaiting (performed run commands)) ∧
    ((∀ earlier, earlier <+: commands → Separated (performed run earlier).run) ↔
      ∀ earlier command, earlier ++ [command] <+: commands →
        ¬Collides (performed run earlier).run command) := by
  have initial := create_created created
  have governed (list : List Command) : Governed (performed run list) := by
    induction list using List.reverseRecOn with
    | nil => exact initial.governed (officeManifest_accepted accepted member)
    | append_singleton list command ih =>
      rw [performed_snoc]
      exact ih.perform command
  refine ⟨⟨(governed commands).approved, (governed commands).independent, (governed commands).decidesAwaiting⟩,
    ?_, ?_⟩
  · intro separated earlier command step collides
    have later := separated _ step
    rw [performed_snoc] at later
    exact (governed earlier).collides_breaks collides later
  · intro apart earlier
    induction earlier using List.reverseRecOn with
    | nil =>
      intro _ index stage definition found _ _ _ _ agentId assigned
      obtain ⟨definition, -, fresh⟩ := initial.new index stage found
      rw [fresh.unassigned] at assigned
      cases assigned
    | append_singleton earlier command ih =>
      intro step
      rw [performed_snoc]
      have before := ih ((List.prefix_append earlier [command]).trans step)
      exact (governed earlier).separated_perform before (apart earlier command step)

/-- An office with the two roles of `reviewedPipeline`. -/
def reviewedManifest : OfficeManifest where
  project := {
    mission := "Deliver", goals := ["Deliver"], constraints := [], preferences := []
    permissionPreferences := [] }
  office := {
    name := "Office"
    roles := [⟨"developer", "Developer", "Build", ["Build"]⟩, ⟨"reviewer", "Reviewer", "Review", ["Review"]⟩] }
  pipelines := [reviewedPipeline]

/-- Build as the developer, then have the reviewer's stage assigned to `agentId`. -/
def reviewedBy (agentId : String) : List Command :=
  [.assign "agent:p:dev" "developer" 1, .completeStage "agent:p:dev" 2, .assign agentId "reviewer" 3]

theorem separation_of_duties_reviewed :
    ∃ run, create createReviewed = .ok run ∧ Approved (performed run (reviewedBy "agent:p:critic")) := by
  obtain ⟨run, created⟩ : ∃ run, create createReviewed = .ok run := ⟨_, rfl⟩
  have accepted : officeManifestIssues reviewedManifest = [] := by decide
  have member : createReviewed.definition ∈ reviewedManifest.pipelines := List.mem_singleton_self _
  exact ⟨run, created, (separation_of_duties accepted member created _).1.1⟩

def spacedDefinitions : List SyncAgentDefinitions.LoadedAgentDefinition :=
  [⟨⟨"dev", "developer", "Developer", 1, [], [], "default", none, ⟨1, 0, 1⟩⟩, "dev/agent.yaml"⟩,
    ⟨⟨"dev ", "reviewer", "Reviewer", 1, [], [], "default", none, ⟨1, 0, 1⟩⟩, "dev2/agent.yaml"⟩]

/-- Both definitions become agents, and the second one takes the review of the work of the first:
the stage that must have another agent is assigned to the same one. -/
theorem spaced_agent_reviews_itself :
    officeManifestIssues reviewedManifest = [] ∧
    createReviewed.definition ∈ reviewedManifest.pipelines ∧
    (∃ loaded tables, SyncAgentDefinitions.load [] [] spacedDefinitions = .ok loaded ∧
      SyncAgentDefinitions.execute "p" 0 loaded ⟨[], []⟩ = .ok tables ∧
      tables.agents.map (·.id) = ["agent:p:dev", "agent:p:dev "]) ∧
    ∃ run, create createReviewed = .ok run ∧
      ¬Separated (performed run (reviewedBy "agent:p:dev ")).run := by
  refine ⟨by decide, List.mem_singleton_self _, ⟨_, _, rfl, rfl, by decide⟩, _, rfl, ?_⟩
  intro separated
  exact separated 1 _ _ rfl rfl _ List.mem_cons_self List.mem_cons_self "agent:p:dev" rfl rfl

end AiOffice.Domain.PipelineRun
