import AiOffice.Application.ProjectPortability.StateSchema

namespace AiOffice.Application.ProjectPortability

open Domain Domain.Schema Application.DomainPack Application.OfficeManifestSchema

def portableProjectFormatVersions : List Nat := [1, 2, 3, 4, 5, 6, 7, 8, 9, 10, 11]

def isArchived (milestone : Value) : Bool := (milestone.get "status").text = "archived"

def archivesMilestone (state : Value) : Bool := ((state.get "governance").get "milestones").items.any isArchived

def definitionsCarry (owned overrides : Value → Bool) (state : Value) : Bool :=
  ((state.get "definitions").get "owned").items.any owned ||
    ((state.get "definitions").get "overrides").items.any overrides

def noOwned (_ : Value) : Bool := false

def carriesAgentFeature (item : Value) : Bool := disables "agents" item || carriesReferences item

/-- The lowest format version that can express a state without losing anything. -/
def portableProjectFormatVersionFor (state : Value) : Nat :=
  if archivesMilestone state then 11
  else if definitionsCarry carriesVocabulary carriesVocabulary state then 10
  else if definitionsCarry noOwned (overridesKind "workflows") state then 9
  else if definitionsCarry carriesReferences carriesAgentFeature state then 8
  else if definitionsCarry noOwned (disables "roles") state then 7
  else if !(state.get "definitions").isUndefined then 6
  else if !(state.get "packBinding").isUndefined then 5
  else if !(state.get "taskExecutionHistory").isUndefined then 4
  else if !(state.get "taskDependencies").items.isEmpty then 3
  else if !((state.get "governance").get "taskRequirements").items.isEmpty then 2
  else 1

structure CurrentShape (state : Value) : Prop where
  taskRequirements : (state.get "governance").get "taskRequirements" ≠ .undefined
  taskDependencies : state.get "taskDependencies" ≠ .undefined
  taskExecutionHistory : state.get "taskExecutionHistory" ≠ .undefined
  packBinding : state.get "packBinding" ≠ .undefined
  definitions : state.get "definitions" ≠ .undefined

def introduced (version : Nat) (state : Value) : Bool :=
  match version with
  | 11 => archivesMilestone state
  | 10 => definitionsCarry carriesVocabulary carriesVocabulary state
  | 9 => definitionsCarry noOwned (overridesKind "workflows") state
  | 8 => definitionsCarry carriesReferences carriesAgentFeature state
  | 7 => definitionsCarry noOwned (disables "roles") state
  | _ => false

variable {state output value : Value} {version : Nat}

theorem formatVersion_range (defined : state.get "definitions" ≠ .undefined) :
    6 ≤ portableProjectFormatVersionFor state ∧ portableProjectFormatVersionFor state ≤ 11 := by
  have present : (state.get "definitions").isUndefined = false := by
    rw [← Bool.not_eq_true, Value.isUndefined_iff]
    exact defined
  unfold portableProjectFormatVersionFor
  repeat' split
  all_goals first | omega | simp_all

/-- A format is enough for a state exactly when no later one introduced what the state holds. -/
theorem formatVersion_le (defined : state.get "definitions" ≠ .undefined) (low : 6 ≤ version) (high : version ≤ 11) :
    portableProjectFormatVersionFor state ≤ version ↔
      ∀ later, version < later → later ≤ 11 → introduced later state = false := by
  have present : (state.get "definitions").isUndefined = false := by
    rw [← Bool.not_eq_true, Value.isUndefined_iff]
    exact defined
  have all : (∀ later, version < later → later ≤ 11 → introduced later state = false) ↔
      (version < 7 → introduced 7 state = false) ∧ (version < 8 → introduced 8 state = false) ∧
        (version < 9 → introduced 9 state = false) ∧ (version < 10 → introduced 10 state = false) ∧
        (version < 11 → introduced 11 state = false) := by
    constructor
    · intro each
      exact ⟨fun before => each 7 before (by decide), fun before => each 8 before (by decide),
        fun before => each 9 before (by decide), fun before => each 10 before (by decide),
        fun before => each 11 before (by decide)⟩
    · rintro ⟨seven, eight, nine, ten, eleven⟩ later before within
      obtain rfl | rfl | rfl | rfl | rfl : later = 7 ∨ later = 8 ∨ later = 9 ∨ later = 10 ∨ later = 11 := by omega
      · exact seven before
      · exact eight before
      · exact nine before
      · exact ten before
      · exact eleven before
  rw [all]
  simp only [introduced, portableProjectFormatVersionFor, present]
  generalize archivesMilestone state = eleven
  generalize definitionsCarry carriesVocabulary carriesVocabulary state = ten
  generalize definitionsCarry noOwned (overridesKind "workflows") state = nine
  generalize definitionsCarry carriesReferences carriesAgentFeature state = eight
  generalize definitionsCarry noOwned (disables "roles") state = seven
  cases eleven <;> cases ten <;> cases nine <;> cases eight <;> cases seven <;> simp <;> omega

theorem unsupported_eq_nil {part message : String} {carries : Value → Bool} {path : List PathSegment} :
    unsupported part carries path message state = [] ↔ (state.get part).items.any carries = false := by
  have each (earlier : List Value) (item : Value) :
      issueUnless (!carries item) ([.field part, .index earlier.length] ++ path) message = [] ↔ carries item = false := by
    rw [issueUnless_eq_nil, Bool.not_eq_true']
  rw [unsupported, eachIssues_eq_nil each, List.any_eq_false]
  simp only [Bool.not_eq_true]

theorem refines_superRefine {schema : Schema} {issues : Value → List Issue} {check : Value → Bool}
    (same : ∀ parsed, issues parsed = [] ↔ check parsed = true) : Refines (superRefine schema issues) schema check := by
  intro value output
  rw [superRefine_iff, same]

theorem frozenMilestones_refines :
    Refines frozenMilestones milestonesV11 fun milestones => milestones.items.all fun milestone => !isArchived milestone := by
  have statuses : Refines (oneOf ["planned", "active", "completed", "cancelled"])
      (oneOf ["planned", "active", "completed", "cancelled", "archived"]) fun status => status.text ≠ "archived" := by
    intro value output
    cases value with
    | string status =>
      simp only [oneOf, text, List.contains_eq_mem, List.mem_cons, List.not_mem_nil, or_false]
      constructor
      · intro read
        split at read <;> cases read
        next known =>
          simp only [decide_eq_true_eq] at known
          refine ⟨if_pos (by simp only [decide_eq_true_eq]; tauto), ?_⟩
          rcases known with rfl | rfl | rfl | rfl <;> decide
      · rintro ⟨read, current⟩
        split at read <;> cases read
        next known =>
          have other : status ≠ "archived" := of_decide_eq_true current
          simp only [decide_eq_true_eq] at known
          exact if_pos (by simp only [decide_eq_true_eq]; tauto)
    | _ => simp [oneOf, text]
  have each : Refines (portableMilestone ["planned", "active", "completed", "cancelled"])
      (portableMilestone ["planned", "active", "completed", "cancelled", "archived"])
      fun milestone => (milestone.get "status").text ≠ "archived" :=
    statuses.object [required "id" id, required "title" shortText, optional "description" longText]
      [required "createdAt" timestamp, required "updatedAt" timestamp] (by decide)
  intro value output
  rw [frozenMilestones, unbounded, each.array _ value output]
  simp only [milestonesV11, unbounded, isArchived, decide_not]

theorem linkedGovernance_refines : Refines linkedGovernance linkedGovernanceV11 fun governance =>
    (governance.get "milestones").items.all fun milestone => !isArchived milestone :=
  frozenMilestones_refines.object [] (governanceRest ++ [required "taskRequirements" taskRequirementLinks]) (by decide)

def beforeGovernance : List Field :=
  commonFields ++ [required "taskDependencies" taskDependencies, required "taskExecutionHistory" taskExecutionHistory]

def afterGovernance (definitions : Schema) : List Field :=
  [required "agents" portableAgentsShape, required "packBinding" portablePackBinding, required "definitions" definitions]

theorem definitionFormat_unique (governance definitions : Schema) :
    ((definitionFormat governance definitions).map Field.key).Nodup := by
  change ["project", "tasks", "profileEntries", "officeManifests", "taskDependencies", "taskExecutionHistory",
    "governance", "agents", "packBinding", "definitions"].Nodup
  decide

theorem definitionFormat_governance {narrow wide definitions : Schema} {check : Value → Bool}
    (refines : Refines narrow wide check) :
    Refines (object (definitionFormat narrow definitions)) (object (definitionFormat wide definitions)) fun state =>
      check (state.get "governance") :=
  refines.object beforeGovernance (afterGovernance definitions) (definitionFormat_unique wide definitions)

theorem definitionFormat_definitions {narrow wide governance : Schema} {check : Value → Bool}
    (refines : Refines narrow wide check) :
    Refines (object (definitionFormat governance narrow)) (object (definitionFormat governance wide)) fun state =>
      check (state.get "definitions") :=
  refines.object (portableProjectStateShapeV5 governance) [] (definitionFormat_unique governance wide)

theorem unsupportedVocabulary_eq_nil : unsupportedVocabulary "owned" state ++ unsupportedVocabulary "overrides" state = [] ↔
    (!((state.get "owned").items.any carriesVocabulary || (state.get "overrides").items.any carriesVocabulary)) = true := by
  rw [List.append_eq_nil_iff, unsupportedVocabulary, unsupportedVocabulary, unsupported_eq_nil, unsupported_eq_nil,
    Bool.not_eq_true', Bool.or_eq_false_iff]

theorem unsupportedOverride_eq_nil {carries : Value → Bool} : unsupportedOverride carries state = [] ↔
    (!((state.get "owned").items.any noOwned || (state.get "overrides").items.any carries)) = true := by
  have none : (state.get "owned").items.any noOwned = false := by simp [List.any_eq_false, noOwned]
  rw [unsupportedOverride, unsupported_eq_nil, none, Bool.false_or, Bool.not_eq_true']

theorem unsupportedAgents_eq_nil :
    unsupported "owned" carriesReferences [.field "payload"] "Unsupported agent reference fields" state ++
        unsupportedOverride carriesAgentFeature state = [] ↔
      (!((state.get "owned").items.any carriesReferences ||
        (state.get "overrides").items.any carriesAgentFeature)) = true := by
  rw [List.append_eq_nil_iff, unsupported_eq_nil, unsupportedOverride, unsupported_eq_nil, Bool.not_eq_true',
    Bool.or_eq_false_iff]

theorem stateSchema_refines (low : 6 ≤ version) (high : version ≤ 10) :
    Refines (portableProjectStateSchemaOf version) (portableProjectStateSchemaOf (version + 1)) fun state =>
      !introduced (version + 1) state := by
  refine Refines.refine ?_ _
  obtain rfl | rfl | rfl | rfl | rfl : version = 6 ∨ version = 7 ∨ version = 8 ∨ version = 9 ∨ version = 10 := by omega
  · exact definitionFormat_definitions (refines_superRefine fun _ => unsupportedOverride_eq_nil)
  · exact definitionFormat_definitions (refines_superRefine fun _ => unsupportedAgents_eq_nil)
  · exact definitionFormat_definitions (refines_superRefine fun _ => unsupportedOverride_eq_nil)
  · exact definitionFormat_definitions (refines_superRefine fun _ => unsupportedVocabulary_eq_nil)
  · have narrower : Refines (object (portableProjectStateFields 10)) (object (portableProjectStateFields 11)) _ :=
      definitionFormat_governance linkedGovernance_refines
    intro value output
    have archived : introduced (10 + 1) output = archivesMilestone output := rfl
    rw [narrower value output]
    beta_reduce
    rw [archived, archivesMilestone, List.not_any_eq_all_not]

theorem stateSchema_iff (low : 6 ≤ version) (high : version ≤ 11) :
    portableProjectStateSchemaOf version value = some output ↔
      portableProjectStateSchemaOf 11 value = some output ∧
        ∀ later, version < later → later ≤ 11 → introduced later output = false := by
  induction high using Nat.decreasingInduction with
  | self => exact ⟨fun read => ⟨read, fun later after within => by omega⟩, And.left⟩
  | of_succ version below ih =>
    rw [stateSchema_refines low (by omega) value output, ih (by omega), and_assoc]
    refine and_congr_right fun _ => ⟨?_, fun all => ⟨fun later after => all later (by omega), ?_⟩⟩
    · rintro ⟨others, first⟩ later after within
      rcases Nat.lt_or_eq_of_le (Nat.succ_le_of_lt after) with beyond | rfl
      · exact others later beyond within
      · exact (Bool.not_eq_true' _).mp first
    · exact (Bool.not_eq_true' _).mpr (all (version + 1) (by omega) (by omega))

/-- With all sections there, the schema of the runtime is the one of the latest version. -/
theorem stateSchema_current (current : CurrentShape value) (read : portableProjectStateSchema value = some output) :
    ∃ again, portableProjectStateSchemaOf 11 value = some again ∧ ∀ key, again.get key = output.get key := by
  obtain ⟨shape, closed⟩ := superRefine_iff.mp read
  obtain ⟨record, rfl⟩ : ∃ record, value = .object record := by
    cases value with
    | object record => exact ⟨record, rfl⟩
    | _ => cases shape
  have governance : object (portableGovernanceShapeV11 ++ [optional "taskRequirements" taskRequirementLinks])
      (Record.get record "governance") = linkedGovernanceV11 (Record.get record "governance") := by
    have linked := current.taskRequirements
    change (Record.get record "governance").get "taskRequirements" ≠ _ at linked
    cases section_ : Record.get record "governance" with
    | object entries =>
      rw [section_] at linked
      exact object_congr (List.rel_append (sameRead_refl entries _) (.cons (sameRead_present linked) .nil))
    | _ => rfl
  let sections : List Field := commonFields ++ [required "taskDependencies" taskDependencies,
    required "taskExecutionHistory" taskExecutionHistory, required "packBinding" portablePackBinding,
    required "definitions" portableDefinitionState, required "governance" linkedGovernanceV11,
    required "agents" portableAgentsShape]
  have same : object portableProjectStateShape (.object record) = object sections (.object record) :=
    object_congr (List.rel_append (sameRead_refl record commonFields)
      (.cons (sameRead_present current.taskDependencies) (.cons (sameRead_present current.taskExecutionHistory)
        (.cons (sameRead_present current.packBinding) (.cons (sameRead_present current.definitions)
          (.cons (sameRead_required governance) (.cons ⟨rfl, rfl⟩ .nil)))))))
  rw [same] at shape
  obtain ⟨again, latest, equal⟩ := object_order (by
    change ["project", "tasks", "profileEntries", "officeManifests", "taskDependencies", "taskExecutionHistory",
      "packBinding", "definitions", "governance", "agents"].Nodup
    decide) (definitionFormat_unique linkedGovernanceV11 portableDefinitionState) (fun field => by
      simp only [sections, definitionFormat, portableProjectStateShapeV5, portableProjectStateShapeV4,
        List.mem_append, List.mem_cons, List.not_mem_nil, or_false]
      tauto) shape
  exact ⟨again, superRefine_iff.mpr ⟨latest, (referentialClosure_congr equal).trans closed⟩, equal⟩

def KeepsFeatures (schema : Schema) : Prop :=
  ∀ value output, schema value = some output →
    hasAgentReferences value = hasAgentReferences output ∧ hasDescriptiveVocabulary value = hasDescriptiveVocabulary output

theorem keepsFeatures_object {fields : List Field} (unique : (fields.map Field.key).Nodup)
    (stages : "stages" ∉ fields.map Field.key ∨
      required "stages" (boundedArray portableStage 0 maximumWorkflowStages) ∈ fields) :
    KeepsFeatures (object fields) := by
  intro value output read
  have has := object_has unique read
  have each (stage parsed : Value) (read : portableStage stage = some parsed) :
      stageDescriptiveFields.any stage.has = stageDescriptiveFields.any parsed.has := by
    simp only [stageDescriptiveFields, List.any_cons, List.any_nil, object_has (by decide) read]
  have described : (value.get "stages").items.any (fun stage => stageDescriptiveFields.any stage.has) =
      (output.get "stages").items.any fun stage => stageDescriptiveFields.any stage.has := by
    rcases stages with none | member
    · obtain ⟨before, after⟩ := object_absent read none
      rw [before, after]
    · exact array_any (object_required unique read member) each
  simp only [hasAgentReferences, agentReferenceFields, List.any_cons, List.any_nil, hasDescriptiveVocabulary, has,
    described, and_self]

theorem keepsFeatures_union {options : List Schema} (each : ∀ option ∈ options, KeepsFeatures option) :
    KeepsFeatures (union options) := by
  intro value output read
  obtain ⟨option, member, accepted⟩ := union_iff read
  exact each option member value output accepted

theorem keepsFeatures_payload {schema : Schema}
    (payload : schema ∈ [portableDescriptivePayload, portableExtensionPayload, portableRolePayload,
      portablePromptPayload, portableAgentPayload, portableWorkflowPayload]) : KeepsFeatures schema := by
  simp only [List.mem_cons, List.not_mem_nil, or_false] at payload
  rcases payload with rfl | rfl | rfl | rfl | rfl | rfl
  · exact keepsFeatures_object (by decide) (.inl (by decide))
  · exact keepsFeatures_object (by decide) (.inl (by decide))
  · exact keepsFeatures_object (by decide) (.inl (by decide))
  · exact keepsFeatures_object (by decide) (.inl (by decide))
  · exact keepsFeatures_object (by decide) (.inl (by decide))
  · exact keepsFeatures_object (by decide) (.inr (by simp))

theorem owned_features (read : portableOwned value = some output) :
    carriesReferences value = carriesReferences output ∧ carriesVocabulary value = carriesVocabulary output := by
  have payload : ownedPayload (value.get "payload") = some (output.get "payload") :=
    object_required (by decide) read (by simp)
  refine keepsFeatures_union (fun option member => keepsFeatures_payload ?_) _ _ payload
  simp only [List.mem_cons, List.not_mem_nil, or_false] at member ⊢
  tauto

theorem override_features (read : portableOverride value = some output) :
    carriesReferences value = carriesReferences output ∧ carriesVocabulary value = carriesVocabulary output := by
  have payload : (value.get "payload" = .undefined ∧ output.get "payload" = .undefined) ∨
      overridePayload (value.get "payload") = some (output.get "payload") := object_optional (by decide) read (by simp)
  rcases payload with ⟨before, after⟩ | payload
  · simp only [carriesReferences, carriesVocabulary, before, after, and_self]
  · exact keepsFeatures_union (fun _ => keepsFeatures_payload) _ _ payload

theorem override_target (read : portableOverride value = some output) (kind : String) :
    overridesKind kind value = overridesKind kind output ∧ disables kind value = disables kind output := by
  have operation : oneOf ["replace", "extend", "disable"] (value.get "operation") = some (output.get "operation") :=
    object_required (by decide) read (by simp)
  have source : portableExactDefinitionSource (value.get "source") = some (output.get "source") :=
    object_required (by decide) read (by simp)
  have kinds : portableOwnedKind ((value.get "source").get "kind") = some ((output.get "source").get "kind") :=
    object_required (by decide) source (by simp [exactPackFields])
  have same : (output.get "source").get "kind" = (value.get "source").get "kind" := by
    obtain ⟨option, member, accepted⟩ := union_iff kinds
    simp only [List.mem_cons, List.not_mem_nil, or_false] at member
    rcases member with rfl | rfl <;> exact text_same accepted
  simp only [disables, overridesKind, same, text_same operation, and_self]

theorem definitions_carry {owned overrides : Value → Bool}
    (read : portableProjectStateSchemaOf 11 state = some output)
    (ownedSame : ∀ item parsed, portableOwned item = some parsed → owned item = owned parsed)
    (overridesSame : ∀ item parsed, portableOverride item = some parsed → overrides item = overrides parsed) :
    definitionsCarry owned overrides state = definitionsCarry owned overrides output := by
  have shape : object (definitionFormat linkedGovernanceV11 portableDefinitionState) state = some output :=
    (superRefine_iff.mp read).1
  have definitions : portableDefinitionState (state.get "definitions") = some (output.get "definitions") :=
    object_required (definitionFormat_unique _ _) shape (by simp [definitionFormat])
  have fields := (superRefine_iff.mp definitions).1
  have ownedRead : boundedArray portableOwned 0 100000 _ = some _ :=
    object_required (by decide) fields (List.mem_cons_of_mem _ List.mem_cons_self)
  have overridesRead : boundedArray portableOverride 0 100000 _ = some _ :=
    object_required (by decide) fields (List.mem_cons_of_mem _ (List.mem_cons_of_mem _ List.mem_cons_self))
  rw [definitionsCarry, definitionsCarry, array_any ownedRead ownedSame, array_any overridesRead overridesSame]

theorem archives_same (read : portableProjectStateSchemaOf 11 state = some output) :
    archivesMilestone state = archivesMilestone output := by
  have shape : object (definitionFormat linkedGovernanceV11 portableDefinitionState) state = some output :=
    (superRefine_iff.mp read).1
  have governance : linkedGovernanceV11 (state.get "governance") = some (output.get "governance") :=
    object_required (definitionFormat_unique _ _) shape (by simp [definitionFormat, portableProjectStateShapeV5,
      portableProjectStateShapeV4])
  have milestones : milestonesV11 ((state.get "governance").get "milestones") = some _ :=
    object_required (by decide) governance List.mem_cons_self
  rw [milestonesV11, unbounded] at milestones
  refine array_any milestones fun item parsed accepted => ?_
  have status : oneOf _ (item.get "status") = some (parsed.get "status") := object_required (by decide) accepted
    (List.mem_cons_of_mem _ (List.mem_cons_of_mem _ (List.mem_cons_of_mem _ List.mem_cons_self)))
  rw [isArchived, isArchived, text_same status]

theorem introduced_same (read : portableProjectStateSchemaOf 11 state = some output) (version : Nat) :
    introduced version state = introduced version output := by
  have none (item parsed : Value) (_ : portableOwned item = some parsed) : noOwned item = noOwned parsed := rfl
  have agents (item parsed : Value) (read : portableOverride item = some parsed) :
      carriesAgentFeature item = carriesAgentFeature parsed := by
    rw [carriesAgentFeature, carriesAgentFeature, (override_target read "agents").2, (override_features read).1]
  unfold introduced
  split
  · exact archives_same read
  · exact definitions_carry read (fun _ _ read => (owned_features read).2) fun _ _ read => (override_features read).2
  · exact definitions_carry read none fun _ _ read => (override_target read "workflows").1
  · exact definitions_carry read (fun _ _ read => (owned_features read).1) agents
  · exact definitions_carry read none fun _ _ read => (override_target read "roles").2
  · rfl

theorem mem_versions : version ∈ portableProjectFormatVersions ↔ 1 ≤ version ∧ version ≤ 11 := by
  simp only [portableProjectFormatVersions, List.mem_cons, List.not_mem_nil, or_false]
  omega

theorem formatVersion_mem (defined : state.get "definitions" ≠ .undefined) :
    portableProjectFormatVersionFor state ∈ portableProjectFormatVersions := by
  obtain ⟨low, high⟩ := formatVersion_range defined
  exact mem_versions.mpr ⟨by omega, high⟩

theorem stateSchema_early (defined : state.get "definitions" ≠ .undefined) (early : version < 6) (first : 1 ≤ version) :
    accepts (portableProjectStateSchemaOf version) state = false := by
  have unknown : object (portableProjectStateFields version) state = none := by
    interval_cases version <;> exact object_unknown defined (by decide)
  rw [accepts, portableProjectStateSchemaOf, superRefine, refine, unknown]
  rfl

def emptyState : Value :=
  let time := .string "2026-01-02T03:04:05.678Z"
  .object [
    ("project", .object [("name", .string "office"), ("createdAt", time), ("updatedAt", time)]),
    ("tasks", .array []), ("profileEntries", .array []), ("officeManifests", .array []),
    ("taskDependencies", .array []), ("taskExecutionHistory", .array []),
    ("packBinding", .object [("configurationRevision", .number 0), ("packs", .array [])]),
    ("definitions", .object [("revision", .number 0), ("owned", .array []), ("overrides", .array [])]),
    ("governance", .object [("milestones", .array []), ("requirements", .array []), ("adrs", .array []),
      ("reviews", .array []), ("approvals", .array []), ("taskRequirements", .array [])]),
    ("agents", .object [("roles", .array []), ("definitions", .array []), ("terminalRuns", .array [])])]

theorem emptyState_current : CurrentShape emptyState := by
  constructor <;> exact fun same => Value.noConfusion same

theorem emptyState_accepted : accepts portableProjectStateSchema emptyState = true := by decide

end AiOffice.Application.ProjectPortability
