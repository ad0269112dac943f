import AiOffice.Application.DomainPack.ProjectDefinition.Payloads
import AiOffice.Application.ProjectPortability.DefinitionSchema

namespace AiOffice.Application.ProjectPortability

open Data Domain Domain.Schema DomainPackContracts
open Application.DomainPack Application.OfficeManifestSchema

variable {payload : DefinitionPayload} {kind : ContributionKind} {id : String} {ids entries : List String}
  {stage : WorkflowStageDefinition} {accepted : String → Bool}

theorem text_kept {value : String} (holds : accepted value = true) :
    Schema.text accepted (.string value) = some (.string value) := if_pos holds

theorem text_each {given : Option String} (each : ∀ value ∈ given, accepted value = true) :
    ∀ value ∈ given.map Value.string, value ≠ .undefined ∧ Schema.text accepted value = some value := by
  intro value member
  obtain ⟨text, same, rfl⟩ := Option.map_eq_some_iff.mp member
  exact ⟨nofun, text_kept (each text same)⟩

theorem texts_kept {fewest most : Nat} {texts : List String} (each : ∀ text ∈ texts, accepted text = true)
    (low : fewest ≤ texts.length) (high : texts.length ≤ most) :
    boundedArray (Schema.text accepted) fewest most (listValue texts) = some (listValue texts) := by
  refine array_kept (fun item member => ?_) ?_
  · obtain ⟨text, inTexts, rfl⟩ := List.mem_map.mp member
    exact text_kept (each text inTexts)
  · rw [List.length_map, Bool.and_eq_true, decide_eq_true_eq, decide_eq_true_eq]
    exact ⟨low, high⟩

theorem descriptiveList_kept (fits : DescriptiveListFits entries) :
    portableDescriptiveList (listValue entries) = some (listValue entries) :=
  texts_kept fits.each fits.nonempty fits.bounded

theorem texts_listValue (values : List String) : texts (listValue values) = values := by
  simp only [texts, listValue, Value.items, List.map_map]
  exact List.map_id' values

theorem ascending_iff : ascending ids = true ↔ ids.Pairwise fun first second => codeUnits first < codeUnits second := by
  induction ids with
  | nil => simp [ascending]
  | cons first ids ih =>
    cases ids with
    | nil => simp [ascending]
    | cons second rest =>
      rw [ascending, Bool.and_eq_true, decide_eq_true_eq, ih]
      constructor
      · rintro ⟨before, sorted⟩
        refine List.pairwise_cons.mpr ⟨List.forall_mem_cons.mpr ⟨before, fun later member => ?_⟩, sorted⟩
        exact before.trans ((List.pairwise_cons.mp sorted).1 later member)
      · intro sorted
        obtain ⟨before, rest⟩ := List.pairwise_cons.mp sorted
        exact ⟨before second List.mem_cons_self, rest⟩

theorem references_kept (fits : ReferencesFit ids) : portableReferenceList (listValue ids) = some (listValue ids) := by
  refine refine_iff.mpr ⟨texts_kept fits.each fits.nonempty fits.bounded, ?_⟩
  rw [texts_listValue]
  exact ascending_iff.mpr fits.ascending

theorem lists_each {given : Option (List String)} {schema : Schema}
    (each : ∀ list ∈ given, schema (listValue list) = some (listValue list)) :
    ∀ value ∈ given.map listValue, value ≠ .undefined ∧ schema value = some value := by
  intro value member
  obtain ⟨list, same, rfl⟩ := Option.map_eq_some_iff.mp member
  exact ⟨nofun, each list same⟩

theorem stage_kept (fits : StageFits stage) : portableStage (stageValue stage) = some (stageValue stage) :=
  Fits.object (.required nofun (text_kept fits.id) (.required nofun (text_kept fits.role)
    (.optional (text_each fits.title) (.optional (text_each fits.objective)
      (.optional (lists_each fun list same => descriptiveList_kept (fits.checks list same)) .nil))))) (by decide)

theorem descriptive_fits {fields : List Field} {rest : List (String × Option Value)} (fits : PayloadFits kind payload)
    (named : payload.id = some id) (others : Fits fields (present rest)) :
    Fits (descriptiveFields ++ fields) (present (("id", payload.id.map .string) ::
      ("title", payload.title.map .string) :: ("description", payload.description.map .string) :: rest)) := by
  rw [named]
  exact .required nofun (text_kept (fits.id id named))
    (.optional (text_each fits.title) (.optional (text_each fits.description) others))

theorem absent_unless {Result : Type} {given : Option Result} {holds : Result → Prop} {expected : ContributionKind}
    (each : ∀ found ∈ given, kind = expected ∧ holds found) (other : kind ≠ expected) : given = none := by
  cases given with
  | none => rfl
  | some found => exact absurd (each found rfl).1 other

theorem payload_get (payload : DefinitionPayload) (key : String) :
    (payloadValue payload).get key = ((payloadEntries payload).lookup key).join.getD .undefined := by
  rw [payloadValue, Value.get_entries, Value.entries_object, present_lookup]
  rw [payloadEntries]
  simp only [List.map_cons, List.map_nil]
  decide

theorem payload_has (payload : DefinitionPayload) (key : String) :
    (payloadValue payload).has key = ((payloadEntries payload).lookup key).join.isSome := by
  rw [payloadValue, Value.has, Value.entries_object, present_lookup]
  rw [payloadEntries]
  simp only [List.map_cons, List.map_nil]
  decide

theorem shapes_reject {shapes : List (List Field)} {value : Value} {key : String} (present : value.get key ≠ .undefined)
    (unknown : ∀ fields ∈ shapes, key ∉ fields.map Field.key) : ∀ option ∈ shapes.map object, option value = none := by
  intro option member
  obtain ⟨fields, inShapes, rfl⟩ := List.mem_map.mp member
  exact object_unknown present (unknown fields inShapes)

def extensionFields : List Field :=
  [optional "title" portableDefinitionText, optional "description" portableDefinitionText]

def roleFields : List Field := descriptiveFields ++ [required "responsibilities" portableDescriptiveList]

def promptFields : List Field := descriptiveFields ++ [required "text" portableDescriptiveText]

def agentFields : List Field :=
  descriptiveFields ++ [optional "role" portableDefinitionId, optional "prompts" portableReferenceList,
    optional "knowledge" portableReferenceList, optional "capabilities" portableReferenceList]

def workflowFields : List Field :=
  descriptiveFields ++ [required "taskType" portableDefinitionId, optional "additionalTaskTypes" portableReferenceList,
    required "stages" (boundedArray portableStage 0 maximumWorkflowStages)]

/-- The one shape among those of the payloads that a payload of a definition has. -/
inductive HasShape (payload : DefinitionPayload) : Prop
  | descriptive (kept : object descriptiveFields (payloadValue payload) = some (payloadValue payload))
  | extension (kept : object extensionFields (payloadValue payload) = some (payloadValue payload))
      (unnamed : payload.id = none)
  | role (kept : object roleFields (payloadValue payload) = some (payloadValue payload))
      (present : (payloadValue payload).get "responsibilities" ≠ .undefined)
  | prompt (kept : object promptFields (payloadValue payload) = some (payloadValue payload))
      (present : (payloadValue payload).get "text" ≠ .undefined)
  | agent (kept : object agentFields (payloadValue payload) = some (payloadValue payload)) (key : String)
      (reference : key ∈ agentReferenceFields) (present : (payloadValue payload).get key ≠ .undefined)
  | workflow (kept : object workflowFields (payloadValue payload) = some (payloadValue payload))
      (present : (payloadValue payload).get "stages" ≠ .undefined)

theorem unnamed_rejected (unnamed : payload.id = none) {fields : List Field}
    (named : required "id" portableDefinitionId ∈ fields) : object fields (payloadValue payload) = none := by
  refine object_missing ?_ named
  rw [payload_get, payloadEntries, unnamed]
  rfl

theorem overridePayload_kept (shape : HasShape payload) :
    overridePayload (payloadValue payload) = some (payloadValue payload) := by
  have rejected {key : String} (shapes : List (List Field)) (present : (payloadValue payload).get key ≠ .undefined)
      (unknown : ∀ fields ∈ shapes, key ∉ fields.map Field.key) := shapes_reject present unknown
  cases shape with
  | descriptive kept => exact @union_first _ _ _ [] _ (by simp) kept
  | extension kept unnamed =>
    exact @union_first _ _ _ [portableDescriptivePayload] _
      (List.forall_mem_singleton.mpr (unnamed_rejected unnamed List.mem_cons_self)) kept
  | role kept present =>
    exact @union_first _ _ _ ([descriptiveFields, extensionFields].map object) _
      (rejected _ present (by decide)) kept
  | prompt kept present =>
    exact @union_first _ _ _ ([descriptiveFields, extensionFields, roleFields].map object) _
      (rejected _ present (by decide)) kept
  | agent kept key reference present =>
    refine @union_first _ _ _ ([descriptiveFields, extensionFields, roleFields, promptFields].map object) _
      (rejected _ present ?_) kept
    simp only [agentReferenceFields, List.mem_cons, List.not_mem_nil, or_false] at reference
    rcases reference with rfl | rfl | rfl | rfl <;> decide
  | workflow kept present =>
    exact @union_first _ _ _ ([descriptiveFields, extensionFields, roleFields, promptFields, agentFields].map object) _
      (rejected _ present (by decide)) kept

theorem ownedPayload_kept (shape : HasShape payload) (named : payload.id = some id) :
    ownedPayload (payloadValue payload) = some (payloadValue payload) := by
  have rejected {key : String} (shapes : List (List Field)) (present : (payloadValue payload).get key ≠ .undefined)
      (unknown : ∀ fields ∈ shapes, key ∉ fields.map Field.key) := shapes_reject present unknown
  cases shape with
  | descriptive kept => exact @union_first _ _ _ [] _ (by simp) kept
  | extension _ unnamed =>
    rw [named] at unnamed
    cases unnamed
  | role kept present =>
    exact @union_first _ _ _ ([descriptiveFields].map object) _ (rejected _ present (by decide)) kept
  | prompt kept present =>
    exact @union_first _ _ _ ([descriptiveFields, roleFields].map object) _ (rejected _ present (by decide)) kept
  | agent kept key reference present =>
    refine @union_first _ _ _ ([descriptiveFields, roleFields, promptFields, workflowFields].map object) _
      (rejected _ present ?_) kept
    simp only [agentReferenceFields, List.mem_cons, List.not_mem_nil, or_false] at reference
    rcases reference with rfl | rfl | rfl | rfl <;> decide
  | workflow kept present =>
    exact @union_first _ _ _ ([descriptiveFields, roleFields, promptFields].map object) _
      (rejected _ present (by decide)) kept

theorem PayloadFits.only (fits : PayloadFits kind payload) :
    (kind ≠ .roles → payload.responsibilities = none) ∧ (kind ≠ .prompts → payload.text = none) ∧
      (kind ≠ .agents → payload.role = none ∧ payload.prompts = none ∧ payload.knowledge = none ∧
        payload.capabilities = none) ∧
      (kind ≠ .workflows → payload.taskType = none ∧ payload.additionalTaskTypes = none ∧ payload.stages = none) :=
  ⟨absent_unless fits.responsibilities, absent_unless fits.text,
    fun other => ⟨absent_unless fits.role other, absent_unless fits.prompts other, absent_unless fits.knowledge other,
      absent_unless fits.capabilities other⟩,
    fun other => ⟨absent_unless fits.taskType other, absent_unless fits.routes other, absent_unless fits.stages other⟩⟩

theorem plain_shape (fits : PayloadFits kind payload) (named : payload.id = some id)
    (plain : payload = describing payload.id payload.title payload.description) : HasShape payload := by
  refine .descriptive ?_
  have same : payloadValue payload = .object (present (("id", payload.id.map .string) ::
      ("title", payload.title.map .string) :: ("description", payload.description.map .string) :: [])) := by
    rw [plain]
    rfl
  rw [same]
  exact Fits.object (descriptive_fits fits named .nil) (by decide)

theorem payload_present {key : String} {value : Value} (found : (payloadEntries payload).lookup key = some (some value))
    (defined : value ≠ .undefined) : (payloadValue payload).get key ≠ .undefined := by
  rw [payload_get, found]
  exact defined

theorem agent_fits (fits : PayloadFits .agents payload) :
    Fits [optional "role" portableDefinitionId, optional "prompts" portableReferenceList,
        optional "knowledge" portableReferenceList, optional "capabilities" portableReferenceList]
      (present [("role", payload.role.map .string), ("prompts", payload.prompts.map listValue),
        ("knowledge", payload.knowledge.map listValue), ("capabilities", payload.capabilities.map listValue)]) :=
  .optional (text_each fun given same => (fits.role given same).2)
    (.optional (lists_each fun list same => references_kept (fits.prompts list same).2)
      (.optional (lists_each fun list same => references_kept (fits.knowledge list same).2)
        (.optional (lists_each fun list same => references_kept (fits.capabilities list same).2.1) .nil)))

theorem stages_kept {stages : List WorkflowStageDefinition} (bounded : stages.length ≤ maximumWorkflowStages)
    (each : ∀ stage ∈ stages, StageFits stage) :
    boundedArray portableStage 0 maximumWorkflowStages (stagesValue stages) = some (stagesValue stages) := by
  refine array_kept (fun item member => ?_) ?_
  · obtain ⟨stage, inStages, rfl⟩ := List.mem_map.mp member
    exact stage_kept (each stage inStages)
  · rw [List.length_map, Bool.and_eq_true, decide_eq_true_eq, decide_eq_true_eq]
    exact ⟨Nat.zero_le _, bounded⟩

/-- A complete payload has one of the shapes, by its kind and by the keys it has. -/
theorem complete_shape (complete : CompletePayload kind id payload) : HasShape payload := by
  obtain ⟨fits, named, workflow⟩ := complete
  obtain ⟨roles, prompts, agents, workflows⟩ := PayloadFits.only fits
  obtain ⟨name, title, description, responsibilities, text, role, promptList, knowledge, capabilities, taskType, routes,
    stages⟩ := payload
  by_cases isWorkflow : kind = .workflows
  · subst isWorkflow
    obtain rfl := roles (by decide)
    obtain rfl := prompts (by decide)
    obtain ⟨rfl, rfl, rfl, rfl⟩ := agents (by decide)
    obtain ⟨hasType, hasStages⟩ := workflow rfl
    obtain ⟨taskType, rfl⟩ := Option.isSome_iff_exists.mp hasType
    obtain ⟨stages, rfl⟩ := Option.isSome_iff_exists.mp hasStages
    obtain ⟨-, bounded, -, each⟩ := fits.stages stages rfl
    refine .workflow (Fits.object (descriptive_fits fits named ?_) (by decide)) (payload_present rfl nofun)
    exact .required nofun (text_kept (fits.taskType taskType rfl).2)
      (.optional (lists_each fun list same => references_kept (fits.routes list same).2.1)
        (.required nofun (stages_kept bounded each) .nil))
  · obtain ⟨rfl, rfl, rfl⟩ := workflows isWorkflow
    by_cases isAgent : kind = .agents
    · subst isAgent
      obtain rfl := roles (by decide)
      obtain rfl := prompts (by decide)
      have kept := Fits.object (descriptive_fits fits named (agent_fits fits)) (by decide)
      cases role with
      | some role => exact .agent kept "role" (by decide) (payload_present rfl nofun)
      | none =>
        cases promptList with
        | some list => exact .agent kept "prompts" (by decide) (payload_present rfl nofun)
        | none =>
          cases knowledge with
          | some list => exact .agent kept "knowledge" (by decide) (payload_present rfl nofun)
          | none =>
            cases capabilities with
            | some list => exact .agent kept "capabilities" (by decide) (payload_present rfl nofun)
            | none => exact plain_shape fits named rfl
    · obtain ⟨rfl, rfl, rfl, rfl⟩ := agents isAgent
      cases responsibilities with
      | some list =>
        obtain ⟨rfl, listFits⟩ := fits.responsibilities list rfl
        obtain rfl := prompts (by decide)
        exact .role (Fits.object (descriptive_fits fits named (.required nofun (descriptiveList_kept listFits) .nil))
          (by decide)) (payload_present rfl nofun)
      | none =>
        cases text with
        | some text =>
          exact .prompt (Fits.object (descriptive_fits fits named
            (.required nofun (text_kept (fits.text text rfl).2) .nil)) (by decide)) (payload_present rfl nofun)
        | none => exact plain_shape fits named rfl

theorem extension_shape (extension : ExtensionPayload payload) : HasShape payload := by
  obtain ⟨⟨title, description, rfl, -⟩, fits⟩ := extension
  refine .extension ?_ rfl
  have fitting := fits .roles
  exact Fits.object (.optional (text_each fitting.title) (.optional (text_each fitting.description) .nil)) (by decide)

theorem payload_references (payload : DefinitionPayload) : hasAgentReferences (payloadValue payload) =
    (payload.role.isSome || payload.prompts.isSome || payload.knowledge.isSome || payload.capabilities.isSome) := by
  simp [hasAgentReferences, agentReferenceFields, payload_has, payloadEntries, List.lookup_cons, Bool.or_assoc]

theorem payload_id (payload : DefinitionPayload) (named : payload.id = some id) :
    (payloadValue payload).has "id" = true ∧ ((payloadValue payload).get "id").text = id := by
  simp [payload_has, payload_get, payloadEntries, named, Value.text]

theorem payload_capabilities (payload : DefinitionPayload) :
    (payloadValue payload).has "capabilities" = payload.capabilities.isSome ∧
      (payloadValue payload).has "role" = payload.role.isSome := by
  simp [payload_has, payloadEntries, List.lookup_cons]

theorem payload_stages (payload : DefinitionPayload) :
    (payloadValue payload).has "stages" = payload.stages.isSome := by
  simp [payload_has, payloadEntries, List.lookup_cons]

theorem payload_stageIds {stages : List WorkflowStageDefinition} (staged : payload.stages = some stages) :
    stageIds (payloadValue payload) = stages.map (·.id) := by
  have found : (payloadValue payload).get "stages" = stagesValue stages := by
    simp [payload_get, payloadEntries, List.lookup_cons, staged]
  rw [stageIds, found, stagesValue, Value.items, List.map_map]
  rfl

/-- A payload that fits its kind has no issue of the descriptive vocabulary. -/
theorem payload_vocabulary (fits : PayloadFits kind payload) (path : List PathSegment) :
    vocabularyIssues path kind.name (payloadValue payload) = [] := by
  have roles : ((payloadValue payload).has "responsibilities" && decide (kind.name ≠ "roles")) = false := by
    cases responsibilities : payload.responsibilities with
    | none => simp [payload_has, payloadEntries, List.lookup_cons, responsibilities]
    | some list =>
      obtain ⟨rfl, -⟩ := fits.responsibilities list responsibilities
      simp [ContributionKind.name]
  have prompts : ((payloadValue payload).has "text" && decide (kind.name ≠ "prompts")) = false := by
    cases text : payload.text with
    | none => simp [payload_has, payloadEntries, List.lookup_cons, text]
    | some list =>
      obtain ⟨rfl, -⟩ := fits.text list text
      simp [ContributionKind.name]
  have routes : ((payloadValue payload).has "additionalTaskTypes" && (payloadValue payload).has "taskType" &&
      (((payloadValue payload).get "additionalTaskTypes").isUndefined ||
        (texts ((payloadValue payload).get "additionalTaskTypes")).contains
          ((payloadValue payload).get "taskType").text)) = false := by
    cases additional : payload.additionalTaskTypes with
    | none => simp [payload_has, payloadEntries, List.lookup_cons, additional]
    | some list =>
      cases taskType : payload.taskType with
      | none => simp [payload_has, payloadEntries, List.lookup_cons, taskType]
      | some route =>
        obtain ⟨-, -, different⟩ := fits.routes list additional
        have found : (payloadValue payload).get "additionalTaskTypes" = listValue list := by
          simp [payload_get, payloadEntries, List.lookup_cons, additional]
        have typed : (payloadValue payload).get "taskType" = .string route := by
          simp [payload_get, payloadEntries, List.lookup_cons, taskType]
        rw [found, typed, texts_listValue]
        simp [Value.isUndefined, listValue, Value.text, different route taskType]
  rw [vocabularyIssues, descriptiveVocabularyIssue, roles, prompts, routes]
  rfl

end AiOffice.Application.ProjectPortability
