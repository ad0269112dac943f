import AiOffice.Application.DomainPack.ProjectDefinition

namespace AiOffice.Application.DomainPack

open Data Outcome Domain DomainPackContracts

structure DescriptiveListFits (entries : List String) : Prop where
  nonempty : 1 ≤ entries.length
  bounded : entries.length ≤ maximumDescriptiveEntries
  each : ∀ entry ∈ entries, isDescriptiveText entry = true

structure ReferencesFit (ids : List String) : Prop where
  nonempty : 1 ≤ ids.length
  bounded : ids.length ≤ maximumAgentReferences
  each : ∀ id ∈ ids, localIdPattern id = true
  ascending : ids.Pairwise fun first second => codeUnits first < codeUnits second

structure StageFits (stage : WorkflowStageDefinition) : Prop where
  id : localIdPattern stage.id = true
  role : localIdPattern stage.role = true
  title : ∀ text ∈ stage.title, isDescriptiveText text = true
  objective : ∀ text ∈ stage.objective, isDescriptiveText text = true
  checks : ∀ list ∈ stage.checks, DescriptiveListFits list

/-- What the parsers establish about the payload of a kind: which keys it has, and what they hold. -/
structure PayloadFits (kind : ContributionKind) (payload : DefinitionPayload) : Prop where
  id : ∀ id ∈ payload.id, localIdPattern id = true
  title : ∀ text ∈ payload.title, isDefinitionText text = true
  description : ∀ text ∈ payload.description, isDefinitionText text = true
  responsibilities : ∀ list ∈ payload.responsibilities, kind = .roles ∧ DescriptiveListFits list
  text : ∀ text ∈ payload.text, kind = .prompts ∧ isDescriptiveText text = true
  role : ∀ id ∈ payload.role, kind = .agents ∧ localIdPattern id = true
  prompts : ∀ ids ∈ payload.prompts, kind = .agents ∧ ReferencesFit ids
  knowledge : ∀ ids ∈ payload.knowledge, kind = .agents ∧ ReferencesFit ids
  capabilities : ∀ ids ∈ payload.capabilities, kind = .agents ∧ ReferencesFit ids ∧ payload.role.isSome = true
  taskType : ∀ id ∈ payload.taskType, kind = .workflows ∧ localIdPattern id = true
  routes : ∀ ids ∈ payload.additionalTaskTypes, kind = .workflows ∧ ReferencesFit ids ∧
    ∀ id ∈ payload.taskType, id ∉ ids
  stages : ∀ stages ∈ payload.stages, kind = .workflows ∧ stages.length ≤ maximumWorkflowStages ∧
    (stages.map (·.id)).Nodup ∧ ∀ stage ∈ stages, StageFits stage

/-- A complete payload has the id of its definition, and one of a workflow has its task type and stages. -/
structure CompletePayload (kind : ContributionKind) (id : String) (payload : DefinitionPayload) : Prop where
  fits : PayloadFits kind payload
  id : payload.id = some id
  workflow : kind = .workflows → payload.taskType.isSome = true ∧ payload.stages.isSome = true

/-- The payload of an extension says something about an unnamed definition. -/
structure ExtensionPayload (payload : DefinitionPayload) : Prop where
  shape : ∃ title description, payload = describing none title description ∧
    (title.isSome = true ∨ description.isSome = true)
  fits (kind : ContributionKind) : PayloadFits kind payload

variable {item : Record} {key field id text : String} {value : Value} {ids : List String}

theorem parseGiven_ok {Result : Type} {parse : Value → Parsed Result} {result : Option Result}
    (parsed : parseGiven item key parse = .ok result) :
    (Record.get item key = .undefined ∧ result = none) ∨
      ∃ given, parse (Record.get item key) = .ok given ∧ result = some given := by
  unfold parseGiven at parsed
  split at parsed
  · next absent => exact .inl ⟨Value.isUndefined_iff.mp absent, (Except.ok.inj parsed).symm⟩
  · obtain ⟨given, returned, same⟩ := map_ok parsed
    exact .inr ⟨given, returned, same.symm⟩

theorem parseGiven_each {Result : Type} {parse : Value → Parsed Result} {result : Option Result}
    {holds : Result → Prop} (parsed : parseGiven item key parse = .ok result)
    (each : ∀ value result, parse value = .ok result → holds result) : ∀ found ∈ result, holds found := by
  rcases parseGiven_ok parsed with ⟨-, rfl⟩ | ⟨given, returned, rfl⟩
  · exact fun found none => absurd none (Option.not_mem_none found)
  · intro found same
    obtain rfl := Option.mem_some_iff.mp same
    exact each _ _ returned

theorem textValue_iff {accepts : String → Bool} :
    textValue accepts value = true ↔ ∃ text, value = .string text ∧ accepts text = true := by
  cases value <;> simp [textValue]

theorem definitionText_ok (parsed : definitionText field value = .ok text) : isDefinitionText text = true := by
  unfold definitionText at parsed
  split at parsed
  · next holds =>
    obtain ⟨same, rfl, accepted⟩ := textValue_iff.mp holds
    cases parsed
    exact accepted
  · cases parsed

theorem descriptiveText_ok (parsed : descriptiveText field value = .ok text) : isDescriptiveText text = true := by
  unfold descriptiveText at parsed
  split at parsed
  · next holds =>
    obtain ⟨same, rfl, accepted⟩ := textValue_iff.mp holds
    cases parsed
    exact accepted
  · cases parsed

theorem localId_ok (parsed : localId value = .ok id) : value = .string id ∧ localIdPattern id = true := by
  cases value with
  | string text =>
    simp only [localId] at parsed
    split at parsed
    · next holds =>
      cases parsed
      exact ⟨rfl, holds⟩
    · cases parsed
  | _ => cases parsed

theorem descriptiveList_ok (parsed : descriptiveList field value = .ok ids) : DescriptiveListFits ids := by
  cases value with
  | array items =>
    obtain ⟨_, bounds, parsed⟩ := bind_ok parsed
    obtain ⟨_, texts, parsed⟩ := bind_ok parsed
    cases parsed
    have bounds := reject_ok bounds
    have texts := reject_ok texts
    rw [Bool.or_eq_false_iff, decide_eq_false_iff_not, List.isEmpty_eq_false_iff_exists_mem] at bounds
    rw [Bool.not_eq_false', List.all_eq_true] at texts
    obtain ⟨⟨first, member⟩, bounded⟩ := bounds
    have nonempty := List.length_pos_of_mem member
    refine ⟨by rw [List.length_map]; exact nonempty, by rw [List.length_map]; omega, ?_⟩
    intro entry member
    obtain ⟨item, inItems, rfl⟩ := List.mem_map.mp member
    obtain ⟨text, rfl, accepted⟩ := textValue_iff.mp (texts item inItems)
    exact accepted
  | _ => cases parsed

theorem sort_ascending {values : List String} (unique : values.Nodup) :
    (sort values).Pairwise fun first second => codeUnits first < codeUnits second := by
  have sorted := sortOn_sorted codeUnits values
  have distinct : (sort values).Nodup := (sortOn_perm codeUnits values).nodup_iff.mpr unique
  refine (sorted.and distinct).imp ?_
  rintro first second ⟨ordered, different⟩
  exact lt_of_le_of_ne ordered fun same => different (codeUnits_injective same)

theorem referenceList_ok (parsed : referenceList field value = .ok ids) : ReferencesFit ids := by
  cases value with
  | array items =>
    obtain ⟨_, empty, parsed⟩ := bind_ok parsed
    obtain ⟨_, long, parsed⟩ := bind_ok parsed
    obtain ⟨references, read, parsed⟩ := bind_ok parsed
    obtain ⟨_, duplicate, parsed⟩ := bind_ok parsed
    cases parsed
    have empty := reject_ok empty
    have long := reject_ok long
    have duplicate := reject_ok duplicate
    rw [List.isEmpty_eq_false_iff_exists_mem] at empty
    simp only [decide_eq_false_iff_not, not_lt] at long
    simp only [ne_eq, decide_not, Bool.not_eq_false', decide_eq_true_eq] at duplicate
    obtain ⟨first, member⟩ := empty
    have same : (sort references).length = items.length := by
      rw [sort, (sortOn_perm codeUnits references).length_eq, ← (Outcome.mapM_ok read).length_eq]
    have unique : references.Nodup := by
      rw [← (List.dedup_sublist references).eq_of_length duplicate]
      exact references.nodup_dedup
    refine ⟨same ▸ List.length_pos_of_mem member, same ▸ long, ?_, sort_ascending unique⟩
    intro id inSorted
    obtain ⟨item, -, returned⟩ := Outcome.mapM_mem read (mem_sortOn.mp inSorted)
    exact (localId_ok returned).2
  | _ => cases parsed

/-- The values of a record are there: none is an explicit `undefined`. -/
def Defined (item : Record) : Prop := ∀ entry ∈ item, entry.2 ≠ .undefined

theorem get_defined (defined : Defined item) (member : key ∈ keysOf item) : Record.get item key ≠ .undefined := by
  rw [Record.get]
  induction item with
  | nil => cases member
  | cons entry item ih =>
    obtain ⟨name, value⟩ := entry
    by_cases same : key = name
    · simp only [List.lookup_cons, same, beq_self_eq_true, Option.getD_some]
      exact defined (name, value) List.mem_cons_self
    · simp only [List.lookup_cons, beq_eq_false_iff_ne.mpr same]
      refine ih (fun other inItem => defined other (List.mem_cons_of_mem _ inItem)) ?_
      exact (List.mem_cons.mp member).resolve_left same

/-- What the descriptive parser returns, apart from the field of the kind. -/
structure Described (item : Record) (id : String) (extension : Bool) (common : DefinitionPayload) : Prop where
  shape : ∃ title description, common = describing (if extension then none else some id) title description
  title : ∀ text ∈ common.title, isDefinitionText text = true
  description : ∀ text ∈ common.description, isDefinitionText text = true
  something : extension = true → Defined item → common.title.isSome = true ∨ common.description.isSome = true

theorem record_ok (read : record value = .ok item) : value = .object item := by
  cases value with
  | object entries => rw [Except.ok.inj read]
  | _ => cases read

inductive KindField (kind : Option ContributionKind) (common : DefinitionPayload) : DefinitionPayload → Prop
  | none : KindField kind common common
  | text (prompt : kind = some .prompts) (text : Option String)
      (each : ∀ given ∈ text, isDescriptiveText given = true) : KindField kind common { common with text }
  | responsibilities (role : kind = some .roles) (responsibilities : Option (List String))
      (each : ∀ list ∈ responsibilities, DescriptiveListFits list) : KindField kind common { common with responsibilities }

theorem parseKindField_ok {kind : Option ContributionKind} {common payload : DefinitionPayload}
    (parsed : parseKindField item (kind.bind descriptiveFieldOfKind) common = .ok payload) :
    KindField kind common payload := by
  unfold parseKindField at parsed
  split at parsed
  · next prompt =>
    obtain ⟨text, given, rfl⟩ := map_ok parsed
    obtain ⟨named, rfl, field⟩ := Option.bind_eq_some_iff.mp prompt
    refine .text ?_ text (parseGiven_each given fun _ _ => descriptiveText_ok)
    cases named <;> first | rfl | exact absurd field (by decide)
  · split at parsed
    · next role =>
      obtain ⟨responsibilities, given, rfl⟩ := map_ok parsed
      obtain ⟨named, rfl, field⟩ := Option.bind_eq_some_iff.mp role
      refine .responsibilities ?_ responsibilities (parseGiven_each given fun _ _ => descriptiveList_ok)
      cases named <;> first | rfl | exact absurd field (by decide)
    · cases parsed
      exact .none

theorem parseDefinitionPayload_ok {extension : Bool} {kind : Option ContributionKind} {payload : DefinitionPayload}
    (parsed : parseDefinitionPayload value id extension kind = .ok payload) :
    ∃ item common, value = .object item ∧ Described item id extension common ∧
      KindField (if extension then none else kind) common payload := by
  obtain ⟨item, read, rest⟩ := bind_ok parsed
  obtain ⟨_, -, rest⟩ := bind_ok rest
  obtain ⟨_, shape, rest⟩ := bind_ok rest
  obtain ⟨_, -, rest⟩ := bind_ok rest
  obtain ⟨title, titled, rest⟩ := bind_ok rest
  obtain ⟨description, described, rest⟩ := bind_ok rest
  obtain rfl := record_ok read
  have common : Described item id extension (describing (if extension then none else some id) title description) := by
    refine ⟨⟨title, description, rfl⟩, parseGiven_each titled fun _ _ => definitionText_ok,
      parseGiven_each described fun _ _ => definitionText_ok, ?_⟩
    intro extends_ defined
    have shape := reject_ok shape
    simp only [extends_, if_true, Bool.true_and, Bool.or_eq_false_iff, List.any_eq_false] at shape
    obtain ⟨⟨allowed, -⟩, nonempty⟩ := shape
    obtain ⟨key, member⟩ := List.isEmpty_eq_false_iff_exists_mem.mp nonempty
    have known : key ∈ ["title", "description"] := by
      have inAllowed := allowed key member
      rw [Bool.not_eq_true, Bool.not_eq_false', List.contains_iff_mem] at inAllowed
      exact inAllowed
    have present := get_defined defined member
    rcases List.mem_pair.mp known with rfl | rfl
    · rcases parseGiven_ok titled with ⟨absent, -⟩ | ⟨given, -, rfl⟩
      · exact absurd absent present
      · exact .inl rfl
    · rcases parseGiven_ok described with ⟨absent, -⟩ | ⟨given, -, rfl⟩
      · exact absurd absent present
      · exact .inr rfl
  refine ⟨item, _, rfl, common, ?_⟩
  cases extension with
  | true => exact parseKindField_ok rest
  | false => exact parseKindField_ok rest

variable {kind : ContributionKind} {payload common : DefinitionPayload} {extension : Bool}

private theorem none_each {Result : Type} {holds : Result → Prop} : ∀ found ∈ (none : Option Result), holds found :=
  fun found none => absurd none (Option.not_mem_none found)

theorem Described.fits (described : Described item id extension common)
    (named : extension = false → localIdPattern id = true) (kind : ContributionKind) : PayloadFits kind common := by
  obtain ⟨⟨title, description, rfl⟩, titled, described, -⟩ := described
  refine ⟨?_, titled, described, none_each, none_each, none_each, none_each, none_each, none_each, none_each,
    none_each, none_each⟩
  intro given same
  cases extension with
  | true => cases same
  | false =>
    cases same
    exact named rfl

theorem parseDefinitionPayload_complete (parsed : parseDefinitionPayload value id false (some kind) = .ok payload)
    (named : localIdPattern id = true) (other : kind ≠ .workflows) : CompletePayload kind id payload := by
  obtain ⟨item, common, -, described, field⟩ := parseDefinitionPayload_ok parsed
  have fits := described.fits (fun _ => named) kind
  obtain ⟨title, description, rfl⟩ := described.shape
  cases field with
  | none => exact ⟨fits, rfl, fun workflow => absurd workflow other⟩
  | text prompt text each =>
    exact ⟨{ fits with text := fun given same => ⟨Option.some.inj prompt, each given same⟩ }, rfl,
      fun workflow => absurd workflow other⟩
  | responsibilities role responsibilities each =>
    exact ⟨{ fits with responsibilities := fun list same => ⟨Option.some.inj role, each list same⟩ }, rfl,
      fun workflow => absurd workflow other⟩

theorem parseDefinitionPayload_extension {item : Record} {kind : Option ContributionKind}
    (parsed : parseDefinitionPayload (.object item) id true kind = .ok payload) (defined : Defined item) :
    ExtensionPayload payload := by
  obtain ⟨same, common, equal, described, field⟩ := parseDefinitionPayload_ok parsed
  obtain rfl := Value.object.inj equal
  have fits := described.fits nofun
  have something := described.something rfl defined
  obtain ⟨title, description, rfl⟩ := described.shape
  cases field with
  | none => exact ⟨⟨title, description, rfl, something⟩, fits⟩
  | text prompt => cases prompt
  | responsibilities role => cases role

theorem parseCommon_ok (parsed : parseCommon item id = .ok common) (named : localIdPattern id = true)
    (kind : ContributionKind) :
    PayloadFits kind common ∧ ∃ title description, common = describing (some id) title description := by
  obtain ⟨given, described, -, shape, field⟩ := parseDefinitionPayload_ok parsed
  cases field with
  | none => exact ⟨shape.fits (fun _ => named) kind, shape.shape⟩
  | text prompt => cases prompt
  | responsibilities role => cases role

theorem parseAgentPayload_ok {requestsCapabilities : Bool}
    (parsed : parseAgentPayload value id requestsCapabilities = .ok payload) (named : localIdPattern id = true) :
    CompletePayload .agents id payload ∧ (requestsCapabilities = false → payload.capabilities = none) := by
  obtain ⟨item, -, rest⟩ := bind_ok parsed
  obtain ⟨_, unrequested, rest⟩ := bind_ok rest
  obtain ⟨_, -, rest⟩ := bind_ok rest
  obtain ⟨common, shared, rest⟩ := bind_ok rest
  obtain ⟨_, needsRole, rest⟩ := bind_ok rest
  obtain ⟨role, roleRead, rest⟩ := bind_ok rest
  obtain ⟨prompts, promptsRead, rest⟩ := bind_ok rest
  obtain ⟨knowledge, knowledgeRead, rest⟩ := bind_ok rest
  obtain ⟨capabilities, capabilitiesRead, rest⟩ := bind_ok rest
  cases rest
  obtain ⟨fits, title, description, rfl⟩ := parseCommon_ok shared named .agents
  have references {key : String} {ids : Option (List String)}
      (read : parseGiven item key (referenceList key) = .ok ids) : ∀ list ∈ ids, ReferencesFit list :=
    parseGiven_each read fun _ _ => referenceList_ok
  have requested : ∀ list ∈ capabilities, role.isSome = true := by
    rintro list same
    have needsRole := reject_ok needsRole
    rcases parseGiven_ok capabilitiesRead with ⟨-, rfl⟩ | ⟨given, returned, rfl⟩
    · cases same
    · rcases parseGiven_ok roleRead with ⟨absent, -⟩ | ⟨given, -, rfl⟩
      · rw [Bool.and_eq_false_iff, Bool.not_eq_false', Value.isUndefined_iff, absent] at needsRole
        rcases needsRole with missing | impossible
        · rw [missing] at returned
          cases returned
        · cases impossible
      · rfl
  refine ⟨⟨?_, rfl, nofun⟩, fun free => ?_⟩
  · exact { fits with
      role := fun given same => ⟨rfl, parseGiven_each roleRead (fun _ _ read => (localId_ok read).2) given same⟩
      prompts := fun list same => ⟨rfl, references promptsRead list same⟩
      knowledge := fun list same => ⟨rfl, references knowledgeRead list same⟩
      capabilities := fun list same => ⟨rfl, references capabilitiesRead list same, requested list same⟩ }
  · have unrequested := reject_ok unrequested
    rw [free, Bool.not_false, Bool.true_and, Bool.not_eq_false', Value.isUndefined_iff] at unrequested
    rcases parseGiven_ok capabilitiesRead with ⟨-, none⟩ | ⟨given, returned, -⟩
    · exact none
    · rw [unrequested] at returned
      cases returned

theorem parseStage_ok {earlier : List String} {stage : WorkflowStageDefinition}
    (parsed : parseStage earlier value = .ok stage) : StageFits stage ∧ stage.id ∉ earlier := by
  obtain ⟨item, -, rest⟩ := bind_ok parsed
  obtain ⟨_, -, rest⟩ := bind_ok rest
  obtain ⟨_, -, rest⟩ := bind_ok rest
  obtain ⟨id, named, rest⟩ := bind_ok rest
  obtain ⟨_, fresh, rest⟩ := bind_ok rest
  obtain ⟨role, roleRead, rest⟩ := bind_ok rest
  obtain ⟨title, titled, rest⟩ := bind_ok rest
  obtain ⟨objective, aimed, rest⟩ := bind_ok rest
  obtain ⟨checks, checked, rest⟩ := bind_ok rest
  cases rest
  refine ⟨⟨(localId_ok named).2, (localId_ok roleRead).2, parseGiven_each titled fun _ _ => descriptiveText_ok,
    parseGiven_each aimed fun _ _ => descriptiveText_ok, parseGiven_each checked fun _ _ => descriptiveList_ok⟩, ?_⟩
  have fresh := reject_ok fresh
  rwa [List.contains_eq_mem, decide_eq_false_iff_not] at fresh

theorem parseStages_ok {earlier : List String} {declared : List Value} {stages : List WorkflowStageDefinition}
    (parsed : parseStages earlier declared = .ok stages) :
    stages.length = declared.length ∧ (∀ stage ∈ stages, StageFits stage ∧ stage.id ∉ earlier) ∧
      (stages.map (·.id)).Nodup := by
  induction declared generalizing earlier stages with
  | nil =>
    cases parsed
    simp
  | cons stage declared ih =>
    obtain ⟨first, read, rest⟩ := bind_ok parsed
    obtain ⟨others, later, rest⟩ := bind_ok rest
    cases rest
    obtain ⟨sameLength, each, unique⟩ := ih later
    refine ⟨by rw [List.length_cons, List.length_cons, sameLength], ?_, ?_⟩
    · refine List.forall_mem_cons.mpr ⟨parseStage_ok read, fun stage member => ?_⟩
      obtain ⟨fits, fresh⟩ := each stage member
      exact ⟨fits, fun old => fresh (List.mem_append_left _ old)⟩
    · refine List.nodup_cons.mpr ⟨fun repeated => ?_, unique⟩
      obtain ⟨stage, member, same⟩ := List.mem_map.mp repeated
      exact (each stage member).2 (same ▸ List.mem_append_right _ (List.mem_singleton_self _))

theorem parseWorkflowPayload_ok (parsed : parseWorkflowPayload value id = .ok payload)
    (named : localIdPattern id = true) : CompletePayload .workflows id payload := by
  obtain ⟨item, -, rest⟩ := bind_ok parsed
  obtain ⟨_, -, rest⟩ := bind_ok rest
  split at rest
  · next declared _ =>
    obtain ⟨_, bounded, rest⟩ := bind_ok rest
    obtain ⟨common, shared, rest⟩ := bind_ok rest
    obtain ⟨taskType, routed, rest⟩ := bind_ok rest
    obtain ⟨stages, staged, rest⟩ := bind_ok rest
    obtain ⟨additional, extended, rest⟩ := bind_ok rest
    obtain ⟨_, different, rest⟩ := bind_ok rest
    cases rest
    obtain ⟨fits, title, description, rfl⟩ := parseCommon_ok shared named .workflows
    obtain ⟨sameLength, each, unique⟩ := parseStages_ok staged
    have bounded := reject_ok bounded
    rw [decide_eq_false_iff_not, not_lt] at bounded
    refine ⟨?_, rfl, fun _ => ⟨rfl, rfl⟩⟩
    refine { fits with taskType := ?_, routes := ?_, stages := ?_ }
    · rintro given ⟨⟩
      exact ⟨rfl, (localId_ok routed).2⟩
    · intro ids same
      refine ⟨rfl, parseGiven_each extended (fun _ _ => referenceList_ok) ids same, ?_⟩
      rintro given ⟨⟩ member
      have different := reject_ok different
      rw [show additional = some ids from same, Option.any_some, List.contains_eq_mem, decide_eq_false_iff_not] at different
      exact different member
    · rintro given ⟨⟩
      exact ⟨rfl, sameLength ▸ bounded, unique, fun stage member => (each stage member).1⟩
  · cases rest

end AiOffice.Application.DomainPack
