import AiOffice.Application.DomainPack.ManageProjectDefinitions
import AiOffice.Application.ProjectPortability.DefinitionSchema.Payloads
import AiOffice.Data.Keyed

namespace AiOffice.Application.DomainPack

open Data Outcome Domain Domain.Schema DomainPackContracts
open Application.ProjectPortability Application.OfficeManifestSchema

def ownedValue (item : ProjectOwnedDefinition) : Value :=
  .object [("origin", .string "project_owned"), ("kind", .string item.kind.name), ("id", .string item.id),
    ("revision", numberValue item.revision), ("enabled", .boolean item.enabled), ("payload", payloadValue item.payload),
    ("actorId", .string item.actorId), ("changedAt", .string item.changedAt)]

def overrideValue (item : ProjectDefinitionOverride) : Value :=
  .object (present [("origin", some (.string "project_override")), ("source", some (sourceValue item.source)),
    ("operation", some (.string item.operation.name)), ("revision", some (numberValue item.revision)),
    ("payload", item.payload.map payloadValue), ("actorId", some (.string item.actorId)),
    ("changedAt", some (.string item.changedAt))])

def definitionsValue (state : ProjectDefinitionState) : Value :=
  .object [("revision", numberValue state.revision), ("owned", .array (state.owned.map ownedValue)),
    ("overrides", .array (state.overrides.map overrideValue))]

structure PortableActor (actorId : String) : Prop where
  trimmed : Trimmed actorId
  nonempty : 1 ≤ utf16Length actorId
  bounded : utf16Length actorId ≤ 256

structure SourceFits (source : ExactPackDefinitionSource) : Prop where
  id : packIdPattern source.id = true
  version : versionPattern source.version = true
  manifestDigest : digestPattern source.manifestDigest = true
  localId : localIdPattern source.localId = true

inductive OperationFits (source : ExactPackDefinitionSource) : OverrideOperation → Option DefinitionPayload → Prop
  | replace {payload : DefinitionPayload} (complete : CompletePayload source.kind source.localId payload) :
      OperationFits source .replace (some payload)
  | extend {payload : DefinitionPayload} (extension : ExtensionPayload payload) :
      OperationFits source .extend (some payload)
  | disable (allowed : source.kind ∈ disableableKinds) : OperationFits source .disable none

structure OwnedFits (revision : Int) (item : ProjectOwnedDefinition) : Prop where
  kind : item.kind ∈ projectOwnedKinds
  id : localIdPattern item.id = true
  positive : 1 ≤ item.revision
  known : item.revision ≤ revision
  payload : CompletePayload item.kind item.id item.payload
  unprivileged : item.payload.capabilities = none
  actor : PortableActor item.actorId
  changedAt : IsoDate.isTimestamp item.changedAt = true

structure OverrideFits (revision : Int) (item : ProjectDefinitionOverride) : Prop where
  source : SourceFits item.source
  kind : item.source.kind ∈ overridableKinds
  positive : 1 ≤ item.revision
  known : item.revision ≤ revision
  operation : OperationFits item.source item.operation item.payload
  actor : PortableActor item.actorId
  changedAt : IsoDate.isTimestamp item.changedAt = true

def ownedKeyOf (item : ProjectOwnedDefinition) : ContributionKind × String := (item.kind, item.id)

def overrideKeyOf (item : ProjectDefinitionOverride) : String := sourceKey item.source

structure Portable (state : ProjectDefinitionState) : Prop where
  nonnegative : 0 ≤ state.revision
  safe : state.revision ≤ maxSafeInteger
  owned : ∀ item ∈ state.owned, OwnedFits state.revision item
  overrides : ∀ item ∈ state.overrides, OverrideFits state.revision item
  ownedKeys : (state.owned.map ownedKeyOf).Nodup
  overrideKeys : (state.overrides.map overrideKeyOf).Nodup
  ownedBounded : state.owned.length ≤ 100000
  overridesBounded : state.overrides.length ≤ 100000

variable {state : ProjectDefinitionState} {item : ProjectOwnedDefinition} {override : ProjectDefinitionOverride}
  {source : ExactPackDefinitionSource} {kind : ContributionKind} {revision : Int} {actorId : String}

theorem number_defined (number : Int) : numberValue number ≠ .undefined := fun same => Value.noConfusion same

theorem actor_kept (actor : PortableActor actorId) : ProjectPortability.id (.string actorId) = some (.string actorId) := by
  have same : trim actorId = actorId := actor.trimmed
  simp only [ProjectPortability.id, trimmedText, trimmed, same, actor.nonempty, actor.bounded, decide_true,
    Bool.and_self, if_true]

theorem integer_kept {accepts : Rat → Bool} (holds : accepts revision = true) :
    number accepts (numberValue revision) = some (numberValue revision) := if_pos holds

theorem isInteger_cast (low : 0 ≤ revision) (high : revision ≤ maxSafeInteger) : isInteger revision = true := by
  have negative : -maxSafeInteger ≤ revision := le_trans (by decide) low
  simp only [isInteger, Rat.den_intCast, Rat.num_intCast, isSafeInteger, negative, high, decide_true, Bool.and_self]

theorem positive_kept (low : 1 ≤ revision) (high : revision ≤ maxSafeInteger) :
    positiveInteger (numberValue revision) = some (numberValue revision) := by
  refine integer_kept ?_
  rw [isInteger_cast (by omega) high, Bool.true_and, decide_eq_true_eq]
  exact_mod_cast low

theorem nonnegative_kept (low : 0 ≤ revision) (high : revision ≤ maxSafeInteger) :
    nonnegativeInteger (numberValue revision) = some (numberValue revision) := by
  refine integer_kept ?_
  rw [isInteger_cast low high, Bool.true_and, decide_eq_true_eq]
  exact_mod_cast low

theorem ownedKind_kept (owned : kind ∈ projectOwnedKinds) :
    portableOwnedKind (.string kind.name) = some (.string kind.name) := by
  cases kind <;> first | rfl | exact absurd owned (by decide)

theorem source_kept (fits : SourceFits source) (owned : source.kind ∈ projectOwnedKinds) :
    portableExactDefinitionSource (sourceValue source) = some (sourceValue source) :=
  Fits.object (.entry nofun (text_kept fits.id) (.entry nofun (text_kept fits.version)
    (.entry nofun (text_kept fits.manifestDigest) (.entry nofun (ownedKind_kept owned)
      (.entry nofun (text_kept fits.localId) .nil))))) (by decide)

theorem owned_kept (fits : OwnedFits revision item) (safe : revision ≤ maxSafeInteger) :
    portableOwned (ownedValue item) = some (ownedValue item) := by
  have payload := ownedPayload_kept (complete_shape fits.payload) fits.payload.id
  have positive := positive_kept fits.positive (fits.known.trans safe)
  refine Fits.object ?_ (by decide)
  refine .entry nofun rfl (.entry nofun (ownedKind_kept fits.kind) (.entry nofun (text_kept fits.id) ?_))
  refine .entry (number_defined _) positive (.entry nofun rfl (.entry nofun payload ?_))
  exact .entry nofun (actor_kept fits.actor) (.entry nofun (text_kept fits.changedAt) .nil)

theorem operation_kept (operation : OverrideOperation) :
    oneOf ["replace", "extend", "disable"] (.string operation.name) = some (.string operation.name) := by
  cases operation <;> rfl

theorem override_kept (fits : OverrideFits revision override) (safe : revision ≤ maxSafeInteger) :
    portableOverride (overrideValue override) = some (overrideValue override) := by
  have positive := positive_kept fits.positive (fits.known.trans safe)
  have payload : ∀ value ∈ override.payload.map payloadValue, value ≠ .undefined ∧ overridePayload value = some value := by
    intro value member
    obtain ⟨payload, same, rfl⟩ := Option.map_eq_some_iff.mp member
    refine ⟨nofun, overridePayload_kept ?_⟩
    have operation := fits.operation
    rw [same] at operation
    generalize override.operation = name at operation
    cases operation with
    | replace complete => exact complete_shape complete
    | extend extension => exact extension_shape extension
  refine Fits.object ?_ (by decide)
  refine .required nofun rfl (.required nofun (source_kept fits.source fits.kind) ?_)
  refine .required nofun (operation_kept _) (.required (number_defined _) positive (.optional payload ?_))
  exact .required nofun (actor_kept fits.actor) (.required nofun (text_kept fits.changedAt) .nil)

theorem separated {Item : Type} {separator : Item} {first second rest others : List Item} (clean : separator ∉ first)
    (also : separator ∉ second) (same : first ++ separator :: rest = second ++ separator :: others) :
    first = second ∧ rest = others := by
  induction first generalizing second with
  | nil =>
    cases second with
    | nil => exact ⟨rfl, (List.cons.inj same).2⟩
    | cons head second => exact absurd ((List.cons.inj same).1 ▸ List.mem_cons_self) also
  | cons head first ih =>
    cases second with
    | nil => exact absurd ((List.cons.inj same).1 ▸ List.mem_cons_self) clean
    | cons other second =>
      obtain ⟨rfl, tail⟩ := List.cons.inj same
      obtain ⟨rfl, equal⟩ := ih (fun member => clean (List.mem_cons_of_mem _ member))
        (fun member => also (List.mem_cons_of_mem _ member)) tail
      exact ⟨rfl, equal⟩

theorem ownedKey_injective {first second : ProjectOwnedDefinition}
    (same : ownedKey (ownedValue first) = ownedKey (ownedValue second)) : ownedKeyOf first = ownedKeyOf second := by
  have separate (kind : ContributionKind) : '\u0000' ∉ kind.name.toList := by cases kind <;> decide
  have letters := congrArg String.toList same
  change (first.kind.name ++ "\u0000" ++ first.id).toList = (second.kind.name ++ "\u0000" ++ second.id).toList at letters
  simp only [String.toList_append, List.append_assoc] at letters
  obtain ⟨names, ids⟩ := separated (separate first.kind) (separate second.kind) letters
  exact Prod.ext (ContributionKind.name_injective (String.toList_injective names)) (String.toList_injective ids)

theorem eachIssues_map {Item : Type} {items : List Item} {encode : Item → Value}
    {issues : List Value → Value → List Issue}
    (none : ∀ before item after, items = before ++ item :: after → issues (before.map encode) (encode item) = []) :
    eachIssues (items.map encode) issues = [] := by
  rw [eachIssues, issuesFrom_eq_nil]
  intro before value after split
  obtain ⟨first, rest, rfl, rfl, mapped⟩ := List.map_eq_append_iff.mp split
  obtain ⟨item, last, rfl, rfl, rfl⟩ := List.map_eq_cons_iff.mp mapped
  rw [List.nil_append]
  exact none first item last rfl

theorem fresh_key {Item Key : Type} [DecidableEq Key] {items before after : List Item} {item : Item} {key : Item → Key}
    (unique : (items.map key).Nodup) (split : items = before ++ item :: after) : key item ∉ before.map key := by
  rw [split, List.map_append, List.map_cons] at unique
  exact fun member => (List.nodup_append.mp unique).2.2 _ member _ List.mem_cons_self rfl

theorem owned_noIssues {before after : List ProjectOwnedDefinition} (portable : Portable state)
    (split : state.owned = before ++ item :: after) : ownedIssues (before.map ownedValue) (ownedValue item) = [] := by
  have fits := portable.owned item (split ▸ List.mem_append_right _ List.mem_cons_self)
  have complete := fits.payload
  have fresh : ownedKey (ownedValue item) ∉ (before.map ownedValue).map ownedKey := by
    intro repeated
    rw [List.map_map] at repeated
    obtain ⟨other, member, same⟩ := List.mem_map.mp repeated
    exact fresh_key portable.ownedKeys split (ownedKey_injective same ▸ List.mem_map_of_mem member)
  obtain ⟨-, -, agents, workflows⟩ := PayloadFits.only complete.fits
  have kindText : ((ownedValue item).get "kind").text = item.kind.name := rfl
  have idText : ((ownedValue item).get "id").text = item.id := rfl
  have payload : (ownedValue item).get "payload" = payloadValue item.payload := rfl
  simp only [ownedIssues, List.append_eq_nil_iff, issueUnless_eq_nil, kindText, idText, payload]
  refine ⟨⟨⟨⟨?_, ?_⟩, ?_⟩, payload_vocabulary complete.fits _⟩, ?_⟩
  · rw [(payload_id item.payload complete.id).2, List.contains_eq_mem, decide_eq_false fresh]
    simp
  · rw [payload_stages]
    by_cases isWorkflow : item.kind = .workflows
    · rw [(complete.workflow isWorkflow).2, isWorkflow]
      rfl
    · rw [(workflows isWorkflow).2.2]
      have other : item.kind.name ≠ "workflows" := fun same => isWorkflow (ContributionKind.name_injective same)
      simp [other]
  · rw [payload_references, (payload_capabilities item.payload).1, fits.unprivileged]
    by_cases isAgent : item.kind = .agents
    · simp [isAgent, ContributionKind.name]
    · obtain ⟨role, prompts, knowledge, -⟩ := agents isAgent
      simp [role, prompts, knowledge]
  · rw [payload_stages]
    cases stages : item.payload.stages with
    | none => rfl
    | some list =>
      rw [payload_stageIds stages, uniqueValues_iff.mpr (complete.fits.stages list stages).2.2.1, Bool.or_true]

theorem override_get (item : ProjectDefinitionOverride) :
    (overrideValue item).get "source" = sourceValue item.source ∧
      (overrideValue item).get "operation" = .string item.operation.name ∧
      (overrideValue item).get "payload" = (item.payload.map payloadValue).getD .undefined := by
  refine ⟨?_, ?_, ?_⟩ <;>
  · rw [overrideValue, Value.get_entries, Value.entries_object, present_lookup (by
      simp only [List.map_cons, List.map_nil]
      decide)]
    simp [List.lookup_cons]

theorem overrideKey_value (item : ProjectDefinitionOverride) : overrideKey (overrideValue item) = overrideKeyOf item := by
  rw [overrideKey, (override_get item).1]
  rfl

def givenPayload (payload : Option DefinitionPayload) : Value := (payload.map payloadValue).getD .undefined

/-- What the archive checks of the payload of an override by the kind of its source and by its operation. -/
structure PayloadChecked (source : ExactPackDefinitionSource) (operation : String) (payload : Value) : Prop where
  references : (!(hasAgentReferences payload && (source.kind.name ≠ "agents" || operation ≠ "replace" ||
    (payload.has "capabilities" && !payload.has "role")))) = true
  vocabulary (path : List PathSegment) : vocabularyIssues path source.kind.name payload = []
  workflow : (decide (source.kind.name = "workflows" ∧ operation = "replace") == payload.has "stages") = true
  stages : (!payload.has "stages" || uniqueValues (stageIds payload)) = true
  operation : operationPayload source.kind.name operation source.localId payload = true

theorem replace_checked {payload : DefinitionPayload} (complete : CompletePayload source.kind source.localId payload) :
    PayloadChecked source "replace" (payloadValue payload) where
  references := by
    obtain ⟨-, -, agents, -⟩ := PayloadFits.only complete.fits
    rw [payload_references, (payload_capabilities payload).1, (payload_capabilities payload).2]
    by_cases isAgent : source.kind = .agents
    · cases capabilities : payload.capabilities with
      | none => simp [isAgent, ContributionKind.name]
      | some list =>
        have role := (complete.fits.capabilities list capabilities).2.2
        simp [isAgent, ContributionKind.name, role]
    · obtain ⟨role, prompts, knowledge, capabilities⟩ := agents isAgent
      simp [role, prompts, knowledge, capabilities]
  vocabulary := payload_vocabulary complete.fits
  workflow := by
    obtain ⟨-, -, -, workflows⟩ := PayloadFits.only complete.fits
    rw [payload_stages]
    by_cases isWorkflow : source.kind = .workflows
    · rw [(complete.workflow isWorkflow).2, isWorkflow]
      rfl
    · have other : source.kind.name ≠ "workflows" := fun same => isWorkflow (ContributionKind.name_injective same)
      rw [(workflows isWorkflow).2.2]
      simp [other]
  stages := by
    rw [payload_stages]
    cases stages : payload.stages with
    | none => rfl
    | some list =>
      rw [payload_stageIds stages, uniqueValues_iff.mpr (complete.fits.stages list stages).2.2.1, Bool.or_true]
  operation := by
    obtain ⟨has, same⟩ := payload_id payload complete.id
    have defined : (payloadValue payload).isUndefined = false := rfl
    simp [operationPayload, has, same, defined]

theorem extend_checked {payload : DefinitionPayload} (extension : ExtensionPayload payload) :
    PayloadChecked source "extend" (payloadValue payload) := by
  obtain ⟨⟨title, description, rfl, something⟩, fits⟩ := extension
  have unnamed : (payloadValue (describing none title description)).has "id" = false := by
    simp [payload_has, payloadEntries, describing]
  have nonempty : (payloadValue (describing none title description)).entries.isEmpty = false := by
    cases title with
    | some title => rfl
    | none =>
      cases description with
      | some description => rfl
      | none => rcases something with impossible | impossible <;> cases impossible
  have defined : (payloadValue (describing none title description)).isUndefined = false := rfl
  refine ⟨?_, payload_vocabulary (fits source.kind), ?_, ?_, ?_⟩
  · rw [payload_references]
    rfl
  · rw [payload_stages]
    simp [describing]
  · rw [payload_stages]
    rfl
  · simp [operationPayload, unnamed, nonempty, defined]

theorem disable_checked (allowed : source.kind ∈ disableableKinds) :
    PayloadChecked source "disable" .undefined := by
  refine ⟨rfl, fun path => ?_, ?_, rfl, ?_⟩
  · simp [vocabularyIssues, descriptiveVocabularyIssue, Value.has, Value.entries]
  · simp [Value.has, Value.entries]
  · generalize source.kind = kind at allowed
    cases kind <;> first | rfl | exact absurd allowed (by decide)

theorem OperationFits.checked {operation : OverrideOperation} {payload : Option DefinitionPayload}
    (fits : OperationFits source operation payload) : PayloadChecked source operation.name (givenPayload payload) := by
  cases fits with
  | replace complete => exact replace_checked complete
  | extend extension => exact extend_checked extension
  | disable allowed => exact disable_checked allowed

theorem override_noIssues {before after : List ProjectDefinitionOverride} (portable : Portable state)
    (split : state.overrides = before ++ override :: after) :
    overrideIssues (before.map overrideValue) (overrideValue override) = [] := by
  have fits := portable.overrides override (split ▸ List.mem_append_right _ List.mem_cons_self)
  have fresh : overrideKey (overrideValue override) ∉ (before.map overrideValue).map overrideKey := by
    intro repeated
    rw [List.map_map] at repeated
    obtain ⟨other, member, same⟩ := List.mem_map.mp repeated
    rw [Function.comp_apply, overrideKey_value, overrideKey_value] at same
    exact fresh_key portable.overrideKeys split (same ▸ List.mem_map_of_mem member)
  have unique : (!((before.map overrideValue).map overrideKey).contains (overrideKey (overrideValue override))) = true := by
    rw [List.contains_eq_mem, decide_eq_false fresh]
    rfl
  obtain ⟨sourced, operated, carried⟩ := override_get override
  have checked := fits.operation.checked
  have kindText : ((sourceValue override.source).get "kind").text = override.source.kind.name := rfl
  have localText : ((sourceValue override.source).get "localId").text = override.source.localId := rfl
  have nameText : (Value.string override.operation.name).text = override.operation.name := rfl
  simp only [overrideIssues, List.append_eq_nil_iff, issueUnless_eq_nil, sourced, operated, carried, kindText, localText,
    nameText]
  exact ⟨⟨⟨⟨⟨unique, checked.references⟩, checked.vocabulary _⟩, checked.workflow⟩, checked.stages⟩, checked.operation⟩

theorem Portable.started (portable : Portable state) (first : state.revision = 0) :
    state.owned = [] ∧ state.overrides = [] := by
  constructor
  · refine List.eq_nil_iff_forall_not_mem.mpr fun item member => ?_
    have fits := portable.owned item member
    have positive := fits.positive
    have known := fits.known
    omega
  · refine List.eq_nil_iff_forall_not_mem.mpr fun item member => ?_
    have fits := portable.overrides item member
    have positive := fits.positive
    have known := fits.known
    omega

theorem bounded_kept {Item : Type} {items : List Item} {encode : Item → Value} {schema : Schema} {most : Nat}
    (each : ∀ item ∈ items, schema (encode item) = some (encode item)) (bounded : items.length ≤ most) :
    boundedArray schema 0 most (.array (items.map encode)) = some (.array (items.map encode)) := by
  refine array_kept (fun value member => ?_) ?_
  · obtain ⟨item, inItems, rfl⟩ := List.mem_map.mp member
    exact each item inItems
  · rw [List.length_map, Bool.and_eq_true, decide_eq_true_eq, decide_eq_true_eq]
    exact ⟨Nat.zero_le _, bounded⟩

theorem definitions_kept (portable : Portable state) :
    portableDefinitionState (definitionsValue state) = some (definitionsValue state) := by
  refine superRefine_iff.mpr ⟨?_, ?_⟩
  · have owned := bounded_kept (fun item member => owned_kept (portable.owned item member) portable.safe)
      portable.ownedBounded
    have overrides := bounded_kept (fun item member => override_kept (portable.overrides item member) portable.safe)
      portable.overridesBounded
    refine Fits.object ?_ (by decide)
    refine .entry (number_defined _) (nonnegative_kept portable.nonnegative portable.safe) ?_
    exact .entry nofun owned (.entry nofun overrides .nil)
  · have ownedItems : ((definitionsValue state).get "owned").items = state.owned.map ownedValue := rfl
    have overrideItems : ((definitionsValue state).get "overrides").items = state.overrides.map overrideValue := rfl
    have revision : (definitionsValue state).get "revision" = numberValue state.revision := rfl
    simp only [definitionStateIssues, List.append_eq_nil_iff, issueUnless_eq_nil, ownedItems, overrideItems, revision]
    refine ⟨⟨eachIssues_map fun before item after split => owned_noIssues portable split,
      eachIssues_map fun before item after split => override_noIssues portable split⟩, ?_⟩
    by_cases first : state.revision = 0
    · obtain ⟨noOwned, noOverrides⟩ := portable.started first
      rw [noOwned, noOverrides]
      simp
    · have positive : (numberValue state.revision).isNumber 0 = false := by
        simp [numberValue, Value.isNumber, first]
      rw [positive]
      rfl

inductive MutationFits : ProjectDefinitionMutation → Prop
  | putOwned {kind : ContributionKind} {id : String} {payload : DefinitionPayload} {enabled : Bool}
      {expected : Option Int} (owned : kind ∈ projectOwnedKinds) (named : localIdPattern id = true)
      (complete : CompletePayload kind id payload) (unprivileged : payload.capabilities = none) :
      MutationFits (.putOwned kind id payload enabled expected)
  | removeOwned (kind : ContributionKind) (id : String) : MutationFits (.removeOwned kind id)
  | putOverride {source : ExactPackDefinitionSource} {operation : OverrideOperation} {payload : Option DefinitionPayload}
      {expected : Option Int} (sourced : SourceFits source) (overridable : source.kind ∈ overridableKinds)
      (fits : OperationFits source operation payload) : MutationFits (.putOverride source operation payload expected)
  | removeOverride (source : ExactPackDefinitionSource) : MutationFits (.removeOverride source)

theorem identity_ok {pattern : String → Bool} {value : Value} {text : String}
    (parsed : identity pattern value = .ok text) : pattern text = true := by
  cases value with
  | string given =>
    simp only [identity] at parsed
    split at parsed
    · next holds =>
      cases parsed
      exact holds
    · cases parsed
  | _ => cases parsed

theorem parseExactSource_ok {value : Value} (parsed : parseExactSource value = .ok source) : SourceFits source := by
  obtain ⟨item, -, rest⟩ := bind_ok parsed
  obtain ⟨_, -, rest⟩ := bind_ok rest
  obtain ⟨id, named, rest⟩ := bind_ok rest
  obtain ⟨version, versioned, rest⟩ := bind_ok rest
  obtain ⟨digest, digested, rest⟩ := bind_ok rest
  obtain ⟨kind, -, rest⟩ := bind_ok rest
  obtain ⟨localId, located, rest⟩ := bind_ok rest
  cases rest
  exact ⟨identity_ok named, identity_ok versioned, identity_ok digested, (localId_ok located).2⟩

theorem parseOwnedPayload_ok {id : String} {value : Value} {payload : DefinitionPayload}
    (parsed : parseOwnedPayload kind id value = .ok payload) (named : localIdPattern id = true) :
    CompletePayload kind id payload ∧ payload.capabilities = none := by
  unfold parseOwnedPayload at parsed
  split at parsed
  · next isWorkflow =>
    subst isWorkflow
    have complete := parseWorkflowPayload_ok parsed named
    exact ⟨complete, ((PayloadFits.only complete.fits).2.2.1 (by decide)).2.2.2⟩
  · split at parsed
    · next isAgent =>
      subst isAgent
      obtain ⟨complete, free⟩ := parseAgentPayload_ok parsed named
      exact ⟨complete, free rfl⟩
    · next other isAgent =>
      have complete := parseDefinitionPayload_complete parsed named other
      exact ⟨complete, ((PayloadFits.only complete.fits).2.2.1 isAgent).2.2.2⟩

theorem json_defined {item : Record} (document : accepts jsonValue (.object item) = true) : Defined item := by
  intro entry member missing
  have accepted := json_entries document entry member
  rw [missing, json_undefined] at accepted
  cases accepted

theorem parseOverridePayload_ok {operation : OverrideOperation} {value : Value} {payload : DefinitionPayload}
    (parsed : parseOverridePayload source operation value = .ok payload) (sourced : SourceFits source)
    (kept : operation ≠ .disable) (defined : ∀ item, value = .object item → Defined item) :
    OperationFits source operation (some payload) := by
  unfold parseOverridePayload at parsed
  split at parsed
  · next isAgent =>
    obtain ⟨rfl, agent⟩ := isAgent
    have complete := (parseAgentPayload_ok parsed sourced.localId).1
    exact .replace (agent ▸ complete)
  · split at parsed
    · next isWorkflow =>
      obtain ⟨rfl, workflow⟩ := isWorkflow
      have complete := parseWorkflowPayload_ok parsed sourced.localId
      exact .replace (workflow ▸ complete)
    · next other workflow =>
      cases operation with
      | replace =>
        exact .replace (parseDefinitionPayload_complete parsed sourced.localId fun isWorkflow => workflow ⟨rfl, isWorkflow⟩)
      | extend =>
        obtain ⟨item, -, object, -⟩ := parseDefinitionPayload_ok parsed
        subst object
        exact .extend (parseDefinitionPayload_extension parsed (defined item rfl))
      | disable => exact absurd rfl kept

theorem parsePutOwned_ok {item : Record} {expected : Option Int} {mutation : ProjectDefinitionMutation}
    (parsed : parsePutOwned item expected = .ok mutation) : MutationFits mutation := by
  obtain ⟨_, -, rest⟩ := bind_ok parsed
  obtain ⟨kind, -, rest⟩ := bind_ok rest
  obtain ⟨_, allowed, rest⟩ := bind_ok rest
  obtain ⟨id, named, rest⟩ := bind_ok rest
  have allowed := reject_ok allowed
  rw [Bool.not_eq_false', List.contains_iff_mem] at allowed
  split at rest
  · obtain ⟨payload, read, rest⟩ := bind_ok rest
    cases rest
    obtain ⟨complete, unprivileged⟩ := parseOwnedPayload_ok read (localId_ok named).2
    exact .putOwned allowed (localId_ok named).2 complete unprivileged
  · cases rest

theorem parsePutOverride_ok {item : Record} {expected : Option Int} {mutation : ProjectDefinitionMutation}
    (parsed : parsePutOverride item expected = .ok mutation) (document : accepts jsonValue (.object item) = true) :
    MutationFits mutation := by
  obtain ⟨source, sourced, rest⟩ := bind_ok parsed
  obtain ⟨operation, -, rest⟩ := bind_ok rest
  obtain ⟨_, -, rest⟩ := bind_ok rest
  obtain ⟨_, allowed, rest⟩ := bind_ok rest
  have fits := parseExactSource_ok sourced
  have allowed := reject_ok allowed
  rw [Bool.or_eq_false_iff, Bool.not_eq_false', List.contains_iff_mem] at allowed
  obtain ⟨overridable, disableable⟩ := allowed
  split at rest
  · next disabled =>
    cases rest
    subst disabled
    simp only [decide_true, Bool.true_and, Bool.not_eq_false', List.contains_iff_mem] at disableable
    exact .putOverride fits overridable (.disable disableable)
  · next kept =>
    obtain ⟨payload, read, rest⟩ := bind_ok rest
    cases rest
    refine .putOverride fits overridable (parseOverridePayload_ok read fits kept fun object same => ?_)
    refine json_defined ?_
    rw [← same]
    exact @json_get (.object item) _ document (by rw [show (Value.object item).get "payload" = _ from same]; nofun)

theorem parseDefinitionMutation_cases {value : Value} {mutation : ProjectDefinitionMutation}
    (parsed : parseDefinitionMutation value = .ok mutation) : ∃ item, value = .object item ∧
      ((∃ expected, parsePutOwned item expected = .ok mutation) ∨ (∃ kind id, mutation = .removeOwned kind id) ∨
        (∃ expected, parsePutOverride item expected = .ok mutation) ∨ ∃ source, mutation = .removeOverride source) := by
  obtain ⟨item, object, rest⟩ := bind_ok parsed
  obtain rfl := record_ok object
  obtain ⟨expected, -, rest⟩ := bind_ok rest
  refine ⟨item, rfl, ?_⟩
  split at rest
  · exact .inl ⟨expected, rest⟩
  · obtain ⟨_, -, rest⟩ := bind_ok rest
    obtain ⟨kind, -, rest⟩ := bind_ok rest
    obtain ⟨id, -, rest⟩ := bind_ok rest
    cases rest
    exact .inr (.inl ⟨kind, id, rfl⟩)
  · exact .inr (.inr (.inl ⟨expected, rest⟩))
  · obtain ⟨_, -, rest⟩ := bind_ok rest
    obtain ⟨source, -, rest⟩ := bind_ok rest
    cases rest
    exact .inr (.inr (.inr ⟨source, rfl⟩))
  · cases rest

theorem parseDefinitionMutation_ok {value : Value} {mutation : ProjectDefinitionMutation}
    (parsed : parseDefinitionMutation value = .ok mutation) (document : accepts jsonValue value = true) :
    MutationFits mutation := by
  obtain ⟨item, rfl, ⟨_, owned⟩ | ⟨kind, id, rfl⟩ | ⟨_, override⟩ | ⟨source, rfl⟩⟩ := parseDefinitionMutation_cases parsed
  · exact parsePutOwned_ok owned
  · exact .removeOwned kind id
  · exact parsePutOverride_ok override document
  · exact .removeOverride source

end AiOffice.Application.DomainPack
