import AiOffice.Application.DomainPack.ManageProjectDefinitions.Exportable
import AiOffice.Transition.Run

namespace AiOffice.Application.DomainPack

open Data Outcome Domain Domain.Schema DomainPackContracts Transition
open Application.ProjectPortability Application.OfficeManifestSchema

/-- A mutation of a project, with the packs that are installed and the time when it is applied. -/
structure Request where
  installed : InstalledPacks
  now : Date
  input : ApplyInput

/-- A mutation that is the document of some JSON text, by an actor of 1 to 256 code units, is applied. -/
structure Accepted (current : ProjectDefinitionState) (request : Request) (after : ProjectDefinitionState) : Prop where
  document : accepts jsonValue request.input.mutation = true
  actor : 1 ≤ utf16Length request.input.actorId ∧ utf16Length request.input.actorId ≤ 256
  applied : apply request.installed request.now current request.input = .ok after

def Writable (current : ProjectDefinitionState) (actorId : String) : ProjectDefinitionMutation → Prop
  | .putOwned kind ownedId _ _ _ =>
    Trimmed actorId ∧ ((current.findOwned kind ownedId).isSome = true ∨ current.owned.length < 100000)
  | .putOverride source _ _ _ =>
    Trimmed actorId ∧ ((current.findOverride source).isSome = true ∨ current.overrides.length < 100000)
  | .removeOwned _ _ | .removeOverride _ => True

structure Archivable (current : ProjectDefinitionState) (request : Request) : Prop where
  revision : current.revision < maxSafeInteger
  entry : ∀ mutation, parseDefinitionMutation request.input.mutation = .ok mutation →
    Writable current request.input.actorId mutation

def Step (current : ProjectDefinitionState) (request : Request) (after : ProjectDefinitionState) : Prop :=
  Accepted current request after ∧ Archivable current request

variable {current after state : ProjectDefinitionState} {request : Request} {mutation : ProjectDefinitionMutation}
  {actorId changedAt projectId : String} {revision next : Int} {requests : List Request}

theorem require_ok {condition : Bool} {thrown : ApplyError} {done : Unit} (passed : require condition thrown = .ok done) :
    condition = true := by
  cases condition with
  | true => rfl
  | false => cases passed

theorem apply_ok {installed : InstalledPacks} {now : Date} {input : ApplyInput}
    (applied : apply installed now current input = .ok after) :
    ∃ mutation, parseDefinitionMutation input.mutation = .ok mutation ∧ IsoDate.validTime now = true ∧
      after = ⟨current.projectId, current.revision + 1,
        sortOn ownedOrder (changed current input.actorId (IsoDate.toISOString now) mutation).1,
        sortOn (fun item => sourceOrder item.source) (changed current input.actorId (IsoDate.toISOString now) mutation).2⟩ := by
  obtain ⟨_, -, rest⟩ := bind_ok applied
  obtain ⟨mutation, parsed, rest⟩ := bind_ok rest
  obtain ⟨_, -, rest⟩ := bind_ok rest
  obtain ⟨_, same, rest⟩ := bind_ok rest
  obtain ⟨_, -, rest⟩ := bind_ok rest
  obtain ⟨_, -, rest⟩ := bind_ok rest
  obtain ⟨_, valid, rest⟩ := bind_ok rest
  have same := decide_eq_true_eq.mp (require_ok same)
  cases rest
  rw [parse] at parsed
  refine ⟨mutation, ?_, require_ok valid, by rw [same]⟩
  cases outcome : parseDefinitionMutation input.mutation with
  | ok read =>
    rw [outcome] at parsed
    exact congrArg Except.ok (Except.ok.inj parsed)
  | error thrown =>
    rw [outcome] at parsed
    cases parsed

theorem OwnedFits.mono {item : ProjectOwnedDefinition} (fits : OwnedFits revision item) (later : revision ≤ next) :
    OwnedFits next item :=
  { fits with known := fits.known.trans later }

theorem OverrideFits.mono {item : ProjectDefinitionOverride} (fits : OverrideFits revision item)
    (later : revision ≤ next) : OverrideFits next item :=
  { fits with known := fits.known.trans later }

section Replacement

variable {Item Key : Type} {items : List Item} {item : Item} {key : Item → Key} {selected : Item → Bool}

theorem replaced_keys (unique : (items.map key).Nodup)
    (other : ∀ row ∈ items, selected row = true → key row ≠ key item) :
    ((items.filter selected ++ [item]).map key).Nodup := by
  rw [List.map_append, List.map_singleton]
  refine List.Nodup.append (unique.sublist (List.filter_sublist.map key)) (List.nodup_singleton _) ?_
  intro found member repeated
  rw [List.mem_singleton] at repeated
  obtain ⟨row, kept, same⟩ := List.mem_map.mp member
  obtain ⟨stored, holds⟩ := List.mem_filter.mp kept
  exact other row stored holds (same.trans repeated)

theorem replaced_length {most : Nat} (bounded : items.length ≤ most)
    (room : (∃ row ∈ items, selected row = false) ∨ items.length < most) :
    (items.filter selected ++ [item]).length ≤ most := by
  rw [List.length_append, List.length_singleton]
  rcases room with ⟨row, stored, dropped⟩ | room
  · have fewer : (items.filter selected).length < items.length :=
      List.length_filter_lt_length_iff_exists.mpr ⟨row, stored, by simp [dropped]⟩
    omega
  · have fewer := List.length_filter_le selected items
    omega

theorem replaced_each {holds : Item → Prop} (each : ∀ row ∈ items, holds row) (new : holds item) :
    ∀ row ∈ items.filter selected ++ [item], holds row := by
  intro row member
  rcases List.mem_append.mp member with kept | last
  · exact each row (List.mem_filter.mp kept).1
  · rw [List.mem_singleton.mp last]
    exact new

end Replacement

structure PortableParts (revision : Int) (ownedItems : List ProjectOwnedDefinition)
    (overrideItems : List ProjectDefinitionOverride) : Prop where
  owned : ∀ item ∈ ownedItems, OwnedFits revision item
  overrides : ∀ item ∈ overrideItems, OverrideFits revision item
  ownedKeys : (ownedItems.map ownedKeyOf).Nodup
  overrideKeys : (overrideItems.map overrideKeyOf).Nodup
  ownedBounded : ownedItems.length ≤ 100000
  overridesBounded : overrideItems.length ≤ 100000

theorem PortableParts.sorted {owned : List ProjectOwnedDefinition} {overrides : List ProjectDefinitionOverride}
    (parts : PortableParts revision owned overrides) (nonnegative : 0 ≤ revision) (safe : revision ≤ maxSafeInteger) :
    Portable ⟨projectId, revision, sortOn ownedOrder owned, sortOn (fun item => sourceOrder item.source) overrides⟩ where
  nonnegative := nonnegative
  safe := safe
  owned item member := parts.owned item (mem_sortOn.mp member)
  overrides item member := parts.overrides item (mem_sortOn.mp member)
  ownedKeys := ((sortOn_perm ownedOrder owned).map ownedKeyOf).nodup_iff.mpr parts.ownedKeys
  overrideKeys := ((sortOn_perm _ overrides).map overrideKeyOf).nodup_iff.mpr parts.overrideKeys
  ownedBounded := (sortOn_perm ownedOrder owned).length_eq.trans_le parts.ownedBounded
  overridesBounded := (sortOn_perm _ overrides).length_eq.trans_le parts.overridesBounded

theorem Portable.parts (portable : Portable current) (later : current.revision ≤ next) :
    PortableParts next current.owned current.overrides where
  owned item member := (portable.owned item member).mono later
  overrides item member := (portable.overrides item member).mono later
  ownedKeys := portable.ownedKeys
  overrideKeys := portable.overrideKeys
  ownedBounded := portable.ownedBounded
  overridesBounded := portable.overridesBounded

theorem PortableParts.filterOwned {owned : List ProjectOwnedDefinition} {overrides : List ProjectDefinitionOverride}
    (parts : PortableParts revision owned overrides) (selected : ProjectOwnedDefinition → Bool) :
    PortableParts revision (owned.filter selected) overrides :=
  { parts with
    owned := fun item member => parts.owned item (List.mem_filter.mp member).1
    ownedKeys := parts.ownedKeys.sublist (List.filter_sublist.map _)
    ownedBounded := (List.length_filter_le _ _).trans parts.ownedBounded }

theorem PortableParts.filterOverrides {owned : List ProjectOwnedDefinition}
    {overrides : List ProjectDefinitionOverride} (parts : PortableParts revision owned overrides)
    (selected : ProjectDefinitionOverride → Bool) : PortableParts revision owned (overrides.filter selected) :=
  { parts with
    overrides := fun item member => parts.overrides item (List.mem_filter.mp member).1
    overrideKeys := parts.overrideKeys.sublist (List.filter_sublist.map _)
    overridesBounded := (List.length_filter_le _ _).trans parts.overridesBounded }

theorem nextRevision {found : Option Int} (known : ∀ entry ∈ found, 1 ≤ entry ∧ entry ≤ revision)
    (nonnegative : 0 ≤ revision) : 1 ≤ found.getD 0 + 1 ∧ found.getD 0 + 1 ≤ revision + 1 := by
  cases found with
  | none => simpa using nonnegative
  | some entry =>
    have bounds := known entry rfl
    rw [Option.getD_some]
    omega

theorem Portable.affected (portable : Portable current) (mutation : ProjectDefinitionMutation) :
    ∀ entry ∈ affectedRevision current mutation, 1 ≤ entry ∧ entry ≤ current.revision := by
  have owned (kind : ContributionKind) (id : String) :
      ∀ entry ∈ (current.findOwned kind id).map (·.revision), 1 ≤ entry ∧ entry ≤ current.revision := by
    intro entry found
    obtain ⟨item, lookup, rfl⟩ := Option.map_eq_some_iff.mp found
    have fits := portable.owned item (List.mem_of_find?_eq_some lookup)
    exact ⟨fits.positive, fits.known⟩
  have overridden (source : ExactPackDefinitionSource) :
      ∀ entry ∈ (current.findOverride source).map (·.revision), 1 ≤ entry ∧ entry ≤ current.revision := by
    intro entry found
    obtain ⟨item, lookup, rfl⟩ := Option.map_eq_some_iff.mp found
    have fits := portable.overrides item (List.mem_of_find?_eq_some lookup)
    exact ⟨fits.positive, fits.known⟩
  cases mutation with
  | putOwned kind id | removeOwned kind id => exact owned kind id
  | putOverride source | removeOverride source => exact overridden source

/-- A mutation that fits the archive keeps the parts of a portable state. -/
theorem Portable.changed (portable : Portable current) (fits : MutationFits mutation)
    (actor : 1 ≤ utf16Length actorId ∧ utf16Length actorId ≤ 256) (writable : Writable current actorId mutation)
    (stamped : IsoDate.isTimestamp changedAt = true) :
    PortableParts (current.revision + 1) (DomainPack.changed current actorId changedAt mutation).1
      (DomainPack.changed current actorId changedAt mutation).2 := by
  have parts := portable.parts (Int.le_add_one le_rfl)
  obtain ⟨positive, known⟩ := nextRevision (portable.affected mutation) portable.nonnegative
  cases fits with
  | @putOwned kind id payload enabled expected owned named complete unprivileged =>
    obtain ⟨trimmed, room⟩ := writable
    have room : (∃ item ∈ current.owned, decide (item.kind ≠ kind ∨ item.id ≠ id) = false) ∨
        current.owned.length < 100000 := by
      refine room.imp_left fun found => ?_
      obtain ⟨item, lookup⟩ := Option.isSome_iff_exists.mp found
      have same := List.find?_some lookup
      refine ⟨item, List.mem_of_find?_eq_some lookup, ?_⟩
      simpa using same
    exact { parts with
      owned := replaced_each parts.owned
        ⟨owned, named, positive, known, complete, unprivileged, ⟨trimmed, actor.1, actor.2⟩, stamped⟩
      ownedKeys := replaced_keys parts.ownedKeys fun item _ other same => by
        have other := decide_eq_true_eq.mp other
        obtain ⟨sameKind, sameId⟩ := Prod.mk.inj same
        exact other.elim (fun differs => differs sameKind) fun differs => differs sameId
      ownedBounded := replaced_length parts.ownedBounded room }
  | removeOwned kind id => exact parts.filterOwned _
  | @putOverride source operation payload expected sourced overridable operated =>
    obtain ⟨trimmed, room⟩ := writable
    have room : (∃ item ∈ current.overrides, decide (sourceKey item.source ≠ sourceKey source) = false) ∨
        current.overrides.length < 100000 := by
      refine room.imp_left fun found => ?_
      obtain ⟨item, lookup⟩ := Option.isSome_iff_exists.mp found
      have same := List.find?_some lookup
      refine ⟨item, List.mem_of_find?_eq_some lookup, ?_⟩
      simpa using same
    exact { parts with
      overrides := replaced_each parts.overrides
        ⟨sourced, overridable, positive, known, operated, ⟨trimmed, actor.1, actor.2⟩, stamped⟩
      overrideKeys := replaced_keys parts.overrideKeys fun item _ other same => (decide_eq_true_eq.mp other) same
      overridesBounded := replaced_length parts.overridesBounded room }
  | removeOverride source => exact parts.filterOverrides _

theorem Step.portable (portable : Portable current) (step : Step current request after) : Portable after := by
  obtain ⟨⟨document, actor, applied⟩, archivable⟩ := step
  obtain ⟨mutation, parsed, valid, rfl⟩ := apply_ok applied
  have fits := parseDefinitionMutation_ok parsed document
  have parts := portable.changed fits actor (archivable.entry mutation parsed) (IsoDate.isTimestamp_toISOString valid)
  have nonnegative := portable.nonnegative
  have safe := archivable.revision
  exact parts.sorted (by omega) (by omega)

theorem noDefinitions_portable (projectId : String) : Portable (noDefinitions projectId) where
  nonnegative := le_rfl
  safe := show (0 : Int) ≤ maxSafeInteger by decide
  owned _ member := absurd member List.not_mem_nil
  overrides _ member := absurd member List.not_mem_nil
  ownedKeys := List.nodup_nil
  overrideKeys := List.nodup_nil
  ownedBounded := Nat.zero_le _
  overridesBounded := Nat.zero_le _

/-- A prompt id of eighteen letters, another one for every index of 17 bits. -/
def promptId (index : Nat) : String :=
  String.ofList ('p' :: (List.range 17).map fun bit => if index.testBit bit then 'b' else 'a')

def promptMutation (promptId : String) : Value :=
  .object [("action", .string "put_owned"), ("kind", .string "prompts"), ("id", .string promptId),
    ("enabled", .boolean true), ("payload", .object [("id", .string promptId)])]

def promptRequest (index : Nat) : Request :=
  ⟨⟨[], fun _ _ => [], fun _ _ _ => []⟩, 0, ⟨promptMutation (promptId index), index, "actor"⟩⟩

def promptPut (promptId : String) : ProjectDefinitionMutation :=
  .putOwned .prompts promptId (describing (some promptId) none none) true none

theorem promptId_injective {index other : Nat} (small : index < 100001) (also : other < 100001)
    (same : promptId index = promptId other) : index = other := by
  have letters := List.map_inj_left.mp (List.cons.inj (String.ofList_injective same)).2
  refine Nat.eq_of_testBit_eq fun bit => ?_
  rcases Nat.lt_or_ge bit 17 with low | high
  · have letter := letters bit (List.mem_range.mpr low)
    cases first : index.testBit bit <;> cases second : other.testBit bit <;> simp_all
  · have large : 2 ^ 17 ≤ 2 ^ bit := Nat.pow_le_pow_right (by decide) high
    rw [Nat.testBit_lt_two_pow (by omega), Nat.testBit_lt_two_pow (by omega)]

theorem promptId_pattern (index : Nat) : localIdPattern (promptId index) = true := by
  have letters : ∀ char ∈ (promptId index).toList, char.isAlphanum = true := by
    intro char member
    rw [promptId, String.toList_ofList] at member
    rcases List.mem_cons.mp member with rfl | member
    · decide
    · obtain ⟨bit, -, rfl⟩ := List.mem_map.mp member
      split <;> decide
  rw [localIdPattern, Bool.and_eq_true, List.all_eq_true]
  refine ⟨?_, fun char member => by rw [letters char member, Bool.true_or]⟩
  rw [promptId, String.toList_ofList]
  rfl

theorem promptMutation_parsed {named : String} (pattern : localIdPattern named = true) :
    parseDefinitionMutation (promptMutation named) = .ok (promptPut named) := by
  have kind : parseDefinitionKind (.string "prompts") = .ok .prompts := by decide
  have keys : joined ["action", "kind", "id", "enabled", "payload"] =
      joined ["action", "kind", "id", "payload", "enabled"] := by decide
  have located : localId (.string named) = .ok named := if_pos pattern
  have payload : parseOwnedPayload .prompts named (.object [("id", .string named)]) =
      .ok (describing (some named) none none) := by
    simp [parseOwnedPayload, parseDefinitionPayload, record, keysOf, textValue, Record.get, reject, parseGiven,
      parseKindField, descriptiveFieldOfKind, Value.isUndefined, bind, Except.bind, Except.map, List.lookup_cons]
    rfl
  simp [parseDefinitionMutation, promptMutation, promptPut, record, parseExpectedRevision, parsePutOwned, exactKeys, keysOf,
    Record.get, List.lookup_cons, kind, keys, expectedKey, reject, located, payload, projectOwnedKinds, descriptiveKinds, bind,
    Except.bind, pure, Except.pure]

/-- A state with this many prompts, each with the id of an earlier index. -/
structure Filled (count : Nat) (state : ProjectDefinitionState) : Prop where
  revision : state.revision = count
  length : state.owned.length = count
  earlier : ∀ item ∈ state.owned, ∃ index < count, item.id = promptId index

theorem Filled.unused {count : Nat} (filled : Filled count state) (small : count < 100001) :
    ∀ item ∈ state.owned, item.id ≠ promptId count := by
  intro item member same
  obtain ⟨index, before, named⟩ := filled.earlier item member
  have equal := promptId_injective (by omega) small (named.symm.trans same)
  omega

/-- Another prompt is accepted and kept. -/
theorem Filled.accepted {count : Nat} (filled : Filled count state) (small : count < 100001) :
    ∃ after, Accepted state (promptRequest count) after ∧ Filled (count + 1) after := by
  have parsed := promptMutation_parsed (promptId_pattern count)
  have unused := filled.unused small
  have absent : state.findOwned .prompts (promptId count) = none := by
    refine List.find?_eq_none.mpr fun item member same => ?_
    exact unused item member (decide_eq_true_eq.mp same).2
  have all : state.owned.filter (fun item => decide (item.kind ≠ .prompts ∨ item.id ≠ promptId count)) = state.owned :=
    List.filter_eq_self.mpr fun item member => decide_eq_true (.inr (unused item member))
  let entry : ProjectOwnedDefinition :=
    ⟨.prompts, promptId count, 1, true, describing (some (promptId count)) none none, "actor", IsoDate.toISOString 0⟩
  refine ⟨⟨state.projectId, count + 1, sortOn ownedOrder (state.owned ++ [entry]),
    sortOn (fun item => sourceOrder item.source) state.overrides⟩, ⟨?_, ?_, ?_⟩, ?_⟩
  · simp [accepts, promptRequest, promptMutation, jsonValue, jsonEntries]
  · exact ⟨show 1 ≤ utf16Length "actor" by decide, show utf16Length "actor" ≤ 256 by decide⟩
  · have time : IsoDate.validTime 0 = true := by decide
    have safe : isSafeInteger count = true := by
      have bound : (100001 : Int) ≤ maxSafeInteger := by decide
      rw [isSafeInteger, Bool.and_eq_true, decide_eq_true_eq, decide_eq_true_eq]
      omega
    have reparsed : parseDefinitionMutation (mutationValue (promptPut (promptId count))) =
        .ok (promptPut (promptId count)) := parsed
    have issues (checked : Bool) :
        previewParsed ⟨[], fun _ _ => [], fun _ _ _ => []⟩ state checked (promptPut (promptId count)) = [] := by
      simp [promptPut, previewParsed, affectedRevision, absent, entryIssues]
    have entries : changed state "actor" (IsoDate.toISOString 0) (promptPut (promptId count)) =
        (state.owned ++ [entry], state.overrides) := by
      simp only [changed, promptPut, affectedRevision, absent, all, Option.map_none, Option.getD_none]
      rfl
    simp [apply, promptRequest, parse, parsed, reparsed, Except.mapError, issues, refuse, require, time, safe,
      filled.revision, entries, bind, Except.bind, pure, Except.pure]
  · refine ⟨by simp, ?_, ?_⟩
    · rw [(sortOn_perm _ _).length_eq, List.length_append, filled.length, List.length_singleton]
    · intro item member
      rcases List.mem_append.mp (mem_sortOn.mp member) with stored | last
      · obtain ⟨index, before, named⟩ := filled.earlier item stored
        exact ⟨index, by omega, named⟩
      · rw [List.mem_singleton] at last
        exact ⟨count, by omega, last ▸ rfl⟩

theorem Filled.start (projectId : String) : Filled 0 (noDefinitions projectId) :=
  ⟨rfl, rfl, fun _ member => absurd member List.not_mem_nil⟩

theorem Filled.run {count : Nat} (small : count ≤ 100001) :
    ∃ state, Run Accepted (noDefinitions projectId) ((List.range count).map promptRequest) state ∧ Filled count state := by
  induction count with
  | zero => exact ⟨_, .nil, .start projectId⟩
  | succ count ih =>
    obtain ⟨state, run, filled⟩ := ih (by omega)
    obtain ⟨after, accepted, next⟩ := filled.accepted (by omega)
    rw [List.range_succ, List.map_append, List.map_singleton]
    exact ⟨after, run.snoc accepted, next⟩

theorem portable_bounded {output : Value} (read : portableDefinitionState (definitionsValue state) = some output) :
    state.owned.length ≤ 100000 := by
  have shape := (superRefine_iff.mp read).1
  have owned : boundedArray portableOwned 0 100000 (.array (state.owned.map ownedValue)) = _ :=
    object_required (by decide) shape (.tail _ (.head _))
  simpa using boundedArray_length owned

/-- A prompt is accepted after 100,000 others, and then the archive rejects the definitions. -/
theorem overfull_unexportable : ∃ state,
    Run Accepted (noDefinitions "project") ((List.range 100001).map promptRequest) state ∧
      portableDefinitionState (definitionsValue state) = none := by
  obtain ⟨state, run, filled⟩ : ∃ state, Run Accepted (noDefinitions "project")
    ((List.range 100001).map promptRequest) state ∧ Filled 100001 state := Filled.run le_rfl
  refine ⟨state, run, Option.eq_none_iff_forall_not_mem.mpr fun output read => ?_⟩
  have bounded := portable_bounded read
  rw [filled.length] at bounded
  omega

/-- The archive accepts the definitions of every run of mutations whose results it can hold, unchanged. -/
theorem definitions_exportable (run : Run Step (noDefinitions projectId) requests state) :
    portableDefinitionState (definitionsValue state) = some (definitionsValue state) :=
  definitions_kept (run.invariant Portable (noDefinitions_portable projectId) fun _ _ _ portable step =>
    step.portable portable)

/-- The first prompt, with its definitions in the archive. -/
theorem definitions_exportable_prompt : ∃ state, Run Step (noDefinitions "project") [promptRequest 0] state ∧
    portableDefinitionState (definitionsValue state) = some (definitionsValue state) := by
  obtain ⟨state, accepted, -⟩ := (Filled.start "project").accepted (by decide)
  have archivable : Archivable (noDefinitions "project") (promptRequest 0) := by
    refine ⟨show (0 : Int) < maxSafeInteger by decide, fun mutation parsed => ?_⟩
    obtain rfl : promptPut (promptId 0) = mutation :=
      Except.ok.inj ((promptMutation_parsed (promptId_pattern 0)).symm.trans parsed)
    exact ⟨show trim "actor" = "actor" by decide, .inr (by decide)⟩
  have run : Run Step (noDefinitions "project") [promptRequest 0] state := Run.nil.snoc ⟨accepted, archivable⟩
  exact ⟨state, run, definitions_exportable run⟩

end AiOffice.Application.DomainPack
