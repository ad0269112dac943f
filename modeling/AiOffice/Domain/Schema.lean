import AiOffice.Domain.CanonicalJson

namespace AiOffice.Domain

def Value.get (value : Value) (key : String) : Value :=
  match value with
  | .object record => Record.get record key
  | _ => .undefined

def Value.items (value : Value) : List Value :=
  match value with
  | .array items => items
  | _ => []

def Value.text (value : Value) : String :=
  match value with
  | .string text => text
  | _ => ""

def present (entries : List (String × Option Value)) : Record :=
  entries.filterMap fun entry => entry.2.map fun value => (entry.1, value)

def Value.isUndefined : Value → Bool
  | .undefined => true
  | _ => false

def Value.isNumber (expected : Rat) : Value → Bool
  | .number value => value = expected
  | _ => false

def Value.entries : Value → Record
  | .object record => record
  | _ => []

/-- Whether an object has a key, which may hold `undefined`. -/
def Value.has (value : Value) (key : String) : Bool := (value.entries.lookup key).isSome

@[simp] theorem Value.entries_object (record : Record) : (Value.object record).entries = record := rfl

theorem Value.isUndefined_iff {value : Value} : value.isUndefined = true ↔ value = .undefined := by
  cases value <;> simp [Value.isUndefined]

theorem Value.get_entries (value : Value) (key : String) :
    value.get key = (value.entries.lookup key).getD .undefined := by
  cases value <;> rfl

/-- What a schema makes of a value: its output, or nothing when it has an issue. -/
abbrev Schema := Value → Option Value

namespace Schema

def text (accepts : String → Bool) : Schema
  | .string value => if accepts value then some (.string value) else none
  | _ => none

def trimmed (accepts : String → Bool) : Schema
  | .string value => if accepts (trim value) then some (.string (trim value)) else none
  | _ => none

def number (accepts : Rat → Bool) : Schema
  | .number value => if accepts value then some (.number value) else none
  | _ => none

def boolean : Schema
  | .boolean value => some (.boolean value)
  | _ => none

def oneOf (texts : List String) : Schema := text fun value => texts.contains value

def array (item : Schema) (accepts : Nat → Bool) : Schema
  | .array items => (items.mapM item).bind fun parsed =>
    if accepts parsed.length then some (.array parsed) else none
  | _ => none

def union (options : List Schema) : Schema := fun value => options.findSome? fun option => option value

def refine (schema : Schema) (accepts : Value → Bool) : Schema :=
  fun value => (schema value).bind fun parsed => if accepts parsed then some parsed else none

structure Field where
  key : String
  schema : Schema
  isOptional : Bool

def required (key : String) (schema : Schema) : Field := ⟨key, schema, false⟩

def optional (key : String) (schema : Schema) : Field := ⟨key, schema, true⟩

def Field.read (field : Field) (record : Record) : Option Record :=
  match record.lookup field.key with
  | none => if field.isOptional then some [] else none
  | some .undefined => if field.isOptional then some [(field.key, .undefined)] else none
  | some present => (field.schema present).map fun parsed => [(field.key, parsed)]

def known (fields : List Field) (record : Record) : Bool :=
  record.all fun entry => (fields.map Field.key).contains entry.1

/-- An object with these keys and no others. Its output lists them in the order of the fields. -/
def object (fields : List Field) : Schema
  | .object record =>
    if known fields record then
      (fields.mapM fun field : Field => field.read record).map fun parts => .object parts.flatten
    else none
  | _ => none

mutual

/-- Any JSON. A key `__proto__` is dropped; the other keys have no order and are listed by their code units. -/
def jsonValue : Schema
  | .null => some .null
  | .boolean value => some (.boolean value)
  | .number value => some (.number value)
  | .string value => some (.string value)
  | .array items => (jsonItems items).map .array
  | .object entries => (jsonEntries entries).map fun parsed => .object (Data.sortOn (codeUnits ·.1) parsed)
  | .undefined | .notFinite | .unsupported _ => none

def jsonItems : List Value → Option (List Value)
  | [] => some []
  | item :: items => do
    let first ← jsonValue item
    let rest ← jsonItems items
    return first :: rest

def jsonEntries : List (String × Value) → Option (List (String × Value))
  | [] => some []
  | entry :: entries => do
    let first ← jsonValue entry.2
    let rest ← jsonEntries entries
    return if entry.1 = "__proto__" then rest else (entry.1, first) :: rest

end

def accepts (schema : Schema) (value : Value) : Bool := (schema value).isSome

variable {value output : Value} {schema narrow wide : Schema} {field : Field} {fields : List Field}
  {record part : Record} {key : String}

theorem accepts_iff : accepts schema value = true ↔ ∃ output, schema value = some output := Option.isSome_iff_exists

theorem refine_iff {check : Value → Bool} :
    refine schema check value = some output ↔ schema value = some output ∧ check output = true := by
  rw [refine, Option.bind_eq_some_iff]
  constructor
  · rintro ⟨parsed, read, passed⟩
    split at passed
    · next holds => exact Option.some.inj passed ▸ ⟨read, holds⟩
    · cases passed
  · rintro ⟨read, holds⟩
    exact ⟨output, read, if_pos holds⟩

def Narrows (narrow wide : Schema) : Prop := ∀ value output, narrow value = some output → wide value = some output

theorem Narrows.accepts (narrows : Narrows narrow wide) (accepted : accepts narrow value = true) :
    Schema.accepts wide value = true := by
  obtain ⟨output, read⟩ := accepts_iff.mp accepted
  exact accepts_iff.mpr ⟨output, narrows value output read⟩

theorem object_iff : object fields (.object record) = some output ↔
    known fields record = true ∧ ∃ parts : List Record,
      (fields.mapM fun field : Field => field.read record) = some parts ∧ output = .object parts.flatten := by
  change (if known fields record then _ else none) = some output ↔ _
  by_cases allKnown : known fields record = true
  · rw [if_pos allKnown, Option.map_eq_some_iff]
    simp only [allKnown, true_and, eq_comm]
  · simp [allKnown]

def SameRead (record : Record) (field other : Field) : Prop :=
  field.key = other.key ∧ field.read record = other.read record

theorem object_congr {others : List Field} (same : List.Forall₂ (SameRead record) fields others) :
    object fields (.object record) = object others (.object record) := by
  have keys : fields.map Field.key = others.map Field.key := by
    induction same with
    | nil => rfl
    | cons first _ ih => rw [List.map_cons, List.map_cons, first.1, ih]
  have reads : (fields.mapM fun field : Field => field.read record) = others.mapM fun field : Field => field.read record := by
    clear keys
    induction same with
    | nil => rfl
    | cons first _ ih => rw [List.mapM_cons, List.mapM_cons, first.2, ih]
  change (if known fields record then _ else none) = if known others record then _ else none
  rw [known, known, keys, reads]

theorem sameRead_refl (record : Record) (fields : List Field) : List.Forall₂ (SameRead record) fields fields :=
  List.forall₂_same.mpr fun _ _ => ⟨rfl, rfl⟩

theorem sameRead_required {first second : Schema} (same : first (Record.get record key) = second (Record.get record key)) :
    SameRead record (required key first) (required key second) := by
  refine ⟨rfl, ?_⟩
  simp only [Field.read, required]
  split
  · rfl
  · rfl
  · next found =>
    rw [Record.get, found, Option.getD_some] at same
    rw [same]

theorem sameRead_present {isOptional also : Bool} (present : Record.get record key ≠ .undefined) :
    SameRead record ⟨key, schema, isOptional⟩ ⟨key, schema, also⟩ := by
  refine ⟨rfl, ?_⟩
  simp only [Field.read]
  split
  · next absent => exact absurd (by rw [Record.get, absent]; rfl) present
  · next absent => exact absurd (by rw [Record.get, absent]; rfl) present
  · rfl

theorem Field.read_keys (read : field.read record = some part) (other : key ≠ field.key) : part.lookup key = none := by
  unfold Field.read at read
  split at read
  · split at read
    · cases read
      rfl
    · cases read
  · split at read
    · cases read
      simp [List.lookup_cons, beq_eq_false_iff_ne.mpr other]
    · cases read
  · obtain ⟨parsed, -, rfl⟩ := Option.map_eq_some_iff.mp read
    simp [List.lookup_cons, beq_eq_false_iff_ne.mpr other]

theorem Field.read_lookup (read : field.read record = some part) :
    (record.lookup field.key = none ∧ field.isOptional = true ∧ part.lookup field.key = none) ∨
      (record.lookup field.key = some .undefined ∧ field.isOptional = true ∧
        part.lookup field.key = some .undefined) ∨
      ∃ present parsed, record.lookup field.key = some present ∧ present ≠ .undefined ∧
        field.schema present = some parsed ∧ part.lookup field.key = some parsed := by
  unfold Field.read at read
  split at read
  · next absent =>
    split at read
    · next allowed =>
      cases read
      exact .inl ⟨absent, allowed, rfl⟩
    · cases read
  · next found =>
    split at read
    · next allowed =>
      cases read
      exact .inr (.inl ⟨found, allowed, by simp⟩)
    · cases read
  · next present defined found =>
    obtain ⟨parsed, accepted, rfl⟩ := Option.map_eq_some_iff.mp read
    exact .inr (.inr ⟨present, parsed, found, fun missing => defined missing, accepted, by simp⟩)

theorem lookup_append {first second : Record} :
    (first ++ second).lookup key = (first.lookup key).or (second.lookup key) := by
  induction first with
  | nil => rfl
  | cons entry first ih =>
    obtain ⟨name, value⟩ := entry
    by_cases same : key = name
    · simp [same]
    · simp [List.lookup_cons, beq_eq_false_iff_ne.mpr same, ih]

theorem parts_absent {parts : List Record} (read : (fields.mapM fun field : Field => field.read record) = some parts)
    (other : key ∉ fields.map Field.key) : parts.flatten.lookup key = none := by
  induction fields generalizing parts with
  | nil =>
    cases read
    rfl
  | cons field fields ih =>
    rw [List.mapM_cons] at read
    obtain ⟨part, first, read⟩ := Option.bind_eq_some_iff.mp read
    obtain ⟨rest, later, same⟩ := Option.bind_eq_some_iff.mp read
    cases same
    rw [List.map_cons, List.mem_cons, not_or] at other
    rw [List.flatten_cons, lookup_append, Field.read_keys first other.1, ih later other.2]
    rfl

theorem parts_lookup {parts : List Record} (unique : (fields.map Field.key).Nodup)
    (read : (fields.mapM fun field : Field => field.read record) = some parts) (member : field ∈ fields) :
    ∃ part, field.read record = some part ∧ parts.flatten.lookup field.key = part.lookup field.key := by
  induction fields generalizing parts with
  | nil => cases member
  | cons first fields ih =>
    rw [List.mapM_cons] at read
    obtain ⟨part, found, read⟩ := Option.bind_eq_some_iff.mp read
    obtain ⟨rest, later, same⟩ := Option.bind_eq_some_iff.mp read
    cases same
    rw [List.map_cons, List.nodup_cons] at unique
    rw [List.flatten_cons, lookup_append]
    rcases List.mem_cons.mp member with rfl | inRest
    · refine ⟨part, found, ?_⟩
      rw [parts_absent later unique.1, Option.or_none]
    · have other : field.key ≠ first.key := fun same => unique.1 (same ▸ List.mem_map_of_mem inRest)
      rw [Field.read_keys found other, Option.none_or]
      exact ih unique.2 later inRest

theorem object_entries (read : object fields value = some output) :
    known fields value.entries = true ∧ ∃ parts : List Record,
      (fields.mapM fun field : Field => field.read value.entries) = some parts ∧ output = .object parts.flatten := by
  cases value with
  | object record => exact object_iff.mp read
  | _ => cases read

theorem object_get (unique : (fields.map Field.key).Nodup) (read : object fields value = some output)
    (member : field ∈ fields) :
    (value.get field.key = .undefined ∧ field.isOptional = true ∧ output.get field.key = .undefined) ∨
      (value.get field.key ≠ .undefined ∧ field.schema (value.get field.key) = some (output.get field.key)) := by
  obtain ⟨-, parts, each, rfl⟩ := object_entries read
  obtain ⟨part, found, same⟩ := parts_lookup unique each member
  rw [Value.get_entries, Value.get_entries, Value.entries_object, same]
  rcases Field.read_lookup found with ⟨absent, allowed, none⟩ | ⟨absent, allowed, none⟩ |
    ⟨present, parsed, lookup, defined, accepted, some⟩
  · exact .inl ⟨by rw [absent]; rfl, allowed, by rw [none]; rfl⟩
  · exact .inl ⟨by rw [absent]; rfl, allowed, by rw [none]; rfl⟩
  · rw [lookup, some]
    exact .inr ⟨defined, accepted⟩

theorem unknown_lookup (allKnown : known fields record = true) (unknown : key ∉ fields.map Field.key) :
    record.lookup key = none := by
  rw [List.lookup_eq_none_iff]
  intro entry member
  rw [known, List.all_eq_true] at allKnown
  have inKeys := allKnown entry member
  rw [List.contains_iff_mem] at inKeys
  simp only [bne_iff_ne, ne_eq]
  rintro rfl
  exact unknown inKeys

theorem object_has (unique : (fields.map Field.key).Nodup) (read : object fields value = some output)
    (key : String) : output.has key = value.has key := by
  obtain ⟨allKnown, parts, each, rfl⟩ := object_entries read
  rw [Value.has, Value.has, Value.entries_object]
  by_cases inFields : key ∈ fields.map Field.key
  · obtain ⟨field, member, rfl⟩ := List.mem_map.mp inFields
    obtain ⟨part, found, same⟩ := parts_lookup unique each member
    rw [same]
    rcases Field.read_lookup found with ⟨absent, -, none⟩ | ⟨absent, -, none⟩ | ⟨_, _, lookup, -, -, some⟩
    · rw [absent, none]
    · rw [absent, none]
    · rw [lookup, some]
      rfl
  · rw [parts_absent each inFields, unknown_lookup allKnown inFields]

theorem object_required {schema : Schema} (unique : (fields.map Field.key).Nodup)
    (read : object fields value = some output) (member : required key schema ∈ fields) :
    schema (value.get key) = some (output.get key) := by
  rcases object_get unique read member with ⟨-, impossible, -⟩ | ⟨-, accepted⟩
  · cases impossible
  · exact accepted

theorem object_optional {schema : Schema} (unique : (fields.map Field.key).Nodup)
    (read : object fields value = some output) (member : optional key schema ∈ fields) :
    (value.get key = .undefined ∧ output.get key = .undefined) ∨ schema (value.get key) = some (output.get key) := by
  rcases object_get unique read member with ⟨absent, -, none⟩ | ⟨-, accepted⟩
  · exact .inl ⟨absent, none⟩
  · exact .inr accepted

theorem object_absent (read : object fields value = some output) (unknown : key ∉ fields.map Field.key) :
    value.get key = .undefined ∧ output.get key = .undefined := by
  obtain ⟨allKnown, parts, each, rfl⟩ := object_entries read
  rw [Value.get_entries, Value.get_entries, Value.entries_object, unknown_lookup allKnown unknown,
    parts_absent each unknown]
  exact ⟨rfl, rfl⟩

theorem mapM_isSome {Item Result : Type} {read : Item → Option Result} {items : List Item} :
    (items.mapM read).isSome = true ↔ ∀ item ∈ items, (read item).isSome = true := by
  induction items with
  | nil => simp
  | cons item items ih =>
    rw [List.mapM_cons, List.forall_mem_cons, ← ih]
    cases read item <;> cases items.mapM read <;> simp

theorem mapM_length {Item Result : Type} {read : Item → Option Result} {items : List Item} {outputs : List Result}
    (parsed : items.mapM read = some outputs) : outputs.length = items.length := by
  induction items generalizing outputs with
  | nil => cases parsed; rfl
  | cons item items ih =>
    rw [List.mapM_cons] at parsed
    obtain ⟨first, -, parsed⟩ := Option.bind_eq_some_iff.mp parsed
    obtain ⟨rest, later, same⟩ := Option.bind_eq_some_iff.mp parsed
    cases same
    rw [List.length_cons, List.length_cons, ih later]

theorem object_order {others : List Field} (unique : (fields.map Field.key).Nodup)
    (uniqueOthers : (others.map Field.key).Nodup) (same : ∀ field, field ∈ fields ↔ field ∈ others)
    (read : object fields value = some output) :
    ∃ again, object others value = some again ∧ ∀ key, again.get key = output.get key := by
  obtain ⟨record, rfl⟩ : ∃ record, value = .object record := by
    cases value with
    | object record => exact ⟨record, rfl⟩
    | _ => cases read
  obtain ⟨allKnown, parts, each, rfl⟩ := object_iff.mp read
  have readable : ((others.mapM fun field : Field => field.read record)).isSome = true := by
    rw [mapM_isSome]
    intro field member
    exact mapM_isSome.mp (by rw [each]; rfl) field ((same field).mpr member)
  obtain ⟨again, eachOther⟩ := Option.isSome_iff_exists.mp readable
  have keys (key : String) : key ∈ fields.map Field.key ↔ key ∈ others.map Field.key := by
    simp only [List.mem_map, same]
  refine ⟨.object again.flatten, object_iff.mpr ⟨?_, again, eachOther, rfl⟩, fun key => ?_⟩
  · rw [known, List.all_eq_true] at allKnown ⊢
    intro entry member
    rw [List.contains_iff_mem, ← keys, ← List.contains_iff_mem]
    exact allKnown entry member
  · rw [Value.get_entries, Value.get_entries, Value.entries_object, Value.entries_object]
    by_cases inFields : key ∈ fields.map Field.key
    · obtain ⟨field, member, rfl⟩ := List.mem_map.mp inFields
      obtain ⟨part, found, first⟩ := parts_lookup unique each member
      obtain ⟨also, foundAlso, second⟩ := parts_lookup uniqueOthers eachOther ((same field).mp member)
      rw [first, second, Option.some.inj (found.symm.trans foundAlso)]
    · rw [parts_absent each inFields, parts_absent eachOther fun other => inFields ((keys key).mpr other)]

def Refines (narrow wide : Schema) (check : Value → Bool) : Prop :=
  ∀ value output, narrow value = some output ↔ wide value = some output ∧ check output = true

theorem Refines.narrows {check : Value → Bool} (refines : Refines narrow wide check) : Narrows narrow wide :=
  fun value output read => ((refines value output).mp read).1

theorem Refines.array {check : Value → Bool} (refines : Refines narrow wide check) (accepts : Nat → Bool) :
    Refines (Schema.array narrow accepts) (Schema.array wide accepts) fun output => output.items.all check := by
  intro value output
  cases value with
  | array items =>
    have each (outputs : List Value) :
        items.mapM narrow = some outputs ↔ items.mapM wide = some outputs ∧ outputs.all check = true := by
      induction items generalizing outputs with
      | nil => cases outputs <;> simp
      | cons item items ih =>
        simp only [List.mapM_cons, Option.bind_eq_bind, Option.bind_eq_some_iff, Option.pure_def,
          Option.some.injEq, refines item, ih]
        constructor
        · rintro ⟨first, ⟨read, passed⟩, rest, ⟨reads, allPassed⟩, rfl⟩
          exact ⟨⟨first, read, rest, reads, rfl⟩, by rw [List.all_cons, passed, allPassed]; rfl⟩
        · rintro ⟨⟨first, read, rest, reads, rfl⟩, allPassed⟩
          rw [List.all_cons, Bool.and_eq_true] at allPassed
          exact ⟨first, ⟨read, allPassed.1⟩, rest, ⟨reads, allPassed.2⟩, rfl⟩
    simp only [Schema.array, Option.bind_eq_some_iff, each]
    constructor
    · rintro ⟨parsed, ⟨reads, passed⟩, kept⟩
      refine ⟨⟨parsed, reads, kept⟩, ?_⟩
      split at kept <;> cases kept
      exact passed
    · rintro ⟨⟨parsed, reads, kept⟩, passed⟩
      refine ⟨parsed, ⟨reads, ?_⟩, kept⟩
      split at kept <;> cases kept
      exact passed
  | _ => simp [Schema.array]

/-- Refining the schema of a required field refines the object. -/
theorem Refines.object {check : Value → Bool} (refines : Refines narrow wide check) (before after : List Field)
    (unique : ((before ++ required key wide :: after).map Field.key).Nodup) :
    Refines (Schema.object (before ++ required key narrow :: after))
      (Schema.object (before ++ required key wide :: after)) fun output => check (output.get key) := by
  have fields (record : Record) (same : narrow (Record.get record key) = wide (Record.get record key)) :
      Schema.object (before ++ required key narrow :: after) (.object record) =
        Schema.object (before ++ required key wide :: after) (.object record) :=
    object_congr (List.rel_append (sameRead_refl record before)
      (.cons (sameRead_required same) (sameRead_refl record after)))
  have keys : (before ++ required key narrow :: after).map Field.key =
      (before ++ required key wide :: after).map Field.key := by
    simp only [List.map_append, List.map_cons]
    rfl
  have member (schema : Schema) : required key schema ∈ before ++ required key schema :: after :=
    List.mem_append_right _ List.mem_cons_self
  intro value output
  constructor
  · intro read
    rcases object_get (keys ▸ unique) read (member narrow) with ⟨-, impossible, -⟩ | ⟨-, accepted⟩
    · cases impossible
    obtain ⟨wider, passed⟩ := (refines _ _).mp accepted
    refine ⟨?_, passed⟩
    cases value with
    | object record => exact (fields record (accepted.trans wider.symm)).symm.trans read
    | _ => cases read
  · rintro ⟨read, passed⟩
    rcases object_get unique read (member wide) with ⟨-, impossible, -⟩ | ⟨-, accepted⟩
    · cases impossible
    have narrower := (refines _ _).mpr ⟨accepted, passed⟩
    cases value with
    | object record => exact (fields record (narrower.trans accepted.symm)).trans read
    | _ => cases read

theorem Refines.refine {check : Value → Bool} (refines : Refines narrow wide check) (also : Value → Bool) :
    Refines (Schema.refine narrow also) (Schema.refine wide also) check := by
  intro value output
  rw [refine_iff, refine_iff, refines value output]
  exact and_right_comm

theorem object_unknown (present : value.get key ≠ .undefined) (unknown : key ∉ fields.map Field.key) :
    object fields value = none := by
  refine Option.eq_none_iff_forall_ne_some.mpr fun output read => present ?_
  obtain ⟨allKnown, -⟩ := object_entries read
  have absent : value.entries.lookup key = none := unknown_lookup allKnown unknown
  rw [Value.get_entries, absent]
  rfl

theorem mapM_any {check : Value → Bool} {items outputs : List Value} (read : items.mapM schema = some outputs)
    (same : ∀ item output, schema item = some output → check item = check output) : items.any check = outputs.any check := by
  induction items generalizing outputs with
  | nil =>
    cases read
    rfl
  | cons item items ih =>
    rw [List.mapM_cons] at read
    obtain ⟨first, parsed, read⟩ := Option.bind_eq_some_iff.mp read
    obtain ⟨rest, later, equal⟩ := Option.bind_eq_some_iff.mp read
    cases equal
    rw [List.any_cons, List.any_cons, same item first parsed, ih later]

theorem array_any {check : Value → Bool} {accepts : Nat → Bool} (read : array schema accepts value = some output)
    (same : ∀ item output, schema item = some output → check item = check output) :
    value.items.any check = output.items.any check := by
  cases value with
  | array items =>
    obtain ⟨parsed, each, kept⟩ := Option.bind_eq_some_iff.mp read
    split at kept <;> cases kept
    exact mapM_any each same
  | _ => cases read

theorem text_same {check : String → Bool} (read : text check value = some output) : output = value := by
  cases value with
  | string value =>
    simp only [text] at read
    split at read <;> cases read
    rfl
  | _ => cases read

theorem union_iff {options : List Schema} (read : union options value = some output) :
    ∃ option ∈ options, option value = some output := List.exists_of_findSome?_eq_some read

theorem union_first {before after : List Schema} (rejected : ∀ option ∈ before, option value = none)
    (accepted : schema value = some output) : union (before ++ schema :: after) value = some output := by
  have none : before.findSome? (fun option => option value) = none := List.findSome?_eq_none_iff.mpr rejected
  rw [union, List.findSome?_append, none, Option.none_or, List.findSome?_cons, accepted]

theorem object_missing {schema : Schema} (absent : value.get key = .undefined)
    (member : required key schema ∈ fields) : object fields value = none := by
  refine Option.eq_none_iff_forall_ne_some.mpr fun output read => ?_
  obtain ⟨-, parts, each, -⟩ := object_entries read
  have readable := mapM_isSome.mp (by rw [each]; rfl) _ member
  rw [Value.get_entries] at absent
  unfold Field.read at readable
  split at readable
  · cases readable
  · cases readable
  · next present defined found =>
    have found : value.entries.lookup key = some present := found
    rw [found, Option.getD_some] at absent
    exact defined absent

/-- A record that has the values of some of the fields, in their order, each as its schema returns it. -/
inductive Fits : List Field → Record → Prop
  | nil : Fits [] []
  | absent {field : Field} {fields : List Field} {record : Record} (allowed : field.isOptional = true)
      (rest : Fits fields record) : Fits (field :: fields) record
  | present {field : Field} {fields : List Field} {record : Record} {value : Value} (defined : value ≠ .undefined)
      (kept : field.schema value = some value) (rest : Fits fields record) :
      Fits (field :: fields) ((field.key, value) :: record)

theorem Fits.known (fits : Fits fields record) : ∀ entry ∈ record, entry.1 ∈ fields.map Field.key := by
  induction fits with
  | nil => simp
  | absent _ _ ih => exact fun entry member => List.mem_cons_of_mem _ (ih entry member)
  | present _ _ _ ih =>
    refine List.forall_mem_cons.mpr ⟨List.mem_cons_self, fun entry member => List.mem_cons_of_mem _ (ih entry member)⟩

theorem lookup_none (other : ∀ entry ∈ record, entry.1 ≠ key) : record.lookup key = none := by
  rw [List.lookup_eq_none_iff]
  intro entry member
  rw [bne_iff_ne]
  exact fun same => other entry member same.symm

theorem Fits.parts (fits : Fits fields record) (unique : (fields.map Field.key).Nodup) (before : Record)
    (others : ∀ entry ∈ before, entry.1 ∉ fields.map Field.key) :
    ∃ parts : List Record, (fields.mapM fun field : Field => field.read (before ++ record)) = some parts ∧
      parts.flatten = record := by
  induction fits generalizing before with
  | nil => exact ⟨[], rfl, rfl⟩
  | @absent field fields record allowed rest ih =>
    rw [List.map_cons, List.nodup_cons] at unique
    obtain ⟨parts, reads, same⟩ := ih unique.2 before fun entry member inRest =>
      others entry member (List.mem_cons_of_mem _ inRest)
    have none : (before ++ record).lookup field.key = none := by
      refine lookup_none fun entry member equal => ?_
      rcases List.mem_append.mp member with old | new
      · exact others entry old (equal ▸ List.mem_cons_self)
      · exact unique.1 (equal ▸ rest.known entry new)
    refine ⟨[] :: parts, ?_, same⟩
    rw [List.mapM_cons, reads, Field.read, none]
    simp only [allowed]
    rfl
  | @present field fields record value defined kept rest ih =>
    rw [List.map_cons, List.nodup_cons] at unique
    have later : ∀ entry ∈ before ++ [(field.key, value)], entry.1 ∉ fields.map Field.key := by
      intro entry member inRest
      rcases List.mem_append.mp member with old | new
      · exact others entry old (List.mem_cons_of_mem _ inRest)
      · obtain rfl := List.mem_singleton.mp new
        exact unique.1 inRest
    obtain ⟨parts, reads, same⟩ := ih unique.2 _ later
    rw [List.append_assoc, List.singleton_append] at reads
    have found : (before ++ (field.key, value) :: record).lookup field.key = some value := by
      rw [lookup_append, lookup_none fun entry member equal => others entry member (equal ▸ List.mem_cons_self),
        Option.none_or]
      simp
    refine ⟨[(field.key, value)] :: parts, ?_, by rw [List.flatten_cons, same]; rfl⟩
    have read : field.read (before ++ (field.key, value) :: record) = some [(field.key, value)] := by
      unfold Field.read
      rw [found]
      cases value with
      | undefined => exact absurd rfl defined
      | _ => simp only [kept, Option.map_some]
    rw [List.mapM_cons, reads, read]
    rfl

theorem Fits.object (fits : Fits fields record) (unique : (fields.map Field.key).Nodup) :
    Schema.object fields (.object record) = some (.object record) := by
  obtain ⟨parts, reads, same⟩ := fits.parts unique [] (by simp)
  refine object_iff.mpr ⟨?_, parts, reads, by rw [same]⟩
  rw [Schema.known, List.all_eq_true]
  exact fun entry member => List.contains_iff_mem.mpr (fits.known entry member)

theorem Fits.entry {schema : Schema} (defined : value ≠ .undefined) (kept : schema value = some value)
    (rest : Fits fields record) : Fits (Schema.required key schema :: fields) ((key, value) :: record) :=
  .present defined kept rest

section

variable {entries : List (String × Option Value)} {schema : Schema} {given : Option Value}

theorem Fits.optional (each : ∀ value ∈ given, value ≠ .undefined ∧ schema value = some value)
    (rest : Fits fields (Domain.present entries)) :
    Fits (Schema.optional key schema :: fields) (Domain.present ((key, given) :: entries)) := by
  cases given with
  | none => exact .absent rfl rest
  | some value => exact .present (each value rfl).1 (each value rfl).2 rest

theorem Fits.required (defined : value ≠ .undefined) (kept : schema value = some value)
    (rest : Fits fields (Domain.present entries)) :
    Fits (Schema.required key schema :: fields) (Domain.present ((key, some value) :: entries)) :=
  .present defined kept rest

end

theorem present_lookup {entries : List (String × Option Value)} (unique : (entries.map Prod.fst).Nodup) :
    (Domain.present entries).lookup key = (entries.lookup key).join := by
  induction entries with
  | nil => rfl
  | cons entry entries ih =>
    obtain ⟨name, value⟩ := entry
    rw [List.map_cons, List.nodup_cons] at unique
    have later : Domain.present ((name, value) :: entries) =
        (value.map fun value => (name, value)).toList ++ Domain.present entries := by
      rw [Domain.present, List.filterMap_cons]
      cases value <;> rfl
    rw [later, lookup_append, ih unique.2]
    by_cases same : key = name
    · subst same
      have none : entries.lookup key = none := by
        rw [List.lookup_eq_none_iff]
        intro other member
        rw [bne_iff_ne]
        exact fun equal => unique.1 (List.mem_map.mpr ⟨other, member, equal.symm⟩)
      rw [none]
      cases value <;> simp
    · cases value <;> simp [List.lookup_cons, beq_eq_false_iff_ne.mpr same]

theorem mapM_kept {items : List Value} (each : ∀ item ∈ items, schema item = some item) : items.mapM schema = some items := by
  induction items with
  | nil => rfl
  | cons item items ih =>
    rw [List.forall_mem_cons] at each
    rw [List.mapM_cons, each.1, ih each.2]
    rfl

theorem array_kept {accepts : Nat → Bool} {items : List Value} (each : ∀ item ∈ items, schema item = some item)
    (bounded : accepts items.length = true) : array schema accepts (.array items) = some (.array items) := by
  simp only [array, mapM_kept each, Option.bind_some, bounded, if_true]

theorem array_length {accepts : Nat → Bool} {items : List Value} (read : array schema accepts (.array items) = some output) :
    accepts items.length = true := by
  obtain ⟨parsed, each, kept⟩ := Option.bind_eq_some_iff.mp read
  split at kept
  · next accepted => rwa [mapM_length each] at accepted
  · cases kept

theorem jsonEntries_each {entries parsed : List (String × Value)} (read : jsonEntries entries = some parsed) :
    ∀ entry ∈ entries, accepts jsonValue entry.2 = true := by
  induction entries generalizing parsed with
  | nil => simp
  | cons entry entries ih =>
    rw [jsonEntries] at read
    obtain ⟨first, accepted, read⟩ := Option.bind_eq_some_iff.mp read
    obtain ⟨rest, later, -⟩ := Option.bind_eq_some_iff.mp read
    exact List.forall_mem_cons.mpr ⟨accepts_iff.mpr ⟨first, accepted⟩, ih later⟩

theorem json_entries (document : accepts jsonValue (.object record) = true) :
    ∀ entry ∈ record, accepts jsonValue entry.2 = true := by
  obtain ⟨output, read⟩ := accepts_iff.mp document
  rw [jsonValue] at read
  obtain ⟨parsed, each, -⟩ := Option.map_eq_some_iff.mp read
  exact jsonEntries_each each

theorem json_get (document : accepts jsonValue value = true) (defined : value.get key ≠ .undefined) :
    accepts jsonValue (value.get key) = true := by
  cases value with
  | object record =>
    rw [Value.get_entries, Value.entries_object] at defined ⊢
    cases found : record.lookup key with
    | none => exact absurd (by rw [found]; rfl) defined
    | some entry =>
      obtain ⟨before, after, rfl, -⟩ := List.lookup_eq_some_iff.mp found
      exact json_entries document (key, entry) (by simp)
  | _ => exact absurd rfl defined

theorem json_undefined : accepts jsonValue .undefined = false := by
  rw [accepts, jsonValue]
  rfl

section

variable {first second : List Field} {record more : Record}

theorem lookup_append_left {key : String} (others : ∀ entry ∈ more, entry.1 ≠ key) :
    (record ++ more).lookup key = record.lookup key := by
  rw [lookup_append, lookup_none others, Option.or_none]

theorem lookup_append_right {key : String} (others : ∀ entry ∈ record, entry.1 ≠ key) :
    (record ++ more).lookup key = more.lookup key := by
  rw [lookup_append, lookup_none others, Option.none_or]

theorem Field.read_congr {other : Record} (same : record.lookup field.key = other.lookup field.key) :
    field.read record = field.read other := by
  rw [Field.read, Field.read, same]

theorem mapM_congr {Item Result : Type} {read also : Item → Option Result} {items : List Item}
    (same : ∀ item ∈ items, read item = also item) : items.mapM read = items.mapM also := by
  induction items with
  | nil => rfl
  | cons item items ih =>
    rw [List.forall_mem_cons] at same
    rw [List.mapM_cons, List.mapM_cons, same.1, ih same.2]

/-- An object whose keys are those of two lists of fields is read part by part. -/
theorem object_append (firstKnown : ∀ entry ∈ record, entry.1 ∈ first.map Field.key)
    (secondKnown : ∀ entry ∈ more, entry.1 ∈ second.map Field.key)
    (apart : ∀ key ∈ first.map Field.key, key ∉ second.map Field.key) :
    object (first ++ second) (.object (record ++ more)) = some output ↔
      ∃ parsed rest, object first (.object record) = some (.object parsed) ∧
        object second (.object more) = some (.object rest) ∧ output = .object (parsed ++ rest) := by
  have contained {fields : List Field} {entries : Record} (each : ∀ entry ∈ entries, entry.1 ∈ fields.map Field.key) :
      known fields entries = true :=
    List.all_eq_true.mpr fun entry member => List.contains_iff_mem.mpr (each entry member)
  have whole : known (first ++ second) (record ++ more) = true := by
    refine contained fun entry member => ?_
    rw [List.map_append]
    exact (List.mem_append.mp member).elim (fun inRecord => List.mem_append_left _ (firstKnown entry inRecord))
      fun inMore => List.mem_append_right _ (secondKnown entry inMore)
  have firstReads : (first.mapM fun field : Field => field.read (record ++ more)) =
      first.mapM fun field : Field => field.read record :=
    mapM_congr fun field member => Field.read_congr <| lookup_append_left fun entry inMore same =>
      apart field.key (List.mem_map_of_mem member) (same ▸ secondKnown entry inMore)
  have secondReads : (second.mapM fun field : Field => field.read (record ++ more)) =
      second.mapM fun field : Field => field.read more :=
    mapM_congr fun field member => Field.read_congr <| lookup_append_right fun entry inRecord same =>
      apart entry.1 (firstKnown entry inRecord) (same ▸ List.mem_map_of_mem member)
  simp only [object_iff, whole, contained firstKnown, contained secondKnown, true_and, List.mapM_append, firstReads, secondReads]
  constructor
  · rintro ⟨parts, each, rfl⟩
    obtain ⟨before, readBefore, each⟩ := Option.bind_eq_some_iff.mp each
    obtain ⟨after, readAfter, same⟩ := Option.bind_eq_some_iff.mp each
    cases same
    exact ⟨_, _, ⟨before, readBefore, rfl⟩, ⟨after, readAfter, rfl⟩, by rw [List.flatten_append]⟩
  · rintro ⟨_, _, ⟨before, readBefore, same⟩, ⟨after, readAfter, sameRest⟩, rfl⟩
    cases same
    cases sameRest
    exact ⟨before ++ after, by rw [readBefore, readAfter]; rfl, by rw [List.flatten_append]⟩

end

end Schema

end AiOffice.Domain
