import AiOffice.Connector.FilesystemConstraints
import Mathlib.Data.List.Perm.Basic

namespace AiOffice.Connector.Filesystem

open Data Outcome Domain Domain.Capability.PolicyEngine

variable {record : Record} {constraints : FilesystemConstraints} {value : Value} {list : List String}

def Canonical (list : List String) : Prop := ∃ members, list = sortedUnique members

theorem Canonical.eq {left right : List String} (first : Canonical left) (second : Canonical right)
    (same : ∀ item, item ∈ left ↔ item ∈ right) : left = right := by
  obtain ⟨members, rfl⟩ := first
  obtain ⟨others, rfl⟩ := second
  exact sortedSet_eq codeUnits_injective fun item => by simpa [sortedUnique] using same item

theorem Canonical.nodup (canonical : Canonical list) : list.Nodup := by
  obtain ⟨members, rfl⟩ := canonical
  exact (sortOn_perm codeUnits members.dedup).nodup_iff.mpr members.nodup_dedup

def prefixesOf (value : Value) : Option (List String) := (asTexts value).map sortedUnique

def extensionsOf (value : Value) : Option (List String) :=
  (asTexts value).map fun list => sortedUnique (list.map toLowerCase)

structure Parsed (record : Record) (constraints : FilesystemConstraints) : Prop where
  allowedPathPrefixes : constraints.allowedPathPrefixes = prefixesOf (record.get "allowedPathPrefixes")
  deniedPathPrefixes : constraints.deniedPathPrefixes = prefixesOf (record.get "deniedPathPrefixes")
  allowedExtensions : constraints.allowedExtensions = extensionsOf (record.get "allowedExtensions")
  maximum : ∀ field, constraints.maximum field = asMaximum (record.get field.text)

theorem stringList_ok {field : String} (read : stringList value field = .ok list) : asTexts value = some list := by
  unfold stringList at read
  split at read
  · next found => cases read; exact found
  · cases read

theorem normalizedPrefixes_ok {field : String} (read : normalizedPrefixes value field = .ok list) :
    prefixesOf value = some list := by
  obtain ⟨texts, isList, read⟩ := bind_ok read
  rw [prefixesOf, stringList_ok isList]
  split at read
  · next paths accepted =>
    cases read
    have kept : texts = paths := by
      refine List.forall₂_eq_eq_eq ▸ (Outcome.mapM_ok accepted).imp fun path normalized each => ?_
      exact (normalizeRelativePath_ok each).symm
    rw [kept, Option.map_some]
  · split at read <;> cases read

theorem normalizedExtensions_ok (read : normalizedExtensions value = .ok list) :
    extensionsOf value = some list := by
  obtain ⟨texts, isList, read⟩ := bind_ok read
  obtain ⟨-, read⟩ := guard_ok read
  cases read
  rw [extensionsOf, stringList_ok isList, Option.map_some]

theorem whenPresent_ok {Field : Type} (meaning : Value → Option Field)
    {read : Value → Except Thrown Field} {found : Option Field} (absent : meaning .undefined = none)
    (reads : ∀ value field, read value = .ok field → meaning value = some field)
    (present : whenPresent value read = .ok found) : found = meaning value := by
  unfold whenPresent at present
  split at present
  · cases present; exact absent.symm
  · obtain ⟨field, returned, rfl⟩ := map_ok present
    exact (reads _ field returned).symm

theorem parse_ok (parsed : parse record = .ok constraints) : Parsed record constraints := by
  obtain ⟨-, parsed⟩ := guard_ok parsed
  obtain ⟨allowedPathPrefixes, readAllowed, parsed⟩ := bind_ok parsed
  obtain ⟨deniedPathPrefixes, readDenied, parsed⟩ := bind_ok parsed
  obtain ⟨allowedExtensions, readExtensions, parsed⟩ := bind_ok parsed
  obtain ⟨⟨⟩, -, parsed⟩ := bind_ok parsed
  obtain ⟨allowMutation, -, parsed⟩ := bind_ok parsed
  cases parsed
  exact {
    allowedPathPrefixes := whenPresent_ok prefixesOf rfl (fun _ _ => normalizedPrefixes_ok) readAllowed
    deniedPathPrefixes := whenPresent_ok prefixesOf rfl (fun _ _ => normalizedPrefixes_ok) readDenied
    allowedExtensions := whenPresent_ok extensionsOf rfl (fun _ _ => normalizedExtensions_ok) readExtensions
    maximum := fun _ => rfl }

theorem Parsed.canonical (parsed : Parsed record constraints) {field : AllowedField}
    (found : constraints.allowed field = some list) : Canonical list := by
  cases field with
  | allowedPathPrefixes =>
    rw [FilesystemConstraints.allowed, parsed.allowedPathPrefixes, prefixesOf, Option.map_eq_some_iff] at found
    obtain ⟨members, -, rfl⟩ := found
    exact ⟨members, rfl⟩
  | allowedExtensions =>
    rw [FilesystemConstraints.allowed, parsed.allowedExtensions, extensionsOf, Option.map_eq_some_iff] at found
    obtain ⟨members, -, rfl⟩ := found
    exact ⟨_, rfl⟩

/-- What it takes for an item to be allowed by an entry of a list: a path may lie below it. -/
def order : AllowedField → String → String → Prop
  | .allowedPathPrefixes => Below
  | .allowedExtensions => Eq

instance (field : AllowedField) : DecidableRel (order field) :=
  match field with
  | .allowedPathPrefixes => inferInstanceAs (DecidableRel Below)
  | .allowedExtensions => inferInstanceAs (DecidableRel Eq)

theorem order_forest : ∀ field, Forest (order field)
  | .allowedPathPrefixes => below_forest
  | .allowedExtensions => {
      refl := fun _ => rfl
      antisymm := fun below _ => below
      trans := Eq.trans
      chain := fun overLeft overRight => .inl (overLeft.symm.trans overRight) }

theorem covers_eq {item : String} : Covers Eq list item ↔ item ∈ list := by
  simp [Covers]

theorem mem_intersect (field : AllowedField) (left right : List String) (item : String) :
    item ∈ intersect field left right ↔ item ∈ meet (order field) left right := by
  cases field with
  | allowedPathPrefixes => exact mem_sortedSet
  | allowedExtensions =>
    rw [(order_forest .allowedExtensions).mem_meet]
    simp only [intersect, intersectExact, sort, mem_sortOn, List.mem_filter, List.contains_iff_mem, order, covers_eq]
    tauto

theorem intersect_canonical (field : AllowedField) {left : List String} (canonical : Canonical left)
    (right : List String) : Canonical (intersect field left right) := by
  cases field with
  | allowedPathPrefixes => exact ⟨_, rfl⟩
  | allowedExtensions =>
    refine ⟨left.filter right.contains, ?_⟩
    rw [sortedUnique, sortedSet, (canonical.nodup.filter _).dedup]
    rfl

theorem fold_canonical (field : AllowedField) {first : List String} (canonical : Canonical first)
    (later : List (List String)) : Canonical (later.foldl (intersect field) first) := by
  induction later generalizing first with
  | nil => exact canonical
  | cons next later ih => exact ih (intersect_canonical field canonical next)

section

variable {values others : List FilesystemConstraints} {field : AllowedField} {item : String}

def Declares (values : List FilesystemConstraints) (field : AllowedField) (list : List String) : Prop :=
  ∃ value ∈ values, value.allowed field = some list

theorem Declares.mem : Declares values field list ↔ list ∈ values.filterMap (·.allowed field) :=
  List.mem_filterMap.symm

theorem combinedAllowed_none : combinedAllowed values field = none ↔ ∀ list, ¬Declares values field list := by
  simp only [Declares.mem, combinedAllowed]
  cases values.filterMap (·.allowed field) with
  | nil => simp
  | cons first later =>
    simp only [reduceCtorEq, false_iff, not_forall, not_not]
    exact ⟨first, List.mem_cons_self⟩

theorem covers_combined (combined : combinedAllowed values field = some list) :
    Covers (order field) list item ↔ ∀ declared, Declares values field declared → Covers (order field) declared item := by
  simp only [Declares.mem]
  unfold combinedAllowed at combined
  cases lists : values.filterMap (·.allowed field) with
  | nil => rw [lists] at combined; cases combined
  | cons first later =>
    rw [lists] at combined
    cases combined
    rw [(order_forest field).covers_fold (mem_intersect field), List.forall_mem_cons]

theorem covers_combined_iff :
    (∀ list, combinedAllowed values field = some list → Covers (order field) list item) ↔
      ∀ declared, Declares values field declared → Covers (order field) declared item := by
  cases combined : combinedAllowed values field with
  | none =>
    have absent := combinedAllowed_none.mp combined
    exact ⟨fun _ declared here => absurd here (absent declared), fun _ => nofun⟩
  | some list => simp only [Option.some.injEq, forall_eq', covers_combined combined]

theorem mem_combined (combined : combinedAllowed values field = some list) :
    item ∈ list ↔ (∃ declared, Declares values field declared ∧ item ∈ declared) ∧
      ∀ declared, Declares values field declared → Covers (order field) declared item := by
  simp only [Declares.mem]
  unfold combinedAllowed at combined
  cases lists : values.filterMap (·.allowed field) with
  | nil => rw [lists] at combined; cases combined
  | cons first later =>
    rw [lists] at combined
    cases combined
    exact (order_forest field).mem_fold (mem_intersect field)

theorem combined_canonical (canonical : ∀ declared, Declares values field declared → Canonical declared)
    (combined : combinedAllowed values field = some list) : Canonical list := by
  simp only [Declares.mem] at canonical
  unfold combinedAllowed at combined
  cases lists : values.filterMap (·.allowed field) with
  | nil => rw [lists] at combined; cases combined
  | cons first later =>
    rw [lists] at combined canonical
    cases combined
    exact fold_canonical field (canonical first List.mem_cons_self) later

theorem combinedAllowed_eq (canonical : ∀ declared, Declares values field declared → Canonical declared)
    (same : ∀ declared, Declares values field declared ↔ Declares others field declared) :
    combinedAllowed values field = combinedAllowed others field := by
  cases first : combinedAllowed values field with
  | none =>
    rw [combinedAllowed_none] at first
    exact (combinedAllowed_none.mpr fun declared => (same declared).not.mp (first declared)).symm
  | some left =>
    cases second : combinedAllowed others field with
    | none =>
      rw [combinedAllowed_none] at second
      rw [combinedAllowed_none.mpr fun declared => (same declared).not.mpr (second declared)] at first
      cases first
    | some right =>
      have canonical' := combined_canonical (fun declared here => canonical declared ((same declared).mpr here)) second
      rw [(combined_canonical canonical first).eq canonical' fun item => ?_]
      simp only [mem_combined first, mem_combined second, same]

end

variable {resource : FilesystemConstraints} {grants others : List FilesystemConstraints}

theorem effectiveConstraints_perm
    (parsed : ∀ value ∈ resource :: grants, ∃ record, Parsed record value) (reordered : grants.Perm others) :
    effectiveConstraints resource grants = effectiveConstraints resource others := by
  have all : (resource :: grants).Perm (resource :: others) := reordered.cons resource
  have allowed (field : AllowedField) :
      combinedAllowed (resource :: grants) field = combinedAllowed (resource :: others) field := by
    refine combinedAllowed_eq (fun declared => ?_) fun declared => ?_
    · rintro ⟨value, member, found⟩
      obtain ⟨record, parsed⟩ := parsed value member
      exact parsed.canonical found
    · simp only [Declares, all.mem_iff]
  have denied : sortedUnique ((resource :: grants).flatMap fun value => value.deniedPathPrefixes.getD []) =
      sortedUnique ((resource :: others).flatMap fun value => value.deniedPathPrefixes.getD []) :=
    sortedSet_eq codeUnits_injective fun item => (all.flatMap_right _).mem_iff
  have maximum (field : MaximumField) :
      ((resource :: grants).filterMap (·.maximum field)).foldl min (filesystemHardLimits field) =
        ((resource :: others).filterMap (·.maximum field)).foldl min (filesystemHardLimits field) :=
    (all.filterMap _).foldl_eq' (fun left _ right _ least => by omega) _
  have mutation : (grants.all fun value => value.allowMutation = some true) =
      (others.all fun value => value.allowMutation = some true) := reordered.all_eq
  simp only [effectiveConstraints, allowed, denied, maximum, mutation]

variable {configuration : Record} {records longer : List Record} {effective narrow wide : EffectiveFilesystemConstraints}

theorem combine_ok (combined : combine records configuration = .ok effective) :
    ∃ resource grants, parse configuration = .ok resource ∧
      List.Forall₂ (fun record grant => parse record = .ok grant) records grants ∧
      effective = effectiveConstraints resource grants := by
  obtain ⟨resource, read, combined⟩ := bind_ok combined
  obtain ⟨grants, each, combined⟩ := bind_ok combined
  cases combined
  exact ⟨resource, grants, read, Outcome.mapM_ok each, rfl⟩

theorem combine_returns (read : parse configuration = .ok resource)
    (each : List.Forall₂ (fun record grant => parse record = .ok grant) records grants) :
    combine records configuration = .ok (effectiveConstraints resource grants) := by
  rw [combine, bind_returns read, bind_returns (Outcome.mapM_returns each)]
  rfl

theorem parsed_each (read : parse configuration = .ok resource)
    (each : List.Forall₂ (fun record grant => parse record = .ok grant) records grants) :
    List.Forall₂ Parsed (configuration :: records) (resource :: grants) :=
  .cons (parse_ok read) (each.imp fun _ _ => parse_ok)

theorem parsed_mem {values : List FilesystemConstraints} (each : List.Forall₂ Parsed records values) :
    ∀ value ∈ values, ∃ record, Parsed record value := by
  induction each with
  | nil => simp
  | cons first later ih => exact List.forall_mem_cons.mpr ⟨⟨_, first⟩, ih⟩

theorem combine_perm (reordered : records.Perm longer) (combined : combine records configuration = .ok effective) :
    combine longer configuration = .ok effective := by
  obtain ⟨resource, grants, read, each, rfl⟩ := combine_ok combined
  obtain ⟨others, eachOther, same⟩ := List.perm_comp_forall₂ reordered.symm each
  rw [combine_returns read eachOther, effectiveConstraints_perm (parsed_mem (parsed_each read each)) same.symm]

theorem combineAndValidate_orderFree : OrderFree combineAndValidate := by
  intro operation arguments_ values others configuration reordered
  cases combined : combine values configuration with
  | ok effective =>
    have also := combine_perm reordered combined
    simp only [combineAndValidate, combined, also, and_self]
  | error thrown =>
    cases also : combine others configuration with
    | ok effective =>
      rw [combine_perm reordered.symm also] at combined
      cases combined
    | error other =>
      simp only [combineAndValidate, combined, also]
      exact ⟨rfl, rfl⟩

end AiOffice.Connector.Filesystem
