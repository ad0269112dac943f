import AiOffice.Connector.FilesystemConstraints.Combination
import Mathlib.Order.Bounds.Basic

namespace AiOffice.Connector.Filesystem

open Data Outcome Domain Domain.Capability.PolicyEngine

variable {configuration : Record} {records : List Record} {resource : FilesystemConstraints}
  {grants values others : List FilesystemConstraints} {effective narrow wide : EffectiveFilesystemConstraints}

theorem parsed_filterMap {Found : Type} {read : FilesystemConstraints → Option Found} {meaning : Record → Option Found}
    (same : ∀ record value, Parsed record value → read value = meaning record)
    (each : List.Forall₂ Parsed records values) : values.filterMap read = records.filterMap meaning := by
  induction each with
  | nil => rfl
  | cons first later ih => simp only [List.filterMap_cons, same _ _ first, ih]

def declaredPrefixes (record : Record) (key : String) : Option (List String) := asTexts (record.get key)

def LiesWithin (path : String) (bases : List String) : Prop := ∃ base ∈ bases, pathMatchesPrefix path base = true

theorem covers_sortedUnique {path : String} {bases : List String} :
    Covers Below (sortedUnique bases) path ↔ LiesWithin path bases := by
  simp only [Covers, LiesWithin, sortedUnique, mem_sortedSet, Below]

/-- What the constraints of a resource and of grants come to together: what all of them allow, what one of them
denies, and the least of the limits that they and the connector set. -/
structure Meet (configuration : Record) (records : List Record) (effective : EffectiveFilesystemConstraints) : Prop where
  allowed : ∀ path, classifyAllowedPath path effective.allowedPathPrefixes = .insideAllowed ↔
    ∀ record ∈ configuration :: records, ∀ declared, declaredPrefixes record "allowedPathPrefixes" = some declared →
      LiesWithin path declared
  denied : ∀ path, LiesWithin path effective.deniedPathPrefixes ↔
    ∃ record ∈ configuration :: records, ∃ declared, declaredPrefixes record "deniedPathPrefixes" = some declared ∧
      LiesWithin path declared
  maximum : ∀ field, IsLeast
    {limit | limit = filesystemHardLimits field ∨
      ∃ record ∈ configuration :: records, asMaximum (record.get field.text) = some limit}
    (effective.maximum field)

theorem foldl_min_isLeast (bound : Nat) (limits : List Nat) :
    IsLeast {limit | limit = bound ∨ limit ∈ limits} (limits.foldl min bound) := by
  induction limits generalizing bound with
  | nil => simp [IsLeast, lowerBounds]
  | cons limit limits ih =>
    obtain ⟨found, least⟩ := ih (min bound limit)
    rw [List.foldl_cons]
    refine ⟨?_, ?_⟩
    · rcases found with same | later
      · rcases le_total bound limit with le | le
        · exact .inl (same.trans (min_eq_left le))
        · exact .inr (List.mem_cons.mpr (.inl (same.trans (min_eq_right le))))
      · exact .inr (List.mem_cons_of_mem _ later)
    · have below := least (.inl rfl)
      rintro other (rfl | member)
      · exact below.trans (min_le_left _ _)
      · rcases List.mem_cons.mp member with rfl | later
        · exact below.trans (min_le_right _ _)
        · exact least (.inr later)

theorem allowed_combined {path : String} (each : List.Forall₂ Parsed records values) :
    (∀ list, combinedAllowed values .allowedPathPrefixes = some list → Covers Below list path) ↔
      ∀ record ∈ records, ∀ declared, declaredPrefixes record "allowedPathPrefixes" = some declared →
        LiesWithin path declared := by
  have lists : values.filterMap (·.allowed .allowedPathPrefixes) =
      records.filterMap fun record => prefixesOf (record.get "allowedPathPrefixes") :=
    parsed_filterMap (fun _ _ parsed => parsed.allowedPathPrefixes) each
  have declares (list : List String) : Declares values .allowedPathPrefixes list ↔
      ∃ record ∈ records, ∃ declared, declaredPrefixes record "allowedPathPrefixes" = some declared ∧
        sortedUnique declared = list := by
    simp only [Declares.mem, lists, List.mem_filterMap, prefixesOf, Option.map_eq_some_iff, declaredPrefixes]
  refine Iff.trans (@covers_combined_iff values .allowedPathPrefixes path) ?_
  constructor
  · intro covered record member declared found
    exact covers_sortedUnique.mp (covered _ ((declares _).mpr ⟨record, member, declared, found, rfl⟩))
  · intro within list declaring
    obtain ⟨record, member, declared, found, rfl⟩ := (declares list).mp declaring
    exact covers_sortedUnique.mpr (within record member declared found)

theorem mem_denied {base : String} (each : List.Forall₂ Parsed records values) :
    (base ∈ values.flatMap fun value => value.deniedPathPrefixes.getD []) ↔
      ∃ record ∈ records, ∃ declared, declaredPrefixes record "deniedPathPrefixes" = some declared ∧ base ∈ declared := by
  have lists : values.filterMap (·.deniedPathPrefixes) =
      records.filterMap fun record => prefixesOf (record.get "deniedPathPrefixes") :=
    parsed_filterMap (fun _ _ parsed => parsed.deniedPathPrefixes) each
  have member : (base ∈ values.flatMap fun value => value.deniedPathPrefixes.getD []) ↔
      ∃ list ∈ values.filterMap (·.deniedPathPrefixes), base ∈ list := by
    simp only [List.mem_flatMap, List.mem_filterMap]
    constructor
    · rintro ⟨value, member, inside⟩
      cases denied : value.deniedPathPrefixes with
      | none => simp [denied] at inside
      | some list => exact ⟨list, ⟨value, member, denied⟩, by simpa [denied] using inside⟩
    · rintro ⟨list, ⟨value, member, denied⟩, inside⟩
      exact ⟨value, member, by simpa [denied] using inside⟩
  rw [member, lists]
  simp only [List.mem_filterMap, prefixesOf, Option.map_eq_some_iff, declaredPrefixes]
  constructor
  · rintro ⟨list, ⟨record, member, declared, found, rfl⟩, inside⟩
    exact ⟨record, member, declared, found, mem_sortedSet.mp inside⟩
  · rintro ⟨record, member, declared, found, inside⟩
    exact ⟨_, ⟨record, member, declared, found, rfl⟩, mem_sortedSet.mpr inside⟩

theorem effective_meet (each : List.Forall₂ Parsed (configuration :: records) (resource :: grants)) :
    Meet configuration records (effectiveConstraints resource grants) where
  allowed path := classifyAllowedPath_inside.trans (allowed_combined each)
  denied path := by
    change (∃ base ∈ sortedUnique _, _) ↔ _
    simp only [sortedUnique, mem_sortedSet, mem_denied each, LiesWithin]
    constructor
    · rintro ⟨base, ⟨record, member, declared, found, inside⟩, below⟩
      exact ⟨record, member, declared, found, base, inside, below⟩
    · rintro ⟨record, member, declared, found, base, inside, below⟩
      exact ⟨base, ⟨record, member, declared, found, inside⟩, below⟩
  maximum field := by
    have limits : (resource :: grants).filterMap (·.maximum field) =
        (configuration :: records).filterMap fun record => asMaximum (record.get field.text) :=
      parsed_filterMap (fun _ _ parsed => parsed.maximum field) each
    have least := foldl_min_isLeast (filesystemHardLimits field) ((resource :: grants).filterMap (·.maximum field))
    change IsLeast _ (((resource :: grants).filterMap (·.maximum field)).foldl min (filesystemHardLimits field))
    simpa only [limits, List.mem_filterMap] using least

def EffectiveFilesystemConstraints.allowed (effective : EffectiveFilesystemConstraints) :
    AllowedField → Option (List String)
  | .allowedPathPrefixes => effective.allowedPathPrefixes
  | .allowedExtensions => effective.allowedExtensions

structure Narrower (narrow wide : EffectiveFilesystemConstraints) : Prop where
  allowed : ∀ field list, wide.allowed field = some list →
    ∃ fewer, narrow.allowed field = some fewer ∧ ∀ item ∈ fewer, Covers (order field) list item
  denied : ∀ base ∈ wide.deniedPathPrefixes, base ∈ narrow.deniedPathPrefixes
  maximum : ∀ field, narrow.maximum field ≤ wide.maximum field
  allowMutation : narrow.allowMutation = true → wide.allowMutation = true

theorem effective_allowed (field : AllowedField) :
    (effectiveConstraints resource grants).allowed field = combinedAllowed (resource :: grants) field := by
  cases field <;> rfl

/-- More grants permit less. -/
theorem effective_narrower (more : grants ⊆ others) :
    Narrower (effectiveConstraints resource others) (effectiveConstraints resource grants) := by
  have all : resource :: grants ⊆ resource :: others := List.cons_subset_cons resource more
  have declares {field : AllowedField} {list : List String} (declared : Declares (resource :: grants) field list) :
      Declares (resource :: others) field list := by
    obtain ⟨value, member, found⟩ := declared
    exact ⟨value, all member, found⟩
  constructor
  · intro field list found
    simp only [effective_allowed] at found ⊢
    cases combined : combinedAllowed (resource :: others) field with
    | none =>
      have absent := combinedAllowed_none.mpr fun declared here =>
        combinedAllowed_none.mp combined declared (declares here)
      rw [absent] at found
      cases found
    | some fewer =>
      refine ⟨fewer, rfl, fun item member => (covers_combined found).mpr fun declared here => ?_⟩
      exact ((mem_combined combined).mp member).2 declared (declares here)
  · intro base denied
    obtain ⟨value, member, inside⟩ := List.mem_flatMap.mp (mem_sortedSet.mp denied)
    exact mem_sortedSet.mpr (List.mem_flatMap.mpr ⟨value, all member, inside⟩)
  · intro field
    refine (foldl_min_isLeast _ _).mono (foldl_min_isLeast _ _) ?_
    rintro limit (hard | declared)
    · exact .inl hard
    · obtain ⟨value, member, found⟩ := List.mem_filterMap.mp declared
      exact .inr (List.mem_filterMap.mpr ⟨value, all member, found⟩)
  · intro allowed
    simp only [effectiveConstraints, Bool.and_eq_true, List.all_eq_true] at allowed ⊢
    exact ⟨fun value member => allowed.1 value (more member), allowed.2⟩

namespace Narrower

variable (narrower : Narrower narrow wide)
include narrower

theorem inside {path : String} (allowed : classifyAllowedPath path narrow.allowedPathPrefixes = .insideAllowed) :
    classifyAllowedPath path wide.allowedPathPrefixes = .insideAllowed := by
  rw [classifyAllowedPath_inside] at allowed ⊢
  intro bases found
  obtain ⟨fewer, narrowFound, covered⟩ := narrower.allowed .allowedPathPrefixes bases found
  obtain ⟨base, member, below⟩ := allowed fewer narrowFound
  exact (covered base member).mono below_forest below

theorem notDenied {path : String} (allowed : classifyAllowedPath path narrow.allowedPathPrefixes ≠ .denied) :
    classifyAllowedPath path wide.allowedPathPrefixes ≠ .denied := by
  cases found : wide.allowedPathPrefixes with
  | none => nofun
  | some bases =>
    obtain ⟨fewer, narrowFound, covered⟩ := narrower.allowed .allowedPathPrefixes bases found
    change narrow.allowedPathPrefixes = some fewer at narrowFound
    rw [narrowFound, classifyAllowedPath_notDenied] at allowed
    rw [classifyAllowedPath_notDenied]
    rcases allowed with ⟨base, member, below⟩ | ⟨base, member, above⟩
    · exact .inl ((covered base member).mono below_forest below)
    · obtain ⟨root, inBases, under⟩ := covered base member
      rcases above with isRoot | above
      · exact .inr ⟨root, inBases, .inl isRoot⟩
      · rcases below_forest.chain above under with below | below
        · exact .inl ⟨root, inBases, below⟩
        · exact .inr ⟨root, inBases, .inr below⟩

theorem empty {field : AllowedField} (nonempty : narrow.allowed field ≠ some []) : wide.allowed field ≠ some [] := by
  intro found
  obtain ⟨fewer, narrowFound, covered⟩ := narrower.allowed field [] found
  cases fewer with
  | nil => exact nonempty narrowFound
  | cons item fewer =>
    obtain ⟨root, member, -⟩ := covered item List.mem_cons_self
    cases member

theorem withinLimits {path : String} {allowRoot : Bool}
    (within : satisfiesEffectivePathLimits path narrow allowRoot = true) :
    satisfiesEffectivePathLimits path wide allowRoot = true := by
  unfold satisfiesEffectivePathLimits at within ⊢
  split at within
  · next normalized accepted =>
    rw [normalizeRelativePath_mono (narrower.maximum .maxPathBytes) (narrower.maximum .maxPathSegments) accepted]
    exact within
  · cases within

theorem outsideDenied {path : String} (outside : ¬LiesWithin path narrow.deniedPathPrefixes) :
    ¬LiesWithin path wide.deniedPathPrefixes := by
  rintro ⟨base, member, below⟩
  exact outside ⟨base, narrower.denied base member, below⟩

end Narrower

theorem pathReasons_nil {operation path : String} :
    pathReasons operation effective path = [] ↔
      satisfiesEffectivePathLimits path effective (directoryCapable operation) = true ∧
        classifyAllowedPath path effective.allowedPathPrefixes ≠ .denied ∧
        (directoryCapable operation = false →
          classifyAllowedPath path effective.allowedPathPrefixes = .insideAllowed) ∧
        ¬LiesWithin path effective.deniedPathPrefixes := by
  have denies : effective.deniedPathPrefixes.any (pathMatchesPrefix path) = true ↔
      LiesWithin path effective.deniedPathPrefixes := List.any_eq_true
  simp only [pathReasons, ← denies]
  split
  · next exceeds => simp at exceeds; simp [exceeds]
  · next within =>
    simp at within
    simp [within, List.append_eq_nil_iff]
    tauto

theorem Narrower.pathReasons {operation path : String} (narrower : Narrower narrow wide)
    (permitted : pathReasons operation narrow path = []) : pathReasons operation wide path = [] := by
  obtain ⟨within, reachable, inside, outside⟩ := pathReasons_nil.mp permitted
  exact pathReasons_nil.mpr ⟨narrower.withinLimits within, narrower.notDenied reachable,
    fun exact_ => narrower.inside (inside exact_), narrower.outsideDenied outside⟩

theorem ite_nil {Item : Type} {condition : Prop} [Decidable condition] {item : Item} :
    (if condition then [item] else []) = [] ↔ ¬condition := by
  split <;> simp_all only [not_true_eq_false, not_false_eq_true, reduceCtorEq]

theorem Narrower.refusals {operation : String} {arguments_ : Record} (narrower : Narrower narrow wide)
    (permitted : refusals operation arguments_ narrow = []) : refusals operation arguments_ wide = [] := by
  simp only [Filesystem.refusals, List.append_eq_nil_iff, ite_nil, List.flatMap_eq_nil_iff] at permitted ⊢
  obtain ⟨⟨⟨⟨⟨paths, extensions⟩, named⟩, reasons⟩, extension⟩, mutation⟩ := permitted
  refine ⟨⟨⟨⟨⟨?_, ?_⟩, named⟩, fun path member => narrower.pathReasons (reasons path member)⟩, ?_⟩, ?_⟩
  · exact @Narrower.empty _ _ narrower .allowedPathPrefixes paths
  · exact @Narrower.empty _ _ narrower .allowedExtensions extensions
  · simp only [Bool.and_eq_true, Option.any_eq_true, List.any_eq_true, Bool.not_eq_true', List.contains_eq_mem,
      decide_eq_false_iff_not] at extension ⊢
    rintro ⟨exact_, allowed, found, path, member, missing⟩
    obtain ⟨fewer, narrowFound, covered⟩ := narrower.allowed .allowedExtensions allowed found
    refine extension ⟨exact_, fewer, narrowFound, path, member, fun present => missing ?_⟩
    exact covers_eq.mp (covered (fileExtension path) present)
  · rintro refused
    simp only [Bool.and_eq_true, Bool.not_eq_true'] at mutation refused
    refine mutation ⟨refused.1, Bool.eq_false_iff.mpr fun allowed => ?_⟩
    rw [narrower.allowMutation allowed] at refused
    exact Bool.noConfusion refused.2

theorem text_mem_fields (field : MaximumField) : field.text ∈ fields := by
  cases field <;> decide

theorem value_normalizes (effective : EffectiveFilesystemConstraints) :
    ∃ normalized, normalizeCanonicalJson effective.value = .ok normalized := by
  have texts (list : List String) : CanonicalJson.Normalizes (.array (list.map .string)) := by
    refine .array fun item member => ?_
    obtain ⟨text, -, rfl⟩ := List.mem_map.mp member
    exact fun path => ⟨_, rfl⟩
  have allowed : ∀ name ∈ fields, name ∉ CanonicalJson.forbiddenObjectKeys := by decide
  refine CanonicalJson.Normalizes.object (fun entry member => ?_) "$"
  simp only [List.mem_append, Option.mem_toList, Option.map_eq_some_iff, List.mem_map, List.mem_singleton] at member
  rcases member with (((⟨list, -, rfl⟩ | rfl) | ⟨list, -, rfl⟩) | ⟨field, -, rfl⟩) | rfl
  · exact ⟨allowed "allowedPathPrefixes" (by decide), texts list⟩
  · exact ⟨allowed "deniedPathPrefixes" (by decide), texts _⟩
  · exact ⟨allowed "allowedExtensions" (by decide), texts list⟩
  · exact ⟨allowed field.text (text_mem_fields field), fun path => ⟨_, rfl⟩⟩
  · exact ⟨allowed "allowMutation" (by decide), fun path => ⟨_, rfl⟩⟩

theorem combineAndValidate_ok {operation : String} {arguments_ : Record} :
    (combineAndValidate operation arguments_ records configuration).ok = true ↔
      ∃ effective, combine records configuration = .ok effective ∧ refusals operation arguments_ effective = [] := by
  cases combined : combine records configuration with
  | error thrown => simp [combineAndValidate, combined, bind, Except.bind]
  | ok effective =>
    obtain ⟨normalized, returned⟩ := value_normalizes effective
    simp only [combineAndValidate, combined, bind_returns rfl, bind_returns returned]
    simp [pure, Except.pure]

theorem combineAndValidate_constraints {operation : String} {arguments_ : Record}
    (combined : combine records configuration = .ok effective) :
    normalizeCanonicalJson effective.value =
      .ok (combineAndValidate operation arguments_ records configuration).effectiveConstraints := by
  obtain ⟨normalized, returned⟩ := value_normalizes effective
  simp only [combineAndValidate, combined, bind_returns rfl, bind_returns returned]
  exact returned

theorem combine_fewer {extra : Record} {longer : List Record} (more : longer.Perm (extra :: records))
    (combined : combine longer configuration = .ok narrow) :
    ∃ wide, combine records configuration = .ok wide ∧ Narrower narrow wide := by
  obtain ⟨resource, grants, read, each, rfl⟩ := combine_ok (combine_perm more combined)
  cases each with
  | cons first later => exact ⟨_, combine_returns read later, effective_narrower (List.subset_cons_self _ _)⟩

def Permits (effective : EffectiveFilesystemConstraints) (path : String) : Prop :=
  classifyAllowedPath path effective.allowedPathPrefixes = .insideAllowed ∧
    ¬LiesWithin path effective.deniedPathPrefixes ∧ satisfiesEffectivePathLimits path effective false = true

theorem Narrower.permits {path : String} (narrower : Narrower narrow wide) (permitted : Permits narrow path) :
    Permits wide path :=
  ⟨narrower.inside permitted.1, narrower.outsideDenied permitted.2.1, narrower.withinLimits permitted.2.2⟩

/-- The constraints that a resource and grants combine to are their meet, with the limits of the connector among the
declared ones, and a further grant takes nothing away that the others refuse. -/
theorem combination_meets (configuration : Record) :
    (∀ grants effective, combine grants configuration = .ok effective → Meet configuration grants effective) ∧
    (∀ operation arguments_ grants effective, combine grants configuration = .ok effective →
      normalizeCanonicalJson effective.value =
        .ok (combineAndValidate operation arguments_ grants configuration).effectiveConstraints) ∧
    ∀ grants extra longer, longer.Perm (extra :: grants) →
      (∀ narrow, combine longer configuration = .ok narrow →
        ∃ wide, combine grants configuration = .ok wide ∧ ∀ path, Permits narrow path → Permits wide path) ∧
      ∀ operation arguments_, (combineAndValidate operation arguments_ longer configuration).ok = true →
        (combineAndValidate operation arguments_ grants configuration).ok = true := by
  refine ⟨fun grants effective combined => ?_, fun _ _ _ _ combined => combineAndValidate_constraints combined,
    fun grants extra longer more => ⟨fun narrow combined => ?_, fun operation arguments_ permitted => ?_⟩⟩
  · obtain ⟨resource, values, read, each, rfl⟩ := combine_ok combined
    exact effective_meet (parsed_each read each)
  · obtain ⟨wide, fewer, narrower⟩ := combine_fewer more combined
    exact ⟨wide, fewer, fun path permitted => narrower.permits permitted⟩
  · obtain ⟨narrow, combined, nothing⟩ := combineAndValidate_ok.mp permitted
    obtain ⟨wide, fewer, narrower⟩ := combine_fewer more combined
    exact combineAndValidate_ok.mpr ⟨wide, fewer, narrower.refusals nothing⟩

def sourceGrant : Record := [("allowedPathPrefixes", .array [.string "src"]), ("maxDepth", .number 4)]

def applicationGrant : Record :=
  [("allowedPathPrefixes", .array [.string "docs", .string "src/app"]),
    ("deniedPathPrefixes", .array [.string "src/app/secrets"])]

theorem combination_meets_source :
    (∃ effective, combine [applicationGrant, sourceGrant] [] = .ok effective ∧
      classifyAllowedPath "src/app/main.ts" effective.allowedPathPrefixes = .insideAllowed) ∧
    (combineAndValidate "filesystem.read" [("path", .string "src/app/main.ts")] [sourceGrant] []).ok = true := by
  obtain ⟨meets, -, fewer⟩ := combination_meets []
  refine ⟨⟨_, rfl, ((meets [applicationGrant, sourceGrant] _ rfl).allowed "src/app/main.ts").mpr ?_⟩, ?_⟩
  · intro record member declared found
    simp only [List.mem_cons, List.not_mem_nil, or_false] at member
    rcases member with rfl | rfl | rfl
    · cases found
    · cases found; exact ⟨"src/app", by decide, by decide⟩
    · cases found; exact ⟨"src", by decide, by decide⟩
  · exact (fewer [sourceGrant] applicationGrant [applicationGrant, sourceGrant] (.refl _)).2 _ _ (by rfl)

/-- A limit above the one of the connector is not the limit that holds. -/
theorem combination_keeps_hard_limit :
    ∃ effective, combine [[]] [("maxDepth", .number 100)] = .ok effective ∧
      ¬IsLeast {limit | ∃ record ∈ [[("maxDepth", Value.number 100)], []],
        asMaximum (Record.get record MaximumField.maxDepth.text) = some limit} (effective.maximum .maxDepth) := by
  refine ⟨_, rfl, fun least => ?_⟩
  obtain ⟨record, member, declared⟩ := least.1
  simp only [List.mem_cons, List.not_mem_nil, or_false] at member
  rcases member with rfl | rfl
  · have hundred : asMaximum (Record.get [("maxDepth", Value.number 100)] MaximumField.maxDepth.text) = some 100 := by
      rfl
    rw [hundred] at declared
    exact absurd declared (by decide)
  · cases declared

end AiOffice.Connector.Filesystem
