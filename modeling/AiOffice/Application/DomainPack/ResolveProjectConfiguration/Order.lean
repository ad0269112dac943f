import AiOffice.Application.DomainPack.ResolveProjectConfiguration.Views

namespace AiOffice.Application.DomainPack

open Data Outcome Domain DomainPackContracts

def CheckedOverride.effectiveId (override : CheckedOverride) : EffectiveId :=
  .pack override.source.toDomainPackDependency override.source.kind override.source.localId

variable {input other : ConfigurationInput} {source : EffectiveSource} {closure : List DomainPackManifest}
  {definitions later : List ResolvedDefinition} {definition current next : ResolvedDefinition} {pack : PackIdentity}
  {selected : List PackIdentity} {owned : List CheckedDefinition} {entry : CheckedDefinition}
  {overrides : List CheckedOverride} {override : CheckedOverride} {name : EffectiveId}

theorem refuseIf_ok {condition : Bool} {code : ConfigurationIssueCode} {message : String} {done : Unit}
    (passed : refuseIf condition code message = .ok done) : condition = false := by
  cases condition with
  | false => rfl
  | true => cases passed

def idsOf (definitions : List ResolvedDefinition) : List EffectiveId := definitions.map ResolvedDefinition.effectiveId

theorem findDefinition_found (found : findDefinition definitions name = some definition) :
    definition ∈ definitions ∧ definition.effectiveId = name :=
  ⟨List.mem_of_find?_eq_some found, by simpa using List.find?_some found⟩

theorem findDefinition_none : findDefinition definitions name = none ↔ name ∉ idsOf definitions := by
  simp [findDefinition, idsOf]

theorem addDefinition_ok (added : addDefinition definitions definition = .ok later) :
    later = definitions ++ [definition] ∧ definition.effectiveId ∉ idsOf definitions := by
  unfold addDefinition at added
  split at added
  · cases added
  · next absent =>
    cases added
    rw [Bool.not_eq_true, Option.isSome_eq_false_iff, Option.isNone_iff_eq_none, findDefinition_none] at absent
    exact ⟨rfl, absent⟩

theorem addDefinitions_ok {more : List ResolvedDefinition} (added : more.foldlM addDefinition definitions = .ok later) :
    later = definitions ++ more ∧ ((idsOf definitions).Nodup → (idsOf later).Nodup) := by
  induction more generalizing definitions with
  | nil =>
    cases added
    exact ⟨(List.append_nil _).symm, id⟩
  | cons definition more ih =>
    rw [List.foldlM_cons] at added
    obtain ⟨middle, first, rest⟩ := bind_ok added
    obtain ⟨rfl, fresh⟩ := addDefinition_ok first
    obtain ⟨rfl, unique⟩ := ih rest
    refine ⟨by simp, fun distinct => unique ?_⟩
    rw [idsOf, List.map_append, List.nodup_append']
    exact ⟨distinct, List.nodup_singleton _, by simpa [idsOf] using fresh⟩

theorem addPack_ok (added : addPack closure definitions pack = .ok later) :
    ∃ manifest, manifestOf closure pack = some manifest ∧ later = definitions ++ packDefinitions pack manifest ∧
      ((manifest.contributions .policies).any fun policy => policy.workflow.isNone) = false ∧
      ((idsOf definitions).Nodup → (idsOf later).Nodup) := by
  unfold addPack at added
  cases found : manifestOf closure pack with
  | none => simp [found, invariant, failure] at added
  | some manifest =>
    simp only [found] at added
    obtain ⟨_, typed, added⟩ := bind_ok added
    obtain ⟨same, unique⟩ := addDefinitions_ok added
    exact ⟨manifest, rfl, same, refuseIf_ok typed, unique⟩

theorem addPacks_nodup {packs : List PackIdentity} (added : packs.foldlM (addPack closure) definitions = .ok later)
    (unique : (idsOf definitions).Nodup) : (idsOf later).Nodup := by
  induction packs generalizing definitions with
  | nil =>
    cases added
    exact unique
  | cons pack packs ih =>
    rw [List.foldlM_cons] at added
    obtain ⟨middle, first, rest⟩ := bind_ok added
    obtain ⟨_, -, -, -, kept⟩ := addPack_ok first
    exact ih rest (kept unique)

theorem addOwned_ok (added : addOwned definitions entry = .ok later) :
    later = definitions ++ [entry.resolved] ∧ entry.resolved.effectiveId ∉ idsOf definitions := by
  obtain ⟨_, -, added⟩ := bind_ok added
  obtain ⟨_, -, added⟩ := bind_ok added
  exact addDefinition_ok added

theorem addAllOwned_ok (added : owned.foldlM addOwned definitions = .ok later) :
    later = definitions ++ owned.map CheckedDefinition.resolved ∧ ((idsOf definitions).Nodup → (idsOf later).Nodup) := by
  induction owned generalizing definitions with
  | nil =>
    cases added
    exact ⟨(List.append_nil _).symm, id⟩
  | cons entry owned ih =>
    rw [List.foldlM_cons] at added
    obtain ⟨middle, first, rest⟩ := bind_ok added
    obtain ⟨rfl, fresh⟩ := addOwned_ok first
    obtain ⟨rfl, unique⟩ := ih rest
    refine ⟨by simp, fun distinct => unique ?_⟩
    rw [idsOf, List.map_append, List.nodup_append']
    exact ⟨distinct, List.nodup_singleton _, by simpa [idsOf] using fresh⟩

theorem checkedOrder_eq {other : CheckedDefinition} (same : checkedOrder entry = checkedOrder other) :
    entry.resolved.effectiveId = other.resolved.effectiveId := by
  simp only [checkedOrder, List.cons.injEq, and_true] at same
  obtain ⟨kind, localId⟩ := same
  have kinds := ContributionKind.name_injective (codeUnits_injective kind)
  have ids := codeUnits_injective localId
  simp [CheckedDefinition.resolved, kinds, ids]

theorem addAllOwned_keys (added : owned.foldlM addOwned definitions = .ok later) (unique : (idsOf definitions).Nodup) :
    ∀ left ∈ owned, ∀ right ∈ owned, checkedOrder left = checkedOrder right → left = right := by
  obtain ⟨rfl, kept⟩ := addAllOwned_ok added
  have distinct := kept unique
  rw [idsOf, List.map_append, List.nodup_append', List.map_map] at distinct
  intro left inLeft right inRight same
  exact List.inj_on_of_nodup_map distinct.2.1 inLeft inRight (checkedOrder_eq same)

theorem overrideDefinition_id {operation : OverrideOperation} {payload : Option DefinitionPayload}
    (overridden : overrideDefinition current operation payload = .ok next) : next.effectiveId = current.effectiveId := by
  unfold overrideDefinition at overridden
  split at overridden
  · cases overridden
    rfl
  · cases overridden
    rfl
  · split at overridden
    · cases overridden
      rfl
    · cases overridden
  · cases overridden

theorem applyOverride_ok (applied : applyOverride selected definitions override = .ok later) :
    selectedById selected override.source.id = some override.source.toDomainPackDependency ∧
    ∃ current next, findDefinition definitions override.effectiveId = some current ∧
      current.provenance.operation = none ∧
      overrideDefinition current override.operation override.payload = .ok next ∧
      later = replaceIn definitions { next with provenance := .packOwned (some (override.operation, override.revision)) } := by
  unfold applyOverride at applied
  dsimp only at applied
  split at applied
  · cases applied
  · next isSelected =>
    refine ⟨not_not.mp isSelected, ?_⟩
    cases found : findDefinition definitions override.effectiveId with
    | none =>
      rw [CheckedOverride.effectiveId] at found
      simp only [found] at applied
      cases applied
    | some current =>
      rw [CheckedOverride.effectiveId] at found
      simp only [found] at applied
      obtain ⟨_, fresh, applied⟩ := bind_ok applied
      obtain ⟨next, overridden, applied⟩ := bind_ok applied
      cases applied
      have untouched := refuseIf_ok fresh
      rw [Option.isSome_eq_false_iff, Option.isNone_iff_eq_none] at untouched
      exact ⟨current, next, rfl, untouched, overridden, rfl⟩

theorem findDefinition_replaceIn : findDefinition (replaceIn definitions next) name =
    (findDefinition definitions name).map fun definition =>
      if definition.effectiveId = next.effectiveId then next else definition := by
  have same : ((fun definition : ResolvedDefinition => decide (definition.effectiveId = name)) ∘
      fun definition => if definition.effectiveId = next.effectiveId then next else definition) =
      fun definition => decide (definition.effectiveId = name) := by
    funext definition
    rw [Function.comp_apply]
    split
    · next equal => rw [equal]
    · rfl
  rw [findDefinition, replaceIn, List.find?_map, same, findDefinition]

def isOverridden (definitions : List ResolvedDefinition) (name : EffectiveId) : Prop :=
  ∃ definition, findDefinition definitions name = some definition ∧ definition.provenance.operation ≠ none

theorem applyOverride_overridden (applied : applyOverride selected definitions override = .ok later) :
    ¬isOverridden definitions override.effectiveId ∧ isOverridden later override.effectiveId ∧
      ∀ name, isOverridden definitions name → isOverridden later name := by
  obtain ⟨-, current, next, found, untouched, overridden, rfl⟩ := applyOverride_ok applied
  have named := (findDefinition_found found).2
  have same := overrideDefinition_id overridden
  refine ⟨?_, ?_, ?_⟩
  · rintro ⟨definition, foundAgain, touched⟩
    rw [found] at foundAgain
    cases foundAgain
    exact touched untouched
  · refine ⟨{ next with provenance := .packOwned (some (override.operation, override.revision)) }, ?_, nofun⟩
    rw [findDefinition_replaceIn, found, Option.map_some, if_pos same.symm]
  · rintro name ⟨definition, known, touched⟩
    unfold isOverridden
    rw [findDefinition_replaceIn, known, Option.map_some]
    split
    · exact ⟨_, rfl, nofun⟩
    · exact ⟨definition, rfl, touched⟩

theorem applyOverrides_nodup (applied : overrides.foldlM (applyOverride selected) definitions = .ok later) :
    (overrides.map CheckedOverride.effectiveId).Nodup ∧
      ∀ override ∈ overrides, ¬isOverridden definitions override.effectiveId := by
  induction overrides generalizing definitions with
  | nil => simp
  | cons override overrides ih =>
    rw [List.foldlM_cons] at applied
    obtain ⟨middle, first, rest⟩ := bind_ok applied
    obtain ⟨free, now, kept⟩ := applyOverride_overridden first
    obtain ⟨unique, others⟩ := ih rest
    constructor
    · rw [List.map_cons, List.nodup_cons]
      refine ⟨fun again => ?_, unique⟩
      obtain ⟨second, member, same⟩ := List.mem_map.mp again
      exact others second member (same ▸ now)
    · intro other member
      rcases List.mem_cons.mp member with rfl | member
      · exact free
      · exact fun before => others other member (kept _ before)

theorem sourceOrder_eq {left right : ExactPackDefinitionSource} (same : sourceOrder left = sourceOrder right) :
    left = right := by
  simp only [sourceOrder, List.cons.injEq, and_true] at same
  obtain ⟨id, version, digest, kind, localId⟩ := same
  obtain ⟨⟨_, _, _⟩, _, _⟩ := left
  obtain ⟨⟨_, _, _⟩, _, _⟩ := right
  obtain rfl := codeUnits_injective id
  obtain rfl := codeUnits_injective version
  obtain rfl := codeUnits_injective digest
  obtain rfl := ContributionKind.name_injective (codeUnits_injective kind)
  obtain rfl := codeUnits_injective localId
  rfl

theorem applyOverrides_keys (applied : overrides.foldlM (applyOverride selected) definitions = .ok later) :
    ∀ left ∈ overrides, ∀ right ∈ overrides, sourceOrder left.source = sourceOrder right.source → left = right := by
  intro left inLeft right inRight same
  refine List.inj_on_of_nodup_map (applyOverrides_nodup applied).1 inLeft inRight ?_
  rw [CheckedOverride.effectiveId, CheckedOverride.effectiveId, sourceOrder_eq same]

theorem mapError_ok {Error Other Result : Type} {computed : Except Error Result} {result : Result}
    (change : Error → Other) : computed.mapError change = .ok result ↔ computed = .ok result := by
  cases computed <;> simp [Except.mapError]

/-- An input with its packs, its definitions and its overrides in another order. -/
def ConfigurationInput.reordered (input : ConfigurationInput) (packs : List PackIdentity)
    (owned : List ProjectOwnedDefinition) (overrides : List ProjectDefinitionOverride) : ConfigurationInput :=
  { input with
    binding := { input.binding with packs }
    definitions := { input.definitions with owned, overrides } }

theorem effectiveSource_perm {packs : List PackIdentity} {stored : List ProjectOwnedDefinition}
    {changes : List ProjectDefinitionOverride} (samePacks : input.binding.packs.Perm packs)
    (sameOwned : input.definitions.owned.Perm stored) (sameOverrides : input.definitions.overrides.Perm changes)
    (resolved : effectiveSource input = .ok source) :
    effectiveSource (input.reordered packs stored changes) = .ok source := by
  obtain ⟨_, checks, resolved⟩ := bind_ok resolved
  obtain ⟨closure, closed, resolved⟩ := bind_ok resolved
  obtain ⟨_, distinct, resolved⟩ := bind_ok resolved
  obtain ⟨ofPacks, packsAdded, resolved⟩ := bind_ok resolved
  obtain ⟨checkedOwned, ownedChecked, resolved⟩ := bind_ok resolved
  obtain ⟨withOwned, ownedAdded, resolved⟩ := bind_ok resolved
  obtain ⟨checkedOverrides, overridesChecked, resolved⟩ := bind_ok resolved
  obtain ⟨definitions, overridden, resolved⟩ := bind_ok resolved
  cases resolved
  obtain ⟨ownedAgain, returnedOwned, permutedOwned⟩ := Outcome.mapM_perm sameOwned ownedChecked
  obtain ⟨overridesAgain, returnedOverrides, permutedOverrides⟩ := Outcome.mapM_perm sameOverrides overridesChecked
  have closedAgain := (mapError_ok packFailure).mpr (closure_perm samePacks ((mapError_ok _).mp closed))
  have ownedKeys : sortOn checkedOrder checkedOwned = sortOn checkedOrder ownedAgain :=
    sortOn_eq_of_keys (fun left inLeft right inRight =>
      addAllOwned_keys ownedAdded (addPacks_nodup packsAdded List.nodup_nil) left (mem_sortOn.mpr inLeft) right
        (mem_sortOn.mpr inRight)) permutedOwned
  have overrideKeys : sortOn (fun entry : CheckedOverride => sourceOrder entry.source) checkedOverrides =
      sortOn (fun entry => sourceOrder entry.source) overridesAgain :=
    sortOn_eq_of_keys (fun left inLeft right inRight =>
      applyOverrides_keys overridden left (mem_sortOn.mpr inLeft) right (mem_sortOn.mpr inRight)) permutedOverrides
  have selected : sortedPacks input.binding.packs = sortedPacks packs := sortOn_eq packOrder_injective samePacks
  have unique : packs.Nodup := samePacks.nodup (by simpa using refuseIf_ok distinct)
  rw [ownedKeys] at ownedAdded ⊢
  rw [overrideKeys, selected] at overridden
  rw [overrideKeys, selected]
  have checksAgain : checkInput (input.reordered packs stored changes) = .ok _ := checks
  rw [effectiveSource, bind_returns checksAgain]
  simp only [ConfigurationInput.reordered, bind_returns closedAgain, bind_returns packsAdded, bind_returns returnedOwned, bind_returns ownedAdded,
    bind_returns returnedOverrides, bind_returns overridden,
    unique, decide_true, Bool.not_true]
  rfl

theorem resolve_reordered {digest : ConfigurationMaterial → Option String} {result : ResolvedProjectConfiguration}
    {packs : List PackIdentity} {stored : List ProjectOwnedDefinition} {changes : List ProjectDefinitionOverride}
    (samePacks : input.binding.packs.Perm packs) (sameOwned : input.definitions.owned.Perm stored)
    (sameOverrides : input.definitions.overrides.Perm changes)
    (resolved : resolveProjectConfiguration digest input = .ok result) :
    resolveProjectConfiguration digest (input.reordered packs stored changes) = .ok result := by
  obtain ⟨source, sourced, rest⟩ := bind_ok resolved
  have again := effectiveSource_perm samePacks sameOwned sameOverrides sourced
  exact (bind_returns again).trans rest

/-- The order of the selected packs, of the definitions and of the overrides makes no difference to a configuration. -/
theorem resolveProjectConfiguration_perm (digest : ConfigurationMaterial → Option String) {packs : List PackIdentity}
    {stored : List ProjectOwnedDefinition} {changes : List ProjectDefinitionOverride}
    (samePacks : input.binding.packs.Perm packs) (sameOwned : input.definitions.owned.Perm stored)
    (sameOverrides : input.definitions.overrides.Perm changes) :
    (resolveProjectConfiguration digest (input.reordered packs stored changes)).toOption =
      (resolveProjectConfiguration digest input).toOption := by
  have sameResults (result : ResolvedProjectConfiguration) :
      resolveProjectConfiguration digest (input.reordered packs stored changes) = .ok result ↔
        resolveProjectConfiguration digest input = .ok result := by
    constructor
    · intro resolved
      have back : (input.reordered packs stored changes).binding.packs.Perm input.binding.packs := samePacks.symm
      have restored := resolve_reordered back sameOwned.symm sameOverrides.symm resolved
      exact restored
    · exact resolve_reordered samePacks sameOwned sameOverrides
  cases before : resolveProjectConfiguration digest input with
  | ok result => rw [(sameResults result).mpr before]
  | error issue =>
    cases after : resolveProjectConfiguration digest (input.reordered packs stored changes) with
    | error other => rfl
    | ok result =>
      rw [(sameResults result).mp after] at before
      cases before

def contributed (localId : String) (payload : DefinitionPayload) (same : payload.id = some localId) : Contribution :=
  { payload.definition with localId, named := same }

def writingContributions : DomainPackContributions
  | .roles => [contributed "writer" { describing (some "writer") none none with capabilities := some ["search"] } rfl]
  | .agents => [contributed "editor"
      { describing (some "editor") none none with role := some "writer", capabilities := some ["search"] } rfl]
  | .capabilities => [contributed "search" (describing (some "search") none none) rfl]
  | _ => []

def writingPack : DomainPackManifest where
  id := "com.writing"
  version := "1.0.0"
  manifestDigest := "sha256:0000000000000000000000000000000000000000000000000000000000000000"
  dependencies := []
  contributions := writingContributions
  valid := { unique := by intro kind; cases kind <;> decide, governed := .nil }

def reviewingPack : DomainPackManifest := { writingPack with id := "com.reviewing" }

def installedPack (manifest : DomainPackManifest) : InstalledPack := ⟨manifest.id, manifest.version, .ok manifest⟩

def disabledEditor (manifest : DomainPackManifest) : ProjectDefinitionOverride :=
  ⟨⟨manifest.identity, .agents, "editor"⟩, .disable, 1, none, "actor", "2026-01-01T00:00:00.000Z"⟩

def twoPacks (overrides : List ProjectDefinitionOverride) : ConfigurationInput where
  projectId := "project"
  binding := ⟨"project", 1, [writingPack.identity, reviewingPack.identity]⟩
  definitions := ⟨"project", 1, [], overrides⟩
  catalog := ⟨1, [installedPack writingPack, installedPack reviewingPack]⟩
  coreContractVersion := 1
  providers := none
  bindProviders := false

/-- Two packs and two overrides, in both orders. -/
theorem resolveProjectConfiguration_perm_twoPacks :
    (resolveProjectConfiguration (fun _ => some "digest")
      ((twoPacks [disabledEditor writingPack, disabledEditor reviewingPack]).reordered
        [reviewingPack.identity, writingPack.identity] [] [disabledEditor reviewingPack, disabledEditor writingPack])).toOption =
      (resolveProjectConfiguration (fun _ => some "digest")
        (twoPacks [disabledEditor writingPack, disabledEditor reviewingPack])).toOption :=
  resolveProjectConfiguration_perm (fun _ => some "digest") (List.Perm.swap _ _ []) .nil (List.Perm.swap _ _ [])

end AiOffice.Application.DomainPack
