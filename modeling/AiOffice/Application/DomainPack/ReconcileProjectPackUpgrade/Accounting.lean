import AiOffice.Application.DomainPack.ManageProjectPackBinding.Commits
import AiOffice.Application.DomainPack.ReconcileProjectPackUpgrade

namespace AiOffice.Application.DomainPack

open Data Domain DomainPackContracts Storage.ProjectConfiguration

section Aligned

variable {Left Right Result : Type} {related : Left → Right → Prop} {lefts : List Left} {rights : List Right}

theorem aligned_map {first : Left → Result} {second : Right → Result} (aligned : List.Forall₂ related lefts rights)
    (same : ∀ left right, related left right → first left = second right) : lefts.map first = rights.map second := by
  induction aligned with
  | nil => rfl
  | cons related _ ih => rw [List.map_cons, List.map_cons, same _ _ related, ih]

theorem aligned_mem {left : Left} (aligned : List.Forall₂ related lefts rights) (member : left ∈ lefts) :
    ∃ right ∈ rights, related left right := by
  induction aligned with
  | nil => cases member
  | cons first _ ih =>
    rcases List.mem_cons.mp member with rfl | later
    · exact ⟨_, List.mem_cons_self, first⟩
    · obtain ⟨right, inRest, found⟩ := ih later
      exact ⟨right, List.mem_cons_of_mem _ inRest, found⟩

theorem aligned_filterMap {first : Left → Option Result} {second : Right → Option Result}
    (aligned : List.Forall₂ related lefts rights)
    (same : ∀ left, ∀ right ∈ rights, related left right → first left = second right) :
    lefts.filterMap first = rights.filterMap second := by
  induction aligned with
  | nil => rfl
  | cons related _ ih =>
    rw [List.filterMap_cons, List.filterMap_cons, same _ _ List.mem_cons_self related,
      ih fun left right member => same left right (List.mem_cons_of_mem _ member)]

theorem aligned_pairwise {apart : Left → Left → Prop} {differ : Right → Right → Prop}
    (aligned : List.Forall₂ related lefts rights) (pairs : lefts.Pairwise apart)
    (carries : ∀ left ∈ lefts, ∀ other ∈ lefts, ∀ right next, related left right → related other next →
      apart left other → differ right next) : rights.Pairwise differ := by
  induction aligned with
  | nil => exact .nil
  | cons first rest ih =>
    rw [List.pairwise_cons] at pairs
    refine List.pairwise_cons.mpr ⟨fun right member => ?_, ih pairs.2 fun left inLeft other inOther =>
      carries left (List.mem_cons_of_mem _ inLeft) other (List.mem_cons_of_mem _ inOther)⟩
    obtain ⟨left, inLefts, related⟩ := aligned_mem rest.flip member
    exact carries _ List.mem_cons_self left (List.mem_cons_of_mem _ inLefts) _ _ first related (pairs.1 left inLefts)

end Aligned

namespace Reconciling

variable {context : Reconciling} {entry other : ProjectDefinitionOverride} {target : ExactPackDefinitionSource}
  {ownedKeys : List (ContributionKind × String)} {code : OverrideConflictCode}

/-- An override that follows its pack to a target that no other override takes. -/
structure Moves (context : Reconciling) (entry : ProjectDefinitionOverride) (target : ExactPackDefinitionSource) : Prop where
  stale : context.onSelected entry.source = false
  lands : context.retarget entry.source = some target
  free : context.hasOverride target = false
  alone : context.claimants target ≤ 1 ∨ context.standing target = 1 ∧ context.removes entry.source = false

/-- What became of an override without an issue: each outcome with what it needs. -/
inductive Settles (context : Reconciling) (entry : ProjectDefinitionOverride) :
    OverrideReconciliation → Option DefinitionPayload → Prop
  | unchanged {item : OverrideReconciliation} (named : item.source = entry.source)
      (outcome : item.outcome = .unchanged) (retained : item.retainedAs = none)
      (selected : context.onSelected entry.source = true) : Settles context entry item none
  | retargeted {item : OverrideReconciliation} {target : ExactPackDefinitionSource} (named : item.source = entry.source)
      (outcome : item.outcome = .retargeted) (retained : item.retainedAs = none) (targets : item.target = some target)
      (moves : context.Moves entry target) : Settles context entry item none
  | converted {item : OverrideReconciliation} {target : ExactPackDefinitionSource} {payload : DefinitionPayload}
      {resolution : OverrideResolution} (named : item.source = entry.source)
      (outcome : item.outcome = .convertedToReplace) (retained : item.retainedAs = none)
      (targets : item.target = some target) (moves : context.Moves entry target)
      (asked : context.resolutionOf entry.source = some resolution) (action : resolution.action = .convertToReplace) :
      Settles context entry item (some payload)
  | removed {item : OverrideReconciliation} {resolution : OverrideResolution} (named : item.source = entry.source)
      (outcome : item.outcome = .removed) (retained : item.retainedAs = none)
      (asked : context.resolutionOf entry.source = some resolution) (action : resolution.action = .removeOverride) :
      Settles context entry item none
  | retained {item : OverrideReconciliation} {payload : DefinitionPayload} {resolution : OverrideResolution}
      (named : item.source = entry.source) (outcome : item.outcome = .retainedAsProjectOwned)
      (retained : item.retainedAs = some (entry.source.kind, entry.source.localId))
      (complete : entry.payload = some payload) (asked : context.resolutionOf entry.source = some resolution)
      (action : resolution.action = .retainAsProjectOwned) : Settles context entry item none

theorem conflictOf_moves {target : ExactPackDefinitionSource} (stale : context.onSelected entry.source = false)
    (retarget : context.retarget entry.source = some target)
    (conflict : context.conflictOf entry = none ∨ context.conflictOf entry = some .extendConflict) :
    context.Moves entry target := by
  have next : (context.nextPack entry.source).isNone = false := by
    cases found : context.nextPack entry.source with
    | none => simp [Reconciling.retarget, found] at retarget
    | some pack => rfl
  unfold conflictOf at conflict
  rw [next, if_neg Bool.false_ne_true, retarget] at conflict
  dsimp only at conflict
  split at conflict
  · rcases conflict with conflict | conflict <;> cases conflict
  · next passed =>
    simp only [Bool.or_eq_true, Bool.and_eq_true, decide_eq_true_eq, not_or, not_and, Bool.not_eq_true] at passed
    refine ⟨stale, retarget, passed.1, ?_⟩
    by_cases alone : context.claimants target ≤ 1
    · exact .inl alone
    · have one := passed.2 (by omega)
      exact .inr ⟨by simpa using one.1, one.2⟩

/-- A disposition without an issue settles its override. -/
theorem resolve_settles {resolution : OverrideResolution} (stale : context.onSelected entry.source = false)
    (conflict : context.conflictOf entry = some code ∨ code = .sourceDefinitionRemoved)
    (asked : context.resolutionOf entry.source = some resolution)
    (clean : (context.resolve entry ownedKeys code resolution.action).issue = none) :
    Settles context entry (context.resolve entry ownedKeys code resolution.action).item
      (context.resolve entry ownedKeys code resolution.action).conversion := by
  cases action : resolution.action with
  | removeOverride => exact .removed rfl rfl rfl asked action
  | convertToReplace =>
    rw [action] at clean
    unfold resolve at clean ⊢
    dsimp only at clean ⊢
    split at clean
    · next target template payload retarget next complete =>
      refine .converted rfl rfl rfl rfl (conflictOf_moves stale retarget (.inr ?_)) asked action
      exact conflict.resolve_right nofun
    · cases clean
  | retainAsProjectOwned =>
    rw [action] at clean
    unfold resolve at clean ⊢
    dsimp only at clean ⊢
    cases refusal : context.retainRefusal entry ownedKeys with
    | some reason =>
      rw [refusal] at clean
      cases clean
    | none =>
      unfold retainRefusal at refusal
      split at refusal
      · cases refusal
      · next replaces =>
        simp only [Bool.or_eq_true, not_or, Bool.not_eq_true, Option.isNone_eq_false_iff] at replaces
        obtain ⟨payload, complete⟩ := Option.isSome_iff_exists.mp replaces.2
        exact .retained rfl rfl rfl complete asked action

theorem dispose_settles
    (closed : ∀ pack ∈ context.proposed, ∃ manifest, manifestOf (context.target.getD []) pack = some manifest)
    (clean : (context.dispose entry ownedKeys).issue = none) :
    Settles context entry (context.dispose entry ownedKeys).item (context.dispose entry ownedKeys).conversion := by
  have readable : ((context.nextPack entry.source).isSome && (context.nextManifest entry.source).isNone) = false := by
    cases found : context.nextPack entry.source with
    | none => rfl
    | some pack =>
      obtain ⟨manifest, known⟩ := closed pack (selectedById_mem found).1
      simp [nextManifest, found, known]
  unfold dispose at clean ⊢
  rw [readable] at clean ⊢
  cases stale : context.onSelected entry.source with
  | true => exact .unchanged rfl rfl rfl stale
  | false =>
    simp only [stale, Bool.false_eq_true, if_false] at clean ⊢
    split
    · next conflict retarget => exact .retargeted rfl rfl rfl rfl (conflictOf_moves stale retarget (.inl conflict))
    · next follows =>
      have conflicts : context.conflictOf entry = some ((context.conflictOf entry).getD .sourceDefinitionRemoved) ∨
          (context.conflictOf entry).getD .sourceDefinitionRemoved = .sourceDefinitionRemoved := by
        cases context.conflictOf entry with
        | none => exact .inr rfl
        | some code => exact .inl rfl
      split at clean
      · next conflict retarget => exact absurd retarget (follows _ conflict)
      · unfold disposeConflict at clean ⊢
        cases asked : context.resolutionOf entry.source with
        | none =>
          rw [asked] at clean
          cases clean
        | some resolution =>
          rw [asked] at clean
          exact resolve_settles stale conflicts asked clean

theorem resolve_fresh {action : OverrideResolutionAction} {key : ContributionKind × String}
    (taken : (context.resolve entry ownedKeys code action).item.retainedAs = some key) : key ∉ ownedKeys := by
  cases action with
  | removeOverride => cases taken
  | convertToReplace =>
    unfold resolve at taken
    dsimp only at taken
    split at taken <;> cases taken
  | retainAsProjectOwned =>
    unfold resolve at taken
    dsimp only at taken
    cases refusal : context.retainRefusal entry ownedKeys with
    | some reason =>
      rw [refusal] at taken
      cases taken
    | none =>
      rw [refusal] at taken
      cases taken
      unfold retainRefusal at refusal
      split at refusal
      · cases refusal
      · split at refusal
        · cases refusal
        · split at refusal
          · cases refusal
          · next fresh => simpa using fresh

theorem dispose_fresh {key : ContributionKind × String}
    (taken : (context.dispose entry ownedKeys).item.retainedAs = some key) : key ∉ ownedKeys := by
  unfold dispose at taken
  dsimp only at taken
  split at taken
  · cases taken
  · split at taken
    · cases taken
    · split at taken
      · cases taken
      · unfold disposeConflict at taken
        dsimp only at taken
        split at taken
        · cases taken
        · exact resolve_fresh taken

theorem disposeAll_fresh {entries : List ProjectDefinitionOverride} (unique : ownedKeys.Nodup) :
    ((context.disposeAll ownedKeys entries).filterMap (fun disposition => disposition.item.retainedAs) ++
      ownedKeys).Nodup := by
  induction entries generalizing ownedKeys with
  | nil => exact unique
  | cons entry entries ih =>
    rw [disposeAll]
    cases taken : (context.dispose entry ownedKeys).item.retainedAs with
    | none =>
      simp only [List.filterMap_cons, taken]
      exact ih unique
    | some key =>
      simp only [List.filterMap_cons, taken]
      have rest := @ih (key :: ownedKeys) (List.nodup_cons.mpr ⟨dispose_fresh taken, unique⟩)
      exact (List.perm_middle.nodup_iff).mp rest

theorem disposeAll_settles {entries : List ProjectDefinitionOverride}
    (closed : ∀ pack ∈ context.proposed, ∃ manifest, manifestOf (context.target.getD []) pack = some manifest)
    (clean : ∀ disposition ∈ context.disposeAll ownedKeys entries, disposition.issue = none) :
    List.Forall₂ (fun entry disposition => Settles context entry disposition.item disposition.conversion) entries
      (context.disposeAll ownedKeys entries) := by
  induction entries generalizing ownedKeys with
  | nil => exact .nil
  | cons entry entries ih =>
    rw [disposeAll] at clean ⊢
    exact .cons (dispose_settles closed (clean _ List.mem_cons_self))
      (ih fun disposition member => clean disposition (List.mem_cons_of_mem _ member))

theorem Settles.source {item : OverrideReconciliation} {conversion : Option DefinitionPayload}
    (settles : Settles context entry item conversion) : item.source = entry.source := by
  cases settles <;> assumption

/-- What a plan says of every override: an outcome that it settles with, under identities that are free. -/
structure Settled (context : Reconciling) (items : List OverrideReconciliation) (conversions : Conversions) : Prop where
  sources : (items.map OverrideReconciliation.source).Perm
    (context.definitions.overrides.map ProjectDefinitionOverride.source)
  each : ∀ entry ∈ context.definitions.overrides, ∃ item, outcomeOf items entry.source = some item ∧
    Settles context entry item (conversionOf conversions entry.source)
  retained : ((context.definitions.overrides.filterMap fun entry =>
    (outcomeOf items entry.source).bind OverrideReconciliation.retainedAs) ++
      context.definitions.owned.map fun item => (item.kind, item.id)).Nodup

theorem outcomeOf_item {items : List OverrideReconciliation} {item : OverrideReconciliation}
    (unique : (items.map OverrideReconciliation.source).Nodup) (member : item ∈ items) :
    outcomeOf items item.source = some item := find_reverse_keyed unique member

theorem conversionOf_disposition {dispositions : List Disposition} {disposition : Disposition}
    (unique : (dispositions.map fun disposition => disposition.item.source).Nodup) (member : disposition ∈ dispositions) :
    conversionOf (dispositions.filterMap fun disposition =>
      disposition.conversion.map fun payload => (disposition.item.source, payload)) disposition.item.source =
      disposition.conversion := by
  have keys : ((dispositions.filterMap fun disposition =>
      disposition.conversion.map fun payload => (disposition.item.source, payload)).map Prod.fst).Nodup := by
    refine keyed_filterMap (fun found result reads => ?_) unique
    obtain ⟨payload, -, rfl⟩ := Option.map_eq_some_iff.mp reads
    rfl
  unfold conversionOf
  cases converts : disposition.conversion with
  | some payload =>
    have listed : (disposition.item.source, payload) ∈ dispositions.filterMap fun disposition =>
        disposition.conversion.map fun payload => (disposition.item.source, payload) :=
      List.mem_filterMap.mpr ⟨disposition, member, by rw [converts]; rfl⟩
    rw [find_reverse_keyed keys listed]
    rfl
  | none =>
    rw [Option.map_eq_none_iff, List.find?_eq_none]
    intro found listed same
    obtain ⟨other, inDispositions, reads⟩ := List.mem_filterMap.mp (List.mem_reverse.mp listed)
    obtain ⟨payload, converted, rfl⟩ := Option.map_eq_some_iff.mp reads
    rw [keyed_eq unique member inDispositions (of_decide_eq_true same), converts] at converted
    cases converted

theorem dispositions_settled
    (closed : ∀ pack ∈ context.proposed, ∃ manifest, manifestOf (context.target.getD []) pack = some manifest)
    (uniqueSources : (context.definitions.overrides.map ProjectDefinitionOverride.source).Nodup)
    (uniqueOwned : (context.definitions.owned.map fun item => (item.kind, item.id)).Nodup)
    (clean : ∀ disposition ∈ context.dispositions, disposition.issue = none) :
    Settled context (context.dispositions.map Disposition.item) (context.dispositions.filterMap fun disposition =>
      disposition.conversion.map fun payload => (disposition.item.source, payload)) := by
  have settles := disposeAll_settles closed clean
  have sorted := sortOn_perm (fun entry : ProjectDefinitionOverride => sourceOrder entry.source) context.definitions.overrides
  change List.Forall₂ _ _ context.dispositions at settles
  have sources : context.dispositions.map (fun disposition => disposition.item.source) =
      (sortOn (fun entry => sourceOrder entry.source) context.definitions.overrides).map ProjectDefinitionOverride.source :=
    (aligned_map settles fun _ _ settled => settled.source.symm).symm
  have permuted : ((context.dispositions.map Disposition.item).map OverrideReconciliation.source).Perm
      (context.definitions.overrides.map ProjectDefinitionOverride.source) := by
    rw [List.map_map]
    exact (List.Perm.of_eq sources).trans (sorted.map _)
  have unique : (context.dispositions.map fun disposition => disposition.item.source).Nodup := by
    rw [sources]
    exact (sorted.map _).nodup_iff.mpr uniqueSources
  have uniqueItems := permuted.nodup_iff.mpr uniqueSources
  have outcomes : ∀ disposition ∈ context.dispositions,
      outcomeOf (context.dispositions.map Disposition.item) disposition.item.source = some disposition.item :=
    fun disposition member => outcomeOf_item uniqueItems (List.mem_map_of_mem member)
  refine ⟨permuted, fun entry member => ?_, ?_⟩
  · obtain ⟨disposition, inDispositions, settled⟩ := aligned_mem settles (sorted.mem_iff.mpr member)
    have outcome := outcomes disposition inDispositions
    have conversion := conversionOf_disposition unique inDispositions
    rw [settled.source] at outcome conversion
    exact ⟨disposition.item, outcome, conversion ▸ settled⟩
  · have fresh := @disposeAll_fresh context _ (sortOn (fun entry => sourceOrder entry.source) context.definitions.overrides)
      uniqueOwned
    have aligned : (sortOn (fun entry => sourceOrder entry.source) context.definitions.overrides).filterMap (fun entry =>
        (outcomeOf (context.dispositions.map Disposition.item) entry.source).bind OverrideReconciliation.retainedAs) =
        context.dispositions.filterMap fun disposition => disposition.item.retainedAs := by
      refine aligned_filterMap settles fun entry disposition member settled => ?_
      rw [← settled.source, outcomes disposition member]
      rfl
    refine ((sorted.filterMap _).append_right _).nodup_iff.mp ?_
    rw [aligned]
    exact fresh

/-- Where an override is after the upgrade: on its selected pack, or on the target that it moved to. -/
inductive Landed (context : Reconciling) (entry later : ProjectDefinitionOverride) : Prop
  | stays (same : later.source = entry.source) (selected : context.onSelected entry.source = true)
  | moved (moves : context.Moves entry later.source)

theorem hasOverride_of {source : ExactPackDefinitionSource} (member : entry ∈ context.definitions.overrides)
    (same : entry.source = source) : context.hasOverride source = true :=
  List.any_eq_true.mpr ⟨entry, member, by simpa using same⟩

theorem retarget_definition (lands : context.retarget entry.source = some target) :
    target.toDomainPackDependency ∈ context.proposed ∧ target.id = entry.source.id ∧ target.kind = entry.source.kind ∧
      target.localId = entry.source.localId := by
  obtain ⟨pack, next, retargets⟩ := Option.bind_eq_some_iff.mp lands
  obtain ⟨template, -, rfl⟩ := Option.map_eq_some_iff.mp retargets
  obtain ⟨member, named⟩ := selectedById_mem next
  exact ⟨member, named, rfl, rfl⟩

theorem two_counted {Item : Type} {holds : Item → Bool} {items : List Item} {first second : Item} (inFirst : first ∈ items)
    (inSecond : second ∈ items) (different : first ≠ second) (ofFirst : holds first = true) (ofSecond : holds second = true) :
    1 < items.countP holds := by
  rw [List.countP_eq_length_filter]
  have firstListed := List.mem_filter.mpr ⟨inFirst, ofFirst⟩
  have secondListed := List.mem_filter.mpr ⟨inSecond, ofSecond⟩
  cases found : items.filter holds with
  | nil =>
    rw [found] at firstListed
    cases firstListed
  | cons only others =>
    rw [found] at firstListed secondListed
    cases others with
    | nil =>
      rw [List.mem_singleton] at firstListed secondListed
      exact absurd (firstListed.trans secondListed.symm) different
    | cons next others => simp

/-- Two overrides never land on one target. -/
theorem landed_apart {firstLater secondLater : ProjectDefinitionOverride} (inFirst : entry ∈ context.definitions.overrides)
    (inSecond : other ∈ context.definitions.overrides) (different : entry.source ≠ other.source)
    (first : Landed context entry firstLater) (second : Landed context other secondLater) :
    firstLater.source ≠ secondLater.source := by
  intro same
  cases first with
  | stays stays _ =>
    cases second with
    | stays staysToo _ => exact different (stays.symm.trans (same.trans staysToo))
    | moved moves =>
      have taken := hasOverride_of inFirst (stays.symm.trans same)
      rw [moves.free] at taken
      cases taken
  | moved moves =>
    cases second with
    | stays staysToo _ =>
      have taken := hasOverride_of inSecond (staysToo.symm.trans same.symm)
      rw [moves.free] at taken
      cases taken
    | moved movesToo =>
      have apart : entry ≠ other := fun equal => different (congrArg ProjectDefinitionOverride.source equal)
      have firstClaims : context.claims entry firstLater.source = true := by simp [claims, moves.stale, moves.lands]
      have secondClaims : context.claims other firstLater.source = true := by
        simp [claims, movesToo.stale, movesToo.lands, same]
      have many : 1 < context.claimants firstLater.source :=
        two_counted inFirst inSecond apart firstClaims secondClaims
      -- of several claimants only the one that no resolution removes may land
      obtain ⟨one, keeps⟩ := moves.alone.resolve_left (by omega)
      obtain ⟨-, keepsToo⟩ := movesToo.alone.resolve_left (by rw [← same]; omega)
      have standing : 1 < context.standing firstLater.source :=
        two_counted inFirst inSecond apart (by rw [firstClaims, keeps]; rfl) (by rw [secondClaims, keepsToo]; rfl)
      omega

theorem landed_selected {later : ProjectDefinitionOverride} (landed : Landed context entry later) :
    later.source.toDomainPackDependency ∈ context.proposed := by
  cases landed with
  | stays same selected => exact same ▸ List.contains_iff_mem.mp selected
  | moved moves => exact (retarget_definition moves.lands).1

theorem resolutionOf_mem {resolution : OverrideResolution} {source : ExactPackDefinitionSource}
    (asked : context.resolutionOf source = some resolution) : ⟨source, resolution.action⟩ ∈ context.resolutions := by
  have member := List.mem_reverse.mp (List.mem_of_find?_eq_some asked)
  have named : resolution.source = source := by simpa using List.find?_some asked
  rw [← named]
  exact member

end Reconciling

/-- What becomes of an override in the definitions after an upgrade. -/
inductive Fate (resolutions : List OverrideResolution) (actorId changedAt : String) (entry : ProjectDefinitionOverride)
    (item : OverrideReconciliation) (result : ProjectDefinitionState) : Prop
  | unchanged (outcome : item.outcome = .unchanged) (kept : entry ∈ result.overrides)
  | retargeted (target : ExactPackDefinitionSource) (outcome : item.outcome = .retargeted)
      (targets : item.target = some target)
      (definition : target.id = entry.source.id ∧ target.kind = entry.source.kind ∧ target.localId = entry.source.localId)
      (kept : { entry with source := target } ∈ result.overrides)
  | converted (target : ExactPackDefinitionSource) (payload : DefinitionPayload) (outcome : item.outcome = .convertedToReplace)
      (asked : ⟨entry.source, .convertToReplace⟩ ∈ resolutions)
      (kept : ⟨target, .replace, entry.revision + 1, some payload, actorId, changedAt⟩ ∈ result.overrides)
  | removed (outcome : item.outcome = .removed) (asked : ⟨entry.source, .removeOverride⟩ ∈ resolutions)
  | retained (payload : DefinitionPayload) (outcome : item.outcome = .retainedAsProjectOwned)
      (asked : ⟨entry.source, .retainAsProjectOwned⟩ ∈ resolutions) (complete : entry.payload = some payload)
      (kept : ⟨entry.source.kind, entry.source.localId, 1, true, { payload with id := some entry.source.localId }, actorId,
        changedAt⟩ ∈ result.owned)

/-- The definitions after an upgrade: nothing of the current ones is lost, and nothing meets at one key. -/
structure NothingLost (current : ProjectDefinitionState) (selected : List PackIdentity)
    (resolutions : List OverrideResolution) (items : List OverrideReconciliation) (actorId changedAt : String)
    (result : ProjectDefinitionState) : Prop where
  fates : ∀ entry ∈ current.overrides, ∃ item ∈ items, item.source = entry.source ∧
    Fate resolutions actorId changedAt entry item result
  sources : (result.overrides.map ProjectDefinitionOverride.source).Nodup
  selected : ∀ later ∈ result.overrides, later.source.toDomainPackDependency ∈ selected
  ownedKeys : (result.owned.map fun item => (item.kind, item.id)).Nodup
  untouched : ∀ item ∈ current.owned, item ∈ result.owned

open Reconciling

section Reconciled

variable {context : Reconciling} {items : List OverrideReconciliation} {conversions : Conversions}
  {actorId changedAt : String} {entry : ProjectDefinitionOverride} {item : OverrideReconciliation}

theorem kept_settled (settles : Settles context entry item (conversionOf conversions entry.source)) :
    ∃ later, keptOverride conversions actorId changedAt (some item) entry = .ok later ∧
      ∀ kept ∈ later, Landed context entry kept := by
  generalize converts : conversionOf conversions entry.source = conversion at settles
  cases settles with
  | unchanged _ outcome _ selected =>
    refine ⟨some entry, by simp [keptOverride, outcome], fun kept same => ?_⟩
    exact Option.mem_some_iff.mp same ▸ .stays rfl selected
  | @retargeted target _ outcome _ targets moves =>
    refine ⟨some { entry with source := target }, by simp only [keptOverride, outcome, targets], fun kept same => ?_⟩
    exact Option.mem_some_iff.mp same ▸ .moved moves
  | @converted target payload _ _ outcome _ targets moves _ _ =>
    refine ⟨some ⟨target, .replace, entry.revision + 1, some payload, actorId, changedAt⟩, ?_, fun kept same => ?_⟩
    · simp only [keptOverride, outcome, targets, converts]
    · exact Option.mem_some_iff.mp same ▸ .moved moves
  | removed _ outcome _ _ _ => exact ⟨none, by simp only [keptOverride, outcome], by simp⟩
  | retained _ outcome _ _ _ _ => exact ⟨none, by simp only [keptOverride, outcome], by simp⟩

theorem reconciledDefinitions_returned (settled : Settled context items conversions) :
    ∃ kept, context.definitions.overrides.mapM (fun entry =>
        keptOverride conversions actorId changedAt (outcomeOf items entry.source) entry) = .ok kept ∧
      reconciledDefinitions context.definitions items conversions actorId changedAt = .ok { context.definitions with
        owned := sortOn ownedOrder (context.definitions.owned ++ context.definitions.overrides.filterMap fun entry =>
          retainedDefinition actorId changedAt (outcomeOf items entry.source) entry)
        overrides := sortOn (fun entry => sourceOrder entry.source) (kept.filterMap id) } := by
  have each : ∀ entry ∈ context.definitions.overrides, ∃ later,
      keptOverride conversions actorId changedAt (outcomeOf items entry.source) entry = .ok later := by
    intro entry member
    obtain ⟨item, outcome, settles⟩ := settled.each entry member
    obtain ⟨later, keeps, -⟩ := @kept_settled context conversions actorId changedAt entry item settles
    exact ⟨later, by rw [outcome]; exact keeps⟩
  obtain ⟨kept, returned⟩ := Outcome.mapM_total each
  exact ⟨kept, returned, Outcome.bind_returns returned⟩

theorem retained_keys (settled : Settled context items conversions) :
    (context.definitions.overrides.filterMap fun entry =>
      retainedDefinition actorId changedAt (outcomeOf items entry.source) entry).map (fun item => (item.kind, item.id)) =
      context.definitions.overrides.filterMap fun entry =>
        (outcomeOf items entry.source).bind OverrideReconciliation.retainedAs := by
  rw [List.map_filterMap]
  refine List.filterMap_congr fun entry member => ?_
  obtain ⟨item, outcome, settles⟩ := settled.each entry member
  generalize conversionOf conversions entry.source = conversion at settles
  rw [outcome, Option.bind_some]
  cases settles with
  | unchanged _ outcome retained _ => simp [retainedDefinition, outcome, retained]
  | retargeted _ outcome retained _ _ => simp [retainedDefinition, outcome, retained]
  | converted _ outcome retained _ _ _ _ => simp [retainedDefinition, outcome, retained]
  | removed _ outcome retained _ _ => simp [retainedDefinition, outcome, retained]
  | retained _ outcome retained complete _ _ => simp [retainedDefinition, outcome, retained, complete]

theorem outcomeOf_mem {source : ExactPackDefinitionSource} (outcome : outcomeOf items source = some item) :
    item ∈ items ∧ item.source = source :=
  ⟨List.mem_reverse.mp (List.mem_of_find?_eq_some outcome), by simpa using List.find?_some outcome⟩

theorem asked_resolution {resolution : OverrideResolution} {action : OverrideResolutionAction}
    (asked : context.resolutionOf entry.source = some resolution) (same : resolution.action = action) :
    ⟨entry.source, action⟩ ∈ context.resolutions := same ▸ resolutionOf_mem asked

/-- Definitions that follow settled outcomes lose nothing. -/
theorem settled_nothingLost (settled : Settled context items conversions)
    (uniqueSources : (context.definitions.overrides.map ProjectDefinitionOverride.source).Nodup) :
    ∃ state, reconciledDefinitions context.definitions items conversions actorId changedAt = .ok state ∧
      NothingLost context.definitions context.proposed context.resolutions items actorId changedAt state := by
  obtain ⟨kept, computed, returned⟩ := @reconciledDefinitions_returned context items conversions actorId changedAt settled
  refine ⟨_, returned, ?_⟩
  have keptOf : ∀ entry ∈ context.definitions.overrides, ∀ later,
      keptOverride conversions actorId changedAt (outcomeOf items entry.source) entry = .ok (some later) →
      later ∈ sortOn (fun entry => sourceOrder entry.source) (kept.filterMap id) := by
    intro entry member later keeps
    obtain ⟨result, inKept, computes⟩ := Outcome.mapM_covers computed member
    obtain rfl := Except.ok.inj (computes.symm.trans keeps)
    exact mem_sortOn.mpr (List.mem_filterMap.mpr ⟨some later, inKept, rfl⟩)
  have lands : ∀ entry ∈ context.definitions.overrides, ∀ later,
      keptOverride conversions actorId changedAt (outcomeOf items entry.source) entry = .ok (some later) →
      Landed context entry later := by
    intro entry member later keeps
    obtain ⟨item, outcome, settles⟩ := settled.each entry member
    obtain ⟨result, keepsItem, landed⟩ := @kept_settled context conversions actorId changedAt entry item settles
    rw [outcome, keepsItem] at keeps
    exact landed later (Except.ok.inj keeps)
  refine ⟨fun entry member => ?_, ?_, fun later member => ?_, ?_, fun item member => ?_⟩
  · obtain ⟨item, outcome, settles⟩ := settled.each entry member
    refine ⟨item, (outcomeOf_mem outcome).1, (outcomeOf_mem outcome).2, ?_⟩
    have keeps := keptOf entry member
    rw [outcome] at keeps
    generalize converts : conversionOf conversions entry.source = conversion at settles
    cases settles with
    | unchanged _ ends _ _ => exact .unchanged ends (keeps entry (by simp [keptOverride, ends]))
    | @retargeted target _ ends _ targets moves =>
      refine .retargeted target ends targets (retarget_definition moves.lands).2 (keeps _ ?_)
      simp only [keptOverride, ends, targets]
    | @converted target payload _ _ ends _ targets moves asked action =>
      refine .converted target payload ends (asked_resolution asked action) (keeps _ ?_)
      simp only [keptOverride, ends, targets, converts]
    | removed _ ends _ asked action => exact .removed ends (asked_resolution asked action)
    | retained _ ends _ complete asked action =>
      refine .retained _ ends (asked_resolution asked action) complete (mem_sortOn.mpr ?_)
      refine List.mem_append_right _ (List.mem_filterMap.mpr ⟨entry, member, ?_⟩)
      simp [retainedDefinition, outcome, ends, complete]
  · refine ((sortOn_perm _ _).map _).nodup_iff.mpr (List.pairwise_map.mpr (List.pairwise_filterMap.mpr ?_))
    refine aligned_pairwise (Outcome.mapM_ok computed) (List.pairwise_map.mp uniqueSources) ?_
    rintro entry member other memberToo _ _ keeps keepsToo different later rfl next rfl
    exact landed_apart member memberToo different (lands entry member later keeps) (lands other memberToo next keepsToo)
  · obtain ⟨result, inKept, same⟩ := List.mem_filterMap.mp (mem_sortOn.mp member)
    obtain ⟨entry, inCurrent, keeps⟩ := Outcome.mapM_mem computed inKept
    exact landed_selected (lands entry inCurrent later (by rw [keeps, ← same]; rfl))
  · refine ((sortOn_perm _ _).map _).nodup_iff.mpr ?_
    rw [List.map_append, retained_keys settled]
    exact List.perm_append_comm.nodup_iff.mp settled.retained
  · exact mem_sortOn.mpr (List.mem_append_left _ member)

end Reconciled

end AiOffice.Application.DomainPack
