import AiOffice.Application.DomainPack.ReconcileProjectPackUpgrade.Plans

namespace AiOffice.Application.DomainPack

open Data Outcome Domain DomainPackContracts Storage.ProjectConfiguration

section Signatures

variable {digest : ConfigurationMaterial → Option String} {input : ConfigurationInput}

def ProjectOwnedDefinition.unsigned (entry : ProjectOwnedDefinition) : ProjectOwnedDefinition :=
  { entry with actorId := "", changedAt := "" }

def ProjectDefinitionOverride.unsigned (entry : ProjectDefinitionOverride) : ProjectDefinitionOverride :=
  { entry with actorId := "", changedAt := "" }

theorem storedOwned_unsigned (entries : List ProjectOwnedDefinition) :
    (entries.map ProjectOwnedDefinition.unsigned).mapM storedOwnedDefinition = entries.mapM storedOwnedDefinition := by
  rw [List.mapM_map]
  rfl

theorem storedOverrides_unsigned (entries : List ProjectDefinitionOverride) :
    (entries.map ProjectDefinitionOverride.unsigned).mapM storedOverride = entries.mapM storedOverride := by
  rw [List.mapM_map]
  rfl

theorem effectiveSource_unsigned {owned : List ProjectOwnedDefinition} {overrides : List ProjectDefinitionOverride}
    (sameOwned : owned.map ProjectOwnedDefinition.unsigned =
      input.definitions.owned.map ProjectOwnedDefinition.unsigned)
    (sameOverrides : overrides.map ProjectDefinitionOverride.unsigned =
      input.definitions.overrides.map ProjectDefinitionOverride.unsigned) :
    effectiveSource (input.reordered input.binding.packs owned overrides) = effectiveSource input := by
  have ofOwned : owned.mapM storedOwnedDefinition = input.definitions.owned.mapM storedOwnedDefinition := by
    rw [← storedOwned_unsigned owned, sameOwned, storedOwned_unsigned]
  have ofOverrides : overrides.mapM storedOverride = input.definitions.overrides.mapM storedOverride := by
    rw [← storedOverrides_unsigned overrides, sameOverrides, storedOverrides_unsigned]
  unfold effectiveSource
  simp only [ConfigurationInput.reordered, ofOwned, ofOverrides]
  rfl

theorem resolve_unsigned {owned : List ProjectOwnedDefinition} {overrides : List ProjectDefinitionOverride}
    (sameOwned : owned.map ProjectOwnedDefinition.unsigned =
      input.definitions.owned.map ProjectOwnedDefinition.unsigned)
    (sameOverrides : overrides.map ProjectDefinitionOverride.unsigned =
      input.definitions.overrides.map ProjectDefinitionOverride.unsigned) :
    resolveProjectConfiguration digest (input.reordered input.binding.packs owned overrides) =
      resolveProjectConfiguration digest input := by
  unfold resolveProjectConfiguration
  rw [effectiveSource_unsigned sameOwned sameOverrides]
  rfl

def ConfigurationInput.revised (input : ConfigurationInput) (revision : Int) : ConfigurationInput :=
  { input with binding := { input.binding with configurationRevision := revision } }

theorem effectiveSource_revised {revision : Int} {source later : EffectiveSource}
    (sourced : effectiveSource input = .ok source) (again : effectiveSource (input.revised revision) = .ok later) :
    later = source := by
  obtain ⟨_, -, rest⟩ := bind_ok sourced
  obtain ⟨_, -, restAgain⟩ := bind_ok again
  exact Except.ok.inj (restAgain.symm.trans rest)

theorem resolve_digest {result : ResolvedProjectConfiguration}
    (resolved : resolveProjectConfiguration digest input = .ok result) :
    result.bindingRevision = input.binding.configurationRevision ∧
      digest result.toConfigurationMaterial = some result.configurationDigest := by
  obtain ⟨source, -, resolved⟩ := bind_ok resolved
  obtain ⟨workflows, -, resolved⟩ := bind_ok resolved
  obtain ⟨policies, -, resolved⟩ := bind_ok resolved
  obtain ⟨roles, -, resolved⟩ := bind_ok resolved
  obtain ⟨agents, -, resolved⟩ := bind_ok resolved
  obtain ⟨capabilities, -, resolved⟩ := bind_ok resolved
  dsimp only at resolved
  split at resolved
  · cases resolved
  · next configurationDigest computed =>
    cases resolved
    exact ⟨rfl, computed⟩

theorem resolve_revised {revision : Int} {result later : ResolvedProjectConfiguration}
    (resolved : resolveProjectConfiguration digest input = .ok result)
    (again : resolveProjectConfiguration digest (input.revised revision) = .ok later) :
    later.toConfigurationMaterial = { result.toConfigurationMaterial with bindingRevision := revision } := by
  obtain ⟨source, sourced, resolved⟩ := bind_ok resolved
  obtain ⟨sourceAgain, sourcedAgain, again⟩ := bind_ok again
  obtain rfl := effectiveSource_revised sourced sourcedAgain
  obtain ⟨workflows, viewed, resolved⟩ := bind_ok resolved
  obtain ⟨workflowsAgain, viewedAgain, again⟩ := bind_ok again
  obtain rfl := Except.ok.inj (viewedAgain.symm.trans viewed)
  obtain ⟨policies, -, resolved⟩ := bind_ok resolved
  obtain ⟨policiesAgain, -, again⟩ := bind_ok again
  obtain ⟨roles, -, resolved⟩ := bind_ok resolved
  obtain ⟨rolesAgain, -, again⟩ := bind_ok again
  obtain ⟨agents, -, resolved⟩ := bind_ok resolved
  obtain ⟨agentsAgain, -, again⟩ := bind_ok again
  obtain ⟨capabilities, -, resolved⟩ := bind_ok resolved
  obtain ⟨capabilitiesAgain, -, again⟩ := bind_ok again
  dsimp only at resolved again
  split at resolved
  · cases resolved
  · split at again
    · cases again
    · cases resolved
      cases again
      rfl

end Signatures

section Definitions

variable {current first second : ProjectDefinitionState} {items : List OverrideReconciliation} {conversions : Conversions}
  {actorId changedAt otherActor otherTime : String}

theorem sortOn_map {Item Key : Type} [LinearOrder Key] {key : Item → Key} (change : Item → Item)
    (kept : ∀ item, key (change item) = key item) (entries : List Item) :
    (sortOn key entries).map change = sortOn key (entries.map change) := by
  refine List.map_insertionSort _ _ change entries fun left _ right _ => ?_
  rw [kept, kept]

theorem sortOwned_unsigned (entries : List ProjectOwnedDefinition) :
    (sortOn ownedOrder entries).map ProjectOwnedDefinition.unsigned =
      sortOn ownedOrder (entries.map ProjectOwnedDefinition.unsigned) := sortOn_map ProjectOwnedDefinition.unsigned (fun _ => rfl) entries

theorem sortOverrides_unsigned (entries : List ProjectDefinitionOverride) :
    (sortOn (fun entry => sourceOrder entry.source) entries).map ProjectDefinitionOverride.unsigned =
      sortOn (fun entry => sourceOrder entry.source) (entries.map ProjectDefinitionOverride.unsigned) :=
  sortOn_map ProjectDefinitionOverride.unsigned (fun _ => rfl) entries

theorem keptOverride_unsigned {outcome : Option OverrideReconciliation} {entry : ProjectDefinitionOverride}
    {kept : Option ProjectDefinitionOverride} (keeps : keptOverride conversions actorId changedAt outcome entry = .ok kept) :
    kept.map ProjectDefinitionOverride.unsigned =
      ((keptOverride conversions "" "" outcome entry).toOption.join).map ProjectDefinitionOverride.unsigned := by
  unfold keptOverride at keeps ⊢
  cases outcome with
  | none =>
    cases keeps
    rfl
  | some item =>
    dsimp only at keeps ⊢
    split at keeps
    · cases keeps
      rfl
    · cases keeps
      rfl
    · split at keeps
      · cases keeps
      · cases keeps
        rfl
    · cases keeps
      rfl
    · cases keeps
      rfl

theorem retainedDefinition_unsigned (outcome : Option OverrideReconciliation) (entry : ProjectDefinitionOverride) :
    (retainedDefinition actorId changedAt outcome entry).map ProjectOwnedDefinition.unsigned =
      (retainedDefinition "" "" outcome entry).map ProjectOwnedDefinition.unsigned := by
  unfold retainedDefinition
  split <;> rfl

theorem filterMap_unsigned (kept : List (Option ProjectDefinitionOverride)) :
    (kept.filterMap id).map ProjectDefinitionOverride.unsigned =
      (kept.map (Option.map ProjectDefinitionOverride.unsigned)).filterMap id := by
  rw [List.map_filterMap, List.filterMap_map]
  rfl

theorem reconciledDefinitions_unsigned
    (ofFirst : reconciledDefinitions current items conversions actorId changedAt = .ok first)
    (ofSecond : reconciledDefinitions current items conversions otherActor otherTime = .ok second) :
    first.owned.map ProjectOwnedDefinition.unsigned = second.owned.map ProjectOwnedDefinition.unsigned ∧
      first.overrides.map ProjectDefinitionOverride.unsigned =
        second.overrides.map ProjectDefinitionOverride.unsigned := by
  obtain ⟨kept, computed, returned⟩ := bind_ok ofFirst
  obtain ⟨keptAgain, computedAgain, returnedAgain⟩ := bind_ok ofSecond
  cases returned
  cases returnedAgain
  have same : kept.map (Option.map ProjectDefinitionOverride.unsigned) =
      keptAgain.map (Option.map ProjectDefinitionOverride.unsigned) :=
    (Outcome.mapM_keys computed fun _ _ => keptOverride_unsigned).trans
      (Outcome.mapM_keys computedAgain fun _ _ => keptOverride_unsigned).symm
  refine ⟨?_, ?_⟩
  · dsimp only
    rw [sortOwned_unsigned, sortOwned_unsigned, List.map_append, List.map_append, List.map_filterMap, List.map_filterMap]
    simp only [@retainedDefinition_unsigned actorId, @retainedDefinition_unsigned otherActor]
  · dsimp only
    rw [sortOverrides_unsigned, sortOverrides_unsigned, filterMap_unsigned, filterMap_unsigned, same]

end Definitions

section Applications

variable {Key : Type} [LinearOrder Key] {digests : Digests} {host : SelectionHost Key}
  {checks : ProjectDefinitionState → Bool} {audited : Bool} {actorId changedAt : String}
  {tables after : ConfigurationTables} {desired : List PackIdentity} {resolutions : Value} {input : ReconcileInput}
  {reconciliation : UpgradeReconciliation} {answer : PackUpgradeResult}

/-- What a plan without an issue predicts, where it changes something. -/
structure Predicts (digests : Digests) (input : ReconcileInput) (reconciliation : UpgradeReconciliation)
    (preview : ProjectDefinitionState) (configuration : ResolvedProjectConfiguration) : Prop where
  definitions : reconciledDefinitions input.definitions reconciliation.plan.overrides reconciliation.conversions
    "preview" "1970-01-01T00:00:00.000Z" = .ok preview
  resolves : resolveProjectConfiguration digests.configuration (input.prospective preview) = .ok configuration
  digest : reconciliation.plan.prospectiveConfigurationDigest = some configuration.configurationDigest
  proposed : reconciliation.plan.proposedPacks = input.desired
  bindingRevision : reconciliation.plan.bindingRevision = input.binding.configurationRevision
  definitionRevision : reconciliation.plan.definitionRevision = input.definitions.revision

theorem prospectiveDigest_clean {overrides : List OverrideReconciliation} {conversions : Conversions}
    {digest : Option String} (predicted : prospectiveDigest digests input overrides conversions = .ok (digest, [])) :
    ∃ preview configuration, reconciledDefinitions input.definitions overrides conversions "preview"
        "1970-01-01T00:00:00.000Z" = .ok preview ∧
      resolveProjectConfiguration digests.configuration (input.prospective preview) = .ok configuration ∧
      digest = some configuration.configurationDigest := by
  obtain ⟨preview, reconciled, resolves⟩ := bind_ok predicted
  split at resolves
  · next configuration resolved =>
    cases resolves
    exact ⟨preview, configuration, reconciled, resolved, rfl⟩
  · cases resolves

theorem reconcile_predicts (planned : reconcileProjectPackUpgrade digests input = .ok reconciliation)
    (effective : reconciliation.plan.noop = false) (clean : reconciliation.plan.issues = []) :
    ∃ preview configuration, Predicts digests input reconciliation preview configuration := by
  unfold reconcileProjectPackUpgrade at planned
  split at planned
  · cases planned
    cases effective
  · dsimp only at planned
    split at planned
    · obtain ⟨⟨digest, unresolved⟩, predicted, returned⟩ := bind_ok planned
      cases returned
      obtain ⟨-, rfl⟩ := List.append_eq_nil_iff.mp clean
      obtain ⟨preview, configuration, reconciled, resolved, rfl⟩ := prospectiveDigest_clean predicted
      exact ⟨preview, configuration, reconciled, resolved, rfl, rfl, rfl, rfl⟩
    · next remaining =>
      cases planned
      have none_ := (List.append_eq_nil_iff.mp clean).1
      exact absurd (List.isEmpty_iff.mpr none_) remaining

theorem commitUpgrade_returned
    (committed : Method.call (commitUpgrade host checks audited actorId changedAt reconciliation) tables =
      (.ok answer, after)) :
    ∃ middle replaced state definitions,
      Method.call (replaceBinding host.collation reconciliation.plan.bindingRevision reconciliation.plan.proposedPacks)
        tables = (.ok replaced, middle) ∧
      reconciledDefinitions tables.definitions reconciliation.plan.overrides reconciliation.conversions actorId
        changedAt = .ok state ∧
      Method.call (replaceDefinitions checks state reconciliation.plan.definitionRevision) middle =
        (.ok definitions, after) := by
  have steps := Method.transaction_returned committed
  obtain ⟨current, first, read, steps⟩ := Method.call_bind_returns steps
  cases read
  obtain ⟨⟨⟩, second, fresh, steps⟩ := Method.call_bind_returns steps
  rw [Method.call_lift] at fresh
  obtain ⟨-, rfl⟩ := Prod.mk.inj fresh
  obtain ⟨⟨⟩, third, freshToo, steps⟩ := Method.call_bind_returns steps
  rw [Method.call_lift] at freshToo
  obtain ⟨-, rfl⟩ := Prod.mk.inj freshToo
  obtain ⟨replaced, middle, adapted, steps⟩ := Method.call_bind_returns steps
  have bound := Method.adapt_returned adapted
  obtain ⟨state, fifth, lifted, steps⟩ := Method.call_bind_returns steps
  rw [Method.call_lift] at lifted
  obtain ⟨reconciled, rfl⟩ := Prod.mk.inj lifted
  obtain ⟨definitions, sixth, adaptedToo, steps⟩ := Method.call_bind_returns steps
  have written := Method.adapt_returned adaptedToo
  obtain ⟨⟨⟩, seventh, appended, steps⟩ := Method.call_bind_returns steps
  rw [Method.call_lift] at appended
  obtain ⟨-, rfl⟩ := Prod.mk.inj appended
  cases steps
  exact ⟨middle, replaced, state, definitions, bound, reconciled, written⟩

theorem localeSorted_again (collation : String → Key) (packs : List PackIdentity) :
    localeSorted collation (localeSorted collation packs) = localeSorted collation packs :=
  List.Pairwise.insertionSort_eq (sortOn_sorted (fun pack : PackIdentity => collation pack.id) packs)

theorem selectionChanged_iff (uniqueCurrent : input.binding.packs.Nodup) (uniqueDesired : input.desired.Nodup) :
    input.selectionChanged = false ↔ SameSelection input.binding.packs input.desired := by
  simp only [ReconcileInput.selectionChanged, Bool.or_eq_false_iff, decide_eq_false_iff_not, not_not,
    List.any_eq_false, Bool.not_eq_true', Bool.not_eq_false, List.contains_iff_mem]
  constructor
  · rintro ⟨sameLength, covered⟩ pack
    exact ((List.subperm_of_subset uniqueCurrent covered).perm_of_length_le (by omega)).mem_iff
  · intro same
    exact ⟨((List.perm_ext_iff_of_nodup uniqueCurrent uniqueDesired).mpr same).length_eq,
      fun pack member => (same pack).mp member⟩

/-- Where a host's order of the proposed ids is the order that they are stored in, or the selection changes. -/
def Predictable (host : SelectionHost Key) (tables : ConfigurationTables) (desired : List PackIdentity) : Prop :=
  SameSelection tables.packs desired →
    localeSorted host.collation desired = sortOn (fun pack => codeUnits pack.id) desired

/-- The stored selection has the revision that a plan predicts exactly for a predictable one. -/
theorem revision_predicted {middle : ConfigurationTables} {replaced : ProjectPackBinding × Bool} {expected : Int}
    (keyed : tables.Keyed) (unique : (desired.map DomainPackDependency.id).Nodup)
    (bound : Method.call (replaceBinding host.collation expected (localeSorted host.collation desired)) tables =
      (.ok replaced, middle)) {changed : Bool} (changes : changed = false ↔ SameSelection tables.packs desired) :
    middle.binding.packs.Perm desired ∧ (Predictable host tables desired ∧
        middle.binding.configurationRevision = tables.binding.configurationRevision + (if changed then 1 else 0) ∨
      ¬Predictable host tables desired ∧ middle.binding.configurationRevision =
        tables.binding.configurationRevision + (if changed then 1 else 0) + 1) := by
  have stored : SameSelection tables.packs desired →
      tables.binding.packs = sortOn (fun pack => codeUnits pack.id) desired := by
    intro same
    refine sortOn_eq_of_keys (fun left inLeft right inRight sameId => ?_)
      ((List.perm_ext_iff_of_nodup keyed.packs.of_map unique.of_map).mpr same)
    exact List.inj_on_of_nodup_map keyed.packs inLeft inRight (codeUnits_injective sameId)
  obtain ⟨fresh, ⟨same, -, rfl⟩ | ⟨different, -, -, rfl⟩⟩ := replaceBinding_returned bound
  · rw [localeSorted_again] at same
    have permuted : tables.binding.packs.Perm desired := same ▸ localeSorted_perm host.collation desired
    have members : SameSelection tables.packs desired := fun pack =>
      ((sortOn_perm _ tables.packs).symm.trans permuted).mem_iff
    rw [changes.mpr members]
    refine ⟨permuted, .inl ⟨fun _ => same.symm.trans (stored members), ?_⟩⟩
    simp [ConfigurationTables.binding]
  · rw [localeSorted_again] at different ⊢
    refine ⟨(sortOn_perm _ _).trans (localeSorted_perm host.collation desired), ?_⟩
    have next : (ConfigurationTables.binding { tables with
        bindingHead := some (expected + 1), packs := localeSorted host.collation desired }).configurationRevision =
          tables.binding.configurationRevision + 1 := by rw [fresh]; rfl
    rw [next]
    by_cases members : SameSelection tables.packs desired
    · rw [changes.mpr members]
      refine .inr ⟨fun predictable => different ?_, by simp⟩
      rw [predictable members, stored members]
    · have changing : changed = true := by
        cases changed with
        | true => rfl
        | false => exact absurd (changes.mp rfl) members
      rw [changing]
      exact .inl ⟨fun same => absurd same members, rfl⟩

/-- The configuration of the stored project has the digest that a plan predicted. -/
def Previewed (digests : Digests) (host : SelectionHost Key) (reconciliation : UpgradeReconciliation)
    (after : ConfigurationTables) : Prop :=
  ∃ configuration, resolveProjectConfiguration digests.configuration (storedInput host after) = .ok configuration ∧
    reconciliation.plan.prospectiveConfigurationDigest = some configuration.configurationDigest

theorem stored_resolves {middle : ConfigurationTables} {proposed : List PackIdentity} {preview state : ProjectDefinitionState}
    {asked : List OverrideResolution} {configuration : ResolvedProjectConfiguration} {expected : Int}
    {definitions : ProjectDefinitionState} {replaced : ProjectPackBinding × Bool}
    (predicts : Predicts digests ⟨tables.binding, tables.definitions, proposed, asked, host.catalog, host.providers⟩
      reconciliation preview configuration)
    (bound : Method.call (replaceBinding host.collation expected proposed) tables = (.ok replaced, middle))
    (ordered : middle.binding.packs.Perm proposed)
    (reconciled : reconciledDefinitions tables.definitions reconciliation.plan.overrides reconciliation.conversions actorId
      changedAt = .ok state)
    (written : Method.call (replaceDefinitions checks state tables.definitions.revision) middle =
      (.ok definitions, after)) :
    ∃ target : ConfigurationInput, resolveProjectConfiguration digests.configuration target = .ok configuration ∧
      target.binding.configurationRevision = tables.binding.configurationRevision +
        (if ReconcileInput.selectionChanged ⟨tables.binding, tables.definitions, proposed, asked, host.catalog,
          host.providers⟩ then 1 else 0) ∧
      storedInput host after = target.revised middle.binding.configurationRevision := by
  obtain ⟨sameOwned, sameOverrides⟩ := reconciledDefinitions_unsigned reconciled predicts.definitions
  have signed := predicts.resolves
  rw [← resolve_unsigned sameOwned sameOverrides] at signed
  obtain ⟨-, -, -, -, rfl⟩ := replaceDefinitions_returned written
  obtain ⟨_, -, returned⟩ := bind_ok predicts.definitions
  cases returned
  refine ⟨_, resolve_reordered ordered.symm (sortOn_perm ownedOrder state.owned).symm
    (sortOn_perm (fun entry => sourceOrder entry.source) state.overrides).symm signed, rfl, ?_⟩
  have sameProject : middle.projectId = tables.projectId := by
    obtain ⟨-, ⟨-, -, rfl⟩ | ⟨-, -, -, rfl⟩⟩ := replaceBinding_returned bound <;> rfl
  simp only [storedInput, ConfigurationInput.revised, ConfigurationInput.reordered, ReconcileInput.prospective,
    ConfigurationTables.binding, ConfigurationTables.definitions, sameProject]
  rfl

theorem applyUpgrade_committed {read : ConfigurationTables} {input : UpgradeInput}
    (planned : planUpgrade digests host read input.desired input.resolutions = .ok reconciliation)
    (applied : Method.call (applyUpgrade digests host checks audited changedAt read input) tables = (.ok answer, after))
    (writes : answer.applied = true) :
    reconciliation.plan.noop = false ∧ reconciliation.plan.issues = [] ∧
      Method.call (commitUpgrade host checks audited input.actorId changedAt reconciliation) tables =
        (.ok answer, after) := by
  obtain ⟨plans, first, lifted, steps⟩ := Method.call_bind_returns applied
  rw [Method.call_lift] at lifted
  obtain ⟨returned, rfl⟩ := Prod.mk.inj lifted
  obtain rfl := Except.ok.inj (returned.symm.trans planned)
  dsimp only at steps
  rw [Method.call_ite] at steps
  split at steps
  · cases steps
    cases writes
  · next effective =>
    rw [Method.call_ite] at steps
    split at steps
    · cases steps
    · next clean =>
      rw [Method.call_ite] at steps
      split at steps
      · cases steps
      · refine ⟨by simpa using effective, by simpa using clean, steps⟩

theorem applyUpgrade_threw {read : ConfigurationTables} {input : UpgradeInput} {thrown : PackUpgradeError}
    (threw : Method.call (applyUpgrade digests host checks audited changedAt read input) tables = (.error thrown, after)) :
    after = tables := by
  unfold applyUpgrade at threw
  rw [Method.call_bind, Method.call_lift] at threw
  cases planned : planUpgrade digests host read input.desired input.resolutions with
  | error refused =>
    rw [planned] at threw
    exact (Prod.mk.inj threw).2.symm
  | ok reconciliation =>
    rw [planned] at threw
    dsimp only at threw
    rw [Method.call_ite] at threw
    split at threw
    · cases threw
    · rw [Method.call_ite] at threw
      split at threw
      · exact (Prod.mk.inj threw).2.symm
      · rw [Method.call_ite] at threw
        split at threw
        · exact (Prod.mk.inj threw).2.symm
        · exact Method.transaction_threw threw

/-- An applied plan leads to the configuration that it predicted exactly where its selection is predictable, and a run
that throws leaves the project as it was. -/
theorem applyUpgrade_previewed {input : UpgradeInput} (keyed : tables.Keyed)
    (separates : ∀ material, digests.configuration material ≠ none →
      digests.configuration { material with bindingRevision := material.bindingRevision + 1 } ≠
        digests.configuration material)
    (planned : planUpgrade digests host tables input.desired input.resolutions = .ok reconciliation) :
    (∀ answer after, Method.call (applyUpgrade digests host checks audited changedAt tables input) tables =
        (.ok answer, after) → answer.applied = true →
      (Previewed digests host reconciliation after ↔ Predictable host tables input.desired)) ∧
    ∀ read thrown after, Method.call (applyUpgrade digests host checks audited changedAt read input) tables =
      (.error thrown, after) → after = tables := by
  refine ⟨fun answer after applied writes => ?_, fun read thrown after => applyUpgrade_threw⟩
  obtain ⟨effective, clean, committed⟩ := applyUpgrade_committed planned applied writes
  obtain ⟨proposed, asked, normalizes, -, reconciles⟩ := planUpgrade_reconciles planned
  obtain ⟨rfl, unique⟩ := normalizePackSelection_ok normalizes
  obtain ⟨preview, configuration, predicts⟩ := reconcile_predicts reconciles effective clean
  obtain ⟨middle, replaced, state, definitions, bound, reconciled, written⟩ := commitUpgrade_returned committed
  rw [predicts.proposed] at bound
  rw [predicts.definitionRevision] at written
  have uniqueCurrent : tables.binding.packs.Nodup := (sortOn_perm _ tables.packs).nodup_iff.mpr keyed.packs.of_map
  have uniqueDesired : (localeSorted host.collation input.desired).Nodup :=
    (localeSorted_perm host.collation input.desired).nodup_iff.mpr unique.of_map
  have changes : ReconcileInput.selectionChanged ⟨tables.binding, tables.definitions,
      localeSorted host.collation input.desired, asked, host.catalog, host.providers⟩ = false ↔
        SameSelection tables.packs input.desired := by
    rw [selectionChanged_iff uniqueCurrent uniqueDesired]
    simp [SameSelection, ConfigurationTables.binding]
  obtain ⟨ordered, revision⟩ := revision_predicted keyed unique bound changes
  obtain ⟨target, resolves, expected, stored⟩ := stored_resolves predicts bound
    (ordered.trans (localeSorted_perm host.collation input.desired).symm) reconciled written
  rcases revision with ⟨predictable, predicted⟩ | ⟨unpredictable, later⟩
  · have same : target.revised middle.binding.configurationRevision = target := by
      rw [predicted, ← expected]
      rfl
    exact ⟨fun _ => predictable, fun _ => ⟨configuration, by rw [stored, same, resolves], predicts.digest⟩⟩
  · refine ⟨fun previewed => ?_, fun predictable => absurd predictable unpredictable⟩
    obtain ⟨other, resolvesLater, sameDigest⟩ := previewed
    rw [stored, later, ← expected] at resolvesLater
    have material := resolve_revised resolves resolvesLater
    obtain ⟨revision, computed⟩ := resolve_digest resolves
    obtain ⟨-, computedLater⟩ := resolve_digest resolvesLater
    rw [predicts.digest] at sameDigest
    rw [material, ← revision, ← sameDigest, ← computed] at computedLater
    exact absurd computedLater (separates _ (by rw [computed]; exact Option.some_ne_none _))

end Applications

def parityDigests : Digests :=
  ⟨fun material => some (if material.bindingRevision % 2 = 0 then "even" else "odd"), fun _ => "plan"⟩

def doubleVowelLast : List Nat → List Nat
  | 97 :: 97 :: units => 123 :: doubleVowelLast units
  | unit :: units => unit :: doubleVowelLast units
  | [] => []

def aardvarkPack : DomainPackManifest := { writingPack with id := "com.aardvark" }

/-- A host of that locale. Ids that it takes for equal are in the order of their code units. -/
def vowelHost : SelectionHost (List (List Nat)) :=
  ⟨⟨1, [installedPack writingPack, installedPack aardvarkPack]⟩, noOperationProviders,
    fun id => [doubleVowelLast (codeUnits id), codeUnits id]⟩

/-- A project that selects both packs and has an override of an earlier version of one. -/
def withBothPacks : ConfigurationTables :=
  ⟨"project", true, some 1, [aardvarkPack.identity, writingPack.identity], some 1, [], [staleEditor]⟩

def keepPacks (packs : List PackIdentity) : UpgradeInput := ⟨packs, .array [], "plan", "actor"⟩

def upgradeEnds {Key : Type} [LinearOrder Key] (host : SelectionHost Key) (tables : ConfigurationTables)
    (input : UpgradeInput) : Option (UpgradeReconciliation × PackUpgradeResult × ConfigurationTables) :=
  (planUpgrade parityDigests host tables input.desired input.resolutions).toOption.bind fun reconciliation =>
    let called := Method.call (applyUpgrade parityDigests host (fun _ => true) true "2026-01-01T00:00:00.000Z" tables
      input) tables
    called.1.toOption.map fun answer => (reconciliation, answer, called.2)

theorem upgradeEnds_some {Key : Type} [LinearOrder Key] {host : SelectionHost Key} {tables after : ConfigurationTables}
    {input : UpgradeInput} {reconciliation : UpgradeReconciliation} {answer : PackUpgradeResult}
    (ends : upgradeEnds host tables input = some (reconciliation, answer, after)) :
    planUpgrade parityDigests host tables input.desired input.resolutions = .ok reconciliation ∧
      Method.call (applyUpgrade parityDigests host (fun _ => true) true "2026-01-01T00:00:00.000Z" tables input) tables =
        (.ok answer, after) := by
  obtain ⟨plan, planned, called⟩ := Option.bind_eq_some_iff.mp ends
  obtain ⟨result, returned, same⟩ := Option.map_eq_some_iff.mp called
  cases same
  cases planning : planUpgrade parityDigests host tables input.desired input.resolutions with
  | error thrown =>
    rw [planning] at planned
    cases planned
  | ok reconciled =>
    rw [planning] at planned
    cases planned
    refine ⟨rfl, Prod.ext ?_ rfl⟩
    cases outcome : (Method.call (applyUpgrade parityDigests host (fun _ => true) true "2026-01-01T00:00:00.000Z" tables
        input) tables).1 with
    | error thrown =>
      rw [outcome] at returned
      cases returned
    | ok result =>
      rw [outcome] at returned
      cases returned
      rfl

/-- The selection stays, but the host sorts it otherwise than it is stored: its revision grows against the plan. -/
theorem applyUpgrade_unpredicted : ∃ reconciliation answer after,
    planUpgrade parityDigests vowelHost withBothPacks [aardvarkPack.identity, writingPack.identity] (.array []) =
      .ok reconciliation ∧ reconciliation.plan.issues = [] ∧
    Method.call (applyUpgrade parityDigests vowelHost (fun _ => true) true "2026-01-01T00:00:00.000Z" withBothPacks
      (keepPacks [aardvarkPack.identity, writingPack.identity])) withBothPacks = (.ok answer, after) ∧
    answer.applied = true ∧ ¬Previewed parityDigests vowelHost reconciliation after := by
  have runs : (upgradeEnds vowelHost withBothPacks (keepPacks [aardvarkPack.identity, writingPack.identity])).any
      (fun ends => ends.1.plan.issues = [] && ends.2.1.applied &&
        ends.1.plan.prospectiveConfigurationDigest = some "odd" &&
        (resolveProjectConfiguration parityDigests.configuration (storedInput vowelHost ends.2.2)).toOption.map
          ResolvedProjectConfiguration.configurationDigest = some "even") = true := by decide +kernel
  obtain ⟨⟨reconciliation, answer, after⟩, ends, holds⟩ := (Option.any_eq_true _ _).mp runs
  obtain ⟨planned, called⟩ := upgradeEnds_some ends
  simp only [Bool.and_eq_true, decide_eq_true_eq] at holds
  obtain ⟨⟨⟨clean, applied⟩, predicted⟩, stored⟩ := holds
  refine ⟨reconciliation, answer, after, planned, clean, called, applied, ?_⟩
  rintro ⟨configuration, resolved, same⟩
  rw [resolved] at stored
  rw [predicted] at same
  have odd := Option.some.inj same
  have even := Option.some.inj stored
  rw [← odd] at even
  exact absurd even (by decide)

theorem applyUpgrade_previewed_staleEditor : ∃ reconciliation answer after,
    Method.call (applyUpgrade parityDigests writingHost (fun _ => true) true "2026-01-01T00:00:00.000Z" withStaleEditor
      (keepPacks [writingPack.identity])) withStaleEditor = (.ok answer, after) ∧
    Previewed parityDigests writingHost reconciliation after := by
  have runs : (upgradeEnds writingHost withStaleEditor (keepPacks [writingPack.identity])).any
      (fun ends => ends.2.1.applied) = true := by decide +kernel
  obtain ⟨⟨reconciliation, answer, after⟩, ends, applied⟩ := (Option.any_eq_true _ _).mp runs
  obtain ⟨planned, called⟩ := upgradeEnds_some ends
  have keyed : withStaleEditor.Keyed := ⟨by decide, List.nodup_nil, by decide⟩
  have separates : ∀ material, parityDigests.configuration material ≠ none →
      parityDigests.configuration { material with bindingRevision := material.bindingRevision + 1 } ≠
        parityDigests.configuration material := by
    intro material _ same
    simp only [parityDigests, Option.some.injEq] at same
    split at same <;> split at same
    · omega
    · exact absurd same (by decide)
    · exact absurd same (by decide)
    · omega
  have previewed := (applyUpgrade_previewed keyed separates planned).1 answer after called applied
  exact ⟨reconciliation, answer, after, called, previewed.mpr fun _ => rfl⟩

end AiOffice.Application.DomainPack
