import AiOffice.Application.DomainPack.ReconcileProjectPackUpgrade.Accounting

namespace AiOffice.Application.DomainPack

open Data Outcome Domain DomainPackContracts Storage.ProjectConfiguration Reconciling

variable {Key : Type} [LinearOrder Key] {digests : Digests} {host : SelectionHost Key} {tables : ConfigurationTables}
  {desired : List PackIdentity} {resolutions : Value} {input : ReconcileInput} {result : UpgradeReconciliation}

theorem closure_manifests {closure : List DomainPackManifest} {catalog : InstalledPackCatalog}
    (resolved : resolveInstalledPackManifests catalog desired = .ok closure) :
    ∀ pack ∈ desired, ∃ manifest, manifestOf closure pack = some manifest := by
  intro pack member
  obtain ⟨manifest, inClosure, named⟩ := List.mem_map.mp ((closure_ok resolved).1 pack member)
  rw [← Option.isSome_iff_exists, manifestOf, List.find?_isSome]
  exact ⟨manifest, List.mem_reverse.mpr inClosure, by simpa using named⟩

theorem targetIssues_nil (clean : input.targetIssues = []) :
    ∀ pack ∈ input.desired, ∃ manifest, manifestOf (input.reconciling.target.getD []) pack = some manifest := by
  unfold ReconcileInput.targetIssues at clean
  cases resolved : input.target with
  | error thrown =>
    rw [resolved] at clean
    cases clean
  | ok closure =>
    have read : input.reconciling.target = some closure := by rw [ReconcileInput.reconciling, resolved]; rfl
    rw [read]
    exact closure_manifests resolved

theorem noop_settled (noop : input.isNoop = true)
    (uniqueSources : (input.definitions.overrides.map ProjectDefinitionOverride.source).Nodup)
    (uniqueOwned : (input.definitions.owned.map fun item => (item.kind, item.id)).Nodup) :
    Settled input.reconciling (input.definitions.overrides.map noopOverride) [] := by
  have sources : (input.definitions.overrides.map noopOverride).map OverrideReconciliation.source =
      input.definitions.overrides.map ProjectDefinitionOverride.source := by
    rw [List.map_map]
    rfl
  have outcome : ∀ entry ∈ input.definitions.overrides,
      outcomeOf (input.definitions.overrides.map noopOverride) entry.source = some (noopOverride entry) :=
    fun entry member => outcomeOf_item (sources ▸ uniqueSources) (List.mem_map_of_mem member)
  simp only [ReconcileInput.isNoop, Bool.and_eq_true, List.all_eq_true] at noop
  refine ⟨.of_eq sources, fun entry member => ⟨noopOverride entry, outcome entry member, ?_⟩, ?_⟩
  · exact .unchanged rfl rfl rfl (noop.2 entry member)
  · have nothing : input.definitions.overrides.filterMap (fun entry =>
        (outcomeOf (input.definitions.overrides.map noopOverride) entry.source).bind
          OverrideReconciliation.retainedAs) = [] := by
      refine List.filterMap_eq_nil_iff.mpr fun entry member => ?_
      rw [outcome entry member]
      rfl
    exact nothing ▸ uniqueOwned

theorem reconcile_settled (planned : reconcileProjectPackUpgrade digests input = .ok result)
    (clean : result.plan.issues = [])
    (uniqueSources : (input.definitions.overrides.map ProjectDefinitionOverride.source).Nodup)
    (uniqueOwned : (input.definitions.owned.map fun item => (item.kind, item.id)).Nodup) :
    Settled input.reconciling result.plan.overrides result.conversions ∧ result.plan.proposedPacks = input.desired := by
  unfold reconcileProjectPackUpgrade at planned
  split at planned
  · next noop =>
    cases planned
    exact ⟨noop_settled noop uniqueSources uniqueOwned, rfl⟩
  · have finished : ∃ digest unresolved, result = ⟨finishPlan digests input input.report
        (input.reconciling.dispositions.map Disposition.item)
        (input.resolutions.filter fun item => !((input.reconciling.dispositions.filter Disposition.used).map
          fun disposition => disposition.item.source).contains item.source) digest
        (input.targetIssues ++ input.reconciling.dispositions.filterMap Disposition.issue ++ unresolved) false,
        input.reconciling.dispositions.filterMap fun disposition =>
          disposition.conversion.map fun payload => (disposition.item.source, payload)⟩ := by
      dsimp only at planned
      split at planned
      · obtain ⟨⟨digest, unresolved⟩, -, returned⟩ := bind_ok planned
        cases returned
        exact ⟨digest, unresolved, rfl⟩
      · cases planned
        exact ⟨none, [], rfl⟩
    obtain ⟨digest, unresolved, rfl⟩ := finished
    obtain ⟨issues, -⟩ := List.append_eq_nil_iff.mp clean
    obtain ⟨ofTarget, ofOverrides⟩ := List.append_eq_nil_iff.mp issues
    exact ⟨dispositions_settled (targetIssues_nil ofTarget) uniqueSources uniqueOwned
      (List.filterMap_eq_nil_iff.mp ofOverrides), rfl⟩

theorem planUpgrade_reconciles (planned : planUpgrade digests host tables desired resolutions = .ok result) :
    ∃ proposed asked, normalizePackSelection host desired = .ok proposed ∧ parseResolutions resolutions = .ok asked ∧
      reconcileProjectPackUpgrade digests ⟨tables.binding, tables.definitions, proposed, asked, host.catalog,
        host.providers⟩ = .ok result := by
  obtain ⟨proposed, normalizes, steps⟩ := bind_ok planned
  obtain ⟨asked, parsed, steps⟩ := bind_ok steps
  rw [mapError_ok] at normalizes
  split at steps
  · cases steps
  · exact ⟨proposed, asked, normalizes, parsed, steps⟩

theorem resolutionsAfter_ok {seen : List ExactPackDefinitionSource} {items : List Value} {asked : List OverrideResolution} :
    resolutionsAfter seen items = .ok asked ↔ items.mapM parseResolution = .ok asked ∧
      (asked.map OverrideResolution.source).Nodup ∧ ∀ resolution ∈ asked, resolution.source ∉ seen := by
  induction items generalizing seen asked with
  | nil =>
    constructor
    · intro parsed
      cases parsed
      exact ⟨rfl, List.nodup_nil, by simp⟩
    · rintro ⟨parsed, -, -⟩
      exact parsed
  | cons item items ih =>
    rw [resolutionsAfter, List.mapM_cons]
    constructor
    · intro parsed
      obtain ⟨resolution, first, parsed⟩ := bind_ok parsed
      obtain ⟨fresh, parsed⟩ := guard_ok parsed
      obtain ⟨others, rest, returned⟩ := bind_ok parsed
      cases returned
      obtain ⟨later, unique, unseen⟩ := ih.mp rest
      rw [List.contains_iff_mem] at fresh
      refine ⟨by rw [bind_returns first, bind_returns later]; rfl, ?_, ?_⟩
      · rw [List.map_cons, List.nodup_cons]
        refine ⟨fun again => ?_, unique⟩
        obtain ⟨other, member, same⟩ := List.mem_map.mp again
        exact unseen other member (same ▸ List.mem_cons_self)
      · intro other member
        rcases List.mem_cons.mp member with rfl | later
        · exact fresh
        · exact fun inSeen => unseen other later (List.mem_cons_of_mem _ inSeen)
    · rintro ⟨parsed, unique, unseen⟩
      obtain ⟨resolution, first, parsed⟩ := bind_ok parsed
      obtain ⟨others, later, returned⟩ := bind_ok parsed
      cases returned
      rw [List.map_cons, List.nodup_cons] at unique
      have fresh : seen.contains resolution.source = false := by simpa using unseen resolution List.mem_cons_self
      have rest : resolutionsAfter (resolution.source :: seen) items = .ok others := by
        refine ih.mpr ⟨later, unique.2, fun other member => ?_⟩
        intro inSeen
        rcases List.mem_cons.mp inSeen with same | inSeen
        · exact unique.1 (same ▸ List.mem_map_of_mem member)
        · exact unseen other (List.mem_cons_of_mem _ member) inSeen
      rw [bind_returns first, fresh, if_neg Bool.false_ne_true, bind_returns rest]
      rfl

theorem parseResolutions_reordered {items others : List Value} {asked : List OverrideResolution}
    (reordered : items.Perm others) (parsed : parseResolutions (.array items) = .ok asked) :
    parseResolutions (.array others) = .ok asked := by
  obtain ⟨listed, accepted, rfl⟩ := map_ok parsed
  obtain ⟨parses, unique, -⟩ := resolutionsAfter_ok.mp accepted
  obtain ⟨again, parsesAgain, permuted⟩ := Outcome.mapM_perm reordered parses
  have acceptedAgain : resolutionsAfter [] others = .ok again :=
    resolutionsAfter_ok.mpr ⟨parsesAgain, ((permuted.map _).nodup_iff).mp unique, by simp⟩
  have sorted : sortOn (fun item : OverrideResolution => sourceOrder item.source) listed =
      sortOn (fun item => sourceOrder item.source) again :=
    sortOn_eq_of_keys (fun left inLeft right inRight same =>
      List.inj_on_of_nodup_map unique inLeft inRight (sourceOrder_eq same)) permuted
  rw [parseResolutions, acceptedAgain, sorted]
  rfl

theorem planUpgrade_reordered {items others : List Value} (reordered : items.Perm others)
    (planned : planUpgrade digests host tables desired (.array items) = .ok result) :
    planUpgrade digests host tables desired (.array others) = .ok result := by
  obtain ⟨proposed, normalizes, steps⟩ := bind_ok planned
  obtain ⟨asked, parsed, steps⟩ := bind_ok steps
  rw [planUpgrade, bind_returns normalizes, bind_returns (parseResolutions_reordered reordered parsed)]
  exact steps

/-- A plan without an issue accounts for every override exactly once, the definitions that it leads to lose nothing,
and the order of its resolutions makes no difference. -/
theorem planUpgrade_accounted (keyed : tables.Keyed)
    (planned : planUpgrade digests host tables desired resolutions = .ok result) (clean : result.plan.issues = []) :
    (result.plan.overrides.map OverrideReconciliation.source).Perm
        (tables.definitions.overrides.map ProjectDefinitionOverride.source) ∧
      (result.plan.overrides.map OverrideReconciliation.source).Nodup ∧
      (∃ asked, parseResolutions resolutions = .ok asked ∧ ∀ actorId changedAt, ∃ state,
        reconciledDefinitions tables.definitions result.plan.overrides result.conversions actorId changedAt = .ok state ∧
          NothingLost tables.definitions result.plan.proposedPacks asked result.plan.overrides actorId changedAt state) ∧
      ∀ items others, resolutions = .array items → items.Perm others →
        planUpgrade digests host tables desired (.array others) = .ok result := by
  obtain ⟨proposed, asked, -, parsed, reconciled⟩ := planUpgrade_reconciles planned
  have uniqueSources : (tables.definitions.overrides.map ProjectDefinitionOverride.source).Nodup :=
    ((sortOn_perm _ tables.overrides).map _).nodup_iff.mpr keyed.overrides
  have uniqueOwned : (tables.definitions.owned.map fun item => (item.kind, item.id)).Nodup :=
    ((sortOn_perm _ tables.owned).map _).nodup_iff.mpr keyed.owned
  obtain ⟨settled, proposes⟩ := reconcile_settled reconciled clean uniqueSources uniqueOwned
  refine ⟨settled.sources, settled.sources.nodup_iff.mpr uniqueSources, ⟨asked, parsed, fun actorId changedAt => ?_⟩, ?_⟩
  · rw [proposes]
    exact settled_nothingLost settled uniqueSources
  · rintro items others rfl reordered
    exact planUpgrade_reordered reordered planned

def staleEditor : ProjectDefinitionOverride :=
  { disabledEditor writingPack with source := ⟨{ writingPack.identity with version := "0.9.0" }, .agents, "editor"⟩ }

def withStaleEditor : ConfigurationTables := ⟨"project", true, some 1, [writingPack.identity], some 1, [], [staleEditor]⟩

def fixedDigests : Digests := ⟨fun _ => some "configuration", fun _ => "plan"⟩

theorem returned_any {Error Result : Type} {computed : Except Error Result} {holds : Result → Bool}
    (holdsOf : computed.toOption.any holds = true) : ∃ result, computed = .ok result ∧ holds result = true := by
  cases computed with
  | ok result => exact ⟨result, rfl, holdsOf⟩
  | error thrown => cases holdsOf

/-- The stale override follows its pack. -/
theorem planUpgrade_accounted_staleEditor : ∃ result,
    planUpgrade fixedDigests writingHost withStaleEditor [writingPack.identity] (.array []) = .ok result ∧
      (result.plan.overrides.map OverrideReconciliation.source).Perm
        (withStaleEditor.definitions.overrides.map ProjectDefinitionOverride.source) := by
  have plans : (planUpgrade fixedDigests writingHost withStaleEditor [writingPack.identity] (.array [])).toOption.any
      (fun result => result.plan.issues = []) = true := by decide +kernel
  obtain ⟨result, planned, clean⟩ := returned_any plans
  have keyed : withStaleEditor.Keyed := ⟨by decide, List.nodup_nil, by decide⟩
  exact ⟨result, planned, (planUpgrade_accounted keyed planned (of_decide_eq_true clean)).1⟩

end AiOffice.Application.DomainPack
