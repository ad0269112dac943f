import AiOffice.Application.DomainPack.ManageProjectPackBinding
import AiOffice.Application.DomainPack.ResolveProjectConfiguration.Order

namespace AiOffice.Application.DomainPack

open Data Outcome Domain DomainPackContracts

/-- The contracts of the definitions that both closures have are the same in both. -/
structure ContractsKept (previous target : List DomainPackManifest) : Prop where
  roles : ∀ id role next, (id, role) ∈ closureEntries previous .roles → (id, next) ∈ closureEntries target .roles →
    ∀ capability, capability ∈ role.capabilities.getD [] ↔ capability ∈ next.capabilities.getD []
  capabilities : ∀ id capability next, (id, capability) ∈ closureEntries previous .capabilities →
    (id, next) ∈ closureEntries target .capabilities →
      (∀ operation, operation ∈ capability.operations.getD [] ↔ operation ∈ next.operations.getD []) ∧
        (capability.operations.bind fun _ => capability.requirement) = next.operations.bind fun _ => next.requirement
  policies : ∀ id, id ∈ closureWorkflowIds previous → id ∈ closureWorkflowIds target → ∀ policy,
    (id, policy) ∈ closureWorkflowPolicies previous ↔ (id, policy) ∈ closureWorkflowPolicies target
  knowledge : ∀ id entry next, (id, entry) ∈ closureEntries previous .knowledge →
    (id, next) ∈ closureEntries target .knowledge → entry.guidance = next.guidance
  evidence : ∀ id entry next, (id, entry) ∈ closureEvidenceEntries previous →
    (id, next) ∈ closureEvidenceEntries target → entry.typedMembers = next.typedMembers

variable {previous target : List DomainPackManifest} {id : StableId} {entry next : Contribution}

theorem altered_none {Change : Type} {idOf : Change → StableId} {changes : List Change} {before after_ : List StableId}
    (unaltered : altered idOf changes before after_ = none) (inBefore : id ∈ before) (inAfter : id ∈ after_) :
    ∀ change ∈ changes, idOf change ≠ id := by
  rintro change member rfl
  have none := List.find?_eq_none.mp (Option.map_eq_none_iff.mp unaltered) change member
  simp [inBefore, inAfter] at none

theorem empty_filter {Item : Type} [BEq Item] [LawfulBEq Item] {items others : List Item}
    (empty : (items.filter fun item => !others.contains item).isEmpty = true) : ∀ item ∈ items, item ∈ others := by
  rw [List.isEmpty_iff, List.filter_eq_nil_iff] at empty
  intro item member
  simpa using empty item member

theorem roleCapabilities_same (none : ∀ change ∈ roleCapabilityDifferences previous target, change.roleId ≠ id)
    (capability : String) : capability ∈ (declarationOf (roleCapabilitySets previous) id).getD [] ↔
      capability ∈ (declarationOf (roleCapabilitySets target) id).getD [] := by
  by_cases inEither : id ∈ idsOfBoth (roleCapabilitySets previous) (roleCapabilitySets target)
  · by_contra differs
    refine none ⟨id, _, _⟩ (List.mem_filterMap.mpr ⟨id, inEither, if_neg fun empty => ?_⟩) rfl
    rw [Bool.and_eq_true] at empty
    exact differs ⟨empty_filter empty.2 capability, empty_filter empty.1 capability⟩
  · obtain ⟨ofOld, ofNext⟩ := declaredOfBoth inEither
    rw [ofOld, ofNext]

theorem capabilityContracts_same
    (none : ∀ change ∈ capabilityContractDifferences previous target, change.capabilityId ≠ id) :
    let before := (declarationOf (capabilityContracts previous) id).getD noContract
    let after_ := (declarationOf (capabilityContracts target) id).getD noContract
    (∀ operation, operation ∈ before.operations ↔ operation ∈ after_.operations) ∧
      before.requirement = after_.requirement := by
  by_cases inEither : id ∈ idsOfBoth (capabilityContracts previous) (capabilityContracts target)
  · by_contra differs
    refine none ⟨id, _, _, _, _⟩ (List.mem_filterMap.mpr ⟨id, inEither, if_neg fun empty => ?_⟩) rfl
    simp only [Bool.and_eq_true, decide_eq_true_eq] at empty
    obtain ⟨⟨added, removed⟩, requirement⟩ := empty
    exact differs ⟨fun operation => ⟨empty_filter removed operation, empty_filter added operation⟩, requirement⟩
  · obtain ⟨ofOld, ofNext⟩ := declaredOfBoth inEither
    rw [ofOld, ofNext]
    exact ⟨fun _ => Iff.rfl, rfl⟩

theorem roleCapabilitySet_getD (role : Contribution) : (roleCapabilitySet role).getD [] = role.capabilities.getD [] := by
  unfold roleCapabilitySet
  cases role.capabilities with
  | none => rfl
  | some capabilities => cases capabilities <;> rfl

/-- Selections that no guard refuses keep the contracts of what both provide. -/
theorem contractsKept (uniquePrevious : (previous.map fun manifest => manifest.id).Nodup)
    (uniqueTarget : (target.map fun manifest => manifest.id).Nodup)
    (roles : roleCapabilityIssue previous target = none) (capabilities : capabilityContractIssue previous target = none)
    (policies : policyIssue previous target = none) (knowledge : knowledgeIssue previous target = none)
    (evidence : evidenceContractIssue previous target = none) : ContractsKept previous target where
  roles := by
    intro id role next inPrevious inTarget
    have same := roleCapabilities_same (altered_none (Option.map_eq_none_iff.mp roles) (mem_closureIds inPrevious)
      (mem_closureIds inTarget))
    rw [roleCapabilitySets, roleCapabilitySets,
      declarationOf_sorted (declaredBy_nodup (closureIds_nodup uniquePrevious .roles)),
      declarationOf_sorted (declaredBy_nodup (closureIds_nodup uniqueTarget .roles)),
      declarationOf_declaredBy (closureIds_nodup uniquePrevious .roles) inPrevious,
      declarationOf_declaredBy (closureIds_nodup uniqueTarget .roles) inTarget,
      roleCapabilitySet_getD, roleCapabilitySet_getD] at same
    exact same
  capabilities := by
    intro id capability next inPrevious inTarget
    have same := capabilityContracts_same (altered_none (Option.map_eq_none_iff.mp capabilities)
      (mem_closureIds inPrevious) (mem_closureIds inTarget))
    rw [capabilityContracts, capabilityContracts,
      declarationOf_declaredBy (closureIds_nodup uniquePrevious .capabilities) inPrevious,
      declarationOf_declaredBy (closureIds_nodup uniqueTarget .capabilities) inTarget] at same
    have shape (contribution : Contribution) :
        (((capabilityContract contribution).getD noContract).operations = contribution.operations.getD []) ∧
          ((capabilityContract contribution).getD noContract).requirement =
            contribution.operations.bind fun _ => contribution.requirement := by
      unfold capabilityContract
      cases contribution.operations <;> exact ⟨rfl, rfl⟩
    simpa only [(shape capability).1, (shape capability).2, (shape next).1, (shape next).2] using same
  policies := by
    intro id inPrevious inTarget policy
    have same := declarationDifferences_same (altered_none (Option.map_eq_none_iff.mp policies) inPrevious inTarget)
    rw [← declarationOf_iff (closureWorkflowPolicies_nodup uniquePrevious),
      ← declarationOf_iff (closureWorkflowPolicies_nodup uniqueTarget), same]
  knowledge := by
    intro id entry next inPrevious inTarget
    have same := declarationDifferences_same (altered_none (Option.map_eq_none_iff.mp knowledge)
      (mem_closureIds inPrevious) (mem_closureIds inTarget))
    rw [closureKnowledgeGuidance, closureKnowledgeGuidance,
      declarationOf_sorted (declaredBy_nodup (closureIds_nodup uniquePrevious .knowledge)),
      declarationOf_sorted (declaredBy_nodup (closureIds_nodup uniqueTarget .knowledge)),
      declarationOf_declaredBy (closureIds_nodup uniquePrevious .knowledge) inPrevious,
      declarationOf_declaredBy (closureIds_nodup uniqueTarget .knowledge) inTarget] at same
    unfold declaredGuidance at same
    split at same <;> split at same <;> simp_all
  evidence := by
    intro id entry next inPrevious inTarget
    have same := declarationDifferences_same (altered_none (Option.map_eq_none_iff.mp evidence)
      (show id ∈ closureEvidenceDefinitionIds previous from List.mem_map_of_mem inPrevious)
      (show id ∈ closureEvidenceDefinitionIds target from List.mem_map_of_mem inTarget))
    rw [closureEvidenceContracts, closureEvidenceContracts,
      declarationOf_sorted (declaredBy_nodup (closureEvidenceEntries_nodup uniquePrevious)),
      declarationOf_sorted (declaredBy_nodup (closureEvidenceEntries_nodup uniqueTarget)),
      declarationOf_declaredBy (closureEvidenceEntries_nodup uniquePrevious) inPrevious,
      declarationOf_declaredBy (closureEvidenceEntries_nodup uniqueTarget) inTarget] at same
    unfold evidenceContractMembers at same
    split at same <;> split at same <;> simp_all

end AiOffice.Application.DomainPack

namespace AiOffice.Application.DomainPack

open Data Outcome Domain DomainPackContracts Storage.ProjectConfiguration

variable {Key : Type} [LinearOrder Key] {host : SelectionHost Key} {reads : SelectionReads} {input : SelectionInput}
  {tables middle after : ConfigurationTables} {packs desired : List PackIdentity} {pack : PackIdentity}
  {closure : Option (List DomainPackManifest)} {audited : Bool}

/-- A write of the selection or of the definitions of the project. -/
inductive Write (host : SelectionHost Key) : ConfigurationTables → ConfigurationTables → Prop
  | binding {tables after : ConfigurationTables} (expectedRevision : Int) (packs : List PackIdentity)
      {result : ProjectPackBinding × Bool}
      (replaced : Method.call (replaceBinding host.collation expectedRevision packs) tables = (.ok result, after)) :
      Write host tables after
  | definitions {tables after : ConfigurationTables} (checks : ProjectDefinitionState → Bool)
      (state : ProjectDefinitionState) (expectedRevision : Int) {result : ProjectDefinitionState}
      (replaced : Method.call (replaceDefinitions checks state expectedRevision) tables = (.ok result, after)) :
      Write host tables after

abbrev Writes (host : SelectionHost Key) := Relation.ReflTransGen (Write host)

/-- The selection of a later state: at an equal revision it is the same. -/
structure Advanced (tables after : ConfigurationTables) : Prop where
  revision : tables.binding.configurationRevision ≤ after.binding.configurationRevision
  same : tables.binding.configurationRevision = after.binding.configurationRevision →
    tables.binding.packs = after.binding.packs
  keyed : (tables.packs.map DomainPackDependency.id).Nodup → (after.packs.map DomainPackDependency.id).Nodup

theorem Advanced.refl (tables : ConfigurationTables) : Advanced tables tables := ⟨le_rfl, fun _ => rfl, id⟩

theorem Advanced.trans (first : Advanced tables middle) (second : Advanced middle after) : Advanced tables after where
  revision := first.revision.trans second.revision
  same := by
    intro equal
    have below := first.revision
    have above := second.revision
    rw [first.same (by omega), second.same (by omega)]
  keyed := fun unique => second.keyed (first.keyed unique)

theorem Write.advanced (write : Write host tables after) : Advanced tables after := by
  cases write with
  | binding expectedRevision packs replaced =>
    obtain ⟨fresh, ⟨-, -, rfl⟩ | ⟨-, -, unique, rfl⟩⟩ := replaceBinding_returned replaced
    · exact ⟨by simp [ConfigurationTables.binding], fun _ => rfl, id⟩
    · have next : (ConfigurationTables.binding { tables with
          bindingHead := some (expectedRevision + 1), packs := localeSorted host.collation packs }).configurationRevision =
            tables.binding.configurationRevision + 1 := by rw [fresh]; rfl
      refine ⟨by omega, fun same => absurd same (by omega), fun _ => unique⟩
  | definitions checks state expectedRevision replaced =>
    obtain ⟨-, -, -, -, rfl⟩ := replaceDefinitions_returned replaced
    exact ⟨le_rfl, fun _ => rfl, id⟩

theorem writes_advanced (writes : Writes host tables after) : Advanced tables after := by
  induction writes with
  | refl => exact .refl tables
  | tail _ write ih => exact ih.trans write.advanced

theorem exactPack_ok {exactly_ : PackIdentity} (accepted : exactPack pack = .ok exactly_) : exactly_ = pack := by
  obtain ⟨-, accepted⟩ := guard_ok accepted
  obtain ⟨-, accepted⟩ := guard_ok accepted
  obtain ⟨-, accepted⟩ := guard_ok accepted
  exact (Except.ok.inj accepted).symm

theorem exactPacks_ok {seen : List String} {results : List PackIdentity} (accepted : exactPacks seen packs = .ok results) :
    results = packs ∧ (packs.map DomainPackDependency.id).Nodup ∧ ∀ pack ∈ packs, pack.id ∉ seen := by
  induction packs generalizing seen results with
  | nil =>
    cases accepted
    simp
  | cons pack packs ih =>
    rw [exactPacks] at accepted
    obtain ⟨exactly_, parsed, checked⟩ := bind_ok accepted
    obtain rfl := exactPack_ok parsed
    obtain ⟨fresh, checked⟩ := guard_ok checked
    obtain ⟨others, rest, returned⟩ := bind_ok checked
    cases returned
    obtain ⟨rfl, unique, unseen⟩ := ih rest
    rw [List.contains_iff_mem] at fresh
    refine ⟨rfl, ?_, ?_⟩
    · rw [List.map_cons, List.nodup_cons]
      refine ⟨fun again => ?_, unique⟩
      obtain ⟨other, member, same⟩ := List.mem_map.mp again
      exact unseen other member (by rw [same]; exact List.mem_cons_self)
    · intro other member
      rcases List.mem_cons.mp member with rfl | later
      · exact fresh
      · exact fun inSeen => unseen other later (List.mem_cons_of_mem _ inSeen)

theorem normalizePackSelection_ok (normalized : normalizePackSelection host packs = .ok desired) :
    desired = localeSorted host.collation packs ∧ (packs.map DomainPackDependency.id).Nodup := by
  obtain ⟨exactly_, accepted, rfl⟩ := map_ok normalized
  obtain ⟨rfl, unique, -⟩ := exactPacks_ok accepted
  exact ⟨rfl, unique⟩

theorem localeSorted_perm (collation : String → Key) (packs : List PackIdentity) :
    (localeSorted collation packs).Perm packs := sortOn_perm _ packs

@[simp] theorem mem_localeSorted {collation : String → Key} : pack ∈ localeSorted collation packs ↔ pack ∈ packs :=
  mem_sortOn

theorem selectedById_mem {selected : List PackIdentity} {id : String} (found : selectedById selected id = some pack) :
    pack ∈ selected ∧ pack.id = id :=
  ⟨List.mem_reverse.mp (List.mem_of_find?_eq_some found), by simpa using List.find?_some found⟩

theorem sameSelection {current proposed : List PackIdentity} (unique : (current.map DomainPackDependency.id).Nodup)
    (nothing : (addedPacks current proposed).length + (addedPacks proposed current).length +
      (changedPacks current proposed).length = 0) : ∀ pack, pack ∈ current ↔ pack ∈ proposed := by
  have added : addedPacks current proposed = [] := List.length_eq_zero_iff.mp (by omega)
  have removed : addedPacks proposed current = [] := List.length_eq_zero_iff.mp (by omega)
  have changed : changedPacks current proposed = [] := List.length_eq_zero_iff.mp (by omega)
  have forward : ∀ pack ∈ proposed, pack ∈ current := by
    intro pack member
    have known := List.filter_eq_nil_iff.mp added pack member
    rw [Option.isNone_iff_eq_none] at known
    obtain ⟨before, found⟩ := Option.ne_none_iff_exists'.mp known
    have unchanged := List.filterMap_eq_nil_iff.mp changed pack member
    rw [found, Option.bind_some] at unchanged
    split at unchanged
    · next same => exact same ▸ (selectedById_mem found).1
    · cases unchanged
  intro pack
  constructor
  · intro member
    have known := List.filter_eq_nil_iff.mp removed pack member
    rw [Option.isNone_iff_eq_none] at known
    obtain ⟨next, found⟩ := Option.ne_none_iff_exists'.mp known
    obtain ⟨inProposed, named⟩ := selectedById_mem found
    have same : next = pack := keyed_eq unique member (forward next inProposed) named
    exact same ▸ inProposed
  · exact forward pack

/-- What a run established before its transaction, of the selection that it commits. -/
structure Checked (host : SelectionHost Key) (reads : SelectionReads) (expectedRevision : Int)
    (packs desired : List PackIdentity) (closure : Option (List DomainPackManifest)) : Prop where
  normalized : desired = localeSorted host.collation packs
  revision : reads.started.binding.configurationRevision = expectedRevision
  examined : reads.started.binding.packs = desired ∧ closure = none ∨
    ∃ target, closure = some target ∧ resolveInstalledPackManifests host.catalog desired = .ok target ∧
      ((addedPacks reads.examined.binding.packs desired).length + (addedPacks desired reads.examined.binding.packs).length +
          (changedPacks reads.examined.binding.packs desired).length = 0 ∨
        (selectionGuard host.catalog reads.examined.binding.packs desired).issues = [])

theorem raise_ok {issues : List BindingIssue} {done : Unit} (raised : raise issues = .ok done) : issues = [] := by
  cases issues with
  | nil => rfl
  | cons issue issues => cases raised

theorem proposedSelection_normalized (normalized : normalizePackSelection host packs = .ok desired) :
    proposedSelection host packs = .ok (desired, []) := by
  rw [proposedSelection, normalized]

theorem examine_ok {current : ProjectPackBinding} {owned : List ProjectOwnedDefinition}
    {result : ProjectPackBindingPreview × Option (List DomainPackManifest)}
    (normalized : normalizePackSelection host packs = .ok desired)
    (examined : examine host current owned packs = .ok result) (clean : result.1.issues = []) :
    ∃ target, result.2 = some target ∧ resolveInstalledPackManifests host.catalog desired = .ok target ∧
      ((addedPacks current.packs desired).length + (addedPacks desired current.packs).length +
          (changedPacks current.packs desired).length = 0 ∨
        (selectionGuard host.catalog current.packs desired).issues = []) := by
  obtain ⟨proposal, proposed, examined⟩ := bind_ok examined
  rw [proposedSelection_normalized normalized] at proposed
  cases proposed
  cases examined
  cases resolved : resolveInstalledPackManifests host.catalog desired with
  | error thrown => simp [resolved] at clean
  | ok target =>
    refine ⟨target, by simp [Except.toOption], rfl, ?_⟩
    simp only [List.isEmpty_nil, if_true, resolved, Option.bind_some, Except.toOption, Option.isSome_some,
      Bool.true_and, decide_eq_true_eq, List.append_eq_nil_iff] at clean
    by_cases nothing : 0 < (addedPacks current.packs desired).length + (addedPacks desired current.packs).length +
        (changedPacks current.packs desired).length
    · rw [if_pos nothing] at clean
      exact .inr clean.2
    · exact .inl (by omega)

theorem readBinding_ok {binding : ProjectPackBinding} (read : readBinding tables = .ok binding) :
    binding = tables.binding := by
  unfold readBinding at read
  split at read <;> cases read
  rfl

theorem checkSelection_ok {result : List PackIdentity × Option (List DomainPackManifest)}
    (checked : checkSelection host reads input = .ok result) :
    Checked host reads input.expectedRevision input.desired result.1 result.2 := by
  obtain ⟨-, steps⟩ := guard_ok checked
  obtain ⟨desired, normalizes, steps⟩ := bind_ok steps
  obtain ⟨current, read, steps⟩ := bind_ok steps
  obtain rfl := readBinding_ok read
  obtain ⟨fresh, steps⟩ := guard_ok steps
  have normalized := (mapError_ok _).mp normalizes
  split at steps
  · next same =>
    cases steps
    exact ⟨(normalizePackSelection_ok normalized).1, not_not.mp fresh, .inl ⟨same, rfl⟩⟩
  · obtain ⟨binding, readAgain, steps⟩ := bind_ok steps
    obtain rfl := readBinding_ok readAgain
    obtain ⟨preview, examined, steps⟩ := bind_ok steps
    obtain ⟨_, raised, steps⟩ := bind_ok steps
    obtain ⟨target, closed, resolved, guarded⟩ := examine_ok normalized examined (raise_ok raised)
    rw [closed] at steps
    cases steps
    exact ⟨(normalizePackSelection_ok normalized).1, not_not.mp fresh, .inr ⟨target, rfl, resolved, guarded⟩⟩

theorem commitSelection_returned {expectedRevision : Int} {binding : ProjectPackBinding}
    (committed : Method.call (commitSelection host audited expectedRevision desired closure) tables = (.ok binding, after)) :
    tables.binding.configurationRevision = expectedRevision ∧
      (∃ result, Method.call (replaceBinding host.collation expectedRevision desired) tables = (.ok result, after)) ∧
      refuseCollision closure after.definitions.owned = .ok () := by
  have steps := Method.transaction_returned committed
  obtain ⟨current, first, read, steps⟩ := Method.call_bind_returns steps
  cases read
  obtain ⟨_, second, fresh, steps⟩ := Method.call_bind_returns steps
  rw [Method.call_lift] at fresh
  obtain ⟨checked, rfl⟩ := Prod.mk.inj fresh
  obtain ⟨unchanged, -⟩ := guard_ok checked
  obtain ⟨result, third, adapted, steps⟩ := Method.call_bind_returns steps
  have replaced := Method.adapt_returned adapted
  obtain ⟨left, fourth, readAgain, steps⟩ := Method.call_bind_returns steps
  cases readAgain
  obtain ⟨⟨⟩, fifth, compared, steps⟩ := Method.call_bind_returns steps
  rw [Method.call_lift] at compared
  obtain ⟨free, rfl⟩ := Prod.mk.inj compared
  obtain ⟨⟨⟩, sixth, appended, steps⟩ := Method.call_bind_returns steps
  rw [Method.call_lift] at appended
  obtain ⟨-, rfl⟩ := Prod.mk.inj appended
  cases steps
  exact ⟨not_not.mp unchanged, ⟨result, replaced⟩, free⟩

theorem collisions_nil {target : List DomainPackManifest} {owned : List ProjectOwnedDefinition}
    (clean : collisionIssues target owned = []) : ∀ entry ∈ owned, ∀ manifest ∈ target,
      manifest.find entry.kind entry.id = none := by
  intro entry inOwned manifest inTarget
  rw [collisionIssues, List.map_eq_nil_iff, packDefinitionCollisions, List.filterMap_eq_nil_iff] at clean
  have free := clean entry (mem_sortOn.mpr inOwned)
  by_contra found
  rw [Option.map_eq_none_iff, List.head?_eq_none_iff, sort, sortOn_eq_nil, List.map_eq_nil_iff,
    List.filter_eq_nil_iff] at free
  exact free manifest inTarget (Option.isSome_iff_ne_none.mpr found)

theorem selectionGuard_kept {catalog : InstalledPackCatalog} {currentPacks proposed : List PackIdentity}
    {target : List DomainPackManifest} (resolved : resolveInstalledPackManifests catalog proposed = .ok target)
    (clean : (selectionGuard catalog currentPacks proposed).issues = []) :
    ∃ previous, resolveInstalledPackManifests catalog currentPacks = .ok previous ∧ ContractsKept previous target := by
  unfold selectionGuard at clean
  rw [resolved] at clean
  cases ofCurrent : resolveInstalledPackManifests catalog currentPacks with
  | error thrown =>
    rw [ofCurrent] at clean
    cases clean
  | ok previous =>
    rw [ofCurrent] at clean
    simp only [List.append_eq_nil_iff, Option.toList_eq_nil_iff] at clean
    obtain ⟨⟨⟨⟨roles, capabilities⟩, policies⟩, knowledge⟩, evidence⟩ := clean
    exact ⟨previous, rfl, contractsKept (closure_ok ofCurrent).2.1 (closure_ok resolved).2.1 roles capabilities policies
      knowledge evidence⟩

def SameSelection (current proposed : List PackIdentity) : Prop := ∀ pack, pack ∈ current ↔ pack ∈ proposed

structure SelectionKept (host : SelectionHost Key) (tables after : ConfigurationTables) : Prop where
  closures : ∃ previous target, resolveInstalledPackManifests host.catalog tables.binding.packs = .ok previous ∧
    resolveInstalledPackManifests host.catalog after.binding.packs = .ok target ∧ ContractsKept previous target ∧
    ∀ entry ∈ after.owned, ∀ manifest ∈ target, manifest.find entry.kind entry.id = none
  definitions : after.owned = tables.owned ∧ after.overrides = tables.overrides

theorem applySelection_kept (keyed : reads.started.Keyed) (examined : Writes host reads.started reads.examined)
    (compared : Writes host reads.examined reads.compared) (committing : Writes host reads.compared tables)
    {binding : ProjectPackBinding} (applied : Method.call (applySelection host audited reads input) tables = (.ok binding, after)) :
    SameSelection after.packs input.desired ∧ (¬SameSelection tables.packs input.desired →
      after.packs.Perm input.desired ∧ SelectionKept host tables after) := by
  obtain ⟨result, between, lifted, commits⟩ := Method.call_bind_returns applied
  rw [Method.call_lift] at lifted
  obtain ⟨checks, rfl⟩ := Prod.mk.inj lifted
  obtain ⟨normalized, started, guarded⟩ := checkSelection_ok checks
  obtain ⟨revision, ⟨replacement, replaced⟩, free⟩ := commitSelection_returned commits
  -- the revision of the commit is that of the first read, so no write between them changed the selection
  have early := writes_advanced examined
  have late := writes_advanced (compared.trans committing)
  have below := early.revision
  have above := late.revision
  have sameExamined := early.same (by omega)
  have sameTables := late.same (by omega)
  have desiredMembers (pack : PackIdentity) : pack ∈ result.1 ↔ pack ∈ input.desired := by
    rw [normalized, mem_localeSorted]
  have tablesMembers (pack : PackIdentity) : pack ∈ tables.binding.packs ↔ pack ∈ tables.packs := mem_sortOn
  obtain ⟨-, ⟨same, -, rfl⟩ | ⟨different, -, -, rfl⟩⟩ := replaceBinding_returned replaced
  · have unchanged : SameSelection tables.packs input.desired := by
      intro pack
      rw [← tablesMembers, same, mem_localeSorted, desiredMembers]
    exact ⟨unchanged, fun changed => absurd unchanged changed⟩
  · refine ⟨fun pack => mem_localeSorted.trans (desiredMembers pack), fun changed => ?_⟩
    have notSame : ¬SameSelection tables.binding.packs result.1 := by
      intro same
      exact changed fun pack => (tablesMembers pack).symm.trans ((same pack).trans (desiredMembers pack))
    rcases guarded with ⟨same, -⟩ | ⟨target, closed, resolved, passed⟩
    · refine absurd (fun pack => ?_) notSame
      rw [← sameTables, ← sameExamined, same]
    · rw [sameTables] at passed
      rcases passed with nothing | clean
      · have unique : (tables.binding.packs.map DomainPackDependency.id).Nodup :=
          ((sortOn_perm _ tables.packs).map _).nodup_iff.mpr ((early.trans late).keyed keyed.packs)
        exact absurd (sameSelection unique nothing) notSame
      · obtain ⟨previous, ofCurrent, kept⟩ := selectionGuard_kept resolved clean
        rw [closed] at free
        have collisionFree := collisions_nil (raise_ok free)
        have ordered : (localeSorted host.collation result.1).Perm input.desired := by
          rw [normalized]
          exact (localeSorted_perm _ _).trans (localeSorted_perm _ _)
        refine ⟨ordered, ⟨previous, target, ofCurrent, ?_, kept, fun entry member =>
          collisionFree entry (mem_sortOn.mpr member)⟩, rfl, rfl⟩
        refine closure_perm ?_ resolved
        exact ((sortOn_perm _ _).trans (localeSorted_perm host.collation result.1)).symm

theorem applySelection_threw {thrown : BindingError}
    (threw : Method.call (applySelection host audited reads input) tables = (.error thrown, after)) : after = tables := by
  unfold applySelection at threw
  rw [Method.call_bind, Method.call_lift] at threw
  cases checks : checkSelection host reads input with
  | error refused =>
    rw [checks] at threw
    exact (Prod.mk.inj threw).2.symm
  | ok result =>
    rw [checks] at threw
    exact Method.transaction_threw threw

/-- However other writes come between the reads of a run and its commit: a committed change of the selection had both
closures, kept the contracts of what both provide and collides with no definition of the project; and a run that throws,
as it does on a collision that was written after its checks, changes nothing. -/
theorem applySelection_guarded (keyed : reads.started.Keyed) (examined : Writes host reads.started reads.examined)
    (compared : Writes host reads.examined reads.compared) (committing : Writes host reads.compared tables) :
    (∀ binding after, Method.call (applySelection host audited reads input) tables = (.ok binding, after) →
      SameSelection after.packs input.desired ∧
        (¬SameSelection tables.packs input.desired → SelectionKept host tables after)) ∧
    (∀ thrown after, Method.call (applySelection host audited reads input) tables = (.error thrown, after) →
      after = tables) ∧
    (∀ target, resolveInstalledPackManifests host.catalog input.desired = .ok target →
      ¬SameSelection tables.packs input.desired →
      (∃ entry ∈ tables.owned, ∃ manifest ∈ target, manifest.find entry.kind entry.id ≠ none) →
      ∃ thrown, Method.call (applySelection host audited reads input) tables = (.error thrown, tables)) := by
  refine ⟨fun binding after applied => ?_, fun thrown after => applySelection_threw, ?_⟩
  · obtain ⟨same, keeps⟩ := applySelection_kept keyed examined compared committing applied
    exact ⟨same, fun changed => (keeps changed).2⟩
  rintro target resolved changed ⟨entry, inOwned, manifest, inTarget, found⟩
  cases applied : Method.call (applySelection host audited reads input) tables with
  | mk answer after =>
    cases answer with
    | error thrown => exact ⟨thrown, by rw [applySelection_threw applied]⟩
    | ok binding =>
      obtain ⟨-, keeps⟩ := applySelection_kept keyed examined compared committing applied
      obtain ⟨ordered, kept⟩ := keeps changed
      obtain ⟨previous, committed, -, resolvedAfter, -, free⟩ := kept.closures
      have sameClosure := closure_perm ((sortOn_perm _ after.packs).trans ordered) resolvedAfter
      obtain rfl := Except.ok.inj (sameClosure.symm.trans resolved)
      rw [kept.definitions.1] at free
      exact absurd (free entry inOwned manifest inTarget) found

def writingHost : SelectionHost (List Nat) := ⟨⟨1, [installedPack writingPack]⟩, noOperationProviders, codeUnits⟩

def noSelection : ConfigurationTables := ⟨"project", true, none, [], none, [], []⟩

def memo : ProjectOwnedDefinition :=
  ⟨.prompts, "memo", 1, true, describing (some "memo") none none, "actor", "2026-01-01T00:00:00.000Z"⟩

def withMemo : ConfigurationTables := { noSelection with definitionHead := some 1, owned := [memo] }

def selectWriting : SelectionInput := ⟨[writingPack.identity], 0⟩

theorem memo_written : Write writingHost noSelection withMemo :=
  .definitions (fun _ => true) ⟨"project", 0, [memo], []⟩ 0 rfl

theorem writing_selected : ∃ binding after,
    Method.call (applySelection writingHost true ⟨noSelection, noSelection, noSelection⟩ selectWriting) withMemo =
      (.ok binding, after) ∧ after.packs = [writingPack.identity] := by
  have selects : ((Method.call (applySelection writingHost true ⟨noSelection, noSelection, noSelection⟩ selectWriting)
      withMemo).1.toOption.isSome && (Method.call (applySelection writingHost true
        ⟨noSelection, noSelection, noSelection⟩ selectWriting) withMemo).2.packs = [writingPack.identity]) = true := by
    decide
  cases applied : Method.call (applySelection writingHost true ⟨noSelection, noSelection, noSelection⟩ selectWriting)
      withMemo with
  | mk answer after =>
    rw [applied, Bool.and_eq_true, decide_eq_true_eq] at selects
    cases answer with
    | error thrown => cases selects.1
    | ok binding => exact ⟨binding, after, rfl, selects.2⟩

/-- A definition that collides with nothing is written after the checks of a run, and the run commits. -/
theorem free_definition_committed : ∃ binding after, Write writingHost noSelection withMemo ∧
    Method.call (applySelection writingHost true ⟨noSelection, noSelection, noSelection⟩ selectWriting) withMemo =
      (.ok binding, after) ∧ after.binding.packs ≠ withMemo.binding.packs := by
  obtain ⟨binding, after, applied, selected⟩ := writing_selected
  refine ⟨binding, after, memo_written, applied, ?_⟩
  rw [ConfigurationTables.binding, selected]
  exact List.cons_ne_nil _ _

/-- The same run, with what its commit guarantees. -/
theorem applySelection_guarded_writing : ∃ binding after,
    Method.call (applySelection writingHost true ⟨noSelection, noSelection, noSelection⟩ selectWriting) withMemo =
      (.ok binding, after) ∧ SelectionKept writingHost withMemo after := by
  obtain ⟨binding, after, applied, -⟩ := writing_selected
  have keyed : noSelection.Keyed := ⟨List.nodup_nil, List.nodup_nil, List.nodup_nil⟩
  obtain ⟨kept, -, -⟩ := @applySelection_guarded _ _ writingHost ⟨noSelection, noSelection, noSelection⟩ selectWriting
    withMemo true keyed .refl .refl (.single memo_written)
  refine ⟨binding, after, applied, (kept binding after applied).2 fun same => ?_⟩
  have absent := (same writingPack.identity).mpr List.mem_cons_self
  cases absent

end AiOffice.Application.DomainPack
