import AiOffice.Application.DomainPack.PolicyClauses
import AiOffice.Data.Keyed

namespace AiOffice.Application.DomainPack

open Data Domain DomainPackContracts

/-- The definitions of a kind that a closure provides, each by the id that a version does not change. -/
def closureEntries (closure : List DomainPackManifest) (kind : ContributionKind) : List (StableId × Contribution) :=
  closure.flatMap fun manifest => (manifest.contributions kind).map fun item =>
    (.pack manifest.id kind item.localId, item)

def closureIds (closure : List DomainPackManifest) (kind : ContributionKind) : List StableId :=
  (closureEntries closure kind).map Prod.fst

def closureRoleIds (closure : List DomainPackManifest) : List StableId := closureIds closure .roles

def closureCapabilityIds (closure : List DomainPackManifest) : List StableId := closureIds closure .capabilities

def closureWorkflowIds (closure : List DomainPackManifest) : List StableId := closureIds closure .workflows

def closureKnowledgeIds (closure : List DomainPackManifest) : List StableId := closureIds closure .knowledge

def evidenceContractKinds : List ContributionKind := [.artifactTypes, .evidenceTypes, .validators]

def closureEvidenceEntries (closure : List DomainPackManifest) : List (StableId × Contribution) :=
  closure.flatMap fun manifest => evidenceContractKinds.flatMap (closureEntries [manifest])

def closureEvidenceDefinitionIds (closure : List DomainPackManifest) : List StableId :=
  (closureEvidenceEntries closure).map Prod.fst

def declaredBy {Declared : Type} (read : Contribution → Option Declared) (entries : List (StableId × Contribution)) :
    List (StableId × Declared) :=
  entries.filterMap fun entry => (read entry.2).map fun declared => (entry.1, declared)

def sortedById {Declared : Type} (declared : List (StableId × Declared)) : List (StableId × Declared) :=
  sortOn (fun entry => codeUnits entry.1.text) declared

def declarationOf {Declared : Type} (declared : List (StableId × Declared)) (id : StableId) : Option Declared :=
  (declared.reverse.find? fun entry => entry.1 = id).map Prod.snd

def idsOfBoth {Declared : Type} (old next : List (StableId × Declared)) : List StableId :=
  sortedSet (fun id => codeUnits id.text) (old.map Prod.fst ++ next.map Prod.fst)

def roleCapabilitySet (role : Contribution) : Option (List String) :=
  role.capabilities.filter fun capabilities => !capabilities.isEmpty

def roleCapabilitySets (closure : List DomainPackManifest) : List (StableId × List String) :=
  sortedById (declaredBy roleCapabilitySet (closureEntries closure .roles))

structure RoleCapabilityDifference where
  roleId : StableId
  added : List String
  removed : List String

def roleCapabilityDifferences (before after_ : List DomainPackManifest) : List RoleCapabilityDifference :=
  let old := roleCapabilitySets before
  let next := roleCapabilitySets after_
  (idsOfBoth old next).filterMap fun roleId =>
    let previous := (declarationOf old roleId).getD []
    let current := (declarationOf next roleId).getD []
    let added := current.filter fun item => !previous.contains item
    let removed := previous.filter fun item => !current.contains item
    if added.isEmpty && removed.isEmpty then none else some { roleId, added, removed }

/-- The operations that a capability declares, and whether they are required. -/
structure CapabilityContract where
  operations : List CapabilityOperation
  requirement : Option CapabilityRequirement

def capabilityContract (capability : Contribution) : Option CapabilityContract :=
  capability.operations.map fun operations => { operations, requirement := capability.requirement }

def capabilityContracts (closure : List DomainPackManifest) : List (StableId × CapabilityContract) :=
  declaredBy capabilityContract (closureEntries closure .capabilities)

structure CapabilityContractDifference where
  capabilityId : StableId
  addedOperations : List CapabilityOperation
  removedOperations : List CapabilityOperation
  requirementBefore : Option CapabilityRequirement
  requirementAfter : Option CapabilityRequirement

def noContract : CapabilityContract := ⟨[], none⟩

def capabilityContractDifferences (before after_ : List DomainPackManifest) : List CapabilityContractDifference :=
  let old := capabilityContracts before
  let next := capabilityContracts after_
  (idsOfBoth old next).filterMap fun capabilityId =>
    let previous := (declarationOf old capabilityId).getD noContract
    let current := (declarationOf next capabilityId).getD noContract
    let addedOperations := current.operations.filter fun entry => !previous.operations.contains entry
    let removedOperations := previous.operations.filter fun entry => !current.operations.contains entry
    if addedOperations.isEmpty && removedOperations.isEmpty && previous.requirement = current.requirement then none
    else some {
      capabilityId, addedOperations, removedOperations
      requirementBefore := previous.requirement
      requirementAfter := current.requirement }

inductive ChangeKind
  | added
  | removed
  | changed
  deriving DecidableEq

structure DeclarationDifference (Declared : Type) where
  id : StableId
  change : ChangeKind
  before : Option Declared
  after : Option Declared

def declarationDifference {Declared : Type} [DecidableEq Declared] (id : StableId) :
    Option Declared → Option Declared → Option (DeclarationDifference Declared)
  | none, none => none
  | none, some current => some ⟨id, .added, none, some current⟩
  | some previous, none => some ⟨id, .removed, some previous, none⟩
  | some previous, some current =>
    if previous = current then none else some ⟨id, .changed, some previous, some current⟩

def declarationDifferences {Declared : Type} [DecidableEq Declared] (old next : List (StableId × Declared)) :
    List (DeclarationDifference Declared) :=
  (idsOfBoth old next).filterMap fun id => declarationDifference id (declarationOf old id) (declarationOf next id)

structure WorkflowPolicy extends PolicyClauses where
  policyId : StableId
  workflowId : StableId
  deriving DecidableEq

def workflowPolicies (manifest : DomainPackManifest) : List (StableId × WorkflowPolicy) :=
  (manifest.contributions .policies).filterMap fun policy => policy.workflow.map fun workflow =>
    (.pack manifest.id .workflows workflow, { policyClauses policy.toDefinition with
      policyId := .pack manifest.id .policies policy.localId
      workflowId := .pack manifest.id .workflows workflow })

def closureWorkflowPolicies (closure : List DomainPackManifest) : List (StableId × WorkflowPolicy) :=
  sortedById (closure.flatMap workflowPolicies)

def workflowPolicyDifferences (before after_ : List DomainPackManifest) : List (DeclarationDifference WorkflowPolicy) :=
  declarationDifferences (closureWorkflowPolicies before) (closureWorkflowPolicies after_)

def declaredGuidance (entry : Contribution) : Option KnowledgeGuidance :=
  if entry.guidance = noGuidance then none else some entry.guidance

def closureKnowledgeGuidance (closure : List DomainPackManifest) : List (StableId × KnowledgeGuidance) :=
  sortedById (declaredBy declaredGuidance (closureEntries closure .knowledge))

def knowledgeGuidanceDifferences (before after_ : List DomainPackManifest) :
    List (DeclarationDifference KnowledgeGuidance) :=
  declarationDifferences (closureKnowledgeGuidance before) (closureKnowledgeGuidance after_)

def evidenceContractMembers (entry : Contribution) : Option (List (String × String)) :=
  if entry.typedMembers.isEmpty then none else some entry.typedMembers

/-- The typed members of the artifact types, evidence types and validators of a closure that have any. -/
def closureEvidenceContracts (closure : List DomainPackManifest) : List (StableId × List (String × String)) :=
  sortedById (declaredBy evidenceContractMembers (closureEvidenceEntries closure))

def evidenceContractDifferences (before after_ : List DomainPackManifest) :
    List (DeclarationDifference (List (String × String))) :=
  declarationDifferences (closureEvidenceContracts before) (closureEvidenceContracts after_)

section Declarations

variable {Declared : Type} {declared old next : List (StableId × Declared)} {id : StableId} {value : Declared}

theorem declarationOf_iff (unique : (declared.map Prod.fst).Nodup) :
    declarationOf declared id = some value ↔ (id, value) ∈ declared := by
  constructor
  · intro found
    obtain ⟨⟨other, stored⟩, lookup, rfl⟩ := Option.map_eq_some_iff.mp found
    have same : other = id := by simpa using List.find?_some lookup
    subst same
    exact List.mem_reverse.mp (List.mem_of_find?_eq_some lookup)
  · intro member
    rw [declarationOf, find_reverse_keyed unique member, Option.map_some]

theorem declarationOf_none : declarationOf declared id = none ↔ id ∉ declared.map Prod.fst := by
  simp only [declarationOf, Option.map_eq_none_iff, List.find?_eq_none, List.mem_reverse, decide_eq_true_eq,
    List.mem_map, not_exists, not_and]

theorem mem_idsOfBoth : id ∈ idsOfBoth old next ↔ id ∈ old.map Prod.fst ∨ id ∈ next.map Prod.fst := by
  rw [idsOfBoth, mem_sortedSet, List.mem_append]

theorem declaredOfBoth (absent : id ∉ idsOfBoth old next) :
    declarationOf old id = none ∧ declarationOf next id = none := by
  rw [mem_idsOfBoth, not_or] at absent
  exact ⟨declarationOf_none.mpr absent.1, declarationOf_none.mpr absent.2⟩

theorem declarationDifference_none [DecidableEq Declared] {before after_ : Option Declared}
    (none : declarationDifference id before after_ = none) : before = after_ := by
  cases before <;> cases after_ <;> simp_all [declarationDifference]

theorem declarationDifference_id [DecidableEq Declared] {before after_ : Option Declared}
    {difference : DeclarationDifference Declared} (differs : declarationDifference id before after_ = some difference) :
    difference.id = id := by
  cases before <;> cases after_ <;> simp only [declarationDifference] at differs
  · cases differs
  · cases differs
    rfl
  · cases differs
    rfl
  · split at differs <;> cases differs
    rfl

theorem declarationDifferences_same [DecidableEq Declared]
    (none : ∀ difference ∈ declarationDifferences old next, difference.id ≠ id) :
    declarationOf old id = declarationOf next id := by
  by_cases inEither : id ∈ idsOfBoth old next
  · apply @declarationDifference_none Declared id
    rw [Option.eq_none_iff_forall_ne_some]
    intro difference differs
    exact none difference (List.mem_filterMap.mpr ⟨id, inEither, differs⟩) (declarationDifference_id differs)
  · obtain ⟨ofOld, ofNext⟩ := declaredOfBoth inEither
    rw [ofOld, ofNext]

theorem sortedById_nodup (unique : (declared.map Prod.fst).Nodup) : ((sortedById declared).map Prod.fst).Nodup :=
  ((sortOn_perm _ declared).map Prod.fst).nodup_iff.mpr unique

end Declarations

variable {closure previous target : List DomainPackManifest} {kind : ContributionKind} {id : StableId}
  {entry next : Contribution}

theorem mem_closureEntries : (id, entry) ∈ closureEntries closure kind ↔
    ∃ manifest ∈ closure, entry ∈ manifest.contributions kind ∧ id = .pack manifest.id kind entry.localId := by
  simp only [closureEntries, List.mem_flatMap, List.mem_map, Prod.mk.injEq]
  constructor
  · rintro ⟨manifest, member, item, contributed, rfl, rfl⟩
    exact ⟨manifest, member, contributed, rfl⟩
  · rintro ⟨manifest, member, contributed, rfl⟩
    exact ⟨manifest, member, entry, contributed, rfl, rfl⟩

theorem mem_closureIds (member : (id, entry) ∈ closureEntries closure kind) : id ∈ closureIds closure kind :=
  List.mem_map_of_mem member

theorem declaredBy_nodup {Declared : Type} {read : Contribution → Option Declared} {entries : List (StableId × Contribution)}
    (unique : (entries.map Prod.fst).Nodup) : ((declaredBy read entries).map Prod.fst).Nodup := by
  refine keyed_filterMap (fun item result reads => ?_) unique
  obtain ⟨value, -, rfl⟩ := Option.map_eq_some_iff.mp reads
  rfl

theorem declarationOf_declaredBy {Declared : Type} {read : Contribution → Option Declared}
    {entries : List (StableId × Contribution)} (unique : (entries.map Prod.fst).Nodup) (member : (id, entry) ∈ entries) :
    declarationOf (declaredBy read entries) id = read entry := by
  refine Option.ext fun value => ?_
  rw [declarationOf_iff (declaredBy_nodup unique), declaredBy, List.mem_filterMap]
  constructor
  · rintro ⟨⟨other, item⟩, inEntries, reads⟩
    obtain ⟨stored, found, same⟩ := Option.map_eq_some_iff.mp reads
    cases same
    have equal := keyed_eq unique inEntries member rfl
    rw [(Prod.mk.inj equal).2]
    exact found
  · intro found
    exact ⟨(id, entry), member, by rw [found]; rfl⟩

theorem declarationOf_sorted {Declared : Type} {declared : List (StableId × Declared)}
    (unique : (declared.map Prod.fst).Nodup) : declarationOf (sortedById declared) id = declarationOf declared id := by
  refine Option.ext fun value => ?_
  rw [declarationOf_iff (sortedById_nodup unique), declarationOf_iff unique, sortedById, mem_sortOn]

def StableId.packId : StableId → Option String
  | .pack packId _ _ => some packId
  | .project _ _ => none

theorem packEntries_nodup {Declared : Type} {entriesOf : DomainPackManifest → List (StableId × Declared)}
    (ofPack : ∀ manifest, ∀ entry ∈ entriesOf manifest, entry.1.packId = some manifest.id)
    (each : ∀ manifest, ((entriesOf manifest).map Prod.fst).Nodup)
    (unique : (closure.map fun manifest => manifest.id).Nodup) : ((closure.flatMap entriesOf).map Prod.fst).Nodup := by
  induction closure with
  | nil => exact List.nodup_nil
  | cons manifest closure ih =>
    rw [List.map_cons, List.nodup_cons] at unique
    rw [List.flatMap_cons, List.map_append, List.nodup_append']
    refine ⟨each manifest, ih unique.2, fun id here there => unique.1 ?_⟩
    obtain ⟨first, inManifest, rfl⟩ := List.mem_map.mp here
    obtain ⟨second, inClosure, same⟩ := List.mem_map.mp there
    obtain ⟨other, member, inOther⟩ := List.mem_flatMap.mp inClosure
    have packs : some other.id = some manifest.id := by
      rw [← ofPack other second inOther, same, ofPack manifest first inManifest]
    exact Option.some.inj packs ▸ List.mem_map_of_mem member

theorem entriesOfKind_nodup (manifest : DomainPackManifest) (kind : ContributionKind) :
    ((closureEntries [manifest] kind).map Prod.fst).Nodup := by
  have locals := manifest.valid.unique kind
  have same : (closureEntries [manifest] kind).map Prod.fst =
      ((manifest.contributions kind).map Contribution.localId).map (StableId.pack manifest.id kind) := by
    simp [closureEntries]
  rw [same]
  exact locals.map fun left right equal => (StableId.pack.inj equal).2.2

theorem entriesOfKind_id {manifest : DomainPackManifest} {item : StableId × Contribution}
    (member : item ∈ closureEntries [manifest] kind) : item.1 = .pack manifest.id kind item.2.localId := by
  obtain ⟨source, inClosure, -, located⟩ := mem_closureEntries.mp (show (item.1, item.2) ∈ _ from member)
  rw [List.mem_singleton] at inClosure
  exact inClosure ▸ located

theorem closureIds_nodup (unique : (closure.map fun manifest => manifest.id).Nodup) (kind : ContributionKind) :
    (closureIds closure kind).Nodup := by
  have same : closureEntries closure kind = closure.flatMap fun manifest => closureEntries [manifest] kind := by
    simp [closureEntries]
  rw [closureIds, same]
  refine packEntries_nodup (fun manifest entry member => ?_) (fun manifest => entriesOfKind_nodup manifest kind) unique
  rw [entriesOfKind_id member]
  rfl

theorem closureEvidenceEntries_nodup (unique : (closure.map fun manifest => manifest.id).Nodup) :
    ((closureEvidenceEntries closure).map Prod.fst).Nodup := by
  refine packEntries_nodup (fun manifest entry member => ?_) (fun manifest => ?_) unique
  · obtain ⟨kind, -, inKind⟩ := List.mem_flatMap.mp member
    rw [entriesOfKind_id inKind]
    rfl
  · have distinct : evidenceContractKinds.Nodup := by decide
    generalize evidenceContractKinds = kinds at distinct
    induction kinds with
    | nil => exact List.nodup_nil
    | cons kind kinds ih =>
      rw [List.nodup_cons] at distinct
      rw [List.flatMap_cons, List.map_append, List.nodup_append']
      refine ⟨entriesOfKind_nodup manifest kind, ih distinct.2, fun id here there => distinct.1 ?_⟩
      obtain ⟨first, inFirst, rfl⟩ := List.mem_map.mp here
      obtain ⟨second, inOthers, same⟩ := List.mem_map.mp there
      obtain ⟨other, member, inOther⟩ := List.mem_flatMap.mp inOthers
      rw [entriesOfKind_id inFirst, entriesOfKind_id inOther] at same
      exact (StableId.pack.inj same).2.1 ▸ member

theorem workflowPolicies_nodup (manifest : DomainPackManifest) : ((workflowPolicies manifest).map Prod.fst).Nodup := by
  have governed := manifest.valid.governed
  unfold workflowPolicies
  generalize manifest.contributions .policies = policies at governed
  induction policies with
  | nil => exact List.nodup_nil
  | cons policy policies ih =>
    rw [List.pairwise_cons] at governed
    obtain ⟨first, rest⟩ := governed
    cases governs : policy.workflow with
    | none =>
      rw [List.filterMap_cons_none (by rw [governs]; rfl)]
      exact ih rest
    | some workflow =>
      rw [List.filterMap_cons_some (by rw [governs]; rfl), List.map_cons, List.nodup_cons]
      refine ⟨fun again => ?_, ih rest⟩
      obtain ⟨⟨id, later⟩, inRest, same⟩ := List.mem_map.mp again
      obtain ⟨other, member, reads⟩ := List.mem_filterMap.mp inRest
      obtain ⟨otherWorkflow, targets, equal⟩ := Option.map_eq_some_iff.mp reads
      cases equal
      obtain ⟨-, -, workflows⟩ := StableId.pack.inj same
      have apart := (first other member).resolve_left (by rw [governs]; nofun)
      exact apart (by rw [governs, targets, workflows])

theorem closureWorkflowPolicies_nodup (unique : (closure.map fun manifest => manifest.id).Nodup) :
    ((closureWorkflowPolicies closure).map Prod.fst).Nodup := by
  refine sortedById_nodup (packEntries_nodup (fun manifest entry member => ?_) workflowPolicies_nodup unique)
  obtain ⟨policy, -, reads⟩ := List.mem_filterMap.mp member
  obtain ⟨workflow, -, rfl⟩ := Option.map_eq_some_iff.mp reads
  rfl

end AiOffice.Application.DomainPack
