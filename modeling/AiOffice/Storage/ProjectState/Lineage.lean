import AiOffice.Data.Triple
import AiOffice.Storage.ProjectState
import AiOffice.Transition.Run

namespace AiOffice.Storage.ProjectState

open Data Outcome Domain Domain.IsoDate Storage.Office Relation

def ProjectStateTables.parents (tables : ProjectStateTables) : List (String × String) :=
  tables.revisions.filterMap fun row => row.parentRevisionId.map (row.id, ·)

/-- A project has a revision, names a parent of one, or has a base, by the identifier. -/
def ProjectStateTables.Uses (tables : ProjectStateTables) (projectId identifier : String) : Prop :=
  (∃ row ∈ tables.revisions, row.projectId = projectId ∧
    (row.id = identifier ∨ row.parentRevisionId = some identifier)) ∨
  ∃ head ∈ tables.heads, head.projectId = projectId ∧ head.baseRevisionId = some identifier

structure Lineage (tables : ProjectStateTables) : Prop where
  revisionIds : (tables.revisions.map RevisionRow.id).Nodup
  identityIds : (tables.identities.map RevisionIdentityRow.revisionId).Nodup
  headProjects : (tables.heads.map HeadRow.projectId).Nodup
  references : tables.foreignKeysHold = true
  acyclic : Reachability.Acyclic tables.parents

structure Extends (before after : ProjectStateTables) : Prop where
  revisions : ∀ row ∈ before.revisions, row ∈ after.revisions
  identities : ∀ identity ∈ before.identities, identity ∈ after.identities

structure Reserves (before after : ProjectStateTables) : Prop where
  revisions : after.revisions = before.revisions
  heads : after.heads = before.heads
  identities : ∀ identity ∈ before.identities, identity ∈ after.identities
  keyed : (before.identities.map RevisionIdentityRow.revisionId).Nodup →
    (after.identities.map RevisionIdentityRow.revisionId).Nodup

variable {tables before middle after : ProjectStateTables} {revision : ProjectStateRevision} {row : RevisionRow}
  {head : HeadRow} {revisionId projectId message : String} {baseRevisionId : Option String}

theorem Extends.refl : Extends tables tables := ⟨fun _ => id, fun _ => id⟩

theorem Extends.trans (first : Extends before middle) (second : Extends middle after) : Extends before after where
  revisions row member := second.revisions row (first.revisions row member)
  identities identity member := second.identities identity (first.identities identity member)

theorem Reserves.refl : Reserves tables tables := ⟨rfl, rfl, fun _ => id, id⟩

theorem Reserves.trans (first : Reserves before middle) (second : Reserves middle after) : Reserves before after where
  revisions := second.revisions.trans first.revisions
  heads := second.heads.trans first.heads
  identities identity member := second.identities identity (first.identities identity member)
  keyed unique := second.keyed (first.keyed unique)

theorem mem_parents {source target : String} : (source, target) ∈ tables.parents ↔
    ∃ row ∈ tables.revisions, row.id = source ∧ row.parentRevisionId = some target := by
  simp [ProjectStateTables.parents, and_comm]

theorem findRevision_some : tables.findRevision revisionId = some row → row ∈ tables.revisions ∧ row.id = revisionId := by
  intro located
  exact ⟨List.mem_of_find?_eq_some located, by simpa using List.find?_some located⟩

theorem findRevision_member (unique : (tables.revisions.map RevisionRow.id).Nodup) (member : row ∈ tables.revisions) :
    tables.findRevision row.id = some row :=
  find_keyed unique member (by simp) fun _ _ same => by simpa using same

theorem findRevision_none : tables.findRevision revisionId = none ↔ ∀ row ∈ tables.revisions, row.id ≠ revisionId := by
  simp [ProjectStateTables.findRevision]

theorem foreignKeysHold_iff : tables.foreignKeysHold = true ↔
    (∀ identity ∈ tables.identities, identity.projectId ∈ tables.projects) ∧
    (∀ row ∈ tables.revisions, row.projectId ∈ tables.projects ∧ ⟨row.id, row.projectId⟩ ∈ tables.identities ∧
      ∀ parent, row.parentRevisionId = some parent → ⟨parent, row.projectId⟩ ∈ tables.identities) ∧
    ∀ head ∈ tables.heads, head.projectId ∈ tables.projects ∧
      (∃ row ∈ tables.revisions, row.projectId = head.projectId ∧ row.id = head.revisionId) ∧
      ∀ base, head.baseRevisionId = some base → ⟨base, head.projectId⟩ ∈ tables.identities := by
  simp only [ProjectStateTables.foreignKeysHold, ProjectStateTables.reserved, Bool.and_eq_true, List.all_eq_true,
    decide_eq_true_eq, List.any_eq_true, Option.all_eq_true, and_assoc]

theorem endStatement_ok (ended : tables.endStatement = .ok after) : after = tables ∧ tables.foreignKeysHold = true := by
  obtain ⟨holds, ended⟩ := guard_ok ended
  cases ended
  exact ⟨rfl, by simpa using holds⟩

section Statements

theorem reserveIdentity_ok (reserved : before.reserveIdentity revisionId projectId message = .ok after) :
    Reserves before after := by
  unfold ProjectStateTables.reserveIdentity at reserved
  split at reserved
  · obtain ⟨-, same⟩ := guard_ok reserved
    cases same
    exact .refl
  · next unreserved =>
      obtain ⟨-, added⟩ := guard_ok reserved
      cases added
      refine ⟨rfl, rfl, fun identity => List.mem_append_left _, fun unique => ?_⟩
      simp only [ProjectStateTables.findIdentity, List.find?_eq_none, decide_eq_true_eq] at unreserved
      rw [List.map_append, List.nodup_append]
      simpa [unique] using unreserved

theorem reserveOptional_ok {revisionId : Option String}
    (reserved : before.reserveOptional revisionId projectId message = .ok after) : Reserves before after := by
  cases revisionId with
  | none => cases reserved; exact .refl
  | some revisionId => exact reserveIdentity_ok reserved

theorem reserveRevision_ok (reserved : before.reserveRevision row = .ok after) : Reserves before after := by
  obtain ⟨middle, own, reserved⟩ := bind_ok reserved
  obtain ⟨-, parent⟩ := guard_ok reserved
  exact (reserveIdentity_ok own).trans (reserveOptional_ok parent)

theorem insertRevision_ok (inserted : before.insertRevision row = .ok after) :
    ∃ middle, Reserves before middle ∧ after.foreignKeysHold = true ∧
      (after = middle ∨ before.findRevision row.id = none ∧
        after = { middle with revisions := middle.revisions ++ [row] }) := by
  obtain ⟨middle, reserved, inserted⟩ := bind_ok inserted
  have reserves := reserveRevision_ok reserved
  obtain ⟨-, inserted⟩ := guard_ok inserted
  obtain ⟨-, inserted⟩ := guard_ok inserted
  split at inserted
  · obtain ⟨rfl, holds⟩ := endStatement_ok inserted
    exact ⟨after, reserves, holds, .inl rfl⟩
  · next fresh =>
      obtain ⟨rfl, holds⟩ := endStatement_ok inserted
      refine ⟨middle, reserves, holds, .inr ⟨?_, rfl⟩⟩
      rw [ProjectStateTables.findRevision, ← reserves.revisions]
      simpa [ProjectStateTables.findRevision] using fresh

theorem upsertHead_ok (written : before.upsertHead head = .ok after) :
    ∃ middle, Reserves before middle ∧ after.foreignKeysHold = true ∧ after.revisions = middle.revisions ∧
      after.identities = middle.identities ∧
      ((before.heads.map HeadRow.projectId).Nodup → (after.heads.map HeadRow.projectId).Nodup) := by
  obtain ⟨middle, reserved, ended⟩ := bind_ok written
  have reserves := reserveOptional_ok reserved
  obtain ⟨rfl, holds⟩ := endStatement_ok ended
  refine ⟨middle, reserves, holds, rfl, rfl, fun unique => ?_⟩
  rw [← reserves.heads] at unique
  dsimp only
  split
  · refine keyed_map (fun other => ?_) unique
    split
    · next same => exact same.symm
    · rfl
  · next other =>
      rw [List.map_append, List.nodup_append]
      simpa [unique] using other

end Statements

section Walk

variable {visited : List String}

theorem walkLineage_next {parentRevisionId : String}
    (walked : walkLineage tables revision visited (some parentRevisionId) = .ok ()) :
    parentRevisionId ≠ revision.id ∧ ∀ parent, tables.findRevision parentRevisionId = some parent →
      walkLineage tables revision (parentRevisionId :: visited) parent.parentRevisionId = .ok () := by
  rw [walkLineage] at walked
  obtain ⟨fresh, walked⟩ := guard_ok walked
  refine ⟨(not_or.mp fresh).1, fun parent located => ?_⟩
  split at walked
  · next missing => simp [located] at missing
  · next found =>
      obtain rfl := Option.some.inj (found.symm.trans located)
      exact (guard_ok walked).2

theorem walkLineage_clear (unique : (tables.revisions.map RevisionRow.id).Nodup) {start node : String}
    (walked : walkLineage tables revision visited (some start) = .ok ())
    (path : ReflTransGen (Reachability.Linked tables.parents) start node) : node ≠ revision.id := by
  induction path using ReflTransGen.head_induction_on generalizing visited with
  | refl => exact (walkLineage_next walked).1
  | head first _ ih =>
    obtain ⟨row, stored, rfl, parent⟩ := mem_parents.mp first
    have further := (walkLineage_next walked).2 row (findRevision_member unique stored)
    rw [parent] at further
    exact ih further

def walkWithin (tables : ProjectStateTables) (revision : ProjectStateRevision) :
    Nat → List String → Option String → Option (Except Thrown Unit)
  | _, _, none => some (.ok ())
  | 0, _, some _ => none
  | turns + 1, visited, some parentRevisionId =>
    if parentRevisionId = revision.id ∨ parentRevisionId ∈ visited then some (.error (cyclicLineage revision))
    else
      match tables.findRevision parentRevisionId with
      | none => some (assertRevisionIdentityProject tables parentRevisionId revision.projectId .parent)
      | some parent =>
        if parent.projectId ≠ revision.projectId then some (.error (foreignParent revision))
        else walkWithin tables revision turns (parentRevisionId :: visited) parent.parentRevisionId

theorem walkWithin_ends {turns : Nat} {next : Option String}
    (enough : unseen RevisionRow.id visited tables.revisions < turns) :
    walkWithin tables revision turns visited next = some (walkLineage tables revision visited next) := by
  induction turns generalizing visited next with
  | zero => omega
  | succ turns ih =>
    cases next with
    | none => simp [walkWithin, walkLineage]
    | some parentRevisionId =>
      rw [walkWithin, walkLineage]
      split
      · rfl
      · next fresh =>
          cases located : tables.findRevision parentRevisionId with
          | none => rfl
          | some parent =>
            obtain ⟨stored, rfl⟩ := findRevision_some located
            have fewer := unseen_lt stored (not_or.mp fresh).2
            simp only
            split
            · rfl
            · exact ih (by omega)

end Walk

theorem Lineage.insertRevision (lineage : Lineage before) (inserted : before.insertRevision row = .ok after)
    (clear : ∀ parent node, row.parentRevisionId = some parent →
      ReflTransGen (Reachability.Linked before.parents) parent node → node ≠ row.id) :
    Lineage after ∧ Extends before after := by
  obtain ⟨middle, reserves, holds, rfl | ⟨fresh, rfl⟩⟩ := insertRevision_ok inserted
  · refine ⟨⟨?_, reserves.keyed lineage.identityIds, ?_, holds, ?_⟩, ?_, reserves.identities⟩
    · rw [reserves.revisions]; exact lineage.revisionIds
    · rw [reserves.heads]; exact lineage.headProjects
    · rw [ProjectStateTables.parents, reserves.revisions]; exact lineage.acyclic
    · rw [reserves.revisions]; exact fun _ => id
  · rw [findRevision_none] at fresh
    refine ⟨⟨?_, reserves.keyed lineage.identityIds, ?_, holds, ?_⟩, ?_, reserves.identities⟩
    · rw [reserves.revisions, List.map_append, List.nodup_append]
      simpa [lineage.revisionIds] using fresh
    · exact reserves.heads ▸ lineage.headProjects
    · have added : ({ middle with revisions := middle.revisions ++ [row] } : ProjectStateTables).parents =
          before.parents ++ (row.parentRevisionId.map (row.id, ·)).toList := by
        rw [ProjectStateTables.parents, reserves.revisions, List.filterMap_append, ProjectStateTables.parents]
        cases parent : row.parentRevisionId <;> simp [parent]
      rw [added]
      cases parent : row.parentRevisionId with
      | none => simpa using lineage.acyclic
      | some parentRevisionId =>
        exact (Reachability.acyclic_append lineage.acyclic).mpr fun back => clear _ _ parent back rfl
    · exact fun earlier member => List.mem_append_left _ (reserves.revisions ▸ member)

theorem Lineage.upsertHead (lineage : Lineage before) (written : before.upsertHead head = .ok after) :
    Lineage after ∧ Extends before after := by
  obtain ⟨middle, reserves, holds, revisions, identities, heads⟩ := upsertHead_ok written
  rw [reserves.revisions] at revisions
  refine ⟨⟨?_, ?_, heads lineage.headProjects, holds, ?_⟩, ?_, ?_⟩
  · rw [revisions]; exact lineage.revisionIds
  · rw [identities]; exact reserves.keyed lineage.identityIds
  · rw [ProjectStateTables.parents, revisions]; exact lineage.acyclic
  · rw [revisions]; exact fun _ => id
  · rw [identities]; exact reserves.identities

theorem assertRevision_clear (unique : (tables.revisions.map RevisionRow.id).Nodup)
    (admitted : assertRevision tables revision baseRevisionId = .ok ()) {parent node : String}
    (named : revision.parentRevisionId = some parent)
    (path : ReflTransGen (Reachability.Linked tables.parents) parent node) : node ≠ revision.id := by
  obtain ⟨-, -, admitted⟩ := bind_ok admitted
  obtain ⟨⟨⟩, walked, -⟩ := bind_ok admitted
  rw [assertValidParentLineage, named] at walked
  exact walkLineage_clear unique walked path

theorem execute_ok {statement : ProjectStateTables → Except Thrown ProjectStateTables} {result : PUnit}
    (returned : Method.call (execute statement) before = (.ok result, after)) : statement before = .ok after := by
  unfold execute at returned
  rw [Method.call_bind_ok (Method.call_get before)] at returned
  cases computed : statement before with
  | ok next =>
    rw [computed, Method.call_bind_ok (Method.call_lift _ before)] at returned
    cases returned
    rfl
  | error thrown =>
    rw [computed, Method.call_bind_error (Method.call_lift _ before)] at returned
    cases returned

theorem saveRevision_kept (lineage : Lineage before) {result : PUnit}
    (returned : Method.call (saveRevision revision baseRevisionId) before = (.ok result, after)) :
    Lineage after ∧ Extends before after := by
  unfold saveRevision at returned
  rw [Method.call_bind_ok (Method.call_get before)] at returned
  obtain ⟨⟨⟩, checked, passed, returned⟩ := Method.call_bind_returns returned
  rw [Method.call_lift] at passed
  obtain ⟨admitted, rfl⟩ := Prod.mk.inj passed
  obtain ⟨⟨⟩, stored, inserted, returned⟩ := Method.call_bind_returns returned
  obtain ⟨kept, extended⟩ := lineage.insertRevision (execute_ok inserted) fun parent node named path =>
    assertRevision_clear lineage.revisionIds admitted named path
  rw [Method.call_bind_ok (Method.call_get stored)] at returned
  obtain ⟨⟨⟩, checked, agreed, returned⟩ := Method.call_bind_returns returned
  rw [Method.call_lift] at agreed
  obtain ⟨-, rfl⟩ := Prod.mk.inj agreed
  obtain ⟨settled, further⟩ := kept.upsertHead (execute_ok returned)
  exact ⟨settled, extended.trans further⟩

structure SaveRevisionCall where
  revision : ProjectStateRevision
  baseRevisionId : Option String

def SaveRevisionCall.perform (input : SaveRevisionCall) (tables : ProjectStateTables) :
    Except Thrown PUnit × ProjectStateTables :=
  transaction (saveRevision input.revision input.baseRevisionId) tables

def SaveStep (before : ProjectStateTables) (input : SaveRevisionCall) (after : ProjectStateTables) : Prop :=
  after = (input.perform before).2

theorem SaveStep.kept {input : SaveRevisionCall} (step : SaveStep before input after) (lineage : Lineage before) :
    Lineage after ∧ Extends before after := by
  rw [SaveStep, SaveRevisionCall.perform, transaction] at step
  cases outcome : Method.call (saveRevision input.revision input.baseRevisionId) before with
  | mk answer left =>
    rw [outcome] at step
    cases answer with
    | ok result =>
      cases step
      exact saveRevision_kept lineage outcome
    | error thrown =>
      cases step
      exact ⟨lineage, .refl⟩

theorem saves_kept (lineage : Lineage before) (reached : Transition.Reachable SaveStep before after) :
    Lineage after ∧ Extends before after := by
  refine reached.invariant (fun tables => Lineage tables ∧ Extends before tables) ⟨lineage, .refl⟩ ?_
  intro middle input next ⟨holds, extended⟩ step
  obtain ⟨kept, further⟩ := step.kept holds
  exact ⟨kept, extended.trans further⟩

theorem Lineage.reserved (lineage : Lineage tables) {identifier : String} (used : tables.Uses projectId identifier) :
    ⟨identifier, projectId⟩ ∈ tables.identities := by
  obtain ⟨-, revisions, heads⟩ := foreignKeysHold_iff.mp lineage.references
  rcases used with ⟨row, stored, rfl, rfl | parent⟩ | ⟨head, stored, rfl, base⟩
  · exact (revisions row stored).2.1
  · exact (revisions row stored).2.2 identifier parent
  · exact (heads head stored).2.2 identifier base

structure Unrevised (tables : ProjectStateTables) : Prop where
  revisions : tables.revisions = []
  heads : tables.heads = []
  identities : tables.identities = []

theorem Unrevised.lineage (unrevised : Unrevised tables) : Lineage tables where
  revisionIds := by simp [unrevised.revisions]
  identityIds := by simp [unrevised.identities]
  headProjects := by simp [unrevised.heads]
  references := by
    rw [foreignKeysHold_iff]
    simp [unrevised.revisions, unrevised.heads, unrevised.identities]
  acyclic := by
    rw [ProjectStateTables.parents, unrevised.revisions]
    exact Reachability.acyclic_nil

/-- Whatever is saved, and in whatever order: the parents form a forest inside each project, an identifier has one
project for ever, revisions stay, heads name revisions, the walk ends, and a call that throws changes nothing. -/
theorem revisions_form_local_forest {start : ProjectStateTables} (unrevised : Unrevised start)
    (reached : Transition.Reachable SaveStep start tables) :
    (tables.revisions.map RevisionRow.id).Nodup ∧ Reachability.Acyclic tables.parents ∧
    (∀ later, Transition.Reachable SaveStep tables later →
      (∀ row ∈ tables.revisions, later.findRevision row.id = some row) ∧
      ∀ identifier projectId other, tables.Uses projectId identifier → later.Uses other identifier →
        projectId = other) ∧
    (tables.heads.map HeadRow.projectId).Nodup ∧
    (∀ head ∈ tables.heads, ∃ row, tables.findRevision head.revisionId = some row ∧ row.projectId = head.projectId) ∧
    (∀ revision, walkWithin tables revision (tables.revisions.length + 1) [] revision.parentRevisionId =
      some (assertValidParentLineage tables revision)) ∧
    ∀ input thrown, (SaveRevisionCall.perform input tables).1 = .error thrown → (input.perform tables).2 = tables := by
  obtain ⟨lineage, -⟩ := saves_kept unrevised.lineage reached
  refine ⟨lineage.revisionIds, lineage.acyclic, fun later further => ?_, lineage.headProjects, fun head stored => ?_,
    fun revision => ?_, fun input thrown threw => ?_⟩
  · obtain ⟨kept, extended⟩ := saves_kept lineage further
    refine ⟨fun row stored => findRevision_member kept.revisionIds (extended.revisions row stored), ?_⟩
    intro identifier projectId other used usedToo
    have first := extended.identities _ (lineage.reserved used)
    have same := keyed_eq kept.identityIds first (kept.reserved usedToo) rfl
    exact congrArg RevisionIdentityRow.projectId same.symm
  · obtain ⟨-, -, heads⟩ := foreignKeysHold_iff.mp lineage.references
    obtain ⟨-, ⟨row, member, inProject, same⟩, -⟩ := heads head stored
    exact ⟨row, same ▸ findRevision_member lineage.revisionIds member, inProject⟩
  · exact walkWithin_ends (Nat.lt_succ_of_le List.countP_le_length)
  · unfold SaveRevisionCall.perform transaction at threw ⊢
    cases outcome : Method.call (saveRevision input.revision input.baseRevisionId) tables with
    | mk answer left =>
      rw [outcome] at threw
      cases answer with
      | ok result => cases threw
      | error thrown => rfl

def twoProjects : ProjectStateTables := ⟨["first", "second"], [], [], []⟩

def snapshotOf (id projectId : String) (parentRevisionId : Option String) : SaveRevisionCall where
  revision := ⟨id, projectId, parentRevisionId, String.ofList (List.replicate 64 'a'), .localSnapshot, 0⟩
  baseRevisionId := none

/-- A revision whose parent is not known yet, and then its parent under another project. -/
def contested : ProjectStateTables :=
  ((snapshotOf "parent" "second" none).perform ((snapshotOf "child" "first" (some "parent")).perform twoProjects).2).2

theorem contested_reachable : Transition.Reachable SaveStep twoProjects contested :=
  have child : SaveStep twoProjects (snapshotOf "child" "first" (some "parent")) _ := rfl
  have parent : SaveStep _ (snapshotOf "parent" "second" none) contested := rfl
  ((Transition.Reachable.refl twoProjects).snoc child).snoc parent

theorem contested_forms_local_forest : Reachability.Acyclic contested.parents ∧
    ∀ identifier projectId other, contested.Uses projectId identifier → contested.Uses other identifier →
      projectId = other := by
  obtain ⟨-, acyclic, run, -⟩ := revisions_form_local_forest ⟨rfl, rfl, rfl⟩ contested_reachable
  exact ⟨acyclic, (run contested (.refl _)).2⟩

end AiOffice.Storage.ProjectState
