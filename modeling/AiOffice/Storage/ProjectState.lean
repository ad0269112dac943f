import AiOffice.Data.Keyed
import AiOffice.Domain.IsoDate
import AiOffice.Storage.Office

namespace AiOffice.Storage.ProjectState

open Data Domain Domain.IsoDate Storage.Office

inductive RevisionOrigin
  | localSnapshot
  | portableImport
  deriving DecidableEq

structure ProjectStateRevision where
  id : String
  projectId : String
  parentRevisionId : Option String
  stateChecksum : String
  origin : RevisionOrigin
  createdAt : Date

structure RevisionRow where
  id : String
  projectId : String
  parentRevisionId : Option String
  stateChecksum : String
  origin : RevisionOrigin
  createdAt : String

structure HeadRow where
  projectId : String
  revisionId : String
  baseRevisionId : Option String
  updatedAt : String

/-- The project that an identifier of a revision is reserved for. -/
structure RevisionIdentityRow where
  revisionId : String
  projectId : String
  deriving DecidableEq

structure ProjectStateTables where
  projects : List String
  revisions : List RevisionRow
  heads : List HeadRow
  identities : List RevisionIdentityRow

def ProjectStateRevision.row (revision : ProjectStateRevision) : RevisionRow where
  id := revision.id
  projectId := revision.projectId
  parentRevisionId := revision.parentRevisionId
  stateChecksum := revision.stateChecksum
  origin := revision.origin
  createdAt := toISOString revision.createdAt

/-- `length(trim(value)) > 0`, where a length counts up to the first NUL. -/
def hasText (value : String) : Bool := ((value.toList.dropWhile (· = ' ')).head?).any (· ≠ Char.ofNat 0)

/-- 64 lower case hexadecimal digits, in the part of a text that `length` and `GLOB` see. -/
def isChecksum (value : String) : Bool :=
  let seen := value.toList.takeWhile (· ≠ Char.ofNat 0)
  seen.length = 64 && seen.all fun char => ('0' ≤ char && char ≤ '9') || ('a' ≤ char && char ≤ 'f')

namespace ProjectStateTables

variable (tables : ProjectStateTables)

def findRevision (id : String) : Option RevisionRow := tables.revisions.find? fun row => row.id = id

def findIdentity (revisionId : String) : Option RevisionIdentityRow :=
  tables.identities.find? fun identity => identity.revisionId = revisionId

def reserved (projectId revisionId : String) : Bool := ⟨revisionId, projectId⟩ ∈ tables.identities

def foreignKeysHold : Bool :=
  (tables.identities.all fun identity => identity.projectId ∈ tables.projects) &&
    (tables.revisions.all fun row => row.projectId ∈ tables.projects && tables.reserved row.projectId row.id &&
      row.parentRevisionId.all (tables.reserved row.projectId)) &&
    tables.heads.all fun head => head.projectId ∈ tables.projects &&
      (tables.revisions.any fun row => row.projectId = head.projectId && row.id = head.revisionId) &&
      head.baseRevisionId.all (tables.reserved head.projectId)

def endStatement : Except Thrown ProjectStateTables :=
  if !tables.foreignKeysHold then .error (abort "FOREIGN KEY constraint failed") else .ok tables

/-- What the triggers do with an identifier: reserve it for the project, unless it is another's. -/
def reserveIdentity (revisionId projectId message : String) : Except Thrown ProjectStateTables :=
  match tables.findIdentity revisionId with
  | some identity => if identity.projectId ≠ projectId then .error (abort message) else .ok tables
  | none =>
    if !hasText revisionId then .error (abort "CHECK constraint failed: length(trim(revision_id)) > 0")
    else .ok { tables with identities := tables.identities ++ [⟨revisionId, projectId⟩] }

def reserveOptional (revisionId : Option String) (projectId message : String) : Except Thrown ProjectStateTables :=
  match revisionId with
  | none => .ok tables
  | some revisionId => tables.reserveIdentity revisionId projectId message

def reserveRevision (row : RevisionRow) : Except Thrown ProjectStateTables := do
  let tables ← tables.reserveIdentity row.id row.projectId
    "project state revision identity belongs to another project"
  if row.parentRevisionId = some row.id then .error (abort "project state revision cannot parent itself")
  else
    tables.reserveOptional row.parentRevisionId row.projectId
      "project state parent identity belongs to another project"

/-- Insert a revision. The trigger runs before the key is found to be taken. -/
def insertRevision (row : RevisionRow) : Except Thrown ProjectStateTables := do
  let tables ← tables.reserveRevision row
  if !hasText row.id then .error (abort "CHECK constraint failed: length(trim(id)) > 0")
  else if !isChecksum row.stateChecksum then .error (abort "CHECK constraint failed: state_checksum")
  else if (tables.findRevision row.id).isSome then tables.endStatement
  else
    let inserted : ProjectStateTables := { tables with revisions := tables.revisions ++ [row] }
    inserted.endStatement

/-- Insert or overwrite the head of a project. The trigger of the update finds the base reserved by that of the insert. -/
def upsertHead (head : HeadRow) : Except Thrown ProjectStateTables := do
  let tables ← tables.reserveOptional head.baseRevisionId head.projectId
    "project state base identity belongs to another project"
  let overwritten := tables.heads.map fun other => if other.projectId = head.projectId then head else other
  let heads := if tables.heads.any (·.projectId = head.projectId) then overwritten else tables.heads ++ [head]
  let after : ProjectStateTables := { tables with heads }
  after.endStatement

end ProjectStateTables

inductive Relationship
  | revision
  | parent
  | base
  deriving DecidableEq

def Relationship.conflict (revisionId : String) : Relationship → Thrown
  | .revision => ⟨.storageError, s!"Project state revision {revisionId} conflicts with another project"⟩
  | .parent => ⟨.storageError, s!"Project state revision {revisionId} is a parent from another project"⟩
  | .base => ⟨.storageError, s!"Project state revision {revisionId} is a base from another project"⟩

def assertRevisionIdentityProject (tables : ProjectStateTables) (revisionId projectId : String)
    (relationship : Relationship) : Except Thrown Unit :=
  match tables.findIdentity revisionId with
  | none => .ok ()
  | some stored => if stored.projectId ≠ projectId then .error (relationship.conflict revisionId) else .ok ()

def cyclicLineage (revision : ProjectStateRevision) : Thrown :=
  ⟨.storageError, s!"Project state revision {revision.id} has cyclic lineage"⟩

def foreignParent (revision : ProjectStateRevision) : Thrown :=
  ⟨.storageError, s!"Project state revision {revision.id} has a parent from another project"⟩

/-- The loop over the ancestors of a revision, from the ones that were visited and the next parent. -/
def walkLineage (tables : ProjectStateTables) (revision : ProjectStateRevision) (visited : List String) :
    Option String → Except Thrown Unit
  | none => .ok ()
  | some parentRevisionId =>
    if parentRevisionId = revision.id ∨ parentRevisionId ∈ visited then .error (cyclicLineage revision)
    else
      match _located : tables.findRevision parentRevisionId with
      | none => assertRevisionIdentityProject tables parentRevisionId revision.projectId .parent
      | some parent =>
        if parent.projectId ≠ revision.projectId then .error (foreignParent revision)
        else walkLineage tables revision (parentRevisionId :: visited) parent.parentRevisionId
  termination_by unseen RevisionRow.id visited tables.revisions
  decreasing_by
    next fresh _ =>
      have key : parent.id = parentRevisionId := by simpa using List.find?_some _located
      exact key ▸ unseen_lt (List.mem_of_find?_eq_some _located) (key ▸ (not_or.mp fresh).2)

def assertValidParentLineage (tables : ProjectStateTables) (revision : ProjectStateRevision) : Except Thrown Unit :=
  walkLineage tables revision [] revision.parentRevisionId

def execute (statement : ProjectStateTables → Except Thrown ProjectStateTables) :
    Method ProjectStateTables Thrown PUnit := do
  let tables ← get
  let after ← Method.lift (statement tables)
  set after

def assertStored (tables : ProjectStateTables) (revision : ProjectStateRevision) : Except Thrown Unit :=
  let conflict : Thrown := ⟨.storageError, s!"Project state revision {revision.id} conflicts"⟩
  match tables.findRevision revision.id with
  | none => .error conflict
  | some stored =>
    if stored.projectId ≠ revision.projectId ∨ stored.parentRevisionId ≠ revision.parentRevisionId ∨
        stored.stateChecksum ≠ revision.stateChecksum ∨ stored.createdAt ≠ toISOString revision.createdAt then
      .error conflict
    else .ok ()

def assertRevision (tables : ProjectStateTables) (revision : ProjectStateRevision) (baseRevisionId : Option String) :
    Except Thrown Unit := do
  assertRevisionIdentityProject tables revision.id revision.projectId .revision
  assertValidParentLineage tables revision
  match baseRevisionId with
  | none => .ok ()
  | some base =>
    if base = revision.id then .ok () else assertRevisionIdentityProject tables base revision.projectId .base

def saveRevision (revision : ProjectStateRevision) (baseRevisionId : Option String) :
    Method ProjectStateTables Thrown PUnit := do
  let tables ← get
  Method.lift (assertRevision tables revision baseRevisionId)
  execute fun tables => tables.insertRevision revision.row
  let tables ← get
  Method.lift (assertStored tables revision)
  execute fun tables =>
    tables.upsertHead ⟨revision.projectId, revision.id, baseRevisionId, toISOString revision.createdAt⟩

def transaction (body : Method ProjectStateTables Thrown PUnit) (tables : ProjectStateTables) :
    Except Thrown PUnit × ProjectStateTables :=
  match Method.call body tables with
  | (.ok result, after) => (.ok result, after)
  | (.error thrown, _) => (.error thrown, tables)

end AiOffice.Storage.ProjectState
