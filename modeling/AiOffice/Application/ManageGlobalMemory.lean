import AiOffice.Data.Keyed
import AiOffice.Domain.GlobalMemory
import AiOffice.Transition.Run
import Mathlib.Data.List.MinMax

namespace AiOffice.Application.ManageGlobalMemory

open Data Data.Outcome Domain Domain.GlobalMemory Transition

structure MemoryReferenceRow where
  id : String
  projectId : String
  targetId : String
  targetVersion : Int
  query : Option String
  usageCount : Int
  createdAt : Date
  updatedAt : Date

structure Tables where
  roles : List GlobalRoleProps
  patterns : List GlobalPatternProps
  references : List MemoryReferenceRow

def globalMemoryNotFound (type id : String) : Thrown :=
  ⟨.globalMemoryNotFoundError, s!"Global memory {type} not found: {id}"⟩

def globalMemoryDeprecated (type id : String) : Thrown :=
  ⟨.globalMemoryDeprecatedError, s!"Global memory {type} is deprecated: {id}"⟩

def projectNotFound (projectId : String) : Thrown := ⟨.projectNotFoundError, s!"Project {projectId} not found"⟩

def patternExists (id : String) (version : Int) : Thrown :=
  ⟨.globalMemoryVersionConflictError, s!"Global memory pattern {id} version {version} already exists"⟩

def roleConflict (latest : GlobalRoleProps) (version : Int) : Thrown :=
  ⟨.globalMemoryVersionConflictError,
    s!"Global memory role {latest.id} version {version} conflicts with latest version {latest.version}"⟩

section Repository

variable (tables : Tables)

def latestRoleByKey (key : String) : Option GlobalRoleProps :=
  @List.argmax _ _ Int.instLinearOrder.toPreorder Int.decLt (·.version) (tables.roles.filter (·.definition.key = key))

def findLatestRoleByKey (key : String) : Except Thrown (Option GlobalRoleProps) :=
  (latestRoleByKey tables key).mapM GlobalRole.restore

def findRole (id : String) (version : Int) : Except Thrown (Option GlobalRoleProps) :=
  (tables.roles.find? fun row => row.id = id ∧ row.version = version).mapM GlobalRole.restore

/-- The insertion with its trigger. The unique keys of the table refuse nothing that the trigger lets through. -/
def insertRole (role : GlobalRoleProps) : Except Thrown Tables :=
  if tables.roles.any fun row => row.id = role.id ∧ row.definition.key ≠ role.definition.key then
    .error ⟨.storageError, "global role id cannot change logical key"⟩
  else if tables.roles.any fun row => row.definition.key = role.definition.key ∧ row.id ≠ role.id then
    .error ⟨.storageError, "global role key cannot change logical id"⟩
  else if tables.roles.any fun row => row.id = role.id ∧ role.version ≤ row.version then
    .error ⟨.storageError, "global role version must be newer than history"⟩
  else .ok { tables with roles := tables.roles ++ [role] }

def saveRole (role : GlobalRoleProps) : Except Thrown Tables :=
  match latestRoleByKey tables role.definition.key with
  | none => insertRole tables role
  | some latest =>
    if latest.id ≠ role.id ∨ role.version ≤ latest.version then .error (roleConflict latest role.version)
    else
      match insertRole tables role with
      | .ok saved => .ok saved
      | .error _ => .error (roleConflict latest role.version)

/-- Only the status and the time of a revision change, and the status only from active to deprecated. -/
def updateRoleStatus (role : GlobalRoleProps) : Except Thrown Tables :=
  if tables.roles.any fun row => row.id = role.id ∧ row.version = role.version ∧
      ¬((role.status = row.status ∧ role.updatedAt = row.updatedAt) ∨
        (row.status = .active ∧ role.status = .deprecated)) then
    .error ⟨.storageError, "global role revisions are immutable"⟩
  else
    .ok { tables with
      roles := tables.roles.map fun row =>
        if row.id = role.id ∧ row.version = role.version then
          { row with status := role.status, updatedAt := role.updatedAt }
        else row }

def findPattern (id : String) (version : Int) : Except Thrown (Option GlobalPattern) :=
  (tables.patterns.find? fun row => row.id = id ∧ row.version = version).mapM GlobalPattern.restore

def versionOf (row : GlobalPatternProps) : String × Int := (row.id, row.version)

/-- An upsert: a stored version gets every column of the new one but the time of its creation. -/
def savePattern (pattern : GlobalPattern) : Tables :=
  let value := pattern.props
  if tables.patterns.any fun row => versionOf row = versionOf value then
    { tables with
      patterns := tables.patterns.map fun row =>
        if versionOf row = versionOf value then { value with createdAt := row.createdAt } else row }
  else { tables with patterns := tables.patterns ++ [value] }

def saveReference (reference : MemoryReferenceRow) : Tables :=
  let adopts (row : MemoryReferenceRow) : Bool :=
    row.projectId = reference.projectId ∧ row.targetId = reference.targetId ∧
      row.targetVersion = reference.targetVersion
  { tables with
    references :=
      if tables.references.any adopts then
        tables.references.map fun row =>
          if adopts row then
            { row with
              usageCount := row.usageCount + 1
              query := reference.query <|> row.query
              updatedAt := reference.updatedAt }
          else row
      else tables.references ++ [reference] }

end Repository

structure Adoption where
  projectId : String
  patternId : String
  version : Int
  query : Option String

inductive Call
  | createRole (name : String) (version : Int) (definition : GlobalRoleDefinition) (latest : Option GlobalRoleProps)
  | requireSourceProject (input : GlobalPattern.Input)
  | createPattern (input : GlobalPattern.Input) (id : String) (found : Option GlobalPattern)
  | requireAdopter (input : Adoption)
  | adoptPattern (input : Adoption) (found : Option GlobalPattern)
  | deprecateRole (id : String) (version : Int) (now : Date) (found : Option GlobalRoleProps)
  | deprecatePattern (id : String) (version : Int) (now : Date) (found : Option GlobalPattern)

inductive Command
  | createRole (name : String) (version : Int) (definition : GlobalRoleDefinition)
  | createPattern (input : GlobalPattern.Input)
  | adoptPattern (input : Adoption)
  | deprecateRole (id : String) (version : Option Int)
  | deprecatePattern (id : String) (version : Option Int)

/-- A part of a call ends at the next await point, or with the call and what it leaves. A call of
`createPattern` returns with the version that it saved. -/
inductive Progress
  | waits (call : Call)
  | ends (tables : Tables) (created : Option (String × Int))

section Calls

variable (tables : Tables) (generated : String) (now : Date)

def lookUpPattern (input : GlobalPattern.Input) : Except Thrown Call := do
  let id := input.id.getD generated
  let found ← findPattern tables id input.version
  return .createPattern input id found

def start : Command → Except Thrown Call
  | .createRole name version definition => do
    let definition ← normalizeGlobalRoleDefinition definition
    let latest ← findLatestRoleByKey tables definition.key
    return .createRole name version definition latest
  | .createPattern input =>
    match input.sourceProjectId with
    | some _ => .ok (.requireSourceProject input)
    | none => lookUpPattern tables generated input
  | .adoptPattern input => .ok (.requireAdopter input)
  | .deprecateRole id none => .error (globalMemoryNotFound "role" s!"{id}@<version>")
  | .deprecateRole id (some version) => do
    let found ← findRole tables id version
    return .deprecateRole id version now found
  | .deprecatePattern id none => .error (globalMemoryNotFound "pattern" s!"{id}@<version>")
  | .deprecatePattern id (some version) => do
    let found ← findPattern tables id version
    return .deprecatePattern id version now found

def createReference (input : Adoption) : Except Thrown MemoryReferenceRow := do
  let id ← nonEmpty generated "Memory reference id"
  let projectId ← nonEmpty input.projectId "Memory reference projectId"
  let targetId ← nonEmpty input.patternId "Memory reference targetId"
  let targetVersion ← positiveSafeInteger input.version "Memory reference targetVersion"
  let query ← input.query.mapM (nonEmpty · "Memory reference query")
  return { id, projectId, targetId, targetVersion, query, usageCount := 1, createdAt := now, updatedAt := now }

/-- A call from one await point to the next. The project that a call asked for was found or not. -/
def resume (projectFound : Bool) : Call → Except Thrown Progress
  | .createRole name version definition latest =>
    match latest.filter fun current => version ≤ current.version with
    | some current => .error (roleConflict current version)
    | none => do
      let role ← GlobalRole.create ((latest.map (·.id)).getD generated) name version definition now
      let saved ← saveRole tables role
      return .ends saved none
  | .requireSourceProject input =>
    if projectFound then do
      let call ← lookUpPattern tables generated input
      return .waits call
    else .error (projectNotFound (input.sourceProjectId.getD ""))
  | .createPattern input id found =>
    match found with
    | some _ => .error (patternExists id input.version)
    | none => do
      let pattern ← GlobalPattern.create input id now
      return .ends (savePattern tables pattern) (some (versionOf pattern.props))
  | .requireAdopter input =>
    if projectFound then do
      let found ← findPattern tables input.patternId input.version
      return .waits (.adoptPattern input found)
    else .error (projectNotFound input.projectId)
  | .adoptPattern input found =>
    match found with
    | none => .error (globalMemoryNotFound "pattern" s!"{input.patternId}@{input.version}")
    | some pattern =>
      if pattern.props.status ≠ .active then .error (globalMemoryDeprecated "pattern" input.patternId)
      else do
        let reference ← createReference generated now input
        return .ends (saveReference tables reference) none
  | .deprecateRole id version at_ found =>
    match found with
    | none => .error (globalMemoryNotFound "role" s!"{id}@{version}")
    | some role => do
      let saved ← updateRoleStatus tables (GlobalRole.markDeprecated role at_)
      return .ends saved none
  | .deprecatePattern id version at_ found =>
    match found with
    | none => .error (globalMemoryNotFound "pattern" s!"{id}@{version}")
    | some pattern => .ok (.ends (savePattern tables (pattern.markDeprecated at_)) none)

end Calls

/-- The store under any number of calls, and the versions that calls of `createPattern` returned. -/
structure Memory where
  tables : Tables
  calls : Nat → Option Call
  created : List (String × Int)

/-- The parts of the calls in the order in which they run, with the clock, the generated id and the
answer about a project that each of them meets. -/
inductive Label
  | start (caller : Nat) (command : Command) (generated : String) (now : Date)
  | resume (caller : Nat) (projectFound : Bool) (generated : String) (now : Date)

namespace Memory

def setCall (memory : Memory) (caller : Nat) (call : Option Call) : Memory :=
  { memory with calls := Function.update memory.calls caller call }

/-- A part of a call that throws leaves the store as it is, and ends the call. -/
def step (memory : Memory) : Label → Option Memory
  | .start caller command generated now =>
    match memory.calls caller with
    | some _ => none
    | none => some (memory.setCall caller (start memory.tables generated now command).toOption)
  | .resume caller projectFound generated now =>
    match memory.calls caller with
    | none => none
    | some call =>
      match resume memory.tables generated now projectFound call with
      | .error _ => some (memory.setCall caller none)
      | .ok (.waits next) => some (memory.setCall caller (some next))
      | .ok (.ends tables created) =>
        some { memory.setCall caller none with tables, created := memory.created ++ created.toList }

end Memory
section Properties

/-- What of a stored version must never change: all but its status and the time of its last update. -/
def roleContent (row : GlobalRoleProps) : GlobalRoleProps := { row with status := .active, updatedAt := 0 }

def patternContent (row : GlobalPatternProps) : GlobalPatternProps := { row with status := .active, updatedAt := 0 }

/-- Every stored version is there later, with the same content, and still deprecated if it was. -/
structure Preserved (before after : Tables) : Prop where
  roles : ∀ row ∈ before.roles, ∃ later ∈ after.roles, roleContent later = roleContent row ∧
    (row.status = .deprecated → later.status = .deprecated)
  patterns : ∀ row ∈ before.patterns, ∃ later ∈ after.patterns, patternContent later = patternContent row ∧
    (row.status = .deprecated → later.status = .deprecated)

/-- The versions of one key have one id, and were stored with increasing numbers. -/
def KeyHistory (roles : List GlobalRoleProps) : Prop :=
  roles.Pairwise fun earlier later =>
    earlier.definition.key = later.definition.key → earlier.id = later.id ∧ earlier.version < later.version

/-- Where a call of `createPattern` comes to save its pattern, no such version is stored yet. -/
def SavesNew (memory : Memory) : Label → Prop
  | .start .. => True
  | .resume caller _ _ now =>
    ∀ input id pattern, memory.calls caller = some (.createPattern input id none) →
      GlobalPattern.create input id now = .ok pattern →
      versionOf pattern.props ∉ memory.tables.patterns.map versionOf

def NewStep (before : Memory) (label : Label) (after : Memory) : Prop :=
  before.step label = some after ∧ SavesNew before label

end Properties

section Effects

variable {tables saved : Tables} {call : Call} {generated : String} {now : Date} {projectFound : Bool}
  {created : Option (String × Int)} {role : GlobalRoleProps} {before middle after : Tables}

theorem Preserved.refl (tables : Tables) : Preserved tables tables :=
  ⟨fun row member => ⟨row, member, rfl, id⟩, fun row member => ⟨row, member, rfl, id⟩⟩

theorem Preserved.trans (first : Preserved before middle) (second : Preserved middle after) : Preserved before after := by
  constructor
  · intro row member
    obtain ⟨next, inMiddle, same, kept⟩ := first.roles row member
    obtain ⟨last, inAfter, same', kept'⟩ := second.roles next inMiddle
    exact ⟨last, inAfter, same'.trans same, kept' ∘ kept⟩
  · intro row member
    obtain ⟨next, inMiddle, same, kept⟩ := first.patterns row member
    obtain ⟨last, inAfter, same', kept'⟩ := second.patterns next inMiddle
    exact ⟨last, inAfter, same'.trans same, kept' ∘ kept⟩

theorem insertRole_ok (inserted : insertRole tables role = .ok saved) :
    saved = { tables with roles := tables.roles ++ [role] } ∧
      ∀ row ∈ tables.roles, row.definition.key = role.definition.key → row.id = role.id ∧ row.version < role.version := by
  obtain ⟨-, inserted⟩ := guard_ok inserted
  obtain ⟨sameId, inserted⟩ := guard_ok inserted
  obtain ⟨newer, inserted⟩ := guard_ok inserted
  cases inserted
  refine ⟨rfl, ?_⟩
  intro row member sameKey
  have same : row.id = role.id := by
    by_contra other
    exact sameId (List.any_eq_true.mpr ⟨row, member, decide_eq_true ⟨sameKey, other⟩⟩)
  refine ⟨same, ?_⟩
  by_contra older
  exact newer (List.any_eq_true.mpr ⟨row, member, decide_eq_true ⟨same, Int.not_lt.mp older⟩⟩)

theorem saveRole_ok (inserted : saveRole tables role = .ok saved) : insertRole tables role = .ok saved := by
  rw [saveRole] at inserted
  split at inserted
  · exact inserted
  · obtain ⟨-, inserted⟩ := guard_ok inserted
    split at inserted
    · next attempt =>
      cases inserted
      exact attempt
    · cases inserted

def markRow (selected : GlobalRoleProps → Bool) (at_ : Date) (row : GlobalRoleProps) : GlobalRoleProps :=
  if selected row then { row with status := .deprecated, updatedAt := at_ } else row

theorem markRow_keeps (selected : GlobalRoleProps → Bool) (at_ : Date) (row : GlobalRoleProps) :
    roleContent (markRow selected at_ row) = roleContent row ∧
      (row.status = .deprecated → (markRow selected at_ row).status = .deprecated) := by
  rw [markRow]
  split
  · exact ⟨rfl, fun _ => rfl⟩
  · exact ⟨rfl, id⟩

inductive Effect (tables : Tables) (now : Date) : Call → Tables → Option (String × Int) → Prop
  | roleStored {call : Call} {role : GlobalRoleProps}
      (newer : ∀ row ∈ tables.roles, row.definition.key = role.definition.key →
        row.id = role.id ∧ row.version < role.version) :
      Effect tables now call { tables with roles := tables.roles ++ [role] } none
  | roleDeprecated {call : Call} (selected : GlobalRoleProps → Bool) (at_ : Date) :
      Effect tables now call
        { tables with roles := tables.roles.map (markRow selected at_) } none
  | patternStored {input : GlobalPattern.Input} {id : String} {pattern : GlobalPattern}
      (built : GlobalPattern.create input id now = .ok pattern) :
      Effect tables now (.createPattern input id none) (savePattern tables pattern) (some (versionOf pattern.props))
  | patternDeprecated {id : String} {version : Int} {at_ : Date} {pattern : GlobalPattern} :
      Effect tables now (.deprecatePattern id version at_ (some pattern))
        (savePattern tables (pattern.markDeprecated at_)) none
  | adopted {call : Call} {reference : MemoryReferenceRow} :
      Effect tables now call (saveReference tables reference) none

theorem resume_effect (ended : resume tables generated now projectFound call = .ok (.ends saved created)) :
    Effect tables now call saved created := by
  cases call with
  | createRole name version definition latest =>
    simp only [resume] at ended
    split at ended
    · cases ended
    · obtain ⟨role, -, ended⟩ := bind_ok ended
      obtain ⟨stored, inserted, ended⟩ := bind_ok ended
      cases ended
      obtain ⟨rfl, newer⟩ := insertRole_ok (saveRole_ok inserted)
      exact .roleStored newer
  | requireSourceProject input =>
    simp only [resume] at ended
    split at ended
    · obtain ⟨next, -, ended⟩ := bind_ok ended
      cases ended
    · cases ended
  | createPattern input id found =>
    cases found with
    | some pattern => cases ended
    | none =>
      obtain ⟨pattern, built, ended⟩ := bind_ok ended
      cases ended
      exact .patternStored built
  | requireAdopter input =>
    simp only [resume] at ended
    split at ended
    · obtain ⟨found, -, ended⟩ := bind_ok ended
      cases ended
    · cases ended
  | adoptPattern input found =>
    cases found with
    | none => cases ended
    | some pattern =>
      simp only [resume] at ended
      obtain ⟨-, ended⟩ := guard_ok ended
      obtain ⟨reference, -, ended⟩ := bind_ok ended
      cases ended
      exact .adopted
  | deprecateRole id version at_ found =>
    cases found with
    | none => cases ended
    | some role =>
      obtain ⟨stored, updated, ended⟩ := bind_ok ended
      cases ended
      obtain ⟨-, updated⟩ := guard_ok updated
      cases updated
      have effect := @Effect.roleDeprecated tables now (.deprecateRole id version at_ (some role))
        (fun row => row.id = (GlobalRole.markDeprecated role at_).id ∧
          row.version = (GlobalRole.markDeprecated role at_).version) (GlobalRole.markDeprecated role at_).updatedAt
      have eta : markRow (fun row => row.id = (GlobalRole.markDeprecated role at_).id ∧
          row.version = (GlobalRole.markDeprecated role at_).version) (GlobalRole.markDeprecated role at_).updatedAt =
          fun row => if row.id = (GlobalRole.markDeprecated role at_).id ∧
            row.version = (GlobalRole.markDeprecated role at_).version then
              { row with
                status := (GlobalRole.markDeprecated role at_).status
                updatedAt := (GlobalRole.markDeprecated role at_).updatedAt } else row := by
        funext row
        simp only [markRow, GlobalRole.markDeprecated_status, decide_eq_true_eq]
      rw [eta] at effect
      exact effect
  | deprecatePattern id version at_ found =>
    cases found with
    | none => cases ended
    | some pattern =>
      cases ended
      exact .patternDeprecated

structure SoundTables (tables : Tables) : Prop where
  valid : ∀ row ∈ tables.patterns, GlobalPattern.validateProps row = .ok row
  keyed : (tables.patterns.map versionOf).Nodup
  history : KeyHistory tables.roles

theorem versionOf_content {row other : GlobalPatternProps} (same : patternContent row = patternContent other) :
    versionOf row = versionOf other :=
  show versionOf (patternContent row) = versionOf (patternContent other) from congrArg versionOf same

variable {pattern : GlobalPattern}

theorem savePattern_new (new : versionOf pattern.props ∉ tables.patterns.map versionOf) :
    savePattern tables pattern = { tables with patterns := tables.patterns ++ [pattern.props] } := by
  rw [savePattern]
  refine if_neg fun known => ?_
  obtain ⟨row, member, same⟩ := List.any_eq_true.mp known
  exact new (List.mem_map.mpr ⟨row, member, of_decide_eq_true same⟩)

def replace (pattern : GlobalPattern) (row : GlobalPatternProps) : GlobalPatternProps :=
  if versionOf row = versionOf pattern.props then { pattern.props with createdAt := row.createdAt } else row

theorem savePattern_known {row : GlobalPatternProps} (member : row ∈ tables.patterns)
    (same : versionOf row = versionOf pattern.props) :
    savePattern tables pattern = { tables with patterns := tables.patterns.map (replace pattern) } := by
  rw [savePattern]
  exact if_pos (List.any_eq_true.mpr ⟨row, member, decide_eq_true same⟩)

theorem replace_version (pattern : GlobalPattern) (row : GlobalPatternProps) : versionOf (replace pattern row) = versionOf row := by
  rw [replace]
  split
  · next same => exact same.symm
  · rfl

theorem markDeprecated_content (pattern : GlobalPattern) (now : Date) :
    patternContent (pattern.markDeprecated now).props = patternContent pattern.props := by
  rw [GlobalPattern.markDeprecated]
  split <;> rfl

/-- Deprecating the version that is stored changes nothing but its status and its time. -/
theorem deprecation_keeps {row : GlobalPatternProps} (sound : SoundTables tables) (member : row ∈ tables.patterns)
    (same : patternContent row = patternContent pattern.props) (at_ : Date) :
    SoundTables (savePattern tables (pattern.markDeprecated at_)) ∧
      Preserved tables (savePattern tables (pattern.markDeprecated at_)) := by
  have content : patternContent row = patternContent (pattern.markDeprecated at_).props :=
    same.trans (markDeprecated_content pattern at_).symm
  rw [savePattern_known member (versionOf_content content)]
  -- Only the row that was read has the version, so that what replaces a row has its content.
  have replaced (other) (inRows : other ∈ tables.patterns) :
      patternContent (replace (pattern.markDeprecated at_) other) = patternContent other ∧
        (other.status = .deprecated → (replace (pattern.markDeprecated at_) other).status = .deprecated) := by
    rw [replace]
    split
    · next version =>
      have one : other = row :=
        keyed_eq sound.keyed member inRows (version.trans (versionOf_content content).symm)
      subst one
      have created : other.createdAt = (pattern.markDeprecated at_).props.createdAt :=
        show (patternContent other).createdAt = (patternContent _).createdAt from
          congrArg GlobalPatternProps.createdAt content
      refine ⟨?_, fun _ => GlobalPattern.markDeprecated_status pattern at_⟩
      rw [created]
      exact content.symm
    · exact ⟨rfl, id⟩
  refine ⟨⟨?_, keyed_map (replace_version _) sound.keyed, sound.history⟩, fun row member => ⟨row, member, rfl, id⟩, ?_⟩
  · intro other inRows
    obtain ⟨source, inSource, rfl⟩ := List.mem_map.mp inRows
    rw [replace]
    split
    · have valid := GlobalPattern.validateProps_stamped (pattern.markDeprecated at_).valid
        (pattern.markDeprecated at_).props.status source.createdAt (pattern.markDeprecated at_).props.updatedAt
      exact valid
    · exact sound.valid source inSource
  · intro other inRows
    exact ⟨_, List.mem_map_of_mem inRows, replaced other inRows⟩

/-- A part of a call that ends the call keeps every stored version, if it saves a new one or the one that it read. -/
theorem effect_keeps (sound : SoundTables tables) (effect : Effect tables now call saved created)
    (new : ∀ input id pattern, call = .createPattern input id none → GlobalPattern.create input id now = .ok pattern →
      versionOf pattern.props ∉ tables.patterns.map versionOf)
    (known : ∀ id version at_ pattern, call = .deprecatePattern id version at_ (some pattern) →
      ∃ row ∈ tables.patterns, patternContent row = patternContent pattern.props) :
    SoundTables saved ∧ Preserved tables saved ∧
      ∀ version ∈ created, version ∉ tables.patterns.map versionOf ∧ version ∈ saved.patterns.map versionOf := by
  cases effect with
  | roleStored newer =>
    refine ⟨⟨sound.valid, sound.keyed, ?_⟩, ⟨?_, fun row member => ⟨row, member, rfl, id⟩⟩, nofun⟩
    · refine List.pairwise_append.mpr ⟨sound.history, List.pairwise_singleton _ _, ?_⟩
      intro row member role inRole sameKey
      obtain rfl := List.mem_singleton.mp inRole
      exact newer row member sameKey
    · exact fun row member => ⟨row, List.mem_append_left _ member, rfl, id⟩
  | roleDeprecated selected at_ =>
    refine ⟨⟨sound.valid, sound.keyed, ?_⟩, ⟨?_, fun row member => ⟨row, member, rfl, id⟩⟩, nofun⟩
    · refine List.pairwise_map.mpr (sound.history.imp ?_)
      intro earlier later ordered
      have first := (markRow_keeps selected at_ earlier).1
      have second := (markRow_keeps selected at_ later).1
      simp only [roleContent, GlobalRoleProps.mk.injEq] at first second
      rw [first.1, second.1, first.2.2.1, second.2.2.1, first.2.2.2.1, second.2.2.2.1]
      exact ordered
    · exact fun row member => ⟨_, List.mem_map_of_mem member, markRow_keeps selected at_ row⟩
  | patternStored built =>
    have fresh := new _ _ _ rfl built
    rw [savePattern_new fresh]
    refine ⟨⟨?_, ?_, sound.history⟩, ⟨fun row member => ⟨row, member, rfl, id⟩, ?_⟩, ?_⟩
    · intro row member
      rcases List.mem_append.mp member with earlier | last
      · exact sound.valid row earlier
      · obtain rfl := List.mem_singleton.mp last
        exact GlobalPattern.valid _
    · rw [List.map_append]
      refine List.nodup_append.mpr ⟨sound.keyed, List.nodup_singleton _, ?_⟩
      intro version earlier other last same
      obtain rfl := List.mem_singleton.mp last
      exact fresh (same ▸ earlier)
    · exact fun row member => ⟨row, List.mem_append_left _ member, rfl, id⟩
    · intro version member
      cases member
      exact ⟨fresh, List.mem_map_of_mem (List.mem_append_right _ List.mem_cons_self)⟩
  | patternDeprecated =>
    obtain ⟨row, member, same⟩ := known _ _ _ _ rfl
    obtain ⟨sound', preserved⟩ := deprecation_keeps sound member same _
    exact ⟨sound', preserved, nofun⟩
  | adopted => exact ⟨⟨sound.valid, sound.keyed, sound.history⟩, ⟨(Preserved.refl tables).roles, (Preserved.refl tables).patterns⟩, nofun⟩

end Effects

section Runs

variable {memory before middle after : Memory} {label : Label} {labels others : List Label} {tables : Tables}
  {generated : String} {now : Date} {call : Call} {found : Option GlobalPattern} {id : String} {version : Int}

/-- What a call has read of a pattern that it is about to deprecate is still stored. -/
def Reads (tables : Tables) : Call → Prop
  | .deprecatePattern _ _ _ (some pattern) => ∃ row ∈ tables.patterns, patternContent row = patternContent pattern.props
  | _ => True

structure Sound (memory : Memory) : Prop where
  tables : SoundTables memory.tables
  created : ∀ version ∈ memory.created, version ∈ memory.tables.patterns.map versionOf
  unique : memory.created.Nodup
  reads : ∀ caller call, memory.calls caller = some call → Reads memory.tables call

theorem findPattern_stored (sound : SoundTables tables) (lookup : findPattern tables id version = .ok found) :
    ∀ pattern ∈ found, pattern.props ∈ tables.patterns := by
  rw [findPattern] at lookup
  cases stored : tables.patterns.find? fun row => row.id = id ∧ row.version = version with
  | none =>
    rw [stored] at lookup
    cases lookup
    intro pattern absent
    cases absent
  | some row =>
    have member := List.mem_of_find?_eq_some stored
    have restored : GlobalPattern.restore row = .ok ⟨row, sound.valid row member⟩ :=
      GlobalPattern.restore_props ⟨row, sound.valid row member⟩
    rw [stored] at lookup
    change (GlobalPattern.restore row).map some = _ at lookup
    rw [restored] at lookup
    cases lookup
    intro pattern same
    cases same
    exact member

theorem lookUpPattern_reads {input : GlobalPattern.Input} (lookup : lookUpPattern tables generated input = .ok call) :
    Reads tables call := by
  obtain ⟨found, -, same⟩ := bind_ok lookup
  cases same
  trivial

theorem start_reads {command : Command} (sound : SoundTables tables)
    (started : start tables generated now command = .ok call) : Reads tables call := by
  cases command with
  | createRole name version definition =>
    obtain ⟨normalized, -, started⟩ := bind_ok started
    obtain ⟨latest, -, started⟩ := bind_ok started
    cases started
    trivial
  | createPattern input =>
    simp only [start] at started
    split at started
    · cases started
      trivial
    · exact lookUpPattern_reads started
  | adoptPattern input =>
    cases started
    trivial
  | deprecateRole id version =>
    cases version with
    | none => cases started
    | some version =>
      obtain ⟨found, -, started⟩ := bind_ok started
      cases started
      trivial
  | deprecatePattern id version =>
    cases version with
    | none => cases started
    | some version =>
      obtain ⟨found, lookup, started⟩ := bind_ok started
      cases started
      cases found with
      | none => trivial
      | some pattern => exact ⟨_, findPattern_stored sound lookup pattern rfl, rfl⟩

theorem resume_reads {projectFound : Bool} {next : Call}
    (resumed : resume tables generated now projectFound call = .ok (.waits next)) : Reads tables next := by
  cases call with
  | requireSourceProject input =>
    simp only [resume] at resumed
    split at resumed
    · obtain ⟨waiting, lookup, resumed⟩ := bind_ok resumed
      cases resumed
      exact lookUpPattern_reads lookup
    · cases resumed
  | requireAdopter input =>
    simp only [resume] at resumed
    split at resumed
    · obtain ⟨found, -, resumed⟩ := bind_ok resumed
      cases resumed
      trivial
    · cases resumed
  | createRole name version definition latest =>
    simp only [resume] at resumed
    split at resumed
    · cases resumed
    · obtain ⟨role, -, resumed⟩ := bind_ok resumed
      obtain ⟨saved, -, resumed⟩ := bind_ok resumed
      cases resumed
  | createPattern input id found =>
    cases found with
    | some pattern => cases resumed
    | none =>
      obtain ⟨pattern, -, resumed⟩ := bind_ok resumed
      cases resumed
  | adoptPattern input found =>
    cases found with
    | none => cases resumed
    | some pattern =>
      simp only [resume] at resumed
      obtain ⟨-, resumed⟩ := guard_ok resumed
      obtain ⟨reference, -, resumed⟩ := bind_ok resumed
      cases resumed
  | deprecateRole id version at_ found =>
    cases found with
    | none => cases resumed
    | some role =>
      obtain ⟨saved, -, resumed⟩ := bind_ok resumed
      cases resumed
  | deprecatePattern id version at_ found => cases found <;> cases resumed

theorem Reads.preserved {before after : Tables} (reads : Reads before call) (preserved : Preserved before after) :
    Reads after call := by
  cases call with
  | deprecatePattern id version at_ found =>
    cases found with
    | none => trivial
    | some pattern =>
      obtain ⟨row, member, content⟩ := reads
      obtain ⟨later, inAfter, kept, -⟩ := preserved.patterns row member
      exact ⟨later, inAfter, kept.trans content⟩
  | _ => trivial

theorem Sound.setCall (sound : Sound memory) (caller : Nat) {call : Option Call}
    (reads : ∀ next ∈ call, Reads memory.tables next) : Sound (memory.setCall caller call) := by
  refine ⟨sound.tables, sound.created, sound.unique, ?_⟩
  intro other next here
  simp only [Memory.setCall, Function.update_apply] at here
  split at here
  · exact reads next here
  · exact sound.reads other next here

/-- Every part of a call that meets the condition keeps what is stored. -/
theorem step_keeps (sound : Sound before) (step : NewStep before label after) :
    Sound after ∧ Preserved before.tables after.tables := by
  obtain ⟨stepped, new⟩ := step
  cases label with
  | start caller command generated now =>
    simp only [Memory.step] at stepped
    split at stepped
    · cases stepped
    · cases stepped
      refine ⟨sound.setCall caller ?_, Preserved.refl _⟩
      intro call started
      cases outcome : start before.tables generated now command with
      | ok next =>
        rw [outcome] at started
        cases started
        exact start_reads sound.tables outcome
      | error thrown =>
        rw [outcome] at started
        cases started
  | resume caller projectFound generated now =>
    simp only [Memory.step] at stepped
    split at stepped
    · cases stepped
    next call here =>
    split at stepped
    · cases stepped
      exact ⟨sound.setCall caller (fun _ none => by cases none), Preserved.refl _⟩
    · next resumed =>
      cases stepped
      refine ⟨sound.setCall caller ?_, Preserved.refl _⟩
      rintro _ ⟨⟩
      exact resume_reads resumed
    · next tables created resumed =>
      cases stepped
      obtain ⟨soundTables, preserved, fresh⟩ := effect_keeps sound.tables (resume_effect resumed)
        (fun input id pattern same built => new input id pattern (by rw [here, same]) built)
        (fun id version at_ pattern same => by simpa only [same, Reads] using sound.reads caller call here)
      refine ⟨⟨soundTables, ?_, ?_, ?_⟩, preserved⟩
      · intro version member
        rcases List.mem_append.mp member with earlier | last
        · obtain ⟨row, inRows, same⟩ := List.mem_map.mp (sound.created version earlier)
          obtain ⟨later, inAfter, content, -⟩ := preserved.patterns row inRows
          exact List.mem_map.mpr ⟨later, inAfter, (versionOf_content content).trans same⟩
        · exact (fresh version (Option.mem_toList.mp last)).2
      · refine List.nodup_append.mpr ⟨sound.unique, ?_, ?_⟩
        · cases created <;> simp
        · intro version earlier other last same
          subst same
          exact (fresh version (Option.mem_toList.mp last)).1 (sound.created version earlier)
      · intro other call there
        simp only [Memory.setCall, Function.update_apply] at there
        split at there
        · cases there
        · exact (sound.reads other call there).preserved preserved

def emptyMemory : Memory := ⟨⟨[], [], []⟩, fun _ => none, []⟩

theorem emptyMemory_sound : Sound emptyMemory := by
  refine ⟨⟨?_, List.nodup_nil, List.Pairwise.nil⟩, ?_, List.nodup_nil, ?_⟩
  · intro row member
    cases member
  · intro version member
    cases member
  · intro caller call absent
    cases absent

theorem run_keeps (run : Run NewStep before labels after) (sound : Sound before) :
    Sound after ∧ Preserved before.tables after.tables := by
  induction run with
  | nil => exact ⟨sound, Preserved.refl _⟩
  | snoc _ last ih =>
    obtain ⟨soundAfter, kept⟩ := step_keeps ih.1 last
    exact ⟨soundAfter, ih.2.trans kept⟩

/-- Whatever the order of the parts of the calls: stored versions keep their content and stay deprecated, the versions
of a role key share one id and grow, and no version is created twice, if no call of `createPattern` saves a
version that is stored by then. -/
theorem versions_immutable (first : Run NewStep emptyMemory labels before) (second : Run NewStep before others after) :
    Preserved before.tables after.tables ∧ KeyHistory after.tables.roles ∧
      (after.tables.patterns.map versionOf).Nodup ∧ after.created.Nodup := by
  have sound := (run_keeps first emptyMemory_sound).1
  obtain ⟨soundAfter, preserved⟩ := run_keeps second sound
  exact ⟨preserved, soundAfter.tables.history, soundAfter.tables.keyed, soundAfter.unique⟩

def stylePattern (solution : String) : GlobalPattern.Input where
  id := some "style"
  name := "Code style"
  version := 1
  problem := "Mixed indentation"
  context := "Any repository"
  solution
  applicability := []
  constraints := []
  risks := []
  sourceProjectId := none

theorem versions_immutable_deprecated :
    ∃ before after,
      (Run NewStep emptyMemory
          [.start 0 (.createPattern (stylePattern "Use tabs")) "generated" 0, .resume 0 true "generated" 1] before ∧
        Run NewStep before
          [.start 0 (.deprecatePattern "style" (some 1)) "generated" 2, .resume 0 true "generated" 3] after) ∧
      after.tables.patterns.map (·.status) = [.deprecated] ∧
      Preserved before.tables after.tables ∧ KeyHistory after.tables.roles ∧
      (after.tables.patterns.map versionOf).Nodup ∧ after.created.Nodup := by
  have runs : ∃ before after,
      (Run NewStep emptyMemory
          [.start 0 (.createPattern (stylePattern "Use tabs")) "generated" 0, .resume 0 true "generated" 1] before ∧
        Run NewStep before
          [.start 0 (.deprecatePattern "style" (some 1)) "generated" 2, .resume 0 true "generated" 3] after) ∧
      after.tables.patterns.map (·.status) = [.deprecated] := by
    refine ⟨_, _, ⟨.cons ⟨rfl, trivial⟩ (.cons ⟨rfl, ?_⟩ .nil), .cons ⟨rfl, trivial⟩ (.cons ⟨rfl, ?_⟩ .nil)⟩, rfl⟩
    · intro input id pattern _ _ member
      cases member
    · intro input id pattern here
      cases here
  obtain ⟨before, after, ⟨first, second⟩, deprecated⟩ := runs
  exact ⟨before, after, ⟨first, second⟩, deprecated, versions_immutable first second⟩

/-- Two calls that both find no version both save theirs: the second overwrites what the first stored. -/
theorem concurrent_creation_overwrites :
    ∃ before after,
      Run (fun before label after => Memory.step before label = some after) emptyMemory
        [.start 0 (.createPattern (stylePattern "Use tabs")) "generated" 0,
          .start 1 (.createPattern (stylePattern "Use spaces")) "generated" 0,
          .resume 0 true "generated" 1] before ∧
      Run (fun before label after => Memory.step before label = some after) before
        [.resume 1 true "generated" 2] after ∧
      before.tables.patterns.map (·.solution) = ["Use tabs"] ∧
      after.tables.patterns.map (·.solution) = ["Use spaces"] ∧
      after.created = [("style", 1), ("style", 1)] :=
  ⟨_, _, .cons rfl (.cons rfl (.cons rfl .nil)), .cons rfl .nil, rfl, rfl, rfl⟩

end Runs
end AiOffice.Application.ManageGlobalMemory
