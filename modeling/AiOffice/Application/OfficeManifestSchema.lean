import AiOffice.Domain.Agent
import AiOffice.Domain.OfficeManifest
import AiOffice.DomainPackContracts.Identity

namespace AiOffice.Application.OfficeManifestSchema

open Domain

inductive PathSegment
  | field (name : String)
  | index (position : Nat)

structure Issue where
  path : List PathSegment
  message : String

def uniqueValues (values : List String) : Bool :=
  values.dedup.length = values.length

theorem uniqueValues_iff {values : List String} : uniqueValues values = true ↔ values.Nodup := by
  rw [uniqueValues, decide_eq_true_iff]
  constructor
  · intro sameLength
    have same := (List.dedup_sublist values).eq_of_length sameLength
    rw [← same]
    exact values.nodup_dedup
  · intro unique
    rw [unique.dedup]

def issueUnless (check : Bool) (path : List PathSegment) (message : String) : List Issue :=
  if check then [] else [⟨path, message⟩]

@[simp] theorem issueUnless_eq_nil {check : Bool} {path : List PathSegment} {message : String} :
    issueUnless check path message = [] ↔ check = true := by
  cases check <;> simp [issueUnless]

def stagePath (pipelineIndex stageIndex : Nat) (name : String) : List PathSegment :=
  [.field "pipelines", .index pipelineIndex, .field "stages", .index stageIndex, .field name]

/-- Whether a separation constraint of the stage at `stageIndex` names an earlier stage. -/
def namesEarlier (stageIds : List String) (stageIndex : Nat) (predecessorId : String) : Bool :=
  stageIds.idxOf predecessorId < stageIds.length && stageIds.idxOf predecessorId < stageIndex

def stageIssues (roleIds stageIds : List String) (pipeline : OfficePipeline) (pipelineIndex stageIndex : Nat)
    (stage : OfficePipelineStage) : List Issue :=
  let path := stagePath pipelineIndex stageIndex
  issueUnless (roleIds.contains stage.roleId) (path "roleId") s!"Unknown office role {stage.roleId}" ++
  issueUnless (pipeline.enforcement ≠ some .enforced || stage.capabilities.isSome) (path "capabilities")
    "Enforced pipeline stages must declare capabilities explicitly" ++
  issueUnless (stage.capabilities.all uniqueValues) (path "capabilities")
    "Stage capabilities must be unique" ++
  issueUnless (stage.requiresIndependentApproval ≠ some true || stage.requiresApproval)
    (path "requiresIndependentApproval")
    "Independent approval requires the stage approval gate to be enabled" ++
  stage.separatedFrom.flatMap fun predecessorId =>
    issueUnless (namesEarlier stageIds stageIndex predecessorId) (path "requiresDifferentAgentFrom")
      s!"Separation constraint must reference an earlier stage: {predecessorId}"

/-- The issues of the task kinds of one pipeline, and the kinds assigned after it. -/
def kindIssues (pipelineIndex : Nat) (assignedKinds : List String) : List String → List Issue × List String
  | [] => ([], assignedKinds)
  | kind :: kinds =>
    let later := kindIssues pipelineIndex (kind :: assignedKinds) kinds
    (issueUnless (!assignedKinds.contains kind) [.field "pipelines", .index pipelineIndex, .field "defaultFor"]
      s!"Task kind {kind} can have only one default pipeline" ++ later.1, later.2)

def pipelineIssues (roleIds : List String) (pipelineIndex : Nat) (assignedKinds : List String)
    (pipeline : OfficePipeline) : List Issue × List String :=
  let kinds := kindIssues pipelineIndex assignedKinds pipeline.defaultFor
  let stageIds := pipeline.stages.map (·.id)
  (issueUnless (uniqueValues pipeline.defaultFor)
      [.field "pipelines", .index pipelineIndex, .field "defaultFor"]
      "Task kinds must be unique within a pipeline" ++
    kinds.1 ++
    issueUnless (uniqueValues stageIds) [.field "pipelines", .index pipelineIndex, .field "stages"]
      "Stage identifiers must be unique within a pipeline" ++
    (pipeline.stages.mapIdx (stageIssues roleIds stageIds pipeline pipelineIndex)).flatten,
  kinds.2)

def pipelinesIssues (roleIds : List String) (pipelineIndex : Nat) (assignedKinds : List String) :
    List OfficePipeline → List Issue
  | [] => []
  | pipeline :: pipelines =>
    let first := pipelineIssues roleIds pipelineIndex assignedKinds pipeline
    first.1 ++ pipelinesIssues roleIds (pipelineIndex + 1) first.2 pipelines

/-- The refinement of the office-manifest schema. A manifest is accepted when it has no issue. -/
def officeManifestIssues (manifest : OfficeManifest) : List Issue :=
  let roleIds := manifest.office.roles.map (·.id)
  issueUnless (uniqueValues roleIds) [.field "office", .field "roles"] "Role identifiers must be unique" ++
  issueUnless (uniqueValues (manifest.pipelines.map (·.id))) [.field "pipelines"]
    "Pipeline identifiers must be unique" ++
  pipelinesIssues roleIds 0 [] manifest.pipelines ++
  issueUnless (uniqueValues manifest.project.goals) [.field "project", .field "goals"]
    "Goals must be unique" ++
  issueUnless (uniqueValues manifest.project.permissionPreferences)
    [.field "project", .field "permissionPreferences"] "Permission preferences must be unique"

/-- What the schema establishes about a pipeline that it accepts. -/
structure PipelineAccepted (pipeline : OfficePipeline) : Prop where
  uniqueStages : (pipeline.stages.map (·.id)).Nodup
  gated : ∀ stage ∈ pipeline.stages, stage.requiresIndependentApproval = some true →
    stage.requiresApproval = true
  earlier : ∀ (index : Nat) (stage : OfficePipelineStage), pipeline.stages[index]? = some stage →
    ∀ predecessorId ∈ stage.separatedFrom,
      ∃ position < index, ∃ predecessor, pipeline.stages[position]? = some predecessor ∧
        predecessor.id = predecessorId

theorem pipelineIssues_accepted {roleIds : List String} {pipelineIndex : Nat} {assignedKinds : List String}
    {pipeline : OfficePipeline} (none : (pipelineIssues roleIds pipelineIndex assignedKinds pipeline).1 = []) :
    PipelineAccepted pipeline := by
  simp only [pipelineIssues, List.append_eq_nil_iff, issueUnless_eq_nil, List.flatten_eq_nil_iff] at none
  obtain ⟨⟨-, unique⟩, stages⟩ := none
  have clean : ∀ (index : Nat) (stage : OfficePipelineStage), pipeline.stages[index]? = some stage →
      stageIssues roleIds (pipeline.stages.map (·.id)) pipeline pipelineIndex index stage = [] := by
    intro index stage found
    apply stages
    exact List.mem_of_getElem? (by rw [List.getElem?_mapIdx, found]; rfl)
  refine ⟨uniqueValues_iff.mp unique, ?_, ?_⟩
  · intro stage member independent
    obtain ⟨index, found⟩ := List.getElem?_of_mem member
    have passed := clean index stage found
    simp only [stageIssues, List.append_eq_nil_iff, issueUnless_eq_nil] at passed
    simpa [independent] using passed.1.2
  · intro index stage found predecessorId member
    have passed := clean index stage found
    simp only [stageIssues, List.append_eq_nil_iff, List.flatMap_eq_nil_iff, issueUnless_eq_nil] at passed
    have names := passed.2 predecessorId member
    simp only [namesEarlier, Bool.and_eq_true, decide_eq_true_eq] at names
    obtain ⟨within, before⟩ := names
    have position := List.getElem?_eq_getElem within
    rw [List.getElem_idxOf, List.getElem?_map, Option.map_eq_some_iff] at position
    obtain ⟨predecessor, lookup, same⟩ := position
    exact ⟨_, before, predecessor, lookup, same⟩

theorem pipelinesIssues_accepted {roleIds : List String} {pipelineIndex : Nat} {assignedKinds : List String}
    {pipelines : List OfficePipeline} {pipeline : OfficePipeline}
    (none : pipelinesIssues roleIds pipelineIndex assignedKinds pipelines = [])
    (member : pipeline ∈ pipelines) : PipelineAccepted pipeline := by
  induction pipelines generalizing pipelineIndex assignedKinds with
  | nil => cases member
  | cons first rest ih =>
    simp only [pipelinesIssues, List.append_eq_nil_iff] at none
    rcases List.mem_cons.mp member with rfl | later
    · exact pipelineIssues_accepted none.1
    · exact ih none.2 later

/-- Every pipeline of an accepted manifest has unique stages, separation constraints that name earlier
stages, and an approval gate wherever approval must be independent. -/
theorem officeManifest_accepted {manifest : OfficeManifest} {pipeline : OfficePipeline}
    (none : officeManifestIssues manifest = []) (member : pipeline ∈ manifest.pipelines) :
    PipelineAccepted pipeline := by
  simp only [officeManifestIssues, List.append_eq_nil_iff] at none
  exact pipelinesIssues_accepted none.1.1.2 member

end AiOffice.Application.OfficeManifestSchema

namespace AiOffice.Application

open Domain Domain.Schema DomainPackContracts OfficeManifestSchema

def superRefine (schema : Schema) (issues : Value → List Issue) : Schema :=
  refine schema fun parsed => (issues parsed).isEmpty

theorem superRefine_iff {schema : Schema} {issues : Value → List Issue} {value output : Value} :
    superRefine schema issues value = some output ↔ schema value = some output ∧ issues output = [] := by
  rw [superRefine, refine_iff, List.isEmpty_iff]

/-- A trimmed text of 1 to `longest` code units. -/
def trimmedText (longest : Nat) : Schema := trimmed fun value => 1 ≤ utf16Length value && utf16Length value ≤ longest

def isInteger (value : Rat) : Bool := value.den = 1 && isSafeInteger value.num

def positiveInteger : Schema := number fun value => isInteger value && 0 < value

def integer : Schema := number isInteger

def nonnegativeInteger : Schema := number fun value => isInteger value && 0 ≤ value

def literalNumber (expected : Rat) : Schema := number fun value => value = expected

/-- An array of at least `fewest` and at most `most` items. -/
def boundedArray (item : Schema) (fewest most : Nat) : Schema :=
  array item fun length => fewest ≤ length && length ≤ most

theorem boundedArray_length {schema : Schema} {fewest most : Nat} {items : List Value} {output : Value}
    (read : boundedArray schema fewest most (.array items) = some output) : items.length ≤ most := by
  have bounds := array_length read
  rw [Bool.and_eq_true, decide_eq_true_eq, decide_eq_true_eq] at bounds
  exact bounds.2

namespace OfficeManifestSchema

def officeIdentifierMaxLength : Nat := 64

def officeIdentifierPattern (value : String) : Bool := namePattern ['-'] value

def identifierSchema : Schema := trimmed fun value =>
  1 ≤ utf16Length value && utf16Length value ≤ officeIdentifierMaxLength && officeIdentifierPattern value

def shortTextSchema : Schema := trimmedText 240

def longTextSchema : Schema := trimmedText 2000

def capabilitySchema : Schema := trimmed fun value =>
  1 ≤ utf16Length value && utf16Length value ≤ 128 && namePattern ['.', '_', ':', '-'] value

def agentOperations : List String :=
  ["read_files", "modify_files", "run_tests", "run_shell", "install_dependencies", "create_branches",
    "create_commits", "network_access"]

def stageSchema : Schema := object [
  required "id" identifierSchema,
  required "name" shortTextSchema,
  required "roleId" identifierSchema,
  required "objective" longTextSchema,
  required "checks" (boundedArray shortTextSchema 0 16),
  required "requiresApproval" boolean,
  optional "requiresIndependentApproval" boolean,
  optional "capabilities" (boundedArray capabilitySchema 0 64),
  optional "requiresDifferentAgentFrom" (boundedArray identifierSchema 0 16)]

def pipelineSchema : Schema := object [
  required "id" identifierSchema,
  required "name" shortTextSchema,
  required "description" longTextSchema,
  required "defaultFor" (boundedArray identifierSchema 1 5),
  optional "enforcement" (oneOf ["guidance", "enforced"]),
  required "stages" (boundedArray stageSchema 1 24)]

def roleSchema : Schema := object [
  required "id" identifierSchema,
  required "title" shortTextSchema,
  required "purpose" longTextSchema,
  required "responsibilities" (boundedArray shortTextSchema 1 16)]

def officeManifestShape : Schema := object [
  required "schemaVersion" (literalNumber 1),
  required "provenance" (object [
    required "host" identifierSchema,
    required "skill" (oneOf ["ai-office"]),
    required "skillVersion" (trimmedText 32)]),
  required "project" (object [
    required "mission" longTextSchema,
    required "goals" (boundedArray shortTextSchema 1 16),
    required "constraints" (boundedArray shortTextSchema 0 32),
    required "preferences" (boundedArray shortTextSchema 0 32),
    required "permissionPreferences" (boundedArray (oneOf agentOperations) 0 8)]),
  required "office" (object [
    required "name" shortTextSchema,
    required "roles" (boundedArray roleSchema 1 24)]),
  required "pipelines" (boundedArray pipelineSchema 1 16)]

def texts (value : Value) : List String := value.items.map Value.text

def optionalTexts (value : Value) : Option (List String) :=
  match value with
  | .array items => some (items.map Value.text)
  | _ => none

def flag (value : Value) : Option Bool :=
  match value with
  | .boolean holds => some holds
  | _ => none

def readStage (stage : Value) : OfficePipelineStage where
  id := (stage.get "id").text
  name := (stage.get "name").text
  roleId := (stage.get "roleId").text
  objective := (stage.get "objective").text
  checks := texts (stage.get "checks")
  requiresApproval := (flag (stage.get "requiresApproval")).getD false
  requiresIndependentApproval := flag (stage.get "requiresIndependentApproval")
  capabilities := optionalTexts (stage.get "capabilities")
  requiresDifferentAgentFrom := optionalTexts (stage.get "requiresDifferentAgentFrom")

def readEnforcement (value : Value) : Option PipelineEnforcement :=
  match value with
  | .string name => if name = "enforced" then some .enforced else some .guidance
  | _ => none

def readPipeline (pipeline : Value) : OfficePipeline where
  id := (pipeline.get "id").text
  name := (pipeline.get "name").text
  description := (pipeline.get "description").text
  defaultFor := texts (pipeline.get "defaultFor")
  enforcement := readEnforcement (pipeline.get "enforcement")
  stages := (pipeline.get "stages").items.map readStage

def readRole (role : Value) : OfficeRole where
  id := (role.get "id").text
  title := (role.get "title").text
  purpose := (role.get "purpose").text
  responsibilities := texts (role.get "responsibilities")

def readOfficeManifest (manifest : Value) : OfficeManifest where
  project :=
    let project := manifest.get "project"
    { mission := (project.get "mission").text
      goals := texts (project.get "goals")
      constraints := texts (project.get "constraints")
      preferences := texts (project.get "preferences")
      permissionPreferences := texts (project.get "permissionPreferences") }
  office :=
    let office := manifest.get "office"
    { name := (office.get "name").text
      roles := (office.get "roles").items.map readRole }
  pipelines := (manifest.get "pipelines").items.map readPipeline

def officeManifestSchema : Schema :=
  superRefine officeManifestShape fun parsed => officeManifestIssues (readOfficeManifest parsed)

end OfficeManifestSchema

end AiOffice.Application
