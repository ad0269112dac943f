import AiOffice.Data.Outcome
import AiOffice.Domain.Text
import Mathlib.Data.List.Nodup

namespace AiOffice.Domain.GlobalMemory

open Data Data.Outcome

def invalid (message : String) : Thrown := ⟨.domainValidationError, message⟩

def nonEmpty (value field : String) : Except Thrown String :=
  if trim value = "" then .error (invalid s!"{field} cannot be empty") else .ok (trim value)

def stringList (values : List String) (field : String) : Except Thrown (List String) := do
  let normalized ← values.mapM (nonEmpty · field)
  if ¬normalized.Nodup then .error (invalid s!"{field} cannot contain duplicates") else .ok normalized

def maxSafeInteger : Int := 2 ^ 53 - 1

def positiveSafeInteger (value : Int) (field : String) : Except Thrown Int :=
  if value < 1 ∨ maxSafeInteger < value then .error (invalid s!"{field} must be a positive safe integer") else .ok value

def nonNegativeSafeInteger (value : Int) (field : String) : Except Thrown Int :=
  if value < 0 ∨ maxSafeInteger < value then .error (invalid s!"{field} must be a non-negative safe integer")
  else .ok value

inductive MemoryStatus
  | active
  | deprecated
  deriving DecidableEq

structure GlobalRoleLimits where
  maxIterations : Int
  maxCostMicros : String
  timeoutSeconds : Int

structure GlobalRoleDefinition where
  key : String
  description : String
  responsibilities : List String
  capabilities : List String
  tools : List String
  modelPolicy : String
  limits : GlobalRoleLimits

structure GlobalRoleProps where
  id : String
  name : String
  version : Int
  definition : GlobalRoleDefinition
  status : MemoryStatus
  createdAt : Date
  updatedAt : Date

structure GlobalPatternProps where
  id : String
  version : Int
  name : String
  problem : String
  context : String
  solution : String
  applicability : List String
  constraints : List String
  risks : List String
  status : MemoryStatus
  sourceProjectId : Option String
  successCount : Int
  failureCount : Int
  createdAt : Date
  updatedAt : Date

def validateLimits (limits : GlobalRoleLimits) : Except Thrown GlobalRoleLimits :=
  if limits.maxIterations < 1 ∨ maxSafeInteger < limits.maxIterations then
    .error (invalid "Global role maxIterations must be a positive safe integer")
  else if limits.maxCostMicros = "" ∨ ¬limits.maxCostMicros.toList.all Char.isDigit then
    .error (invalid "Global role maxCostMicros must be a non-negative integer string")
  else if limits.timeoutSeconds < 1 ∨ maxSafeInteger < limits.timeoutSeconds then
    .error (invalid "Global role timeoutSeconds must be a positive safe integer")
  else .ok limits

def normalizeGlobalRoleDefinition (definition : GlobalRoleDefinition) : Except Thrown GlobalRoleDefinition := do
  let key ← nonEmpty definition.key "Global role key"
  let responsibilities ← stringList definition.responsibilities "Global role responsibilities"
  let capabilities ← stringList definition.capabilities "Global role capabilities"
  let tools ← stringList definition.tools "Global role tools"
  let modelPolicy ← nonEmpty definition.modelPolicy "Global role modelPolicy"
  let limits ← validateLimits definition.limits
  return {
    key, description := trim definition.description, responsibilities, capabilities, tools, modelPolicy, limits }

namespace GlobalRole

def validateProps (props : GlobalRoleProps) : Except Thrown GlobalRoleProps := do
  let id ← nonEmpty props.id "Global role id"
  let name ← nonEmpty props.name "Global role name"
  let version ← positiveSafeInteger props.version "Global role version"
  let definition ← normalizeGlobalRoleDefinition props.definition
  return { props with id, name, version, definition }

end GlobalRole

namespace GlobalPattern

def validateProps (props : GlobalPatternProps) : Except Thrown GlobalPatternProps := do
  let id ← nonEmpty props.id "Global pattern id"
  let version ← positiveSafeInteger props.version "Global pattern version"
  let name ← nonEmpty props.name "Global pattern name"
  let problem ← nonEmpty props.problem "Global pattern problem"
  let context ← nonEmpty props.context "Global pattern context"
  let solution ← nonEmpty props.solution "Global pattern solution"
  let applicability ← stringList props.applicability "Global pattern applicability"
  let constraints ← stringList props.constraints "Global pattern constraints"
  let risks ← stringList props.risks "Global pattern risks"
  let sourceProjectId ← props.sourceProjectId.mapM (nonEmpty · "Global pattern sourceProjectId")
  let successCount ← nonNegativeSafeInteger props.successCount "Global pattern successCount"
  let failureCount ← nonNegativeSafeInteger props.failureCount "Global pattern failureCount"
  return {
    props with
    id, version, name, problem, context, solution, applicability, constraints, risks, sourceProjectId, successCount,
    failureCount }

end GlobalPattern

section Normalized

variable {value result field : String} {number safe : Int} {values normalized : List String}

theorem nonEmpty_again (checked : nonEmpty value field = .ok result) : nonEmpty result field = .ok result := by
  obtain ⟨some, same⟩ := guard_ok checked
  cases same
  rw [nonEmpty, trim_trimmed value, if_neg some]

theorem positiveSafeInteger_again (checked : positiveSafeInteger number field = .ok safe) :
    positiveSafeInteger safe field = .ok safe := by
  obtain ⟨inside, same⟩ := guard_ok checked
  cases same
  exact checked

theorem nonNegativeSafeInteger_again (checked : nonNegativeSafeInteger number field = .ok safe) :
    nonNegativeSafeInteger safe field = .ok safe := by
  obtain ⟨inside, same⟩ := guard_ok checked
  cases same
  exact checked

theorem mapM_again (checked : values.mapM (nonEmpty · field) = .ok normalized) :
    normalized.mapM (nonEmpty · field) = .ok normalized := by
  induction values generalizing normalized with
  | nil =>
    cases checked
    rfl
  | cons value values ih =>
    rw [List.mapM_cons] at checked
    obtain ⟨first, head, rest⟩ := bind_ok checked
    obtain ⟨others, tail, same⟩ := bind_ok rest
    cases same
    rw [List.mapM_cons, nonEmpty_again head, ih tail]
    rfl

theorem stringList_again (checked : stringList values field = .ok normalized) :
    stringList normalized field = .ok normalized := by
  obtain ⟨list, mapped, distinct⟩ := bind_ok checked
  obtain ⟨unique, same⟩ := guard_ok distinct
  cases same
  rw [stringList, mapM_again mapped]
  exact if_neg unique

theorem optional_again {source kept : Option String} (checked : source.mapM (nonEmpty · field) = .ok kept) :
    kept.mapM (nonEmpty · field) = .ok kept := by
  cases source with
  | none =>
    cases checked
    rfl
  | some value =>
    have mapped : (nonEmpty value field).map some = .ok kept := checked
    obtain ⟨result, first, same⟩ := map_ok mapped
    cases same
    change (nonEmpty result field).map some = _
    rw [nonEmpty_again first]
    rfl

theorem validateProps_again {props valid : GlobalPatternProps} (checked : GlobalPattern.validateProps props = .ok valid) :
    GlobalPattern.validateProps valid = .ok valid := by
  rw [GlobalPattern.validateProps] at checked
  obtain ⟨id, first, checked⟩ := bind_ok checked
  obtain ⟨version, second, checked⟩ := bind_ok checked
  obtain ⟨name, third, checked⟩ := bind_ok checked
  obtain ⟨problem, fourth, checked⟩ := bind_ok checked
  obtain ⟨context, fifth, checked⟩ := bind_ok checked
  obtain ⟨solution, sixth, checked⟩ := bind_ok checked
  obtain ⟨applicability, seventh, checked⟩ := bind_ok checked
  obtain ⟨constraints, eighth, checked⟩ := bind_ok checked
  obtain ⟨risks, ninth, checked⟩ := bind_ok checked
  obtain ⟨source, tenth, checked⟩ := bind_ok checked
  obtain ⟨successes, eleventh, checked⟩ := bind_ok checked
  obtain ⟨failures, twelfth, checked⟩ := bind_ok checked
  cases checked
  simp only [GlobalPattern.validateProps, nonEmpty_again first, positiveSafeInteger_again second, nonEmpty_again third,
    nonEmpty_again fourth, nonEmpty_again fifth, nonEmpty_again sixth, stringList_again seventh, stringList_again eighth,
    stringList_again ninth, optional_again tenth, nonNegativeSafeInteger_again eleventh,
    nonNegativeSafeInteger_again twelfth]
  rfl

end Normalized

/-- A pattern that was built or restored: its properties are normalized. -/
structure GlobalPattern where
  props : GlobalPatternProps
  valid : GlobalPattern.validateProps props = .ok props

namespace GlobalPattern

def restore (props : GlobalPatternProps) : Except Thrown GlobalPattern :=
  match checked : validateProps props with
  | .ok valid => .ok ⟨valid, validateProps_again checked⟩
  | .error thrown => .error thrown

structure Input where
  id : Option String
  name : String
  version : Int
  problem : String
  context : String
  solution : String
  applicability : List String
  constraints : List String
  risks : List String
  sourceProjectId : Option String

def create (input : Input) (id : String) (now : Date) : Except Thrown GlobalPattern :=
  restore {
    id
    version := input.version
    name := input.name
    problem := input.problem
    context := input.context
    solution := input.solution
    applicability := input.applicability
    constraints := input.constraints
    risks := input.risks
    status := .active
    sourceProjectId := input.sourceProjectId
    successCount := 0
    failureCount := 0
    createdAt := now
    updatedAt := now }

theorem validateProps_stamped {props : GlobalPatternProps} (valid : validateProps props = .ok props)
    (status : MemoryStatus) (createdAt updatedAt : Date) :
    validateProps { props with status, createdAt, updatedAt } = .ok { props with status, createdAt, updatedAt } := by
  have stamped : validateProps { props with status, createdAt, updatedAt } =
      (fun checked => { checked with status, createdAt, updatedAt }) <$> validateProps props := by
    simp only [validateProps, map_bind, map_pure]
  rw [stamped, valid]
  rfl

def markDeprecated (pattern : GlobalPattern) (now : Date) : GlobalPattern :=
  if pattern.props.status = .deprecated then pattern
  else ⟨{ pattern.props with status := .deprecated, updatedAt := now },
    validateProps_stamped pattern.valid .deprecated pattern.props.createdAt now⟩

@[simp] theorem restore_props (pattern : GlobalPattern) : restore pattern.props = .ok pattern := by
  rw [restore]
  split
  · next checked =>
    cases pattern with
    | mk props valid =>
      rw [valid] at checked
      cases checked
      rfl
  · next checked =>
    rw [pattern.valid] at checked
    cases checked

theorem markDeprecated_status (pattern : GlobalPattern) (now : Date) : (pattern.markDeprecated now).props.status = .deprecated := by
  rw [markDeprecated]
  split
  · assumption
  · rfl

end GlobalPattern

namespace GlobalRole

def restore (props : GlobalRoleProps) : Except Thrown GlobalRoleProps := validateProps props

def create (id name : String) (version : Int) (definition : GlobalRoleDefinition) (now : Date) :
    Except Thrown GlobalRoleProps :=
  validateProps { id, name, version, definition, status := .active, createdAt := now, updatedAt := now }

def markDeprecated (role : GlobalRoleProps) (now : Date) : GlobalRoleProps :=
  if role.status = .deprecated then role else { role with status := .deprecated, updatedAt := now }

theorem markDeprecated_status (role : GlobalRoleProps) (now : Date) : (markDeprecated role now).status = .deprecated := by
  rw [markDeprecated]
  split
  · assumption
  · rfl

end GlobalRole
end AiOffice.Domain.GlobalMemory
