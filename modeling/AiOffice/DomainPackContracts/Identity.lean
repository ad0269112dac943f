import AiOffice.Domain.Schema

namespace AiOffice.DomainPackContracts

open Domain

def isLowerAlphanum (char : Char) : Bool := char.isLower || char.isDigit

/-- A lower-case name whose parts, split at the separators, have letters and digits only. -/
def namePattern (separators : List Char) (value : String) : Bool :=
  let parts := value.toList.splitOnP fun char => separators.contains char
  (value.toList.head?.any Char.isLower) && parts.all fun part => !part.isEmpty && part.all isLowerAlphanum

def packIdPart (part : List Char) : Bool :=
  part.head?.any Char.isLower && part.getLast?.any isLowerAlphanum &&
    part.all fun char => isLowerAlphanum char || char = '-'

def packIdPattern (value : String) : Bool :=
  let parts := value.toList.splitOn '.'
  2 ≤ parts.length && parts.all packIdPart

def versionNumber (part : List Char) : Bool :=
  part = ['0'] || (part.head?.any fun char => char ≠ '0') && !part.isEmpty && part.all Char.isDigit

def versionPattern (value : String) : Bool :=
  let parts := value.toList.splitOn '.'
  parts.length = 3 && parts.all versionNumber

def digestPattern (value : String) : Bool :=
  "sha256:".toList.isPrefixOf value.toList && validHash (String.ofList (value.toList.drop 7))

def localIdPattern (value : String) : Bool :=
  value.toList.head?.any Char.isAlphanum &&
    value.toList.all fun char => char.isAlphanum || ['.', '_', '-'].contains char

inductive ContributionKind
  | roles
  | taskTypes
  | workflows
  | agents
  | artifactTypes
  | evidenceTypes
  | policies
  | knowledge
  | capabilities
  | prompts
  | validators
  deriving DecidableEq

namespace ContributionKind

def name : ContributionKind → String
  | roles => "roles"
  | taskTypes => "taskTypes"
  | workflows => "workflows"
  | agents => "agents"
  | artifactTypes => "artifactTypes"
  | evidenceTypes => "evidenceTypes"
  | policies => "policies"
  | knowledge => "knowledge"
  | capabilities => "capabilities"
  | prompts => "prompts"
  | validators => "validators"

end ContributionKind

def contributionKinds : List ContributionKind :=
  [.roles, .taskTypes, .workflows, .agents, .artifactTypes, .evidenceTypes, .policies, .knowledge, .capabilities,
    .prompts, .validators]

theorem ContributionKind.name_injective : ContributionKind.name.Injective := by
  intro first second same
  cases first <;> cases second <;> first | rfl | exact absurd same (by decide)

/-- The part of a pack that a definition comes from, down to the exact manifest. -/
structure DomainPackDependency where
  id : String
  version : String
  manifestDigest : String
  deriving DecidableEq

def maximumContributionReferences : Nat := 1000

def maximumDescriptiveListEntries : Nat := 64

example : packIdPattern "ai-office.core-pack" = true ∧ packIdPattern "core" = false ∧ packIdPattern "a.b-" = false := by
  decide

end AiOffice.DomainPackContracts

namespace AiOffice.Application.DomainPack

open Domain DomainPackContracts

def agentReferenceFields : List String := ["role", "prompts", "knowledge", "capabilities"]

def hasAgentReferences (payload : Value) : Bool := agentReferenceFields.any payload.has

def maximumWorkflowStages : Nat := 1000

def maximumAgentReferences : Nat := maximumContributionReferences

def maximumDescriptiveEntries : Nat := maximumDescriptiveListEntries

def maximumDefinitionTextLength : Nat := 16000

/-- The one text rule for definition titles and descriptions. A text of this model has no lone surrogates. -/
def isDefinitionText (value : String) : Bool :=
  utf16Length value ≤ maximumDefinitionTextLength && !value.toList.contains '\u0000'

def isDescriptiveText (value : String) : Bool := isDefinitionText value && 0 < utf16Length value

def stageDescriptiveFields : List String := ["title", "objective", "checks"]

/-- Whether a payload carries any key that needs portable archive format 10. -/
def hasDescriptiveVocabulary (payload : Value) : Bool :=
  payload.has "responsibilities" || payload.has "text" || payload.has "additionalTaskTypes" ||
    (payload.get "stages").items.any fun stage => stageDescriptiveFields.any stage.has

def descriptiveKinds : List ContributionKind :=
  [.roles, .taskTypes, .agents, .artifactTypes, .evidenceTypes, .knowledge, .prompts]

def overridableKinds : List ContributionKind := descriptiveKinds ++ [.workflows]

def disableableKinds : List ContributionKind := [.prompts, .roles, .agents, .workflows]

def projectOwnedKinds : List ContributionKind := descriptiveKinds ++ [.workflows]

end AiOffice.Application.DomainPack
