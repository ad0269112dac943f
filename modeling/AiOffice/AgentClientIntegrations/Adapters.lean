import AiOffice.AgentClientIntegrations.LocalAgentClientFiles
import AiOffice.Data.Occurrences

namespace AiOffice.AgentClientIntegrations

open Data Domain LocalAgentClientFiles

def canonicalProjectInstructionsPath := "AI-OFFICE.md"
def codexProjectInstructionsPath := "AGENTS.md"
def codexProjectSkillPath := ".agents/skills/ai-office/SKILL.md"
def claudeProjectSkillPath := ".claude/skills/ai-office/SKILL.md"
def claudeInstructionsPath := "CLAUDE.md"
def legacyInstructionsPath := "CODEX.md"

def managedProjectInstructionsHeader : Text := "<!-- ai-office:managed project-instructions v2 -->".toList
def legacyManagedProjectInstructionsHeader : Text := "<!-- ai-office:managed project-instructions v1 -->".toList
def codexManagedInstructionsHeader : Text := "<!-- ai-office:managed codex-project-instructions v1 -->".toList
def managedProjectSkillMarker : Text := "<!-- ai-office:managed repository-skill v1 -->".toList
def claudeSkillMarker : Text := "<!-- ai-office:managed claude-repository-skill v1 -->".toList

def claudeManagedStart : Text := "<!-- >>> ai-office managed: canonical-project-instructions -->".toList
def claudeManagedEnd : Text := "<!-- <<< ai-office managed: canonical-project-instructions -->".toList
def claudeImport : Text := "@AI-OFFICE.md".toList

def claudeManagedBlock : Text :=
  claudeManagedStart ++ '\n' :: claudeImport ++ '\n' :: claudeManagedEnd

def claudeCompatibilityHeading : Text := "# Claude Code compatibility".toList

def claudeManagedFileContent : Text :=
  claudeCompatibilityHeading ++ '\n' :: '\n' :: claudeManagedBlock ++ ['\n']

def codexManagedFileContent : Text :=
  codexManagedInstructionsHeader ++ "
# AI Office project guidance

Read and follow [AI-OFFICE.md](AI-OFFICE.md) before doing any work in this repository. Use the repository-local `$ai-office` skill for lifecycle, onboarding, status, task, and controlled-action workflows.
".toList

def claudeSkillContent : Text :=
  "---
name: ai-office
description: Install, inspect, onboard, configure, operate, troubleshoot, and safely remove AI Office for this repository.
---

".toList ++ claudeSkillMarker ++ "

Read and follow `$\x7bCLAUDE_PROJECT_DIR\x7d/.agents/skills/ai-office/SKILL.md`. That file is the shared repository-local AI Office skill. Read `$\x7bCLAUDE_PROJECT_DIR\x7d/AI-OFFICE.md` for this project's managed operating guidance.
".toList

def normalizeEol : Text → Text
  | [] => []
  | '\r' :: '\n' :: rest => '\n' :: normalizeEol rest
  | '\r' :: rest => '\n' :: normalizeEol rest
  | char :: rest => char :: normalizeEol rest

def trimEnd (content : Text) : Text := content.rdropWhile isWhiteSpace

def trimBoth (content : Text) : Text := trimEnd (content.dropWhile isWhiteSpace)

def equivalentText (actual : Option Text) (expected : Text) : Bool :=
  actual.any fun actual => normalizeEol actual = normalizeEol expected

def startsWithText (file : LocalInstructionFile) (header : Text) : Bool :=
  file.content.any fun content => header.isPrefixOf content

def isCanonicalManaged (file : LocalInstructionFile) : Bool :=
  startsWithText file managedProjectInstructionsHeader

def isLegacyCanonicalManaged (file : LocalInstructionFile) : Bool :=
  startsWithText file legacyManagedProjectInstructionsHeader

def isCodexPointerManaged (file : LocalInstructionFile) : Bool :=
  startsWithText file codexManagedInstructionsHeader

/-- The marker stands on the line behind the front matter, which names the skill first. -/
def hasManagedSkillMarker (file : LocalInstructionFile) (marker : Text) : Bool :=
  match file.content.map normalizeEol with
  | none => false
  | some content =>
    "---\nname: ai-office\n".toList.isPrefixOf content &&
      match indexOf "\n---\n".toList content 4 with
      | none => false
      | some frontmatterEnd => ('\n' :: marker ++ ['\n']).isPrefixOf (content.drop (frontmatterEnd + 5))

def isProjectSkillManaged (file : LocalInstructionFile) : Bool := hasManagedSkillMarker file managedProjectSkillMarker

def isClaudeSkillManaged (file : LocalInstructionFile) : Bool := hasManagedSkillMarker file claudeSkillMarker

inductive IntegrationStatus
  | missing
  | integrated
  | drifted
  | unmanaged
  | conflict
  deriving DecidableEq

/-- What the text of CLAUDE.md says about the bridge. A managed block has its bounds. -/
inductive ClaudeBridge
  | absent
  | directImport
  | managed (start finish : Nat)
  | unmanaged
  | conflict
  deriving DecidableEq

structure ClaudeBridgeAnalysis where
  ownership : AgentClientFileOwnership
  integrationStatus : IntegrationStatus
  kind : ClaudeBridge

def isLineTerminator (char : Char) : Bool := char.val ∈ ([0x0A, 0x0D, 0x2028, 0x2029] : List UInt32)

/-- From the start of a line on: the import and white space up to the end of a line. -/
def importsHere (rest : Text) : Bool :=
  claudeImport.isPrefixOf rest &&
    let behind := rest.drop claudeImport.length
    (behind.dropWhile isWhiteSpace).isEmpty || (behind.takeWhile isWhiteSpace).any isLineTerminator

/-- The pattern of a line that imports the guidance, searched for at every start of a line. -/
def importsDirectly (lineStart : Bool) : Text → Bool
  | [] => false
  | char :: rest => (lineStart && importsHere (char :: rest)) || importsDirectly (isLineTerminator char) rest

def slice (content : Text) (start finish : Nat) : Text := (content.take finish).drop start

def analyzeClaudeBridge (file : LocalInstructionFile) : ClaudeBridgeAnalysis :=
  match file.content with
  | none => ⟨.absent, .missing, .absent⟩
  | some content =>
    match occurrences claudeManagedStart content, occurrences claudeManagedEnd content with
    | [], [] =>
      if importsDirectly true content then ⟨.userOwned, .integrated, .directImport⟩
      else ⟨.userOwned, .unmanaged, .unmanaged⟩
    | [start], [last] =>
      let finish := last + claudeManagedEnd.length
      if finish ≤ start then ⟨.merged, .conflict, .conflict⟩
      else
        let managed := slice content start finish
        let normalizedContent := normalizeEol content
        let normalizedManaged := normalizeEol managed
        let aiOfficeOwned := normalizedContent = normalizeEol claudeManagedFileContent ∨
          trimBoth normalizedContent = trimBoth normalizedManaged
        ⟨if aiOfficeOwned then .aiOfficeOwned else .merged,
          if normalizedManaged = normalizeEol claudeManagedBlock then .integrated else .drifted,
          .managed start finish⟩
    | _, _ => ⟨.merged, .conflict, .conflict⟩

inductive IssueSeverity
  | warning
  | conflict
  deriving DecidableEq

structure AgentClientIntegrationIssue where
  severity : IssueSeverity
  code : String
  message : String

def preservedIssue (code message : String) : AgentClientIntegrationIssue := ⟨.warning, code, message⟩

def claudeManagedSectionMalformed : AgentClientIntegrationIssue :=
  ⟨.conflict, "claude_managed_section_malformed", "CLAUDE.md contains malformed or duplicated AI Office markers"⟩

section Operations

variable (digest : Text → Digest)

def deleteIfManaged (file : LocalInstructionFile) (managed : LocalInstructionFile → Bool) (summary : String) :
    List AgentClientFileOperation :=
  match file.content with
  | some content => if managed file then [⟨file.relativePath, .delete (digest content), .absent, summary⟩] else []
  | none => []

def reconcileManagedFile (file : LocalInstructionFile) (nextContent : Text)
    (managed : LocalInstructionFile → Bool) (createSummary updateSummary : String) : List AgentClientFileOperation :=
  match file.content with
  | none => [⟨file.relativePath, .create nextContent, .aiOfficeOwned, createSummary⟩]
  | some content =>
    if managed file && !equivalentText file.content nextContent then
      [⟨file.relativePath, .update (digest content) nextContent, .aiOfficeOwned, updateSummary⟩]
    else []

def canonicalOperations (canonical : LocalInstructionFile) (nextContent : Text) : List AgentClientFileOperation :=
  reconcileManagedFile digest canonical nextContent isCanonicalManaged
    "Create canonical AI Office project guidance" "Update canonical AI Office project guidance"

def projectSkillOperations (skill : LocalInstructionFile) (nextContent : Text) : List AgentClientFileOperation :=
  reconcileManagedFile digest skill nextContent isProjectSkillManaged
    "Install the repository-local AI Office skill" "Update the repository-local AI Office skill"

def codexPointerOperations (pointer : LocalInstructionFile) : List AgentClientFileOperation :=
  reconcileManagedFile digest pointer codexManagedFileContent
    (fun file => isCodexPointerManaged file || isLegacyCanonicalManaged file)
    "Create the minimal Codex pointer to AI-OFFICE.md" "Migrate the managed Codex instructions to AI-OFFICE.md"

def claudeSkillOperations (skill : LocalInstructionFile) : List AgentClientFileOperation :=
  reconcileManagedFile digest skill claudeSkillContent isClaudeSkillManaged
    "Install the Claude repository-local AI Office skill" "Update the Claude repository-local AI Office skill"

/-- The user's text up to the white space at its end, and the block behind it. -/
def withClaudeManagedBlock (content : Text) : Text :=
  trimEnd content ++ '\n' :: '\n' :: claudeManagedBlock ++ ['\n']

def claudeBridgeOperations (file : LocalInstructionFile) : List AgentClientFileOperation :=
  let bridge := analyzeClaudeBridge file
  match bridge.kind, file.content with
  | .absent, _ =>
    [⟨file.relativePath, .create claudeManagedFileContent, .aiOfficeOwned, "Create a Claude bridge to AI-OFFICE.md"⟩]
  | .unmanaged, some content =>
    [⟨file.relativePath, .update (digest content) (withClaudeManagedBlock content), .merged,
      "Append an AI Office-managed project guidance bridge"⟩]
  | .managed start finish, some content =>
    if bridge.integrationStatus ≠ .integrated then
      [⟨file.relativePath,
        .update (digest content) (content.take start ++ claudeManagedBlock ++ content.drop finish),
        if bridge.ownership = .merged then .merged else .aiOfficeOwned,
        "Migrate the Claude bridge to AI-OFFICE.md"⟩]
    else []
  | _, _ => []

/-- At most one line end goes with the block on each side; in front of it only one of two. -/
def withoutClaudeManagedBlock (content : Text) (start finish : Nat) : Text :=
  let before := content.take start
  let after := content.drop finish
  let before :=
    if "\r\n\r\n".toList.isSuffixOf before then before.take (before.length - 2)
    else if "\n\n".toList.isSuffixOf before then before.take (before.length - 1)
    else before
  let after :=
    if "\r\n".toList.isPrefixOf after then after.drop 2
    else if "\n".toList.isPrefixOf after then after.drop 1
    else after
  before ++ after

def claudeBridgeRemoval (file : LocalInstructionFile) : List AgentClientFileOperation :=
  let bridge := analyzeClaudeBridge file
  match bridge.kind, file.content with
  | .managed start finish, some content =>
    if bridge.ownership = .aiOfficeOwned then
      [⟨file.relativePath, .delete (digest content), .absent, "Delete the AI Office-owned Claude instruction bridge"⟩]
    else
      [⟨file.relativePath, .update (digest content) (withoutClaudeManagedBlock content start finish), .userOwned,
        "Remove only the AI Office-managed bridge from CLAUDE.md"⟩]
  | _, _ => []

end Operations

inductive AgentClientId
  | codex
  | claude
  deriving DecidableEq

inductive PlanAction
  | install
  | uninstall
  deriving DecidableEq

structure AgentClientIntegrationDraft where
  action : PlanAction
  clientId : AgentClientId
  operations : List AgentClientFileOperation
  issues : List AgentClientIntegrationIssue

structure SharedProjectArtifactDraft where
  operations : List AgentClientFileOperation
  issues : List AgentClientIntegrationIssue

/-- Whether the text of a legacy CODEX.md is a short pointer to AGENTS.md. It decides about a warning only. -/
abbrev LegacyPointer := Text → Bool

section Plans

variable {Runtime : Type} (digest : Text → Digest) (isLegacyCompatibilityPointer : LegacyPointer)

def baseIssues (canonical projectSkill legacy : LocalInstructionFile) : List AgentClientIntegrationIssue :=
  (if !canonical.present then
    [⟨.warning, "canonical_instructions_missing",
      "AI-OFFICE.md is missing and can be created from the approved contract"⟩]
  else if !isCanonicalManaged canonical then
    [⟨.warning, "canonical_instructions_unmanaged",
      "AI-OFFICE.md is user-owned and will not be overwritten; reconcile the project guidance manually"⟩]
  else []) ++
  (if !projectSkill.present then
    [⟨.warning, "project_skill_missing", "The repository-local AI Office skill is missing"⟩]
  else if !isProjectSkillManaged projectSkill then
    [⟨.warning, "project_skill_unmanaged",
      "The repository-local ai-office skill is user-owned and will be preserved"⟩]
  else []) ++
  (if legacy.content.any fun content => !isLegacyCompatibilityPointer content then
    [⟨.warning, "legacy_codex_instructions_detected",
      "CODEX.md is user-owned and requires manual migration or a compatibility pointer"⟩]
  else [])

structure BaseInspection where
  canonical : LocalInstructionFile
  projectSkill : LocalInstructionFile
  issues : List AgentClientIntegrationIssue

def inspectBase : Access Runtime BaseInspection := do
  let canonical ← read canonicalProjectInstructionsPath
  let projectSkill ← read codexProjectSkillPath
  let legacy ← read legacyInstructionsPath
  return ⟨canonical, projectSkill, baseIssues isLegacyCompatibilityPointer canonical projectSkill legacy⟩

namespace SharedProjectArtifactsAdapter

def plan (canonicalInstructions skill : Text) : Access Runtime SharedProjectArtifactDraft := do
  let base ← inspectBase isLegacyCompatibilityPointer
  return ⟨canonicalOperations digest base.canonical canonicalInstructions ++
    projectSkillOperations digest base.projectSkill skill, base.issues⟩

def apply (draft : SharedProjectArtifactDraft) : Access Runtime Unit :=
  LocalAgentClientFiles.apply digest (fun _ => pure ()) draft.operations

end SharedProjectArtifactsAdapter

namespace CodexAgentClientAdapter

def plan (canonicalInstructions skill : Text) : Access Runtime AgentClientIntegrationDraft := do
  let base ← inspectBase isLegacyCompatibilityPointer
  let pointer ← read codexProjectInstructionsPath
  let preserved :=
    if pointer.present && !isCodexPointerManaged pointer && !isLegacyCanonicalManaged pointer then
      [preservedIssue "codex_pointer_user_owned_preserved"
        "AGENTS.md is user-owned and will be preserved; add a reference to AI-OFFICE.md manually"]
    else []
  return ⟨.install, .codex,
    canonicalOperations digest base.canonical canonicalInstructions ++
      projectSkillOperations digest base.projectSkill skill ++ codexPointerOperations digest pointer,
    base.issues ++ preserved⟩

end CodexAgentClientAdapter

namespace ClaudeAgentClientAdapter

def claudeSkillPreserved (skill : LocalInstructionFile) : List AgentClientIntegrationIssue :=
  if skill.present && !isClaudeSkillManaged skill then
    [preservedIssue "claude_skill_user_owned_preserved"
      "The Claude ai-office skill is user-owned and will be preserved"]
  else []

def plan (canonicalInstructions skill : Text) : Access Runtime AgentClientIntegrationDraft := do
  let base ← inspectBase isLegacyCompatibilityPointer
  let file ← read claudeInstructionsPath
  let claudeSkill ← read claudeProjectSkillPath
  let malformed :=
    if (analyzeClaudeBridge file).kind = .conflict then [claudeManagedSectionMalformed] else []
  return ⟨.install, .claude,
    canonicalOperations digest base.canonical canonicalInstructions ++
      projectSkillOperations digest base.projectSkill skill ++
      claudeBridgeOperations digest file ++ claudeSkillOperations digest claudeSkill,
    base.issues ++ malformed ++ claudeSkillPreserved claudeSkill⟩

def planUninstall : Access Runtime AgentClientIntegrationDraft := do
  let base ← inspectBase isLegacyCompatibilityPointer
  let file ← read claudeInstructionsPath
  let claudeSkill ← read claudeProjectSkillPath
  let codexInstructions ← read codexProjectInstructionsPath
  let kind := (analyzeClaudeBridge file).kind
  let sharedRequired := codexInstructions.present || kind = .directImport || kind = .conflict
  let bridgeIssues :=
    match kind with
    | .directImport | .unmanaged =>
      [preservedIssue "claude_instructions_user_owned_preserved" "CLAUDE.md is user-owned and will be preserved"]
    | .conflict => [claudeManagedSectionMalformed]
    | _ => []
  let sharedIssues :=
    if sharedRequired && (isCanonicalManaged base.canonical || isProjectSkillManaged base.projectSkill) then
      [preservedIssue "canonical_instructions_shared_preserved"
        "Shared AI-OFFICE.md guidance and the primary repository skill are still referenced by repository host instructions and will be preserved"]
    else []
  let sharedOperations :=
    if sharedRequired then []
    else deleteIfManaged digest base.projectSkill isProjectSkillManaged
        "Delete the repository-local AI Office skill" ++
      deleteIfManaged digest base.canonical isCanonicalManaged "Delete AI Office-managed project guidance"
  return ⟨.uninstall, .claude,
    deleteIfManaged digest claudeSkill isClaudeSkillManaged "Delete the Claude repository-local AI Office skill" ++
      claudeBridgeRemoval digest file ++ sharedOperations,
    bridgeIssues ++ claudeSkillPreserved claudeSkill ++ sharedIssues⟩

/-- The shared artifacts are not deleted while the instructions of a host still refer to them. -/
def beforeMutation (action : PlanAction) (operation : AgentClientFileOperation) : Access Runtime Unit :=
  if action ≠ .uninstall ∨ operation.result.isSome ∨
      (operation.relativePath ≠ canonicalProjectInstructionsPath ∧
        operation.relativePath ≠ codexProjectSkillPath) then
    pure ()
  else do
    let codexInstructions ← read codexProjectInstructionsPath
    let file ← read claudeInstructionsPath
    match codexInstructions.content, (analyzeClaudeBridge file).kind with
    | none, .absent | none, .unmanaged => pure ()
    | _, _ =>
      throw (integrationError
        "Repository host instructions changed during apply and still require shared AI Office artifacts; removal was stopped")

def apply (draft : AgentClientIntegrationDraft) : Access Runtime Unit :=
  LocalAgentClientFiles.apply digest (beforeMutation draft.action) draft.operations

end ClaudeAgentClientAdapter

end Plans

structure AgentClientFileState where
  relativePath : String
  present : Bool
  ownership : AgentClientFileOwnership
  integrationStatus : IntegrationStatus

def fileState (file : LocalInstructionFile) (ownership : AgentClientFileOwnership)
    (integrationStatus : IntegrationStatus) : AgentClientFileState :=
  ⟨file.relativePath, file.present, ownership, integrationStatus⟩

def managedState (file : LocalInstructionFile) (managed : LocalInstructionFile → Bool)
    (expectedContent : Option Text) : AgentClientFileState :=
  if !file.present then fileState file .absent .missing
  else if managed file then
    fileState file .aiOfficeOwned
      (if expectedContent.all fun expected => equivalentText file.content expected then .integrated else .drifted)
  else fileState file .userOwned .unmanaged

def canonicalState (file : LocalInstructionFile) : AgentClientFileState := managedState file isCanonicalManaged none

def codexPointerState (file : LocalInstructionFile) : AgentClientFileState :=
  if isLegacyCanonicalManaged file then fileState file .aiOfficeOwned .unmanaged
  else managedState file isCodexPointerManaged (some codexManagedFileContent)

/-- Whether a text is the project skill as it is generated for some list of task kinds. -/
abbrev GeneratedSkill := Text → Bool

def projectSkillState (isGenerated : GeneratedSkill) (file : LocalInstructionFile) : AgentClientFileState :=
  if !file.present then fileState file .absent .missing
  else if !isProjectSkillManaged file then fileState file .userOwned .unmanaged
  else fileState file .aiOfficeOwned (if file.content.any isGenerated then .integrated else .drifted)

structure AgentClientInspection where
  canonicalInstructions : AgentClientFileState
  clientInstructions : AgentClientFileState
  sharedSkillInstructions : Option AgentClientFileState
  skillInstructions : AgentClientFileState
  issues : List AgentClientIntegrationIssue

structure AgentClientValidation where
  valid : Bool
  issues : List AgentClientIntegrationIssue

def isUserOwnedCodexHost (file : LocalInstructionFile) : Bool :=
  file.present && !isCodexPointerManaged file && !isLegacyCanonicalManaged file

def validation (issues : List AgentClientIntegrationIssue) : AgentClientValidation :=
  ⟨!issues.any (·.severity = .conflict), issues⟩

section Inspections

variable {Runtime : Type} (digest : Text → Digest) (isLegacyCompatibilityPointer : LegacyPointer)
  (isGenerated : GeneratedSkill)

namespace CodexAgentClientAdapter

def inspect : Access Runtime AgentClientInspection := do
  let base ← inspectBase isLegacyCompatibilityPointer
  let pointer ← read codexProjectInstructionsPath
  let pointerIssues :=
    if !pointer.present then
      [⟨.warning, "codex_pointer_missing", "AGENTS.md does not point Codex to AI-OFFICE.md"⟩]
    else if !isCodexPointerManaged pointer && !isLegacyCanonicalManaged pointer then
      [⟨.warning, "codex_pointer_unmanaged",
        "AGENTS.md is user-owned and will be preserved; add a reference to AI-OFFICE.md manually"⟩]
    else []
  return {
    canonicalInstructions := canonicalState base.canonical
    clientInstructions := codexPointerState pointer
    sharedSkillInstructions := none
    skillInstructions := projectSkillState isGenerated base.projectSkill
    issues := base.issues ++ pointerIssues }

def validate : Access Runtime AgentClientValidation := do
  let inspection ← inspect isLegacyCompatibilityPointer isGenerated
  return validation (inspection.issues ++
    (if !inspection.canonicalInstructions.present then
      [⟨.conflict, "codex_canonical_instructions_unavailable",
        "Codex cannot load project guidance because AI-OFFICE.md is missing"⟩]
    else []) ++
    (if !inspection.clientInstructions.present then
      [⟨.conflict, "codex_pointer_unavailable",
        "Codex cannot discover project guidance because AGENTS.md is missing"⟩]
    else []) ++
    (if !inspection.skillInstructions.present then
      [⟨.conflict, "codex_skill_unavailable", "Codex cannot discover the repository-local AI Office skill"⟩]
    else []))

/-- The shared artifacts are not deleted while AGENTS.md or CLAUDE.md still refers to them. -/
def beforeMutation (action : PlanAction) (operation : AgentClientFileOperation) : Access Runtime Unit :=
  if action ≠ .uninstall ∨ operation.result.isSome ∨
      (operation.relativePath ≠ canonicalProjectInstructionsPath ∧
        operation.relativePath ≠ codexProjectSkillPath) then
    pure ()
  else do
    let file ← read claudeInstructionsPath
    let pointer ← read codexProjectInstructionsPath
    if isUserOwnedCodexHost pointer then
      throw (integrationError
        "AGENTS.md changed during apply and still requires shared AI Office artifacts; removal was stopped")
    else
      match (analyzeClaudeBridge file).kind with
      | .absent | .unmanaged => pure ()
      | _ =>
        throw (integrationError
          "CLAUDE.md changed during apply and still requires shared AI Office artifacts; removal was stopped")

def apply (draft : AgentClientIntegrationDraft) : Access Runtime Unit :=
  LocalAgentClientFiles.apply digest (beforeMutation draft.action) draft.operations

end CodexAgentClientAdapter

namespace ClaudeAgentClientAdapter

def inspect : Access Runtime AgentClientInspection := do
  let base ← inspectBase isLegacyCompatibilityPointer
  let file ← read claudeInstructionsPath
  let claudeSkill ← read claudeProjectSkillPath
  let bridge := analyzeClaudeBridge file
  let skillIssues :=
    if !claudeSkill.present then
      [⟨.warning, "claude_skill_missing", "The Claude repository-local AI Office skill bridge is missing"⟩]
    else if !isClaudeSkillManaged claudeSkill then
      [⟨.warning, "claude_skill_unmanaged", "The Claude ai-office skill is user-owned and will be preserved"⟩]
    else []
  return {
    canonicalInstructions := canonicalState base.canonical
    clientInstructions := fileState file bridge.ownership bridge.integrationStatus
    sharedSkillInstructions := some (projectSkillState isGenerated base.projectSkill)
    skillInstructions := managedState claudeSkill isClaudeSkillManaged (some claudeSkillContent)
    issues := base.issues ++ (if bridge.kind = .conflict then [claudeManagedSectionMalformed] else []) ++ skillIssues }

def validate : Access Runtime AgentClientValidation := do
  let inspection ← inspect isLegacyCompatibilityPointer isGenerated
  return validation (inspection.issues ++
    (if !inspection.canonicalInstructions.present then
      [⟨.conflict, "claude_canonical_instructions_unavailable",
        "Claude cannot import canonical guidance because AI-OFFICE.md is missing"⟩]
    else []) ++
    (if inspection.clientInstructions.integrationStatus ≠ .integrated ∧
        inspection.clientInstructions.integrationStatus ≠ .conflict then
      [⟨.conflict, "claude_bridge_unavailable", "CLAUDE.md does not import AI-OFFICE.md"⟩]
    else []) ++
    (if !inspection.skillInstructions.present then
      [⟨.conflict, "claude_skill_unavailable", "Claude cannot discover its repository-local AI Office skill"⟩]
    else []))

end ClaudeAgentClientAdapter
end Inspections
end AiOffice.AgentClientIntegrations
