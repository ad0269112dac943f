import AiOffice.AgentClientIntegrations.ClaudeBridge

namespace AiOffice.AgentClientIntegrations

open Data Data.Method Domain LocalAgentClientFiles

variable {Runtime : Type} {digest : Text → Digest} {isLegacyCompatibilityPointer : LegacyPointer}
  {session : Session Runtime} {relativePath : String} {content canonicalInstructions skill : Text}
  {operations others : List AgentClientFileOperation} {operation : AgentClientFileOperation}

def Session.file (session : Session Runtime) (relativePath : String) : LocalInstructionFile :=
  ⟨relativePath, session.files relativePath⟩

section PlannedOperations

structure PlannedAt (digest : Text → Digest) (session : Session Runtime) (relativePath : String)
    (operations : List AgentClientFileOperation) : Prop where
  single : operations.length ≤ 1
  path : ∀ operation ∈ operations, operation.relativePath = relativePath
  planned : ∀ operation ∈ operations, Planned digest session operation

theorem PlannedAt.nil : PlannedAt digest session relativePath [] := ⟨Nat.zero_le _, nofun, nofun⟩

theorem PlannedAt.one (path : operation.relativePath = relativePath) (planned : Planned digest session operation) :
    PlannedAt digest session relativePath [operation] :=
  ⟨Nat.le_refl _, List.forall_mem_singleton.mpr path, List.forall_mem_singleton.mpr planned⟩

theorem PlannedAt.ite {condition : Prop} [Decidable condition] (first : PlannedAt digest session relativePath operations)
    (second : PlannedAt digest session relativePath others) :
    PlannedAt digest session relativePath (if condition then operations else others) := by
  split
  · exact first
  · exact second

theorem PlannedAt.filter_self (here : PlannedAt digest session relativePath operations) :
    operations.filter (·.relativePath = relativePath) = operations :=
  List.filter_eq_self.mpr fun operation member => decide_eq_true (here.path operation member)

theorem PlannedAt.filter_other {other : String} (here : PlannedAt digest session relativePath operations)
    (apart : relativePath ≠ other) : operations.filter (·.relativePath = other) = [] := by
  rw [List.filter_eq_nil_iff]
  intro operation member same
  exact apart ((here.path operation member).symm.trans (of_decide_eq_true same))

inductive PlannedFiles (digest : Text → Digest) (session : Session Runtime) :
    List String → List AgentClientFileOperation → Prop
  | nil : PlannedFiles digest session [] []
  | last {path operations} (here : PlannedAt digest session path operations) :
      PlannedFiles digest session [path] operations
  | cons {path operations paths others} (here : PlannedAt digest session path operations)
      (rest : PlannedFiles digest session paths others) :
      PlannedFiles digest session (path :: paths) (operations ++ others)

variable {paths : List String}

theorem PlannedFiles.each (files : PlannedFiles digest session paths operations) :
    ∀ operation ∈ operations, operation.relativePath ∈ paths ∧ Planned digest session operation := by
  induction files with
  | nil => exact nofun
  | last here => exact fun operation member =>
      ⟨List.mem_singleton.mpr (here.path operation member), here.planned operation member⟩
  | cons here _ ih =>
    intro operation member
    rcases List.mem_append.mp member with first | later
    · exact ⟨List.mem_cons.mpr (.inl (here.path operation first)), here.planned operation first⟩
    · exact ⟨List.mem_cons_of_mem _ (ih operation later).1, (ih operation later).2⟩

theorem PlannedAt.nodup (here : PlannedAt digest session relativePath operations) :
    (operations.map AgentClientFileOperation.relativePath).Nodup := by
  match operations, here with
  | [], _ => exact List.nodup_nil
  | [operation], _ => simp
  | _ :: _ :: _, here => exact absurd here.single (by simp)

theorem PlannedFiles.distinct (files : PlannedFiles digest session paths operations) (distinct : paths.Nodup) :
    (operations.map AgentClientFileOperation.relativePath).Nodup := by
  induction files with
  | nil => exact List.nodup_nil
  | last here => exact here.nodup
  | cons here rest ih =>
    rw [List.nodup_cons] at distinct
    rw [List.map_append, List.nodup_append]
    refine ⟨here.nodup, ih distinct.2, ?_⟩
    intro path first other later same
    obtain ⟨operation, member, rfl⟩ := List.mem_map.mp first
    obtain ⟨operation', member', rfl⟩ := List.mem_map.mp later
    rw [here.path operation member] at same
    exact distinct.1 (same ▸ (rest.each operation' member').1)

theorem reconcileManagedFile_planned (nextContent : Text) (managed : LocalInstructionFile → Bool)
    (createSummary updateSummary : String) :
    PlannedAt digest session relativePath
      (reconcileManagedFile digest (session.file relativePath) nextContent managed createSummary updateSummary) := by
  simp only [reconcileManagedFile, Session.file]
  split
  · next absent => exact .one rfl (congrArg (Option.map digest) absent).symm
  · next stored => exact .ite (.one rfl (congrArg (Option.map digest) stored).symm) .nil

theorem reconcileManagedFile_result {file : LocalInstructionFile} {nextContent : Text}
    {managed : LocalInstructionFile → Bool} {createSummary updateSummary : String}
    (member : operation ∈ reconcileManagedFile digest file nextContent managed createSummary updateSummary) :
    operation.result = some nextContent := by
  rw [reconcileManagedFile] at member
  split at member
  · rw [List.mem_singleton.mp member]
    rfl
  · split at member
    · rw [List.mem_singleton.mp member]
      rfl
    · cases member

theorem deleteIfManaged_planned (managed : LocalInstructionFile → Bool) (summary : String) :
    PlannedAt digest session relativePath (deleteIfManaged digest (session.file relativePath) managed summary) := by
  simp only [deleteIfManaged, Session.file]
  split
  · next stored => exact .ite (.one rfl (congrArg (Option.map digest) stored).symm) .nil
  · exact .nil

theorem claudeBridgeOperations_planned :
    PlannedAt digest session relativePath (claudeBridgeOperations digest (session.file relativePath)) := by
  simp only [claudeBridgeOperations]
  split
  · next absent =>
    refine .one rfl ?_
    cases stored : session.files relativePath with
    | none => simp [Planned, stored, AgentClientFileOperation.expectedSha256, Session.file]
    | some content =>
      rw [Session.file, stored] at absent
      simp only [analyzeClaudeBridge] at absent
      split at absent <;> (try split at absent) <;> cases absent
  · next stored => exact .one rfl (congrArg (Option.map digest) stored).symm
  · next stored => exact .ite (.one rfl (congrArg (Option.map digest) stored).symm) .nil
  · exact .nil

theorem claudeBridgeRemoval_planned :
    PlannedAt digest session relativePath (claudeBridgeRemoval digest (session.file relativePath)) := by
  simp only [claudeBridgeRemoval]
  split
  · next stored =>
    exact .ite (.one rfl (congrArg (Option.map digest) stored).symm) (.one rfl (congrArg (Option.map digest) stored).symm)
  · exact .nil

end PlannedOperations

section Planning

open ClaudeAgentClientAdapter

def instructionPaths : List String :=
  [canonicalProjectInstructionsPath, codexProjectSkillPath, legacyInstructionsPath, claudeInstructionsPath,
    claudeProjectSkillPath, codexProjectInstructionsPath]

def Session.Fits (session : Session Runtime) : Prop := ∀ path ∈ instructionPaths, session.Readable path

def installOperations (digest : Text → Digest) (session : Session Runtime) (canonicalInstructions skill : Text) :
    List AgentClientFileOperation :=
  canonicalOperations digest (session.file canonicalProjectInstructionsPath) canonicalInstructions ++
    projectSkillOperations digest (session.file codexProjectSkillPath) skill ++
      claudeBridgeOperations digest (session.file claudeInstructionsPath) ++
        claudeSkillOperations digest (session.file claudeProjectSkillPath)

def sharedRequired (session : Session Runtime) : Bool :=
  (session.file codexProjectInstructionsPath).present ||
    (analyzeClaudeBridge (session.file claudeInstructionsPath)).kind = .directImport ||
    (analyzeClaudeBridge (session.file claudeInstructionsPath)).kind = .conflict

def hostOperations (digest : Text → Digest) (session : Session Runtime) : List AgentClientFileOperation :=
  deleteIfManaged digest (session.file claudeProjectSkillPath) isClaudeSkillManaged
      "Delete the Claude repository-local AI Office skill" ++
    claudeBridgeRemoval digest (session.file claudeInstructionsPath)

def sharedOperations (digest : Text → Digest) (session : Session Runtime) : List AgentClientFileOperation :=
  if sharedRequired session then []
  else deleteIfManaged digest (session.file codexProjectSkillPath) isProjectSkillManaged
      "Delete the repository-local AI Office skill" ++
    deleteIfManaged digest (session.file canonicalProjectInstructionsPath) isCanonicalManaged
      "Delete AI Office-managed project guidance"

variable (quiet : session.moments = [])

include quiet

theorem call_inspectBase (fits : session.Fits) : ∃ issues,
    call (inspectBase isLegacyCompatibilityPointer) session =
      (.ok ⟨session.file canonicalProjectInstructionsPath, session.file codexProjectSkillPath, issues⟩, session) := by
  rw [inspectBase, call_bind_ok (call_read quiet (fits _ (by decide))),
    call_bind_ok (call_read quiet (fits _ (by decide))), call_bind_ok (call_read quiet (fits _ (by decide)))]
  exact ⟨_, rfl⟩

theorem call_plan (fits : session.Fits) : ∃ issues,
    call (plan digest isLegacyCompatibilityPointer canonicalInstructions skill) session =
      (.ok ⟨.install, .claude, installOperations digest session canonicalInstructions skill, issues⟩, session) := by
  obtain ⟨issues, inspected⟩ := @call_inspectBase _ isLegacyCompatibilityPointer _ quiet fits
  rw [plan, call_bind_ok inspected, call_bind_ok (call_read quiet (fits _ (by decide))),
    call_bind_ok (call_read quiet (fits _ (by decide)))]
  exact ⟨_, rfl⟩

theorem call_planUninstall (fits : session.Fits) : ∃ issues,
    call (planUninstall digest isLegacyCompatibilityPointer) session =
      (.ok ⟨.uninstall, .claude, hostOperations digest session ++ sharedOperations digest session, issues⟩, session) := by
  obtain ⟨issues, inspected⟩ := @call_inspectBase _ isLegacyCompatibilityPointer _ quiet fits
  rw [planUninstall, call_bind_ok inspected, call_bind_ok (call_read quiet (fits _ (by decide))),
    call_bind_ok (call_read quiet (fits _ (by decide))), call_bind_ok (call_read quiet (fits _ (by decide)))]
  exact ⟨_, rfl⟩

end Planning

section Applying

open ClaudeAgentClientAdapter

theorem installOperations_planned :
    PlannedFiles digest session
      [canonicalProjectInstructionsPath, codexProjectSkillPath, claudeInstructionsPath, claudeProjectSkillPath]
      (installOperations digest session canonicalInstructions skill) := by
  simp only [installOperations, List.append_assoc]
  apply PlannedFiles.cons (reconcileManagedFile_planned _ _ _ _)
  apply PlannedFiles.cons (reconcileManagedFile_planned _ _ _ _)
  apply PlannedFiles.cons claudeBridgeOperations_planned
  exact .last (reconcileManagedFile_planned _ _ _ _)

theorem hostOperations_planned :
    PlannedFiles digest session [claudeProjectSkillPath, claudeInstructionsPath] (hostOperations digest session) :=
  .cons (deleteIfManaged_planned _ _) (.last claudeBridgeRemoval_planned)

theorem sharedOperations_planned :
    PlannedFiles digest session [codexProjectSkillPath, canonicalProjectInstructionsPath]
      (sharedOperations digest session) := by
  rw [sharedOperations]
  split
  · exact .cons .nil (.last .nil)
  · exact .cons (deleteIfManaged_planned _ _) (.last (deleteIfManaged_planned _ _))

theorem install_unchecked (operation : AgentClientFileOperation) (session : Session Runtime) :
    call (beforeMutation .install operation) session = (.ok (), session) := by
  simp [beforeMutation]

theorem call_apply_install {issues : List AgentClientIntegrationIssue} (quiet : session.moments = [])
    (fits : session.Fits) :
    call (ClaudeAgentClientAdapter.apply digest
        ⟨.install, .claude, installOperations digest session canonicalInstructions skill, issues⟩) session =
      (.ok (), session.perform (installOperations digest session canonicalInstructions skill)) := by
  have planned := @installOperations_planned Runtime digest session canonicalInstructions skill
  have inside : ∀ path ∈ [canonicalProjectInstructionsPath, codexProjectSkillPath, claudeInstructionsPath,
      claudeProjectSkillPath], path ∈ instructionPaths := by decide
  apply call_apply (fun _ => True) quiet (planned.distinct (by decide)) _ (fun operation member => (planned.each operation member).2) trivial
  · exact fun _ _ _ _ => trivial
  · exact fun operation _ session _ _ => install_unchecked operation session
  · exact fun operation member => fits _ (inside _ (planned.each operation member).1)

theorem apply_append {beforeMutation : AgentClientFileOperation → Access Runtime Unit} {middle final : Session Runtime}
    (first : call (LocalAgentClientFiles.apply digest beforeMutation operations) session = (.ok (), middle))
    (second : call (LocalAgentClientFiles.apply digest beforeMutation others) middle = (.ok (), final)) :
    call (LocalAgentClientFiles.apply digest beforeMutation (operations ++ others)) session = (.ok (), final) := by
  induction operations generalizing session with
  | nil =>
    cases first
    exact second
  | cons operation operations ih =>
    obtain ⟨⟨⟩, between, applied, rest⟩ := call_bind_returns first
    rw [List.cons_append, LocalAgentClientFiles.apply, call_bind_ok applied]
    exact ih rest

def Unreferenced (session : Session Runtime) : Prop :=
  session.files codexProjectInstructionsPath = none ∧ session.Readable claudeInstructionsPath ∧
    ((analyzeClaudeBridge (session.file claudeInstructionsPath)).kind = .absent ∨
      (analyzeClaudeBridge (session.file claudeInstructionsPath)).kind = .unmanaged)

theorem Unreferenced.store (unreferenced : Unreferenced session) {result : Option Text}
    (apart : relativePath ≠ codexProjectInstructionsPath ∧ relativePath ≠ claudeInstructionsPath) :
    Unreferenced (session.store relativePath result) := by
  have codex : (session.store relativePath result).files codexProjectInstructionsPath =
      session.files codexProjectInstructionsPath := Function.update_of_ne apart.1.symm _ _
  have claude : (session.store relativePath result).files claudeInstructionsPath =
      session.files claudeInstructionsPath := Function.update_of_ne apart.2.symm _ _
  simp only [Unreferenced, Session.Readable, Session.file, codex, claude] at unreferenced ⊢
  exact unreferenced

theorem uninstall_unreferenced (quiet : session.moments = []) (unreferenced : Unreferenced session) :
    call (beforeMutation .uninstall operation) session = (.ok (), session) := by
  obtain ⟨absent, readable, kind⟩ := unreferenced
  rw [beforeMutation]
  split
  · rfl
  · have none : session.Readable codexProjectInstructionsPath := by
      intro content stored
      rw [absent] at stored
      cases stored
    rw [call_bind_ok (call_read quiet none), call_bind_ok (call_read quiet readable)]
    simp only [absent]
    rcases kind with kind | kind <;> simp only [Session.file] at kind <;> simp only [kind] <;> rfl

theorem host_unchecked {action : PlanAction} (path : operation.relativePath ∈ [claudeProjectSkillPath, claudeInstructionsPath])
    (session : Session Runtime) : call (beforeMutation action operation) session = (.ok (), session) := by
  have apart : ∀ path ∈ [claudeProjectSkillPath, claudeInstructionsPath],
      path ≠ canonicalProjectInstructionsPath ∧ path ≠ codexProjectSkillPath := by decide
  rw [beforeMutation, if_pos (.inr (.inr (apart _ path)))]
  rfl

/-- An uninstallation that nobody disturbs carries its whole plan out, once its first part has left the
host instructions without a reference to the shared artifacts. -/
theorem call_apply_uninstall {issues : List AgentClientIntegrationIssue} (quiet : session.moments = [])
    (fits : session.Fits)
    (unreferenced : sharedOperations digest session ≠ [] →
      Unreferenced (session.perform (hostOperations digest session))) :
    call (ClaudeAgentClientAdapter.apply digest
        ⟨.uninstall, .claude, hostOperations digest session ++ sharedOperations digest session, issues⟩) session =
      (.ok (), (session.perform (hostOperations digest session)).perform (sharedOperations digest session)) := by
  have hosts := @hostOperations_planned Runtime digest session
  have shared := @sharedOperations_planned Runtime digest session
  have inside : ∀ path ∈ [claudeProjectSkillPath, claudeInstructionsPath, codexProjectSkillPath,
      canonicalProjectInstructionsPath], path ∈ instructionPaths := by decide
  have apart : ∀ path ∈ [codexProjectSkillPath, canonicalProjectInstructionsPath],
      path ∉ [claudeProjectSkillPath, claudeInstructionsPath] ∧ path ≠ codexProjectInstructionsPath := by decide
  have first : call (LocalAgentClientFiles.apply digest (beforeMutation .uninstall) (hostOperations digest session)) session =
      (.ok (), session.perform (hostOperations digest session)) := by
    apply call_apply (fun _ => True) quiet (hosts.distinct (by decide)) _ (fun operation member => (hosts.each operation member).2) trivial
    · exact fun _ _ _ _ => trivial
    · exact fun operation member session _ _ => host_unchecked (hosts.each operation member).1 session
    · intro operation member
      have path := (hosts.each operation member).1
      exact fits _ (inside _ (by simp only [List.mem_cons, List.not_mem_nil, or_false] at path ⊢; tauto))
  have unchanged (operation) (member : operation ∈ sharedOperations digest session) :
      (session.perform (hostOperations digest session)).files operation.relativePath =
        session.files operation.relativePath := by
    apply Session.perform_other
    intro host here same
    exact (apart _ (shared.each operation member).1).1 (same ▸ (hosts.each host here).1)
  apply apply_append first
  by_cases some : sharedOperations digest session = []
  · rw [some]
    rfl
  · apply call_apply Unreferenced (by rw [Session.perform_moments]; exact quiet) (shared.distinct (by decide)) _ _
      (unreferenced some)
    · intro operation member session relied
      have path := apart _ (shared.each operation member).1
      exact relied.store ⟨path.2, fun same => path.1 (by rw [same]; decide)⟩
    · exact fun operation _ session quiet relied => uninstall_unreferenced quiet relied
    · intro operation member content stored
      rw [unchanged operation member] at stored
      have path := (shared.each operation member).1
      exact fits _ (inside _ (by simp only [List.mem_cons, List.not_mem_nil, or_false] at path ⊢; tauto)) content stored
    · intro operation member
      rw [Planned, unchanged operation member]
      exact (shared.each operation member).2

end Applying

section RoundTrip

variable (digest isLegacyCompatibilityPointer canonicalInstructions skill)

/-- The plans of an installation and of an uninstallation, each made and applied. -/
def installAndUninstall : Access Runtime Unit := do
  let installation ← ClaudeAgentClientAdapter.plan digest isLegacyCompatibilityPointer canonicalInstructions skill
  ClaudeAgentClientAdapter.apply digest installation
  let removal ← ClaudeAgentClientAdapter.planUninstall digest isLegacyCompatibilityPointer
  ClaudeAgentClientAdapter.apply digest removal

/-- Both plans are applied, and the file is there with the user's text up to white space at its end. -/
def GivesBack (session : Session Runtime) (content : Text) : Prop :=
  ∃ after text, call (installAndUninstall digest isLegacyCompatibilityPointer canonicalInstructions skill) session =
      (.ok (), after) ∧
    after.files claudeInstructionsPath = some text ∧ trimEnd text = trimEnd content

/-- Outside a single well-formed block that is not AI Office's own, an uninstallation plans to keep the
whole text, less at most one line end on each side of the block. -/
def KeepsOutside (session : Session Runtime) (content : Text) : Prop :=
  ∀ draft after, call (ClaudeAgentClientAdapter.planUninstall digest isLegacyCompatibilityPointer) session =
      (.ok draft, after) →
    ∀ before managed behind, SingleBlock content before managed behind → ¬OfficeOwn before behind →
      ∃ text, RemovesOnly before behind text ∧
        ∀ operation ∈ draft.operations, operation.relativePath = claudeInstructionsPath → operation.result = some text

variable {digest isLegacyCompatibilityPointer canonicalInstructions skill}

theorem bridgeOperations_free (free : MarkerFree content) :
    claudeBridgeOperations digest ⟨relativePath, some content⟩ =
      if importsDirectly true content then []
      else [⟨relativePath, .update (digest content) (withClaudeManagedBlock content), .merged,
        "Append an AI Office-managed project guidance bridge"⟩] := by
  simp only [claudeBridgeOperations, analyze_free free]
  cases importsDirectly true content <;> rfl

theorem install_filter :
    (installOperations digest session canonicalInstructions skill).filter (·.relativePath = claudeInstructionsPath) =
      claudeBridgeOperations digest (session.file claudeInstructionsPath) := by
  have canonical : PlannedAt digest session canonicalProjectInstructionsPath
      (canonicalOperations digest (session.file canonicalProjectInstructionsPath) canonicalInstructions) :=
    reconcileManagedFile_planned _ _ _ _
  have project : PlannedAt digest session codexProjectSkillPath
      (projectSkillOperations digest (session.file codexProjectSkillPath) skill) :=
    reconcileManagedFile_planned _ _ _ _
  have claude : PlannedAt digest session claudeProjectSkillPath
      (claudeSkillOperations digest (session.file claudeProjectSkillPath)) :=
    reconcileManagedFile_planned _ _ _ _
  rw [installOperations, List.filter_append, List.filter_append, List.filter_append, canonical.filter_other (by decide),
    project.filter_other (by decide), claude.filter_other (by decide), claudeBridgeOperations_planned.filter_self]
  simp

theorem host_filter :
    (hostOperations digest session).filter (·.relativePath = claudeInstructionsPath) =
      claudeBridgeRemoval digest (session.file claudeInstructionsPath) := by
  rw [hostOperations, List.filter_append, (deleteIfManaged_planned _ _).filter_other (by decide),
    claudeBridgeRemoval_planned.filter_self]
  rfl

theorem shared_filter :
    (sharedOperations digest session).filter (·.relativePath = claudeInstructionsPath) = [] := by
  rw [List.filter_eq_nil_iff]
  intro operation member same
  have path := (sharedOperations_planned.each operation member).1
  rw [of_decide_eq_true same] at path
  exact absurd path (by decide)

theorem installed_file (stored : session.files claudeInstructionsPath = some content) (free : MarkerFree content) :
    (session.perform (installOperations digest session canonicalInstructions skill)).files claudeInstructionsPath =
      some (if importsDirectly true content then content else withClaudeManagedBlock content) := by
  rw [Session.perform_files, install_filter, Session.file, stored, bridgeOperations_free free]
  split <;> rfl

theorem uninstalled_file :
    ((session.perform (hostOperations digest session)).perform (sharedOperations digest session)).files
        claudeInstructionsPath =
      (claudeBridgeRemoval digest (session.file claudeInstructionsPath)).foldl (fun _ operation => operation.result)
        (session.files claudeInstructionsPath) := by
  rw [Session.perform_files, shared_filter, List.foldl_nil, Session.perform_files, host_filter]

theorem removal_free (free : MarkerFree content) :
    claudeBridgeRemoval digest ⟨relativePath, some content⟩ = [] := by
  simp only [claudeBridgeRemoval, analyze_free free]
  cases importsDirectly true content <;> rfl

theorem removal_block {before managed behind : Text} (block : SingleBlock content before managed behind) :
    claudeBridgeRemoval digest ⟨relativePath, some content⟩ =
      if Owned content managed then
        [⟨relativePath, .delete (digest content), .absent, "Delete the AI Office-owned Claude instruction bridge"⟩]
      else
        [⟨relativePath, .update (digest content)
          (withoutClaudeManagedBlock content before.length (before.length + managed.length)), .userOwned,
          "Remove only the AI Office-managed bridge from CLAUDE.md"⟩] := by
  simp only [claudeBridgeRemoval, analyze_block block]
  by_cases owned : Owned content managed <;> simp [owned]

theorem removal_installed (free : MarkerFree content) :
    (claudeBridgeRemoval digest ⟨relativePath, some (withClaudeManagedBlock content)⟩).foldl
        (fun _ operation => operation.result) (some (withClaudeManagedBlock content)) =
      if HasOwnText content then some (trimEnd content ++ ['\n']) else none := by
  rw [removal_block (installed_block free), without_installed]
  by_cases own : HasOwnText content
  · rw [if_neg (fun owned => (owned_installed free).mp owned own), if_pos own]
    rfl
  · rw [if_pos ((owned_installed free).mpr own), if_neg own]
    rfl

theorem byteSize_append (first second : Text) : byteSize (first ++ second) = byteSize first + byteSize second := by
  simp [byteSize]

theorem restored_smaller (content : Text) :
    byteSize (trimEnd content ++ ['\n']) ≤ byteSize (withClaudeManagedBlock content) := by
  have whole : withClaudeManagedBlock content =
      (trimEnd content ++ ['\n']) ++ ('\n' :: claudeManagedBlock ++ ['\n']) := by
    simp [withClaudeManagedBlock]
  rw [whole, byteSize_append (trimEnd content ++ ['\n'])]
  exact Nat.le_add_right _ _

-- The characters of a literal are given by unification; to decode its bytes takes long.
theorem byteSize_literal {chars : List Char} {bound : Nat} (small : byteSize chars ≤ bound) :
    byteSize (String.ofList chars).toList ≤ bound := by
  rwa [String.toList_ofList]

set_option maxRecDepth 4000 in
theorem claudeSkillContent_small : byteSize claudeSkillContent ≤ maximumInstructionBytes := by
  have parts : byteSize claudeSkillContent ≤ 1000 + 1000 + 1000 := by
    unfold claudeSkillContent
    rewrite [byteSize_append, byteSize_append]
    exact Nat.add_le_add (Nat.add_le_add (byteSize_literal (by decide +kernel)) (byteSize_literal (by decide +kernel)))
      (byteSize_literal (by decide +kernel))
  exact parts.trans (by decide)

/-- The files that an installation leaves can be read if they could be before and what it writes is small. -/
theorem installed_fits (fits : session.Fits) (canonicalSmall : byteSize canonicalInstructions ≤ maximumInstructionBytes)
    (skillSmall : byteSize skill ≤ maximumInstructionBytes) {path : String} (member : path ∈ instructionPaths)
    (other : path ≠ claudeInstructionsPath) :
    (session.perform (installOperations digest session canonicalInstructions skill)).Readable path := by
  have written (operation) (member : operation ∈ installOperations digest session canonicalInstructions skill)
      (here : operation.relativePath = path) (content) (result : operation.result = some content) :
      byteSize content ≤ maximumInstructionBytes := by
    simp only [installOperations, List.mem_append] at member
    rcases member with ((canonical | project) | bridge) | claude
    · have same : operation.result = some canonicalInstructions := reconcileManagedFile_result canonical
      exact Option.some.inj (same.symm.trans result) ▸ canonicalSmall
    · have same : operation.result = some skill := reconcileManagedFile_result project
      exact Option.some.inj (same.symm.trans result) ▸ skillSmall
    · exact absurd (here.symm.trans (claudeBridgeOperations_planned.path operation bridge)) other
    · have same : operation.result = some claudeSkillContent := reconcileManagedFile_result claude
      exact Option.some.inj (same.symm.trans result) ▸ claudeSkillContent_small
  intro content stored
  rw [Session.perform_files] at stored
  cases last : (List.filter (·.relativePath = path)
      (installOperations digest session canonicalInstructions skill)).getLast? with
  | none =>
    rw [List.getLast?_eq_none_iff.mp last] at stored
    exact fits path member content stored
  | some operation =>
    obtain ⟨earlier, whole⟩ := List.getLast?_eq_some_iff.mp last
    rw [whole, List.foldl_append] at stored
    have inside : operation ∈ List.filter (·.relativePath = path)
        (installOperations digest session canonicalInstructions skill) := by
      rw [whole]
      simp
    obtain ⟨inOperations, here⟩ := List.mem_filter.mp inside
    exact written operation inOperations (of_decide_eq_true here) content stored

section Uninstallation

variable (free : MarkerFree content)
  (installed : session.files claudeInstructionsPath =
    some (if importsDirectly true content then content else withClaudeManagedBlock content))

include free installed

theorem removal_result :
    (claudeBridgeRemoval digest (session.file claudeInstructionsPath)).foldl (fun _ operation => operation.result)
        (session.files claudeInstructionsPath) =
      if importsDirectly true content then some content
      else if HasOwnText content then some (trimEnd content ++ ['\n']) else none := by
  rw [Session.file, installed]
  by_cases imports : importsDirectly true content = true
  · rw [if_pos imports, if_pos imports, removal_free free]
    rfl
  · rw [if_neg imports, if_neg imports]
    exact removal_installed free

/-- The first part of the uninstallation leaves no reference to the shared artifacts that the second part deletes. -/
theorem removal_unreferenced (readable : session.Readable claudeInstructionsPath)
    (shared : sharedOperations digest session ≠ []) :
    Unreferenced (session.perform (hostOperations digest session)) := by
  have notRequired : ¬sharedRequired session = true := by
    intro required
    rw [sharedOperations, if_pos required] at shared
    exact shared rfl
  simp only [sharedRequired, Bool.or_eq_true, decide_eq_true_eq, not_or] at notRequired
  obtain ⟨⟨codex, notImport⟩, -⟩ := notRequired
  have notImports : ¬importsDirectly true content = true := by
    intro imports
    rw [Session.file, installed, if_pos imports, analyze_free free, if_pos imports] at notImport
    exact notImport rfl
  have file : (session.perform (hostOperations digest session)).files claudeInstructionsPath =
      if HasOwnText content then some (trimEnd content ++ ['\n']) else none := by
    rw [Session.perform_files, host_filter, removal_result free installed, if_neg notImports]
  have absent : (session.perform (hostOperations digest session)).files codexProjectInstructionsPath = none := by
    rw [Session.perform_other]
    · simpa [LocalInstructionFile.present, Session.file] using codex
    · intro operation member same
      have path := (hostOperations_planned.each operation member).1
      rw [same] at path
      exact absurd path (by decide)
  refine ⟨absent, ?_, ?_⟩
  · intro text stored
    rw [file] at stored
    split at stored
    · cases stored
      have large := readable (withClaudeManagedBlock content) (by rw [installed, if_neg notImports])
      exact (restored_smaller content).trans large
    · cases stored
  · rw [Session.file, file]
    split
    · exact .inr (analyze_restored free (Bool.eq_false_iff.mpr notImports) _)
    · exact .inl rfl

end Uninstallation

section Run

variable (quiet : session.moments = []) (stored : session.files claudeInstructionsPath = some content)
  (free : MarkerFree content) (fits : session.Fits)
  (canonicalSmall : byteSize canonicalInstructions ≤ maximumInstructionBytes)
  (skillSmall : byteSize skill ≤ maximumInstructionBytes)

include quiet stored free fits canonicalSmall skillSmall

/-- The installation is carried out, and the uninstallation starts from what it leaves. -/
theorem call_installed : ∃ middle : Session Runtime,
    call (installAndUninstall digest isLegacyCompatibilityPointer canonicalInstructions skill) session =
        call (ClaudeAgentClientAdapter.planUninstall digest isLegacyCompatibilityPointer >>=
          ClaudeAgentClientAdapter.apply digest) middle ∧
      middle.moments = [] ∧
      middle.files claudeInstructionsPath =
        some (if importsDirectly true content then content else withClaudeManagedBlock content) ∧
      ∀ path ∈ instructionPaths, path ≠ claudeInstructionsPath → middle.Readable path := by
  obtain ⟨issues, planned⟩ := @call_plan _ digest isLegacyCompatibilityPointer _ canonicalInstructions skill quiet fits
  refine ⟨session.perform (installOperations digest session canonicalInstructions skill), ?_, ?_, installed_file stored free,
    fun path => installed_fits fits canonicalSmall skillSmall⟩
  · rw [installAndUninstall, call_bind_ok planned, call_bind_ok (call_apply_install quiet fits)]
  · rw [Session.perform_moments]
    exact quiet

/-- The whole run, when the file with the block can be read back. -/
theorem call_installAndUninstall
    (small : importsDirectly true content = true ∨
      byteSize (withClaudeManagedBlock content) ≤ maximumInstructionBytes) :
    ∃ after, call (installAndUninstall digest isLegacyCompatibilityPointer canonicalInstructions skill) session =
        (.ok (), after) ∧
      after.files claudeInstructionsPath =
        if importsDirectly true content then some content
        else if HasOwnText content then some (trimEnd content ++ ['\n']) else none := by
  obtain ⟨middle, ran, quiet', installed, others⟩ := @call_installed _ digest isLegacyCompatibilityPointer _ _ _ _
    quiet stored free fits canonicalSmall skillSmall
  have readable : middle.Readable claudeInstructionsPath := by
    intro text there
    rw [installed] at there
    by_cases imports : importsDirectly true content = true
    · rw [if_pos imports] at there
      exact Option.some.inj there ▸ fits _ (by decide) content stored
    · rw [if_neg imports] at there
      exact Option.some.inj there ▸ small.resolve_left imports
  have fits' : middle.Fits := by
    intro path member
    by_cases here : path = claudeInstructionsPath
    · rw [here]
      exact readable
    · exact others path member here
  obtain ⟨issues, removal⟩ := @call_planUninstall _ digest isLegacyCompatibilityPointer _ quiet' fits'
  have file := (@uninstalled_file _ digest middle).trans (removal_result free installed)
  refine ⟨_, ?_, file⟩
  rw [ran, call_bind_ok removal]
  exact call_apply_uninstall quiet' fits' (removal_unreferenced free installed readable)

/-- The uninstallation cannot be planned when the file with the block has become too large to be read. -/
theorem installAndUninstall_large (notImports : ¬importsDirectly true content = true)
    (large : maximumInstructionBytes < byteSize (withClaudeManagedBlock content)) :
    ∃ thrown after, call (installAndUninstall digest isLegacyCompatibilityPointer canonicalInstructions skill) session =
        (.error thrown, after) ∧
      after.files claudeInstructionsPath = some (withClaudeManagedBlock content) := by
  obtain ⟨middle, ran, quiet', installed, others⟩ := @call_installed _ digest isLegacyCompatibilityPointer _ _ _ _
    quiet stored free fits canonicalSmall skillSmall
  rw [if_neg notImports] at installed
  obtain ⟨thrown, unread⟩ := call_read_large quiet' installed large
  have inspected : ∃ base, call (inspectBase isLegacyCompatibilityPointer) middle = (.ok base, middle) := by
    rw [inspectBase, call_bind_ok (call_read quiet' (others _ (by decide) (by decide))),
      call_bind_ok (call_read quiet' (others _ (by decide) (by decide))),
      call_bind_ok (call_read quiet' (others _ (by decide) (by decide)))]
    exact ⟨_, rfl⟩
  obtain ⟨base, inspected⟩ := inspected
  refine ⟨thrown, middle, ?_, installed⟩
  rw [ran]
  apply call_bind_error
  rw [ClaudeAgentClientAdapter.planUninstall, call_bind_ok inspected]
  exact call_bind_error unread

end Run

theorem inspectBase_found {base : BaseInspection} {after : Session Runtime} (quiet : session.moments = [])
    (inspected : call (inspectBase isLegacyCompatibilityPointer) session = (.ok base, after)) :
    after = session ∧ base.canonical = session.file canonicalProjectInstructionsPath ∧
      base.projectSkill = session.file codexProjectSkillPath := by
  rw [inspectBase] at inspected
  obtain ⟨canonical, first, readCanonical, inspected⟩ := call_bind_returns inspected
  obtain ⟨rfl, rfl⟩ := read_found quiet readCanonical
  obtain ⟨project, second, readProject, inspected⟩ := call_bind_returns inspected
  obtain ⟨rfl, rfl⟩ := read_found quiet readProject
  obtain ⟨legacy, third, readLegacy, inspected⟩ := call_bind_returns inspected
  obtain ⟨rfl, rfl⟩ := read_found quiet readLegacy
  cases inspected
  exact ⟨rfl, rfl, rfl⟩

theorem planUninstall_bridge {draft : AgentClientIntegrationDraft} {after : Session Runtime} (quiet : session.moments = [])
    (planned : call (ClaudeAgentClientAdapter.planUninstall digest isLegacyCompatibilityPointer) session = (.ok draft, after)) :
    draft.operations.filter (·.relativePath = claudeInstructionsPath) =
      claudeBridgeRemoval digest (session.file claudeInstructionsPath) := by
  rw [ClaudeAgentClientAdapter.planUninstall] at planned
  obtain ⟨base, _, inspected, afterBase⟩ := call_bind_returns planned
  obtain ⟨rfl, canonical, project⟩ := inspectBase_found quiet inspected
  obtain ⟨file, _, readFile, afterFile⟩ := call_bind_returns afterBase
  obtain ⟨rfl, rfl⟩ := read_found quiet readFile
  obtain ⟨claudeSkill, _, readSkill, afterSkill⟩ := call_bind_returns afterFile
  obtain ⟨rfl, rfl⟩ := read_found quiet readSkill
  obtain ⟨codex, _, readCodex, afterCodex⟩ := call_bind_returns afterSkill
  obtain ⟨rfl, rfl⟩ := read_found quiet readCodex
  cases afterCodex
  have hosts := @host_filter _ digest after
  have shared := @shared_filter _ digest after
  simp only [canonical, project]
  change List.filter _ (hostOperations digest after ++ sharedOperations digest after) = _
  rw [List.filter_append, hosts, shared, List.append_nil]

theorem keepsOutside (quiet : session.moments = []) (stored : session.files claudeInstructionsPath = some content) :
    KeepsOutside digest isLegacyCompatibilityPointer session content := by
  intro draft after planned before managed behind block foreign
  have notOwned : ¬Owned content managed := foreign ∘ officeOwn_of_owned block
  have bridge := planUninstall_bridge quiet planned
  rw [Session.file, stored, removal_block block, if_neg notOwned] at bridge
  have front : content.take before.length = before := by
    rw [block.whole, List.append_assoc, List.take_left]
  have back : content.drop (before.length + managed.length) = behind := by
    rw [block.whole, ← List.length_append, List.drop_left]
  have removed := withoutClaudeManagedBlock_removesOnly content before.length (before.length + managed.length)
  rw [front, back] at removed
  refine ⟨_, removed, ?_⟩
  intro operation member here
  have inside : operation ∈ draft.operations.filter (·.relativePath = claudeInstructionsPath) :=
    List.mem_filter.mpr ⟨member, decide_eq_true here⟩
  rw [bridge, List.mem_singleton] at inside
  rw [inside]
  rfl

/-- Installing and uninstalling the bridge gives a file back exactly when the user has a text of their own
in it, and the file with the block can still be read. An uninstallation keeps everything outside a block. -/
theorem bridge_gives_back_iff (quiet : session.moments = [])
    (stored : session.files claudeInstructionsPath = some content) (free : MarkerFree content) (fits : session.Fits)
    (canonicalSmall : byteSize canonicalInstructions ≤ maximumInstructionBytes)
    (skillSmall : byteSize skill ≤ maximumInstructionBytes) :
    (GivesBack digest isLegacyCompatibilityPointer canonicalInstructions skill session content ↔
      HasOwnText content ∧ (importsDirectly true content = true ∨
        byteSize (withClaudeManagedBlock content) ≤ maximumInstructionBytes)) ∧
    ∀ (other : Session Runtime) (text : Text), other.moments = [] → other.files claudeInstructionsPath = some text →
      KeepsOutside digest isLegacyCompatibilityPointer other text := by
  refine ⟨?_, fun other text quiet stored => keepsOutside quiet stored⟩
  by_cases small : importsDirectly true content = true ∨
      byteSize (withClaudeManagedBlock content) ≤ maximumInstructionBytes
  · rw [and_iff_left small]
    obtain ⟨after, ran, file⟩ := @call_installAndUninstall _ digest isLegacyCompatibilityPointer _ _ _ _
      quiet stored free fits canonicalSmall skillSmall small
    by_cases imports : importsDirectly true content = true
    · rw [if_pos imports] at file
      exact iff_of_true ⟨after, content, ran, file, rfl⟩ (hasOwnText_of_imports imports)
    · rw [if_neg imports] at file
      constructor
      · rintro ⟨after', text, ran', file', -⟩
        rw [ran] at ran'
        cases ran'
        by_contra foreign
        rw [if_neg foreign, file'] at file
        cases file
      · intro own
        rw [if_pos own] at file
        have same : trimEnd (trimEnd content ++ ['\n']) = trimEnd content := by
          rw [trimEnd_append (trimEnd_dark content)]
          exact List.append_nil _
        exact ⟨after, _, ran, file, same⟩
  · rw [not_or, Nat.not_le] at small
    obtain ⟨thrown, after, ran, -⟩ := @installAndUninstall_large _ digest isLegacyCompatibilityPointer _ _ _ _
      quiet stored free fits canonicalSmall skillSmall small.1 small.2
    constructor
    · rintro ⟨after', text, ran', -⟩
      rw [ran] at ran'
      cases ran'
    · rintro ⟨-, imports | fit⟩
      · exact absurd imports small.1
      · exact absurd fit (Nat.not_le.mpr small.2)

def checkoutWith (content : Text) : Session Unit :=
  ⟨⟨fun path => if path = claudeInstructionsPath then some content else none, ()⟩, [], []⟩

theorem checkoutWith_fits {content : Text} (small : byteSize content ≤ maximumInstructionBytes) :
    (checkoutWith content).Fits := by
  intro path _ text stored
  simp only [checkoutWith, Session.files] at stored
  split at stored
  · exact Option.some.inj stored ▸ small
  · cases stored

def notes : Text := "# Notes\r\nUse tabs.\r\n".toList

set_option maxRecDepth 4000 in
theorem bridge_gives_back_iff_notes :
    HasOwnText notes ∧ MarkerFree notes ∧
      GivesBack String.ofList (fun _ => true) managedProjectInstructionsHeader [] (checkoutWith notes) notes := by
  have own : HasOwnText notes := by decide
  have free : MarkerFree notes := by
    simp only [MarkerFree, ← occurrences_eq_nil (show claudeManagedStart ≠ [] by decide),
      ← occurrences_eq_nil (show claudeManagedEnd ≠ [] by decide)]
    decide
  have small : byteSize (withClaudeManagedBlock notes) ≤ maximumInstructionBytes := by decide
  refine ⟨own, free, ?_⟩
  exact (bridge_gives_back_iff rfl rfl free (checkoutWith_fits (by decide)) (by decide) (by decide)).1.mpr
    ⟨own, .inr small⟩

set_option maxRecDepth 4000 in
/-- A user's file that holds only the heading that AI Office generates as well is deleted. -/
theorem heading_deleted :
    MarkerFree (claudeCompatibilityHeading ++ ['\n']) ∧
      ∃ after, call (installAndUninstall String.ofList (fun _ => true) managedProjectInstructionsHeader [])
          (checkoutWith (claudeCompatibilityHeading ++ ['\n'])) = (.ok (), after) ∧
        after.files claudeInstructionsPath = none := by
  have free : MarkerFree (claudeCompatibilityHeading ++ ['\n']) := by
    simp only [MarkerFree, ← occurrences_eq_nil (show claudeManagedStart ≠ [] by decide),
      ← occurrences_eq_nil (show claudeManagedEnd ≠ [] by decide)]
    decide
  have small : byteSize (withClaudeManagedBlock (claudeCompatibilityHeading ++ ['\n'])) ≤ maximumInstructionBytes := by
    decide
  have foreign : ¬HasOwnText (claudeCompatibilityHeading ++ ['\n']) := by decide
  have plain : ¬importsDirectly true (claudeCompatibilityHeading ++ ['\n']) = true := by decide
  obtain ⟨after, ran, file⟩ := @call_installAndUninstall Unit String.ofList (fun _ => true)
    (checkoutWith (claudeCompatibilityHeading ++ ['\n'])) _ managedProjectInstructionsHeader [] rfl rfl free
    (checkoutWith_fits (by decide)) (by decide) (by decide) (.inr small)
  rw [if_neg plain, if_neg foreign] at file
  exact ⟨free, after, ran, file⟩

end RoundTrip
end AiOffice.AgentClientIntegrations
