import AiOffice.Application.ProjectLifecycle.Install

namespace AiOffice.Application.ProjectLifecycle

open Data Data.Method Domain AgentClientIntegrations

def Ordinary (thrown : Thrown) : Prop := thrown.name ≠ .projectSourceAssociationError

section Makes

variable {Runtime Result Next : Type}

def OrdinaryFaults (session : Session Runtime) : Prop :=
  ∀ moment ∈ session.moments, ∀ thrown, moment.fault = some thrown → Ordinary thrown

structure Makes (method : Access Runtime Result) (returns : Result → List Change → Prop)
    (throws : Thrown → List Change → Prop) : Prop where
  run (changes : List Change) : Triple (fun session => OrdinaryFaults session ∧ session.changes = changes) method
      (fun result session => OrdinaryFaults session ∧ ∃ made, session.changes = changes ++ made ∧ returns result made)
      (fun thrown session => ∃ made, session.changes = changes ++ made ∧ throws thrown made)

def Reads (method : Access Runtime Result) (finds : Result → Prop) : Prop :=
  Makes method (fun result made => finds result ∧ made = []) (fun thrown made => Ordinary thrown ∧ made = [])

def Writes (method : Access Runtime Result) (written : List Change) : Prop :=
  Makes method (fun _ made => made = written) (fun thrown _ => Ordinary thrown)

variable {method : Access Runtime Result} {returns weaker : Result → List Change → Prop}
  {throws weakerThrows : Thrown → List Change → Prop} {finds : Result → Prop}

theorem Makes.pure {result : Result} (holds : returns result []) : Makes (Pure.pure result : Access Runtime Result) returns throws :=
  ⟨fun _ => .pure fun _ sound => ⟨sound.1, [], by rw [List.append_nil]; exact sound.2, holds⟩⟩

theorem Makes.throw {thrown : Thrown} (holds : throws thrown []) :
    Makes (MonadExcept.throw thrown : Access Runtime Result) returns throws :=
  ⟨fun _ => .throw fun _ sound => ⟨[], by rw [List.append_nil]; exact sound.2, holds⟩⟩

theorem Makes.weaken (makes : Makes method returns throws) (ends : ∀ result made, returns result made → weaker result made)
    (fails : ∀ thrown made, throws thrown made → weakerThrows thrown made) : Makes method weaker weakerThrows := by
  constructor
  intro changes
  apply (makes.run changes).weaken (fun _ sound => sound)
  · rintro result session ⟨faults, made, same, holds⟩
    exact ⟨faults, made, same, ends result made holds⟩
  · rintro thrown session ⟨made, same, holds⟩
    exact ⟨made, same, fails thrown made holds⟩

theorem Makes.bind {next : Result → Access Runtime Next} {returns : Next → List Change → Prop}
    {between : Result → List Change → Prop} (first : Makes method between throws)
    (rest : ∀ result made, between result made → Makes (next result) (fun answer later => returns answer (made ++ later))
      (fun thrown later => throws thrown (made ++ later))) : Makes (method >>= next) returns throws := by
  constructor
  intro changes
  apply (first.run changes).bind
  rintro result session ⟨faults, made, same, holds⟩
  have later := (rest result made holds).run session.changes session ⟨faults, rfl⟩
  simp only [same, List.append_assoc] at later
  split at later
  · obtain ⟨sound, more, all, achieved⟩ := later
    exact ⟨sound, made ++ more, all, achieved⟩
  · obtain ⟨more, all, achieved⟩ := later
    exact ⟨made ++ more, all, achieved⟩

theorem Reads.bind {next : Result → Access Runtime Next} {returns : Next → List Change → Prop}
    (first : Reads method finds) (fails : ∀ thrown, Ordinary thrown → throws thrown [])
    (rest : ∀ result, finds result → Makes (next result) returns throws) : Makes (method >>= next) returns throws := by
  have weak : Makes method (fun result made => finds result ∧ made = []) throws :=
    first.weaken (fun _ _ holds => holds) fun | thrown, _, ⟨ordinary, rfl⟩ => fails thrown ordinary
  apply weak.bind
  rintro result _ ⟨found, rfl⟩
  exact rest result found

theorem Makes.get_bind {next : Session Runtime → Access Runtime Result}
    (rest : ∀ session, Makes (next session) returns throws) : Makes (get >>= next) returns throws :=
  ⟨fun changes => .get_bind fun session sound => ((rest session).run changes).startingAt sound⟩

theorem Reads.pure {result : Result} (found : finds result) : Reads (Pure.pure result : Access Runtime Result) finds :=
  Makes.pure ⟨found, rfl⟩

theorem Reads.throw {thrown : Thrown} (ordinary : Ordinary thrown) :
    Reads (MonadExcept.throw thrown : Access Runtime Result) finds :=
  Makes.throw ⟨ordinary, rfl⟩

theorem Reads.andThen {next : Result → Access Runtime Next} {answers : Next → Prop} (first : Reads method finds)
    (rest : ∀ result, finds result → Reads (next result) answers) : Reads (method >>= next) answers :=
  first.bind (fun _ ordinary => ⟨ordinary, rfl⟩) rest

theorem Reads.get_bind {next : Session Runtime → Access Runtime Result} (rest : ∀ session, Reads (next session) finds) :
    Reads (get >>= next) finds :=
  Makes.get_bind rest

theorem Reads.mapM {Item : Type} {read : Item → Access Runtime Result} (each : ∀ item, Reads (read item) fun _ => True)
    (items : List Item) : Reads (items.mapM read) fun _ => True := by
  induction items with
  | nil => exact .pure trivial
  | cons item items ih =>
    rw [List.mapM_cons]
    exact (each item).andThen fun _ _ => ih.andThen fun _ _ => .pure trivial

theorem reads_access : Reads (access : Access Runtime Unit) fun _ => True := by
  constructor
  intro changes session sound
  obtain ⟨faults, same⟩ := sound
  rw [access, call_bind_ok (call_get session)]
  cases upcoming : session.moments with
  | nil => exact ⟨faults, [], by rw [List.append_nil]; exact same, trivial, rfl⟩
  | cons moment later =>
    have sound : OrdinaryFaults (session.pass moment later) :=
      fun other member => faults other (upcoming ▸ List.mem_cons_of_mem _ member)
    rw [call_bind_ok (call_modify _ _)]
    cases fault : moment.fault with
    | none => exact ⟨sound, [], by rw [List.append_nil]; exact same, trivial, rfl⟩
    | some thrown =>
      have member : moment ∈ session.moments := upcoming ▸ List.mem_cons_self
      exact ⟨[], by rw [List.append_nil]; exact same, faults moment member thrown fault, rfl⟩

theorem writes_store (relativePath : String) (content : Option Text) :
    Writes (modify fun session => session.store relativePath content : Access Runtime PUnit) [.file relativePath] :=
  ⟨fun _ => .modify fun session sound => ⟨sound.1, [.file relativePath], by rw [Session.store_changes, sound.2], rfl⟩⟩

theorem Reads.thenWrites {next : Result → Access Runtime Next} {written : List Change} (first : Reads method finds)
    (rest : ∀ result, finds result → Writes (next result) written) : Writes (method >>= next) written :=
  first.bind (fun _ ordinary => ordinary) rest

theorem Writes.andThen {next : Result → Access Runtime Next} {written later : List Change}
    (first : Writes method written) (rest : ∀ result, Writes (next result) later) :
    Writes (method >>= next) (written ++ later) :=
  Makes.bind first fun result made wrote => (rest result).weaken
    (fun _ more also => by rw [wrote, also]) (fun _ _ ordinary => ordinary)

theorem Reads.writes (reads : Reads method finds) : Writes method [] :=
  reads.weaken (fun _ _ holds => holds.2) (fun _ _ holds => holds.1)

end Makes

section Files

open LocalAgentClientFiles

variable {Runtime : Type} {digest : Text → Digest}

theorem ordinary_integrationError (message : String) : Ordinary (integrationError message) := by
  simp [Ordinary, integrationError]

theorem reads_read (relativePath : String) : Reads (read relativePath : Access Runtime LocalInstructionFile) fun _ => True := by
  apply reads_access.andThen
  intro _ _
  apply Reads.get_bind
  intro session
  split
  · exact .pure trivial
  · split
    · exact .throw (ordinary_integrationError _)
    · exact .pure trivial

theorem reads_requireExpected (operation : AgentClientFileOperation) {thrown : Thrown} (ordinary : Ordinary thrown) :
    Reads (requireExpected digest operation thrown : Access Runtime Unit) fun _ => True := by
  apply (reads_read _).andThen
  intro current _
  split
  · exact .pure trivial
  · exact .throw ordinary

theorem writes_commit (operation : AgentClientFileOperation) :
    Writes (commit operation : Access Runtime Unit) [.file operation.relativePath] := by
  unfold commit
  split
  · apply reads_access.thenWrites
    intro _ _
    apply Makes.get_bind
    intro session
    split
    · exact .throw (ordinary_integrationError _)
    · exact (writes_store _ _).andThen fun _ => reads_access.writes
  · exact reads_access.thenWrites fun _ _ => writes_store _ _
  · apply reads_access.thenWrites
    intro _ _
    apply Makes.get_bind
    intro session
    split
    · exact .throw (ordinary_integrationError _)
    · exact writes_store _ _

variable {beforeMutation : AgentClientFileOperation → Access Runtime Unit}
  (checks : ∀ operation, Reads (beforeMutation operation) fun _ => True)

include checks

theorem writes_applyOperation (operation : AgentClientFileOperation) :
    Writes (applyOperation digest beforeMutation operation) [.file operation.relativePath] := by
  apply (reads_requireExpected operation (ordinary_integrationError _)).thenWrites
  intro _ _
  apply reads_access.thenWrites
  intro _ _
  apply (reads_requireExpected operation (ordinary_integrationError _)).thenWrites
  intro _ _
  exact (checks operation).thenWrites fun _ _ => writes_commit operation

theorem writes_apply (operations : List AgentClientFileOperation) :
    Writes (LocalAgentClientFiles.apply digest beforeMutation operations) (operations.map (.file ·.relativePath)) := by
  induction operations with
  | nil => exact .pure rfl
  | cons operation operations ih =>
    exact (writes_applyOperation checks operation).andThen fun _ => ih

end Files

def Installing (operations : List AgentClientFileOperation) : Prop :=
  ∀ operation ∈ operations, changeKind operation ≠ .delete

section Adapters

variable {Runtime : Type} {digest : Text → Digest} {isLegacyCompatibilityPointer : LegacyPointer}
  {isGenerated : GeneratedSkill} {first second operations : List AgentClientFileOperation}

theorem Installing.append (ones : Installing first) (others : Installing second) : Installing (first ++ second) := by
  intro operation member
  rcases List.mem_append.mp member with member | member
  · exact ones operation member
  · exact others operation member

theorem installing_reconcile (file : LocalInstructionFile) (nextContent : Text) (managed : LocalInstructionFile → Bool)
    (createSummary updateSummary : String) :
    Installing (reconcileManagedFile digest file nextContent managed createSummary updateSummary) := by
  intro operation member
  unfold reconcileManagedFile at member
  split at member
  · cases List.mem_singleton.mp member
    simp [changeKind]
  · split at member
    · cases List.mem_singleton.mp member
      simp [changeKind]
    · cases member

theorem installing_claudeBridge (file : LocalInstructionFile) : Installing (claudeBridgeOperations digest file) := by
  intro operation member
  unfold claudeBridgeOperations at member
  dsimp only at member
  split at member
  · cases List.mem_singleton.mp member
    simp [changeKind]
  · cases List.mem_singleton.mp member
    simp [changeKind]
  · split at member
    · cases List.mem_singleton.mp member
      simp [changeKind]
    · cases member
  · cases member

theorem installing_shared (canonical projectSkill : LocalInstructionFile) (instructions skill : Text) :
    Installing (canonicalOperations digest canonical instructions ++ projectSkillOperations digest projectSkill skill) :=
  (installing_reconcile _ _ _ _ _).append (installing_reconcile _ _ _ _ _)

theorem reads_inspectBase : Reads (inspectBase isLegacyCompatibilityPointer : Access Runtime BaseInspection)
    fun _ => True := by
  apply (reads_read _).andThen
  intro _ _
  apply (reads_read _).andThen
  intro _ _
  exact (reads_read _).andThen fun _ _ => .pure trivial

theorem reads_sharedPlan (instructions skill : Text) :
    Reads (SharedProjectArtifactsAdapter.plan digest isLegacyCompatibilityPointer instructions skill :
      Access Runtime SharedProjectArtifactDraft) fun draft => Installing draft.operations :=
  reads_inspectBase.andThen fun _ _ => .pure (installing_shared _ _ _ _)

theorem reads_codexPlan (instructions skill : Text) :
    Reads (CodexAgentClientAdapter.plan digest isLegacyCompatibilityPointer instructions skill :
      Access Runtime AgentClientIntegrationDraft) fun draft => Installing draft.operations := by
  apply reads_inspectBase.andThen
  intro base _
  apply (reads_read _).andThen
  intro pointer _
  exact .pure ((installing_shared _ _ _ _).append (installing_reconcile _ _ _ _ _))

theorem reads_claudePlan (instructions skill : Text) :
    Reads (ClaudeAgentClientAdapter.plan digest isLegacyCompatibilityPointer instructions skill :
      Access Runtime AgentClientIntegrationDraft) fun draft => Installing draft.operations := by
  apply reads_inspectBase.andThen
  intro base _
  apply (reads_read _).andThen
  intro file _
  apply (reads_read _).andThen
  intro claudeSkill _
  have shared := @installing_shared digest base.canonical base.projectSkill instructions skill
  exact .pure ((shared.append (installing_claudeBridge file)).append (installing_reconcile _ _ _ _ _))

theorem reads_codexInspect : Reads (CodexAgentClientAdapter.inspect isLegacyCompatibilityPointer isGenerated :
    Access Runtime AgentClientInspection) fun _ => True :=
  reads_inspectBase.andThen fun _ _ => (reads_read _).andThen fun _ _ => .pure trivial

theorem reads_claudeInspect : Reads (ClaudeAgentClientAdapter.inspect isLegacyCompatibilityPointer isGenerated :
    Access Runtime AgentClientInspection) fun _ => True :=
  reads_inspectBase.andThen fun _ _ =>
    (reads_read _).andThen fun _ _ => (reads_read _).andThen fun _ _ => .pure trivial

theorem reads_codexCheck (action : PlanAction) (operation : AgentClientFileOperation) :
    Reads (CodexAgentClientAdapter.beforeMutation action operation : Access Runtime Unit) fun _ => True := by
  unfold CodexAgentClientAdapter.beforeMutation
  split
  · exact .pure trivial
  · apply (reads_read _).andThen
    intro file _
    apply (reads_read _).andThen
    intro pointer _
    split
    · exact .throw (ordinary_integrationError _)
    · split
      · exact .pure trivial
      · exact .pure trivial
      · exact .throw (ordinary_integrationError _)

theorem reads_claudeCheck (action : PlanAction) (operation : AgentClientFileOperation) :
    Reads (ClaudeAgentClientAdapter.beforeMutation action operation : Access Runtime Unit) fun _ => True := by
  unfold ClaudeAgentClientAdapter.beforeMutation
  split
  · exact .pure trivial
  · apply (reads_read _).andThen
    intro pointer _
    apply (reads_read _).andThen
    intro file _
    split
    · exact .pure trivial
    · exact .pure trivial
    · exact .throw (ordinary_integrationError _)

end Adapters

section Clients

open ManageAgentClientIntegration

variable {services : InstallServices} {clientId : AgentClientId} {contract : ProjectInstructionContract}

theorem reads_detect : Reads (detect services) fun _ => True :=
  .mapM (fun _ => reads_access.andThen fun _ _ => .pure trivial) _

theorem reads_clientInspect : Reads (ManageAgentClientIntegration.inspect services clientId) fun _ => True := by
  cases clientId with
  | codex => exact reads_codexInspect
  | claude => exact reads_claudeInspect

theorem reads_validate : Reads (validate services clientId) fun _ => True := by
  cases clientId with
  | codex => exact reads_codexInspect.andThen fun _ _ => .pure trivial
  | claude => exact reads_claudeInspect.andThen fun _ _ => .pure trivial

theorem reads_draft : Reads (draft services clientId contract) fun draft => Installing draft.operations := by
  cases clientId with
  | codex => exact reads_codexPlan _ _
  | claude => exact reads_claudePlan _ _

theorem reads_plan : Reads (plan services clientId contract)
    fun plan => ∃ draft, plan = publicPlan services draft ∧ Installing draft.operations :=
  reads_draft.andThen fun draft installing => .pure ⟨draft, rfl, installing⟩

theorem writes_applyDraft (draft : AgentClientIntegrationDraft) :
    Writes (applyDraft services clientId draft) (draft.operations.map (.file ·.relativePath)) := by
  cases clientId with
  | codex => exact writes_apply (reads_codexCheck _) _
  | claude => exact writes_apply (reads_claudeCheck _) _

theorem makes_apply (approvedPlanHash : Digest) : Makes (ManageAgentClientIntegration.apply services clientId contract approvedPlanHash)
    (fun _ made => ∃ draft, services.hashDraft draft = approvedPlanHash ∧
      made = draft.operations.map (.file ·.relativePath))
    (fun thrown _ => Ordinary thrown) := by
  apply reads_draft.bind (fun _ ordinary => ordinary)
  intro draft _
  split
  · exact .throw (by simp [Ordinary])
  · split
    · exact .throw (by simp [Ordinary])
    · next approved =>
      apply (writes_applyDraft draft).bind
      rintro _ made rfl
      exact reads_validate.writes.weaken (fun _ _ none => ⟨draft, not_not.mp approved, by rw [none, List.append_nil]⟩)
        fun _ _ ordinary => ordinary

theorem reads_clientStatus (detection : AgentClientDetection) : Reads (clientStatus services detection contract) fun _ => True := by
  apply reads_clientInspect.andThen
  intro inspection _
  apply reads_validate.andThen
  intro validation _
  dsimp only
  split
  · exact .pure trivial
  · split
    · exact .pure trivial
    · split
      · exact .pure trivial
      · exact reads_plan.andThen fun _ _ => .pure trivial

end Clients

section Binding

variable {Runtime : Type} {services : BindingServices}

theorem ordinary_bindingError (message : String) : Ordinary (bindingError message) := by
  simp [Ordinary, bindingError]

theorem validIdentity_error {value : Value} {field : String} {thrown : Thrown}
    (rejected : validIdentity value field = .error thrown) : Ordinary thrown := by
  unfold validIdentity at rejected
  dsimp only at rejected
  split at rejected
  · split at rejected <;> cases rejected
    exact ordinary_bindingError _
  · cases rejected
    exact ordinary_bindingError _

theorem parse_error {value : Value} {thrown : Thrown} (rejected : parseProjectBinding value = .error thrown) :
    Ordinary thrown := by
  have identity {build : String → ParsedProjectBinding} {value : Value} {field : String}
      (failed : (validIdentity value field).map build = .error thrown) : Ordinary thrown := by
    cases valid : validIdentity value field with
    | ok identity => rw [valid] at failed; cases failed
    | error other =>
      rw [valid] at failed
      cases failed
      exact validIdentity_error valid
  unfold parseProjectBinding at rejected
  repeat' split at rejected
  all_goals first
    | exact identity rejected
    | (cases rejected; exact ordinary_bindingError _)

theorem reads_bindingInspect : Reads (inspect services : Access Runtime ProjectBindingInspection) fun _ => True := by
  apply reads_access.andThen
  intro _ _
  apply Reads.get_bind
  intro session
  split <;> exact .pure trivial

theorem reads_planWrite (repositoryId : String) :
    Reads (planWrite services repositoryId : Access Runtime ProjectBindingWritePlan) fun _ => True := by
  unfold planWrite
  cases parsed : parseProjectBinding (bindingRecord repositoryId) with
  | error thrown => exact .throw (parse_error parsed)
  | ok binding =>
    cases binding with
    | legacy projectId => exact .throw (ordinary_bindingError _)
    | current repositoryId =>
      apply reads_bindingInspect.andThen
      intro inspection _
      split
      · exact .throw (ordinary_bindingError _)
      · exact .pure trivial

theorem writes_renameBinding (plan : ProjectBindingWritePlan) :
    Writes (renameBinding services plan : Access Runtime Unit) [.file projectBindingFile] := by
  apply reads_access.thenWrites
  intro _ _
  apply Makes.get_bind
  intro session
  dsimp only
  split
  · exact writes_store _ _
  · split
    · exact .throw (ordinary_bindingError _)
    · exact (writes_store _ _).andThen fun _ => reads_access.writes

theorem writes_applyWrite (plan : ProjectBindingWritePlan) :
    Writes (applyWrite services plan : Access Runtime Unit)
      (if plan.action = .none then [] else [.file projectBindingFile]) := by
  apply (reads_planWrite _).thenWrites
  intro current _
  split
  · exact .throw (ordinary_bindingError _)
  · split
    · exact .pure rfl
    · apply reads_access.thenWrites
      intro _ _
      apply reads_bindingInspect.thenWrites
      intro latest _
      split
      · exact .throw (ordinary_bindingError _)
      · exact writes_renameBinding plan

end Binding

section Runtime

variable {Result : Type}

theorem reads_query (read : RuntimeTables → Result) : Reads (query read) fun _ => True := by
  apply reads_access.andThen
  intro _ _
  exact Reads.get_bind fun _ => .pure trivial

theorem makes_transact (body : RuntimeTables → Except Thrown (Committed Result)) :
    Makes (transact body) (fun result made => ∃ before after, body before = .ok ⟨result, after, made⟩)
      (fun thrown made => made = [] ∧ (Ordinary thrown ∨ ∃ before, body before = .error thrown)) := by
  apply reads_access.bind
  · intro thrown ordinary
    exact ⟨rfl, .inl ordinary⟩
  · intro _ _
    apply Makes.get_bind
    intro session
    split
    · next thrown failed => exact .throw ⟨rfl, .inr ⟨session.shared.runtime, failed⟩⟩
    · next committed done =>
      have modified : Makes (modify fun session : Session RuntimeTables =>
            { session with
              shared := { session.shared with runtime := committed.tables }
              changes := session.changes ++ committed.changes } : Access RuntimeTables PUnit)
          (fun _ made => made = committed.changes)
          (fun thrown made => made = [] ∧ (Ordinary thrown ∨ ∃ before, body before = .error thrown)) :=
        ⟨fun _ => .modify fun session sound => ⟨sound.1, committed.changes, by rw [sound.2], rfl⟩⟩
      apply modified.bind
      rintro _ made rfl
      exact .pure ⟨session.shared.runtime, committed.tables, by rw [List.append_nil]; exact done⟩

/-- The changes of an import: a source, and the project with its identity if the import created it. -/
inductive Imports (result : ImportProjectResult) : List Change → Prop
  | created (projectId repositoryId : String) (created : result.created = true) :
      Imports result [.project projectId, .association repositoryId projectId, .source projectId]
  | associated (projectId : String) (found : result.created = false) : Imports result [.source projectId]

theorem transaction_imports {generated : String} {input : ImportInput} {scan : ProjectScan} {before after : RuntimeTables}
    {result : ImportProjectResult} {made : List Change}
    (done : ImportProject.transaction generated input scan before = .ok ⟨result, after, made⟩) :
    Imports result made ∧ (input.projectId.isSome → result.created = false) := by
  unfold ImportProject.transaction at done
  dsimp only at done
  split at done
  · split at done <;> cases done
    exact ⟨.associated _ rfl, fun _ => rfl⟩
  · cases done
    exact ⟨.associated _ rfl, fun _ => rfl⟩
  · cases done
    exact ⟨.associated _ rfl, fun _ => rfl⟩
  · next absent _ =>
    cases created : ImportProject.createProject before generated input scan with
    | error thrown => rw [created] at done; cases done
    | ok tables =>
      rw [created] at done
      cases done
      exact ⟨.created _ _ rfl, fun given => absurd given (by simp [absent])⟩

theorem makes_requireProject (projectId : String) (scan : ProjectScan) :
    Makes (ImportProject.requireProject projectId scan) (fun _ made => made = []) (fun _ made => made = []) := by
  refine (reads_query _).bind (fun _ _ => rfl) ?_
  intro project _
  split
  · exact .throw rfl
  · refine (reads_query _).bind (fun _ _ => rfl) ?_
    intro sources _
    split
    · exact .throw rfl
    · exact .pure rfl

theorem makes_import (scanner : Shared RuntimeTables → ProjectScan) (generated : String) (input : ImportInput) :
    Makes (ImportProject.execute scanner generated input)
      (fun result made => Imports result made ∧ (input.projectId.isSome → result.created = false))
      (fun _ made => made = []) := by
  have transaction (scan : ProjectScan) : Makes (transact (ImportProject.transaction generated input scan))
      (fun result made => Imports result made ∧ (input.projectId.isSome → result.created = false))
      (fun _ made => made = []) :=
    (makes_transact _).weaken (fun _ _ ⟨_, _, done⟩ => transaction_imports done) fun _ _ failed => failed.1
  refine reads_access.bind (fun _ _ => rfl) ?_
  intro _ _
  apply Makes.get_bind
  intro session
  dsimp only
  split
  · exact transaction _
  · apply (makes_requireProject _ _).bind
    rintro _ _ rfl
    exact transaction _

theorem reads_knownRepositoryId (projectId : Option String) (repositoryId : String) :
    Reads (knownRepositoryId projectId repositoryId) fun _ => True := by
  cases projectId with
  | none => exact .pure trivial
  | some projectId => exact (reads_query _).andThen fun _ _ => .pure trivial

theorem reads_identify {services : InstallServices} (generated : Generated) (rebind : Bool) :
    Reads (identify services generated rebind) fun _ => True := by
  apply reads_access.andThen
  intro _ _
  apply reads_bindingInspect.andThen
  intro inspection _
  split
  · exact .throw (ordinary_bindingError _)
  · apply (reads_query _).andThen
    intro projectAtPath _
    dsimp only
    apply (reads_knownRepositoryId _ _).andThen
    intro repositoryId _
    apply (reads_knownRepositoryId _ _).andThen
    intro repositoryId _
    apply (reads_query _).andThen
    intro projectByIdentity _
    split
    · split
      · exact .throw (by simp [Ordinary, lifecycleError])
      · exact .pure trivial
    · exact .pure trivial

theorem reads_preflight {services : InstallServices} (contract : ProjectInstructionContract)
    (detection : AgentClientDetection) : Reads (preflight services contract detection) fun _ => True := by
  apply reads_plan.andThen
  intro plan _
  split
  · exact .throw (by simp [Ordinary, lifecycleError])
  · exact .pure trivial

theorem reads_survey {services : InstallServices} (project : ProjectRow) (manifest : ManifestDocument) :
    Reads (survey services project manifest) fun prepared => Installing prepared.sharedPlan.operations := by
  apply reads_detect.andThen
  intro detections _
  apply (Reads.mapM (fun detection => reads_clientInspect.andThen fun _ _ => .pure trivial) _).andThen
  intro inspections _
  apply (reads_sharedPlan _ _).andThen
  intro sharedPlan installing
  split
  · exact .throw (by simp [Ordinary, lifecycleError])
  · apply (Reads.mapM (reads_preflight _) _).andThen
    intro _ _
    exact .pure installing

end Runtime
end AiOffice.Application.ProjectLifecycle
