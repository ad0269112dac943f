import AiOffice.Application.ProjectLifecycle.Effects

namespace AiOffice.Application.ProjectLifecycle

open Data Data.Method Domain AgentClientIntegrations

/-- The record of an installation names a change. A project is created together with its source and its
repository identity. -/
def Completed.Names (completed : Completed) : Change → Prop
  | .file relativePath =>
    relativePath ∈ completed.clientPaths ∨
      (relativePath = projectBindingFile ∧ completed.repositoryIdentityWritten = true)
  | .project _ => completed.projectCreated = true
  | .source _ => completed.projectCreated = true ∨ completed.sourceAssociated = true
  | .association _ _ => completed.projectCreated = true ∨ completed.repositoryMapped = true
  | .officeRevision _ => completed.officeApplied = true

instance (completed : Completed) (change : Change) : Decidable (completed.Names change) := by
  cases change <;> unfold Completed.Names <;> infer_instance

/-- What the call throws says what it changed: a plain error that it changed nothing, the error of a
partial installation that everything it changed is in its record. -/
def Reported (error : InstallError) (after : Installation) : Prop :=
  match error with
  | .plain _ => after.session.changes = []
  | .unfinished result => ∀ change ∈ after.session.changes, result.completed.Names change

/-- The step itself has made no change, or only changes that the record named when the step began. -/
def ThrewReported (before : Installation) (_ : Thrown) (after : Installation) : Prop :=
  ∀ made, after.session.changes = before.session.changes ++ made → ∀ change ∈ made, before.completed.Names change

def ImportReported (state : Installation) : Prop :=
  state.session.changes = [] ∨ state.completed.projectCreated = true ∨ state.completed.sourceAssociated = true

/-- In this run, the lookup of the project fails only where nothing was imported, an import is
reported as one, and the step that throws has made no change itself that is not reported yet. -/
def ThrowsReported (services : InstallServices) (generated : Generated) (rebind : Bool) (start : Installation) : Prop :=
  ∀ found identified projectId imported,
    call (onSession (identify services generated rebind)) start = (.ok found, identified) →
    call (findOrImport services generated found) identified = (.ok projectId, imported) →
    match call (lookup projectId) imported with
    | (.error _, _) => imported.session.changes = []
    | (.ok project, located) =>
      ImportReported located ∧
        ∀ prepared ready, call (prepare services project) located = (.ok prepared, ready) →
          ThrowsOnly ThrewReported (steps services generated found.repositoryId project prepared) ready

def HashesTellFiles (services : InstallServices) : Prop :=
  ∀ first second, services.hashDraft first = services.hashDraft second →
    first.operations.map (·.relativePath) = second.operations.map (·.relativePath)

section Steps

variable {services : InstallServices} {generated : Generated} {project : ProjectRow} {repositoryId : String}
  {prepared : Prepared} {located state before after : Installation} {Result Next : Type}

structure Stops (before : Installation) (thrown : Thrown) (after : Installation) : Prop where
  ordinary : Ordinary thrown
  completed : after.completed = before.completed
  changes : before.session.changes <+: after.session.changes

structure Follows (located state : Installation) : Prop where
  faults : OrdinaryFaults state.session
  created : state.completed.projectCreated = located.completed.projectCreated
  associated : state.completed.sourceAssociated = located.completed.sourceAssociated
  kept : located.session.changes ⊆ state.session.changes
  settled : ∀ change ∈ state.session.changes, change ∈ located.session.changes ∨ state.completed.Names change

/-- What a part of the body returns when it starts in this state; when it throws, it stops there. -/
structure Does (state : Installation) (part : Install Result) (returns : Result → Installation → Prop) : Prop where
  triple : Triple (· = state) part returns (Stops state)

theorem Does.pure {result : Result} {returns : Result → Installation → Prop} (holds : returns result state) :
    Does state (Pure.pure result) returns :=
  ⟨.pure fun _ same => same ▸ holds⟩

theorem Does.throw {thrown : Thrown} {returns : Result → Installation → Prop} (ordinary : Ordinary thrown) :
    Does state (MonadExcept.throw thrown) returns :=
  ⟨.throw fun _ same => same ▸ ⟨ordinary, rfl, List.prefix_refl _⟩⟩

theorem Does.get_bind {next : Installation → Install Result} {returns : Result → Installation → Prop}
    (rest : Does state (next state) returns) : Does state (get >>= next) returns :=
  ⟨.get_bind fun _ same => same ▸ rest.triple⟩

theorem onSession_makes {method : Access RuntimeTables Result} {returns : Result → List Change → Prop}
    {throws : Thrown → List Change → Prop} (makes : Makes method returns throws) (faults : OrdinaryFaults state.session) :
    Triple (· = state) (onSession method)
      (fun result after => ∃ session made, after = state.replaceSession session ∧ OrdinaryFaults session ∧
        session.changes = state.session.changes ++ made ∧ returns result made)
      (fun thrown after => ∃ session made, after = state.replaceSession session ∧
        session.changes = state.session.changes ++ made ∧ throws thrown made) := by
  apply Triple.within
  rintro object rfl
  apply ((makes.run object.session.changes).startingAt ⟨faults, rfl⟩).weaken (fun _ same => same)
  · rintro result session ⟨sound, made, same, holds⟩
    exact ⟨session, made, rfl, sound, same, holds⟩
  · rintro thrown session ⟨made, same, holds⟩
    exact ⟨session, made, rfl, same, holds⟩

theorem Makes.does {method : Access RuntimeTables Result} {returns : Result → List Change → Prop}
    {next : Result → Install Next} {post : Next → Installation → Prop}
    (makes : Makes method returns fun thrown _ => Ordinary thrown) (faults : OrdinaryFaults state.session)
    (rest : ∀ result session made, OrdinaryFaults session → session.changes = state.session.changes ++ made →
      returns result made → Does (state.replaceSession session) (next result) post) :
    Does state (onSession method >>= next) post := by
  constructor
  have first : Triple (· = state) (onSession method) _ (Stops state) :=
    (onSession_makes makes faults).throwing fun thrown after stopped => by
      obtain ⟨session, made, rfl, same, ordinary⟩ := stopped
      exact ⟨ordinary, rfl, made, same.symm⟩
  apply first.bind
  intro result
  apply Triple.each
  rintro _ ⟨session, made, rfl, sound, same, holds⟩
  exact (rest result session made sound same holds).triple.throwing fun thrown after stops =>
    ⟨stops.ordinary, stops.completed, (same ▸ List.prefix_append _ made).trans stops.changes⟩

theorem Reads.does {method : Access RuntimeTables Result} {finds : Result → Prop} {next : Result → Install Next}
    {post : Next → Installation → Prop} (reads : Reads method finds) (faults : OrdinaryFaults state.session)
    (rest : ∀ result session, OrdinaryFaults session → session.changes = state.session.changes → finds result →
      Does (state.replaceSession session) (next result) post) :
    Does state (onSession method >>= next) post := by
  have makes : Makes method (fun result made => finds result ∧ made = []) fun thrown _ => Ordinary thrown :=
    reads.weaken (fun _ _ holds => holds) fun _ _ failed => failed.1
  apply makes.does faults
  rintro result session _ sound same ⟨found, rfl⟩
  exact rest result session sound (same.trans (List.append_nil _)) found

theorem Does.assign {change : Installation → Installation} {next : PUnit → Install Result}
    {returns : Result → Installation → Prop} (completed : (change state).completed = state.completed)
    (session : (change state).session = state.session) (rest : Does (change state) (next ⟨⟩) returns) :
    Does state (modify change >>= next) returns := by
  constructor
  apply modify_bind
  apply rest.triple.throwing
  rintro thrown after ⟨ordinary, kept, changes⟩
  exact ⟨ordinary, kept.trans completed, session ▸ changes⟩

theorem Does.complete {change : Completed → Completed} {returns : PUnit → Installation → Prop}
    (holds : returns ⟨⟩ { state with completed := change state.completed }) : Does state (complete change) returns :=
  ⟨.modify fun _ same => same ▸ holds⟩

theorem Follows.advance (follows : Follows located before) {made : List Change} (faults : OrdinaryFaults after.session)
    (changes : after.session.changes = before.session.changes ++ made)
    (created : after.completed.projectCreated = before.completed.projectCreated)
    (associated : after.completed.sourceAssociated = before.completed.sourceAssociated)
    (still : ∀ change, before.completed.Names change → after.completed.Names change)
    (named : ∀ change ∈ made, after.completed.Names change) : Follows located after where
  faults := faults
  created := created.trans follows.created
  associated := associated.trans follows.associated
  kept := by
    intro change member
    rw [changes]
    exact List.mem_append_left _ (follows.kept member)
  settled := by
    intro change member
    rw [changes] at member
    rcases List.mem_append.mp member with earlier | new
    · exact (follows.settled change earlier).imp_right (still change)
    · exact .inr (named change new)

theorem associate_error {tables : RuntimeTables} {projectId : String} {thrown : Thrown}
    (failed : tables.associate repositoryId projectId = .error thrown) : Ordinary thrown := by
  unfold RuntimeTables.associate at failed
  split at failed
  · split at failed <;> cases failed
  · split at failed <;> cases failed
    simp [Ordinary, storageError]

theorem makes_associate : Makes
    (transact fun tables => (tables.associate repositoryId project.id).map fun (result, after) =>
      ⟨result, after, if result = .created then [Change.association repositoryId project.id] else []⟩)
    (fun result made => made = if result = .created then [.association repositoryId project.id] else [])
    (fun thrown _ => Ordinary thrown) := by
  apply (makes_transact _).weaken
  · rintro result made ⟨tables, after, done⟩
    cases answer : tables.associate repositoryId project.id with
    | error thrown => rw [answer] at done; cases done
    | ok pair => rw [answer] at done; cases done; rfl
  · rintro thrown made ⟨-, ordinary | ⟨tables, failed⟩⟩
    · exact ordinary
    · cases answer : tables.associate repositoryId project.id with
      | error other => rw [answer] at failed; cases failed; exact associate_error answer
      | ok pair => rw [answer] at failed; cases failed

theorem makes_applyOffice (manifest : ManifestDocument) :
    Makes (ApplyOfficeManifest.execute generated.revision project.id manifest)
      (fun _ made => made = [.officeRevision project.id]) (fun thrown _ => Ordinary thrown) := by
  apply (makes_transact _).weaken
  · rintro result made ⟨tables, after, done⟩
    unfold ApplyOfficeManifest.transaction at done
    split at done <;> cases done
    rfl
  · rintro thrown made ⟨-, ordinary | ⟨tables, failed⟩⟩
    · exact ordinary
    · unfold ApplyOfficeManifest.transaction at failed
      split at failed <;> cases failed
      simp [Ordinary]

structure Beginning (located state : Installation) : Prop extends Follows located state where
  unmapped : state.completed.repositoryMapped = false
  unwritten : state.completed.repositoryIdentityWritten = false

structure Unwritten (located state : Installation) : Prop extends Follows located state where
  unwritten : state.completed.repositoryIdentityWritten = false

theorem associate_follows (beginning : Beginning located state) :
    Does state (associate repositoryId project) fun _ => Unwritten located := by
  apply makes_associate.does beginning.faults
  intro association session made sound same wrote
  split
  · exact .throw (by simp [Ordinary, lifecycleError])
  · apply Does.complete
    refine ⟨beginning.toFollows.advance sound same rfl rfl ?_ ?_, beginning.unwritten⟩
    · intro change named
      cases change with
      | association => exact named.imp_right fun mapped => absurd mapped (by simp [beginning.unmapped])
      | _ => exact named
    · intro change member
      rw [wrote] at member
      split at member
      · next created =>
        cases List.mem_singleton.mp member
        exact .inr (decide_eq_true created)
      · cases member

theorem applyOffice_follows (unwritten : Unwritten located state) :
    Does state (applyOffice generated project prepared) fun _ => Unwritten located := by
  apply Does.get_bind
  split
  · exact .pure unwritten
  · apply (makes_applyOffice _).does unwritten.faults
    rintro revision session _ sound same rfl
    apply Does.assign rfl rfl
    apply Does.complete
    refine ⟨unwritten.toFollows.advance sound same rfl rfl ?_ ?_, unwritten.unwritten⟩
    · intro change named
      cases change with
      | officeRevision => rfl
      | _ => exact named
    · exact List.forall_mem_singleton.mpr rfl

theorem writeBinding_follows (unwritten : Unwritten located state) :
    Does state (writeBinding services repositoryId) fun _ => Follows located := by
  apply (reads_planWrite repositoryId).does unwritten.faults
  intro plan planned faults read _
  apply (writes_applyWrite plan).does faults
  intro _ session made sound same wrote
  apply Does.assign rfl rfl
  apply Does.complete
  have all : session.changes = state.session.changes ++ made := same.trans (congrArg (· ++ made) read)
  refine unwritten.toFollows.advance sound all rfl rfl ?_ ?_
  · intro change named
    cases change with
    | file => exact named.imp_right fun written => absurd written.2 (by simp [unwritten.unwritten])
    | _ => exact named
  · intro change member
    rw [wrote] at member
    split at member
    · cases member
    · next writes =>
      cases List.mem_singleton.mp member
      exact .inr ⟨rfl, decide_eq_true writes⟩

theorem keepApplied_follows {applied : List InstallChange} {paths : List String}
    (follows : Follows located before) (session : state.session.changes = before.session.changes ++ paths.map Change.file)
    (faults : OrdinaryFaults state.session) (completed : state.completed = before.completed)
    (reported : ∀ path ∈ paths, ∃ change ∈ applied, change.kind ≠ .delete ∧ change.relativePath = path) :
    Does state (keepApplied applied) fun _ => Follows located := by
  apply Does.assign rfl rfl
  apply Does.complete
  have created : state.completed.projectCreated = before.completed.projectCreated := by rw [completed]
  have associated : state.completed.sourceAssociated = before.completed.sourceAssociated := by rw [completed]
  refine follows.advance faults session created associated ?_ ?_
  · intro change named
    rw [← completed] at named
    cases change with
    | file => exact named.imp_left fun earlier => List.mem_append_left _ earlier
    | _ => exact named
  · intro change member
    obtain ⟨path, written, rfl⟩ := List.mem_map.mp member
    obtain ⟨change, kept, kind, rfl⟩ := reported path written
    have filtered : change ∈ applied.filter (·.kind ≠ .delete) := List.mem_filter.mpr ⟨kept, decide_eq_true kind⟩
    exact .inl (List.mem_append_right _ (List.mem_map_of_mem filtered))

theorem applySharedArtifacts_follows (installing : Installing prepared.sharedPlan.operations)
    (follows : Follows located state) :
    Does state (applySharedArtifacts services prepared) fun _ => Follows located := by
  have writes : Writes (SharedProjectArtifactsAdapter.apply services.digest prepared.sharedPlan :
      Access RuntimeTables Unit) _ := writes_apply (fun _ => .pure trivial) prepared.sharedPlan.operations
  apply writes.does follows.faults
  rintro _ session _ sound same rfl
  have files : session.changes = state.session.changes ++
      (prepared.sharedPlan.operations.map (·.relativePath)).map Change.file := by
    rw [List.map_map]
    exact same
  refine keepApplied_follows follows files sound rfl ?_
  intro path written
  obtain ⟨operation, member, rfl⟩ := List.mem_map.mp written
  exact ⟨_, List.mem_map_of_mem member, installing operation member, rfl⟩

theorem applyClient_follows (tells : HashesTellFiles services) (detection : AgentClientDetection)
    (follows : Follows located state) :
    Does state (applyClient services project prepared detection) fun _ => Follows located := by
  apply reads_plan.does follows.faults
  rintro plan planned faults read ⟨draft, rfl, installing⟩
  apply (makes_apply _).does faults
  rintro validation session _ sound same ⟨applied, approved, rfl⟩
  have files : session.changes = state.session.changes ++
      (draft.operations.map (·.relativePath)).map Change.file := by
    rw [← tells _ _ approved, List.map_map]
    exact same.trans (congrArg (· ++ _) read)
  refine keepApplied_follows follows files sound rfl ?_
  intro path written
  obtain ⟨operation, member, rfl⟩ := List.mem_map.mp written
  exact ⟨_, List.mem_map_of_mem (List.mem_map_of_mem member), installing operation member, rfl⟩

theorem readClients_follows (follows : Follows located state) :
    Does state (readClients services project prepared) fun _ => Follows located := by
  apply Does.get_bind
  have reads : Reads (prepared.detections.mapM fun detection =>
      clientStatus services detection ⟨project.name, (state.office.map (·.manifest)).getD prepared.manifest⟩) _ :=
    .mapM (fun detection => reads_clientStatus detection) _
  apply reads.does follows.faults
  intro clients session sound same _
  constructor
  apply Triple.modify
  rintro _ rfl
  exact follows.advance sound (same.trans (List.append_nil _).symm) rfl rfl (fun _ named => named) (by simp)

def Fails (located before : Installation) (thrown : Thrown) (after : Installation) : Prop :=
  Follows located before ∧ Stops before thrown after

theorem Does.fails {part : Install Unit} {between : Installation → Prop} (does : Does state part fun _ => between)
    (follows : Follows located state) : Triple (· = state) part (fun _ => between) (Fails located state) :=
  does.triple.throwing fun _ _ stops => ⟨follows, stops⟩

theorem steps_chain (tells : HashesTellFiles services)
    (installing : Installing prepared.sharedPlan.operations) :
    Chain (Fails located) (Beginning located) (steps services generated repositoryId project prepared) := by
  apply Chain.cons fun state beginning => (associate_follows beginning).fails beginning.toFollows
  apply Chain.cons fun state unwritten => (applyOffice_follows unwritten).fails unwritten.toFollows
  apply Chain.cons fun state unwritten => (writeBinding_follows unwritten).fails unwritten.toFollows
  apply Chain.cons fun state follows => (applySharedArtifacts_follows installing follows).fails follows
  apply Chain.all
  intro step member state follows
  rcases List.mem_append.mp member with client | last
  · obtain ⟨detection, -, rfl⟩ := List.mem_map.mp client
    exact (applyClient_follows tells detection follows).fails follows
  · cases List.mem_singleton.mp last
    exact (readClients_follows follows).fails follows

structure Located (state : Installation) : Prop where
  faults : OrdinaryFaults state.session
  unmapped : state.completed.repositoryMapped = false
  unwritten : state.completed.repositoryIdentityWritten = false
  imports : state.session.changes = [] ∨ ∃ projectId, .source projectId ∈ state.session.changes
  named : ImportReported state → ∀ completed : Completed,
    completed.projectCreated = state.completed.projectCreated →
    completed.sourceAssociated = state.completed.sourceAssociated →
    ∀ change ∈ state.session.changes, completed.Names change

theorem Located.names_iff (found : Located located) {completed : Completed}
    (created : completed.projectCreated = located.completed.projectCreated)
    (associated : completed.sourceAssociated = located.completed.sourceAssociated) :
    (∀ change ∈ located.session.changes, completed.Names change) ↔ ImportReported located := by
  constructor
  · intro names
    rcases found.imports with none | ⟨projectId, member⟩
    · exact .inl none
    · have named : completed.projectCreated = true ∨ completed.sourceAssociated = true := names _ member
      rw [created, associated] at named
      exact .inr named
  · intro reported
    exact found.named reported completed created associated

theorem Located.beginning (found : Located located) : Beginning located located where
  faults := found.faults
  created := rfl
  associated := rfl
  kept := fun _ member => member
  settled := fun _ member => .inl member
  unmapped := found.unmapped
  unwritten := found.unwritten

structure Unchanged (before after : Installation) : Prop where
  changes : after.session.changes = before.session.changes
  completed : after.completed = before.completed

theorem Reads.unchanged {method : Access RuntimeTables Result} {finds : Result → Prop} (reads : Reads method finds)
    (faults : OrdinaryFaults state.session) : Triple (· = state) (onSession method)
      (fun result after => OrdinaryFaults after.session ∧ Unchanged state after ∧ finds result)
      (fun thrown after => Ordinary thrown ∧ Unchanged state after) := by
  apply (onSession_makes reads faults).weaken (fun _ same => same)
  · rintro result _ ⟨session, _, rfl, sound, same, found, rfl⟩
    exact ⟨sound, ⟨same.trans (List.append_nil _), rfl⟩, found⟩
  · rintro thrown _ ⟨session, _, rfl, same, ordinary, rfl⟩
    exact ⟨ordinary, same.trans (List.append_nil _), rfl⟩

theorem Located.unchanged (found : Located state) (faults : OrdinaryFaults after.session) (same : Unchanged state after) :
    Located after := by
  obtain ⟨changes, completed⟩ := same
  have reported : ImportReported after ↔ ImportReported state := by simp only [ImportReported, changes, completed]
  refine ⟨faults, ?_, ?_, ?_, ?_⟩
  · rw [completed]; exact found.unmapped
  · rw [completed]; exact found.unwritten
  · rw [changes]; exact found.imports
  · rw [reported, changes, completed]; exact found.named

theorem Imports.locates {result : ImportProjectResult} {made : List Change} (imports : Imports result made)
    (faults : OrdinaryFaults state.session) (changes : state.session.changes = made)
    (unmapped : state.completed.repositoryMapped = false) (unwritten : state.completed.repositoryIdentityWritten = false)
    (created : state.completed.projectCreated = result.created) : Located state := by
  refine ⟨faults, unmapped, unwritten, .inr ?_, ?_⟩
  · rw [changes]
    cases imports with
    | created projectId => exact ⟨projectId, by simp⟩
    | associated projectId => exact ⟨projectId, by simp⟩
  · intro reported completed sameCreated sameAssociated change member
    rw [changes] at member
    cases imports with
    | created projectId repositoryId new =>
      have flag : completed.projectCreated = true := by rw [sameCreated, created, new]
      simp only [List.mem_cons, List.not_mem_nil, or_false] at member
      rcases member with rfl | rfl | rfl
      · exact flag
      · exact .inl flag
      · exact .inl flag
    | associated projectId found =>
      cases List.mem_singleton.mp member
      rcases reported with none | flags
      · simp [changes] at none
      · rwa [← sameCreated, ← sameAssociated] at flags

structure Fresh (state : Installation) : Prop where
  faults : OrdinaryFaults state.session
  changes : state.session.changes = []
  completed : state.completed = ⟨false, false, false, false, false, []⟩

theorem Fresh.locates (fresh : Fresh state) : Located state where
  faults := fresh.faults
  unmapped := by rw [fresh.completed]
  unwritten := by rw [fresh.completed]
  imports := .inl fresh.changes
  named := by simp [fresh.changes]

theorem Fresh.unchanged (fresh : Fresh state) (faults : OrdinaryFaults after.session) (same : Unchanged state after) :
    Fresh after :=
  ⟨faults, same.changes.trans fresh.changes, same.completed.trans fresh.completed⟩

theorem Fresh.imports {input : ImportInput} {next : ImportProjectResult → Install Result} (fresh : Fresh state)
    (rest : ∀ result session, (input.projectId.isSome → result.created = false) →
      (∀ completed : Completed, completed.repositoryMapped = false → completed.repositoryIdentityWritten = false →
        completed.projectCreated = result.created → Located { state with session, completed }) →
      Triple (· = state.replaceSession session) (next result) (fun _ => Located) fun _ _ => False) :
    Triple (· = state) (onSession (ImportProject.execute services.scan generated.project input) >>= next)
      (fun _ => Located) (fun _ after => after.session.changes = []) := by
  have imported : Triple (· = state) (onSession (ImportProject.execute services.scan generated.project input)) _
      (fun _ after => after.session.changes = []) :=
    (onSession_makes (makes_import _ _ _) fresh.faults).throwing fun thrown after threw => by
      obtain ⟨session, made, rfl, same, rfl⟩ := threw
      exact same.trans ((List.append_nil _).trans fresh.changes)
  apply imported.bind
  intro result
  apply Triple.each
  rintro _ ⟨session, made, rfl, sound, same, imports, only⟩
  have changes : session.changes = made := same.trans (by rw [fresh.changes, List.nil_append])
  exact (rest result session only fun completed unmapped unwritten created =>
    imports.locates sound changes unmapped unwritten created).throwing fun _ _ impossible => impossible.elim

theorem importSource_locates (fresh : Fresh state) (projectId : String) :
    Triple (· = state) (importSource services generated projectId) (fun _ => Located)
      (fun _ after => after.session.changes = []) := by
  apply fresh.imports
  intro result session only locates
  apply modify_bind
  apply Triple.pure
  rintro _ rfl
  refine locates _ ?_ ?_ ?_
  · exact congrArg Completed.repositoryMapped fresh.completed
  · exact congrArg Completed.repositoryIdentityWritten fresh.completed
  · exact (congrArg Completed.projectCreated fresh.completed).trans (only rfl).symm

theorem findOrImport_locates (fresh : Fresh state) (found : Identified) :
    Triple (· = state) (findOrImport services generated found) (fun _ => Located)
      (fun _ after => after.session.changes = []) := by
  have already (projectId : String) : Triple (· = state) (pure projectId : Install String) (fun _ => Located)
      (fun _ after => after.session.changes = []) := .pure fun _ same => same ▸ fresh.locates
  unfold findOrImport
  split
  · exact already _
  · exact importSource_locates fresh _
  · exact already _
  · refine (((?_ : Reads _ fun _ => True).unchanged fresh.faults).throwing
      fun _ after threw => threw.2.changes.trans fresh.changes).bind ?_
    · split
      · exact .pure trivial
      · exact reads_query _
    intro legacyProject
    apply Triple.each
    rintro between ⟨faults, same, -⟩
    have fresh := fresh.unchanged faults same
    split
    · exact importSource_locates fresh _
    · apply fresh.imports
      intro result session _ locates
      apply modify_bind
      apply Triple.pure
      rintro _ rfl
      refine locates _ ?_ ?_ rfl
      · exact congrArg Completed.repositoryMapped fresh.completed
      · exact congrArg Completed.repositoryIdentityWritten fresh.completed

theorem lookup_unchanged (faults : OrdinaryFaults state.session) (projectId : String) :
    Triple (· = state) (lookup projectId) (fun _ after => OrdinaryFaults after.session ∧ Unchanged state after)
      (fun _ after => Unchanged state after) := by
  apply (((reads_query _).unchanged faults).throwing fun _ _ threw => threw.2).bind
  intro project
  split
  · exact .throw fun _ read => read.2.1
  · exact .pure fun _ read => ⟨read.1, read.2.1⟩

theorem prepare_unchanged (faults : OrdinaryFaults state.session) :
    Triple (· = state) (prepare services project)
      (fun prepared after => OrdinaryFaults after.session ∧ Unchanged state after ∧
        Installing prepared.sharedPlan.operations)
      (fun thrown after => Ordinary thrown ∧ Unchanged state after) := by
  apply ((reads_query _).unchanged faults).bind
  intro office
  apply Triple.each
  rintro between ⟨sound, same, -⟩
  apply modify_bind
  apply (@Reads.unchanged { between with office } _ _ _ (reads_survey _ _) sound).weaken (fun _ same => same)
  · rintro prepared after ⟨sound, again, installing⟩
    exact ⟨sound, ⟨again.changes.trans same.changes, again.completed.trans same.completed⟩, installing⟩
  · rintro thrown after ⟨ordinary, again⟩
    exact ⟨ordinary, again.changes.trans same.changes, again.completed.trans same.completed⟩

theorem Completed.Names.changed {completed : Completed} {change : Change} (named : completed.Names change) :
    completed.changed = true := by
  unfold Completed.changed
  cases change with
  | file relativePath =>
    rcases named with member | ⟨-, written⟩
    · have paths : completed.clientPaths.isEmpty = false := List.isEmpty_eq_false_iff.mpr (List.ne_nil_of_mem member)
      simp [paths]
    · simp [written]
  | project => simp [show completed.projectCreated = true from named]
  | source =>
    rcases named with created | associated
    · simp [created]
    · simp [associated]
  | association =>
    rcases named with created | mapped
    · simp [created]
    · simp [mapped]
  | officeRevision => simp [show completed.officeApplied = true from named]

theorem names_eraseDups {completed : Completed} {change : Change} :
    Completed.Names { completed with clientPaths := completed.clientPaths.eraseDups } change ↔ completed.Names change := by
  cases change <;> simp [Completed.Names]

/-- An error that is not the importer's own is reported as the flags say: the report is right exactly
when they name every change. -/
theorem reportPartial_iff {found : Identified} {thrown : Thrown} {error : InstallError} (ordinary : Ordinary thrown)
    (threw : call (reportPartial services found project (.plain thrown)) state = (.error error, after)) :
    Reported error after ↔ ∀ change ∈ state.session.changes, state.completed.Names change := by
  rw [reportPartial, call_bind_ok (call_get state)] at threw
  dsimp only at threw
  split at threw
  · next plain =>
    cases threw
    have unchanged : state.completed.changed = false := plain.resolve_right ordinary
    constructor
    · intro none change member
      rw [Reported] at none
      rw [none] at member
      cases member
    · intro names
      apply List.eq_nil_iff_forall_not_mem.mpr
      intro change member
      exact absurd (names change member).changed (by simp [unchanged])
  · cases threw
    exact forall₂_congr fun change member => names_eraseDups

/-- Where a step throws, the flags name every change exactly if they name those of the import and the step
has made no change that they did not name when it began. -/
theorem Fails.names_iff {thrown : Thrown} (finds : Located located) (fails : Fails located before thrown after) :
    (∀ change ∈ after.session.changes, after.completed.Names change) ↔
      ImportReported located ∧ ThrewReported before thrown after := by
  obtain ⟨follows, stops⟩ := fails
  obtain ⟨made, all⟩ := stops.changes
  rw [stops.completed]
  constructor
  · intro names
    constructor
    · apply (finds.names_iff follows.created follows.associated).mp
      intro change member
      apply names
      rw [← all]
      exact List.mem_append_left _ (follows.kept member)
    · intro more same change member
      apply names
      rw [same]
      exact List.mem_append_right _ member
  · rintro ⟨reported, threw⟩ change member
    rw [← all] at member
    rcases List.mem_append.mp member with earlier | new
    · rcases follows.settled change earlier with imported | named
      · exact (finds.names_iff follows.created follows.associated).mpr reported change imported
      · exact named
    · exact threw made all.symm change new

/-- The same for the whole body. -/
theorem installProject_names (tells : HashesTellFiles services) (finds : Located located)
    {found : Identified} {thrown : Thrown}
    (threw : call (installProject services generated found project) located = (.error thrown, after)) :
    Ordinary thrown ∧ ((∀ change ∈ after.session.changes, after.completed.Names change) ↔
      ImportReported located ∧ ∀ prepared ready, call (prepare services project) located = (.ok prepared, ready) →
        ThrowsOnly ThrewReported (steps services generated found.repositoryId project prepared) ready) := by
  have prepares : Triple (· = located) (prepare services project) _ _ := prepare_unchanged finds.faults
  have prepares := prepares located rfl
  rw [installProject, call_bind] at threw
  cases outcome : call (prepare services project) located with
  | mk answer ready =>
    rw [outcome] at prepares threw
    cases answer with
    | error reason =>
      cases threw
      obtain ⟨ordinary, changes, completed⟩ := prepares
      refine ⟨ordinary, ?_⟩
      rw [changes, completed, finds.names_iff rfl rfl]
      exact ⟨fun reported => ⟨reported, fun _ _ returned => by cases returned⟩, And.left⟩
    | ok prepared =>
      obtain ⟨faults, same, installing⟩ := prepares
      have begins := finds.unchanged faults same
      have chain : Chain (Fails ready) (Beginning ready)
          (steps services generated found.repositoryId project prepared) := steps_chain tells installing
      have stopped : call (inOrder (steps services generated found.repositoryId project prepared)) ready =
          (.error thrown, after) := by
        dsimp only at threw
        rw [call_bind] at threw
        split at threw
        · cases threw
        · next failed =>
          cases threw
          exact failed
      obtain ⟨began, fails, condition⟩ := chain.threw ThrewReported begins.beginning stopped
      refine ⟨fails.2.ordinary, ?_⟩
      have reported : ImportReported ready ↔ ImportReported located := by
        simp only [ImportReported, same.changes, same.completed]
      rw [fails.names_iff begins, reported, ← condition]
      constructor
      · rintro ⟨imported, threw⟩
        refine ⟨imported, fun other state returned => ?_⟩
        cases returned
        exact threw
      · rintro ⟨imported, threw⟩
        exact ⟨imported, threw prepared ready rfl⟩

theorem Fresh.initial {shared : Shared RuntimeTables} {moments : List (Moment RuntimeTables)}
    (faults : ∀ moment ∈ moments, ∀ thrown, moment.fault = some thrown → Ordinary thrown) :
    Fresh (Installation.initial shared moments) :=
  ⟨faults, rfl, rfl⟩

end Steps

section Runs

variable {services : InstallServices} {generated : Generated} {rebind : Bool} {found : Identified} {projectId : String}
  {start identified imported after : Installation} {error : InstallError}

/-- From the import on, a call that throws is reported exactly under the conditions on the lookup and the body. -/
theorem located_reports (tells : HashesTellFiles services) (finds : Located imported)
    (threw : call (do
      let project ← adapt .plain (lookup projectId)
      tryCatch (adapt .plain (installProject services generated found project)) (reportPartial services found project))
      imported = (.error error, after)) :
    Reported error after ↔
      match call (lookup projectId) imported with
      | (.error _, _) => imported.session.changes = []
      | (.ok project, located) =>
        ImportReported located ∧
          ∀ prepared ready, call (prepare services project) located = (.ok prepared, ready) →
            ThrowsOnly ThrewReported (steps services generated found.repositoryId project prepared) ready := by
  have looks := lookup_unchanged finds.faults projectId imported rfl
  rw [call_bind, call_adapt] at threw
  cases looking : call (lookup projectId) imported with
  | mk answer located =>
    rw [looking] at looks threw
    cases answer with
    | error thrown =>
      cases threw
      exact iff_of_eq (congrArg (· = []) looks.changes)
    | ok project =>
      have finds := finds.unchanged looks.1 looks.2
      dsimp only [Except.mapError] at threw
      rw [call_tryCatch, call_adapt] at threw
      cases body : call (installProject services generated found project) located with
      | mk answer stopped =>
        rw [body] at threw
        cases answer with
        | ok result => cases threw
        | error thrown =>
          obtain ⟨ordinary, names⟩ := installProject_names tells finds body
          rw [reportPartial_iff ordinary threw, names]

theorem throwsReported_iff (identifies : call (onSession (identify services generated rebind)) start = (.ok found, identified))
    (imports : call (findOrImport services generated found) identified = (.ok projectId, imported)) :
    ThrowsReported services generated rebind start ↔
      match call (lookup projectId) imported with
      | (.error _, _) => imported.session.changes = []
      | (.ok project, located) =>
        ImportReported located ∧
          ∀ prepared ready, call (prepare services project) located = (.ok prepared, ready) →
            ThrowsOnly ThrewReported (steps services generated found.repositoryId project prepared) ready := by
  constructor
  · intro condition
    exact condition found identified projectId imported identifies imports
  · intro condition other state otherId otherState identifiesAgain importsAgain
    cases identifies.symm.trans identifiesAgain
    cases imports.symm.trans importsAgain
    exact condition

end Runs

/-- An installation that throws says what it changed exactly in the runs in which the lookup of the project
fails only where nothing was imported, an import is reported as one, and the step that throws, if there is
one, has made no change itself that was not reported before. A plan's hash tells its files, and no fault of
the file system or of the database is an error of the importer. -/
theorem install_reports_iff (services : InstallServices) (generated : Generated) (rebind : Bool)
    (shared : Shared RuntimeTables) (moments : List (Moment RuntimeTables)) (error : InstallError) (after : Installation)
    (tells : HashesTellFiles services)
    (faults : ∀ moment ∈ moments, ∀ thrown, moment.fault = some thrown → Ordinary thrown)
    (threw : call (install services generated rebind) (Installation.initial shared moments) = (.error error, after)) :
    Reported error after ↔ ThrowsReported services generated rebind (Installation.initial shared moments) := by
  have fresh := @Fresh.initial shared moments faults
  generalize Installation.initial shared moments = start at fresh threw ⊢
  have identifies : Triple (· = start) (onSession (identify services generated rebind)) _ _ :=
    (reads_identify generated rebind).unchanged fresh.faults
  have identifies := identifies start rfl
  rw [install, call_bind, call_adapt] at threw
  cases identifying : call (onSession (identify services generated rebind)) start with
  | mk answer identified =>
  rw [identifying] at identifies threw
  cases answer with
  | error thrown =>
    cases threw
    refine iff_of_true (identifies.2.changes.trans fresh.changes) ?_
    intro found identified projectId imported returned
    cases identifying.symm.trans returned
  | ok found =>
  have fresh := fresh.unchanged identifies.1 identifies.2.1
  have locates : Triple (· = identified) (findOrImport services generated found) _ _ := findOrImport_locates fresh found
  have locates := locates identified rfl
  dsimp only [Except.mapError] at threw
  rw [call_bind, call_adapt] at threw
  cases importing : call (findOrImport services generated found) identified with
  | mk answer imported =>
  rw [importing] at locates threw
  cases answer with
  | error thrown =>
    cases threw
    refine iff_of_true locates ?_
    intro other state projectId imported identifiesAgain returned
    cases identifying.symm.trans identifiesAgain
    cases importing.symm.trans returned
  | ok projectId =>
    rw [throwsReported_iff identifying importing]
    exact located_reports tells locates threw

section Interruption

def markedPath (path : String) : Text := path.toList.flatMap (fun char => ['.', char]) ++ ['!']

theorem marked_append {first second : List Char} {rest others : Text}
    (same : first.flatMap (fun char => ['.', char]) ++ '!' :: rest =
      second.flatMap (fun char => ['.', char]) ++ '!' :: others) : first = second ∧ rest = others := by
  induction first generalizing second with
  | nil =>
    cases second with
    | nil => exact ⟨rfl, (List.cons.inj same).2⟩
    | cons char second => simp at same
  | cons char first ih =>
    cases second with
    | nil => simp at same
    | cons other second =>
      simp only [List.flatMap_cons, List.cons_append, List.nil_append, List.cons.injEq, true_and] at same
      obtain ⟨tail, rest⟩ := ih same.2
      exact ⟨by rw [same.1, tail], rest⟩

theorem markedPaths_injective : Function.Injective fun paths : List String => paths.flatMap markedPath := by
  intro first second same
  induction first generalizing second with
  | nil =>
    cases second with
    | nil => rfl
    | cons path second => simp [markedPath] at same
  | cons path first ih =>
    cases second with
    | nil => simp [markedPath] at same
    | cons other second =>
      simp only [List.flatMap_cons, markedPath, List.append_assoc, List.singleton_append] at same
      obtain ⟨chars, rest⟩ := marked_append same
      rw [String.toList_inj.mp chars, ih rest]

/-- A checkout that is bound to `repo_1`; no client is on the path. -/
def boundServices : InstallServices where
  digest := String.ofList
  parseJson := fun _ => .ok (bindingRecord "repo_1")
  quote := fun text => '"' :: text.toList ++ ['"']
  projectBindingPlanHash := fun draft => draft.repositoryId
  rootPath := "/work/notes"
  isLegacyCompatibilityPointer := fun _ => false
  isGenerated := fun _ => true
  findExecutable := fun _ => false
  compileProjectInstructions := fun _ => managedProjectInstructionsHeader
  compileProjectSkill := fun _ => managedProjectSkillMarker
  hashDraft := fun draft => String.ofList ((draft.operations.map (·.relativePath)).flatMap markedPath)
  repositoryIdFromLegacyProjectId := fun projectId => projectId
  scan := fun _ => ⟨"notes", none⟩
  defaultManifest := ⟨⟨⟨"Keep notes", [], [], [], []⟩, ⟨"Office", []⟩, []⟩, ⟨"cli", "ai-office", "1"⟩⟩

theorem boundServices_tells : HashesTellFiles boundServices := by
  intro first second same
  exact markedPaths_injective (String.ofList_injective same)

/-- The Runtime knows the project, its source, its repository and its office. -/
def boundRuntime : RuntimeTables where
  projects := [⟨"project-1", "notes", none⟩]
  identities := [⟨"repo_1", "project-1"⟩]
  sources := [⟨"project-1", "/work/notes", none⟩]
  detachments := []
  profileRoots := []
  manifests := [⟨"revision-1", "project-1", 1, boundServices.defaultManifest⟩]

def boundCheckout : Shared RuntimeTables where
  files := fun path =>
    if path = projectBindingFile then some (serializeProjectBinding boundServices.toBindingServices "repo_1") else none
  runtime := boundRuntime

/-- Someone writes the skill when AI-OFFICE.md has been created and the skill is to be created next. -/
def interruption : List (Moment RuntimeTables) :=
  List.replicate 28 ⟨id, none⟩ ++
    [⟨fun shared =>
      { shared with files := Function.update shared.files codexProjectSkillPath (some "mine".toList) }, none⟩]

def generatedIds : Generated := ⟨"1", "2", "3"⟩

def interrupted : Except InstallError ProjectInstallResult × Installation :=
  call (install boundServices generatedIds false) (Installation.initial boundCheckout interruption)

instance (error : InstallError) (after : Installation) : Decidable (Reported error after) := by
  cases error <;> unfold Reported <;> infer_instance

theorem interrupted_error : ∃ error after, interrupted = (.error error, after) ∧ decide (Reported error after) = false := by
  have evaluated : (match interrupted with
      | (.error error, after) => !decide (Reported error after)
      | (.ok _, _) => false) = true := by
    decide +kernel
  split at evaluated
  · next error after threw =>
    rw [Bool.not_eq_true'] at evaluated
    exact ⟨error, after, threw, evaluated⟩
  · cases evaluated

/-- AI-OFFICE.md has been created, and the error says nothing about it. -/
theorem interrupted_unreported : ∃ error after,
    call (install boundServices generatedIds false) (Installation.initial boundCheckout interruption) =
      (.error error, after) ∧ ¬Reported error after := by
  obtain ⟨error, after, threw, unreported⟩ := interrupted_error
  exact ⟨error, after, threw, of_decide_eq_false unreported⟩

theorem install_reports_iff_interrupted : ∃ error after,
    call (install boundServices generatedIds false) (Installation.initial boundCheckout interruption) =
      (.error error, after) ∧
    (Reported error after ↔
      ThrowsReported boundServices generatedIds false (Installation.initial boundCheckout interruption)) := by
  obtain ⟨error, after, threw, -⟩ := interrupted_error
  refine ⟨error, after, threw, install_reports_iff _ _ _ _ _ _ _ boundServices_tells ?_ threw⟩
  intro moment member thrown fault
  rcases List.mem_append.mp member with quiet | last
  · rw [List.eq_of_mem_replicate quiet] at fault
    cases fault
  · rw [List.mem_singleton.mp last] at fault
    cases fault

end Interruption
end AiOffice.Application.ProjectLifecycle
