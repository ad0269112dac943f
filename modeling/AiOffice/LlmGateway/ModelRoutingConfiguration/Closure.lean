import AiOffice.LlmGateway.ModelRoutingConfiguration

namespace AiOffice.LlmGateway

open Domain Application.ModelRouting

variable {services : RoutingServices} {Item : Type} {each : String → Value → Reported (Option Item)}
  {pending : Reported Record} {key subject : String} {raw : Value} {declaredProfiles : List String}

def Grounded (supported : List String) (profiles : FrozenMap ModelProfile) : AgentModelOverride → Prop
  | .profile profile => (profiles profile).isSome
  | .model model => model.providerId ∈ supported

/-- Every profile that is named is defined, and every model has a supported provider. -/
structure Closed (supported : List String) (configuration : ModelRoutingConfiguration) : Prop where
  profiles : ∀ key profile, configuration.profiles key = some profile →
    profile.key = key ∧ profile.providerId ∈ supported
  policies : ∀ policy profile, configuration.policies policy = some profile → (configuration.profiles profile).isSome
  defaultProfile : ∀ profile, configuration.defaultProfile = some profile → (configuration.profiles profile).isSome
  agentOverrides : ∀ agent override, configuration.agentOverrides agent = some override →
    Grounded supported configuration.profiles override
  projectAgentOverrides : ∀ projectId overrides agent override,
    configuration.projectAgentOverrides projectId = some overrides → overrides agent = some override →
    Grounded supported configuration.profiles override
  legacyDefault : ∀ model, configuration.legacyDefault = some model → model.providerId ∈ supported

section Sections

theorem place_apply (map : FrozenMap Item) (entry : String × Value) :
    place each map entry key = if entry.1 = key then (each entry.1 entry.2).result.or (map key) else map key := by
  unfold place
  cases (each entry.1 entry.2).result with
  | none => simp
  | some item =>
    by_cases same : entry.1 = key
    · simp [same]
    · simp [same, Function.update_of_ne (Ne.symm same)]

theorem foldl_place (entries : Record) (map : FrozenMap Item) :
    entries.foldl (place each) map key =
      (entries.filter (·.1 = key)).foldl (fun found entry => (each key entry.2).result.or found) (map key) := by
  induction entries generalizing map with
  | nil => rfl
  | cons entry entries ih =>
    rw [List.foldl_cons, ih, place_apply]
    by_cases same : entry.1 = key
    · rw [List.filter_cons_of_pos (by simpa using same), List.foldl_cons, if_pos same, same]
    · rw [List.filter_cons_of_neg (by simpa using same), if_neg same]

theorem foldl_or_some {entries : Record} {start : Option Item} {item : Item}
    (found : entries.foldl (fun found entry => (each key entry.2).result.or found) start = some item) :
    start = some item ∨ ∃ entry ∈ entries, (each key entry.2).result = some item := by
  induction entries generalizing start with
  | nil => exact .inl found
  | cons entry entries ih =>
    rcases ih found with here | ⟨other, member, there⟩
    · rcases Option.or_eq_some_iff.mp here with own | ⟨-, earlier⟩
      · exact .inr ⟨entry, List.mem_cons_self, own⟩
      · exact .inl earlier
    · exact .inr ⟨other, List.mem_cons_of_mem _ member, there⟩

theorem foldl_or_isSome {entries : Record} {start : Option Item}
    (defined : start.isSome ∨ entries ≠ []) (all : ∀ entry ∈ entries, (each key entry.2).result.isSome) :
    (entries.foldl (fun found entry => (each key entry.2).result.or found) start).isSome := by
  induction entries generalizing start with
  | nil => exact defined.resolve_right (not_not.mpr rfl)
  | cons entry entries ih =>
    obtain ⟨here, later⟩ := List.forall_mem_cons.mp all
    apply ih (.inl ?_) later
    simp [Option.isSome_or, here]

theorem collect_get : (collect each pending).result key =
    (pending.result.filter (·.1 = key)).foldl (fun found entry => (each key entry.2).result.or found) none :=
  foldl_place _ _

theorem collect_some {item : Item} (found : (collect each pending).result key = some item) :
    ∃ raw, (key, raw) ∈ pending.result ∧ (each key raw).result = some item := by
  rw [collect_get] at found
  rcases foldl_or_some found with start | ⟨⟨name, raw⟩, member, returned⟩
  · cases start
  · obtain ⟨inside, same⟩ := List.mem_filter.mp member
    obtain rfl : name = key := by simpa using same
    exact ⟨raw, inside, returned⟩

theorem collect_silent (silent : (collect each pending).issues = []) :
    pending.issues = [] ∧ ∀ entry ∈ pending.result, (each entry.1 entry.2).issues = [] := by
  obtain ⟨first, rest⟩ := List.append_eq_nil_iff.mp silent
  exact ⟨first, List.flatMap_eq_nil_iff.mp rest⟩

theorem collect_defined (named : key ∈ pending.result.map (·.1))
    (all : ∀ entry ∈ pending.result, (each entry.1 entry.2).result.isSome) :
    ((collect each pending).result key).isSome := by
  rw [collect_get]
  obtain ⟨entry, member, same⟩ := List.mem_map.mp named
  apply foldl_or_isSome
  · exact .inr (List.ne_nil_of_mem (List.mem_filter.mpr ⟨member, by simpa using same⟩))
  · intro other inFilter
    obtain ⟨inside, named⟩ := List.mem_filter.mp inFilter
    obtain rfl : other.1 = key := by simpa using named
    exact all other inside

theorem collect_congr {other : Reported Record}
    (same : other.result.filter (·.1 = key) = pending.result.filter (·.1 = key)) :
    (collect each other).result key = (collect each pending).result key := by
  rw [collect_get, collect_get, same]

theorem entries_silent {value : Value} (silent : (entries value subject).issues = []) :
    (entries value subject).result = value.entries := by
  unfold entries at silent ⊢
  split
  · rfl
  · rfl
  · split
    · next large => simp [large] at silent
    · rfl
  · next undefined null map =>
    cases value <;> simp_all

end Sections

section Values

theorem concreteModel_some {value : Value} {model : ConcreteModel}
    (returned : (concreteModel services value subject).result = some model) : model.providerId ∈ services.supported := by
  unfold concreteModel at returned
  split at returned
  · split at returned
    · cases returned
    · split at returned
      · next supported =>
        cases returned
        simpa using supported
      · cases returned
  · cases returned

theorem concreteModel_silent {value : Value} (silent : (concreteModel services value subject).issues = []) :
    (concreteModel services value subject).result.isSome := by
  unfold concreteModel at silent ⊢
  split
  · next text =>
    dsimp only at silent ⊢
    split
    · next none => simp [none] at silent
    · next parsed found =>
      simp only [found] at silent
      split
      · rfl
      · next unsupported =>
        rw [if_neg unsupported] at silent
        cases silent
  · next other =>
    split at silent
    · next text => exact absurd rfl (other text)
    · cases silent

theorem parseProfile_some {profile : ModelProfile} (returned : (parseProfile services key raw).result = some profile) :
    profile.key = key ∧ profile.providerId ∈ services.supported := by
  unfold parseProfile at returned
  dsimp only at returned
  split at returned
  · cases returned
  · split at returned
    · cases returned
    · split at returned
      · cases returned
      · split at returned
        · cases returned
        · obtain ⟨model, found, rfl⟩ := Option.map_eq_some_iff.mp returned
          exact ⟨rfl, concreteModel_some found⟩

/-- Each early exit of the loop over the profiles has recorded an issue. -/
theorem parseProfile_silent (silent : (parseProfile services key raw).issues = []) :
    (parseProfile services key raw).result.isSome := by
  unfold parseProfile at silent ⊢
  dsimp only at silent ⊢
  split
  · next invalid => simp [invalid] at silent
  · next valid =>
    rw [if_neg valid] at silent
    split
    · next noMap => simp [noMap] at silent
    · next value map =>
      simp only [map] at silent
      split
      · next effort => simp [effort] at silent
      · next effort read =>
        simp only [read] at silent
        split
        · next tokens => simp [tokens] at silent
        · next tokens counted =>
          simp only [counted] at silent
          rw [Option.isSome_map]
          exact concreteModel_silent (List.append_eq_nil_iff.mp silent).2

theorem parsePolicy_some {profile : String} (returned : (parsePolicy declaredProfiles key raw).result = some profile) :
    profile ∈ declaredProfiles := by
  unfold parsePolicy at returned
  dsimp only at returned
  split at returned
  · split at returned
    · cases returned
    · split at returned
      · next declared =>
        cases returned
        simpa using declared
      · cases returned
  · cases returned

theorem parseDefaultProfile_some {profile : String}
    (returned : (parseDefaultProfile declaredProfiles raw).result = some profile) : profile ∈ declaredProfiles := by
  unfold parseDefaultProfile at returned
  dsimp only at returned
  split at returned
  · cases returned
  · cases returned
  · split at returned
    · next declared =>
      cases returned
      simpa using declared
    · cases returned
  · cases returned

theorem parseAgentOverride_some {profiles : FrozenMap ModelProfile} {override : AgentModelOverride}
    (defined : ∀ profile ∈ declaredProfiles, (profiles profile).isSome)
    (returned : (parseAgentOverride services subject declaredProfiles key raw).result = some override) :
    Grounded services.supported profiles override := by
  unfold parseAgentOverride at returned
  dsimp only at returned
  split at returned
  · cases returned
  · split at returned
    · cases returned
    · split at returned
      · obtain ⟨model, found, rfl⟩ := Option.map_eq_some_iff.mp returned
        exact concreteModel_some found
      · split at returned
        · split at returned
          · next declared =>
            cases returned
            exact defined _ (by simpa using declared)
          · cases returned
        · cases returned

theorem parseAgentOverrides_some {profiles : FrozenMap ModelProfile} {override : AgentModelOverride} {agent : String}
    (defined : ∀ profile ∈ declaredProfiles, (profiles profile).isSome)
    (found : (parseAgentOverrides services raw subject declaredProfiles).result agent = some override) :
    Grounded services.supported profiles override := by
  obtain ⟨raw, -, returned⟩ := collect_some found
  exact parseAgentOverride_some defined returned

theorem parseProject_some {profiles : FrozenMap ModelProfile} {overrides : FrozenMap AgentModelOverride}
    {override : AgentModelOverride} {agent : String}
    (defined : ∀ profile ∈ declaredProfiles, (profiles profile).isSome)
    (returned : (parseProject services declaredProfiles key raw).result = some overrides)
    (found : overrides agent = some override) : Grounded services.supported profiles override := by
  unfold parseProject at returned
  dsimp only at returned
  split at returned
  · cases returned
  · cases returned
    exact parseAgentOverrides_some defined found

theorem legacyDefault_some {setting provider : Option String} {model : ConcreteModel}
    (returned : (legacyDefault services setting provider).result = some model) : model.providerId ∈ services.supported := by
  unfold legacyDefault at returned
  split at returned
  · cases returned
  · split at returned
    · cases returned
    · exact concreteModel_some returned

end Values

section Closure

variable {legacy : Option ConcreteModel} {environment : String → Option String}

theorem parseDocument_closed {document : Value} (silent : (parseDocument services document).issues = [])
    (supported : ∀ model, legacy = some model → model.providerId ∈ services.supported) :
    Closed services.supported (configurationOf (parseDocument services document).result legacy) := by
  unfold parseDocument at silent ⊢
  split
  · next noMap => simp [noMap] at silent
  · next root map =>
    simp only [map, List.append_eq_nil_iff] at silent
    obtain ⟨⟨⟨⟨⟨-, profiles⟩, -⟩, -⟩, -⟩, -⟩ := silent
    have defined : ∀ profile ∈ (entries (Record.get root "profiles") "profiles").result.map (·.1),
        ((collect (parseProfile services) (entries (Record.get root "profiles") "profiles")).result profile).isSome :=
      fun profile named => collect_defined named fun entry member =>
        parseProfile_silent ((collect_silent profiles).2 entry member)
    exact {
      profiles := fun key profile found => by
        obtain ⟨raw, -, returned⟩ := collect_some found
        exact parseProfile_some returned
      policies := fun policy profile found => by
        obtain ⟨raw, -, returned⟩ := collect_some found
        exact defined profile (parsePolicy_some returned)
      defaultProfile := fun profile found => defined profile (parseDefaultProfile_some found)
      agentOverrides := fun agent override found => parseAgentOverrides_some defined found
      projectAgentOverrides := fun projectId overrides agent override placed found => by
        obtain ⟨raw, -, returned⟩ := collect_some placed
        exact parseProject_some defined returned found
      legacyDefault := supported }

theorem findings_closed (silent : (findings services environment).issues = []) :
    Closed services.supported (findings services environment).configuration := by
  unfold findings at silent ⊢
  simp only [List.append_eq_nil_iff] at silent
  obtain ⟨⟨-, documentSilent⟩, -⟩ := silent
  dsimp only
  generalize routingFile services _ _ _ = file at documentSilent ⊢
  unfold readDocument at documentSilent ⊢
  dsimp only at documentSilent ⊢
  have none (legacy : Option ConcreteModel) (supported : ∀ model, legacy = some model → model.providerId ∈ services.supported) :
      Closed services.supported (configurationOf .empty legacy) :=
    ⟨nofun, nofun, nofun, nofun, nofun, supported⟩
  split
  · exact none _ fun model => legacyDefault_some
  · next text known =>
    simp only [known] at documentSilent
    split
    · exact none _ fun model => legacyDefault_some
    · next fits =>
      rw [if_neg fits] at documentSilent
      split
      · exact none _ fun model => legacyDefault_some
      · next parsed read =>
        simp only [read] at documentSilent
        exact parseDocument_closed documentSilent fun model => legacyDefault_some

theorem load_configured {sources : ModelRoutingSources} {configuration : ModelRoutingConfiguration}
    {warnings : List ModelRoutingIssue}
    (loaded : loadModelRoutingState services environment = .configured sources configuration warnings) :
    (findings services environment).issues = [] ∧ configuration = (findings services environment).configuration := by
  unfold loadModelRoutingState at loaded
  dsimp only at loaded
  split at loaded
  · cases loaded
  · next silent =>
    split at loaded
    · cases loaded
    · cases loaded
      exact ⟨not_not.mp silent, rfl⟩

end Closure

section Resolution

variable {configuration : ModelRoutingConfiguration} {supported : List String} {agent : AgentModelSubject}

/-- The outcome is that of the first rule of the precedence that names something. -/
def SelectsFirst (configuration : ModelRoutingConfiguration) (agent : AgentModelSubject)
    (outcome : Except ModelRoutingError AgentRunModelRouting) : Prop :=
  match firstApplicable (precedence configuration agent) with
  | none => ∃ message, outcome = .error ⟨.modelPolicyUnresolved, message⟩
  | some (source, .profile key) =>
    ∃ profile, configuration.profiles key = some profile ∧ profile.key = key ∧
      outcome = .ok (.resolved (ofProfile profile agent source))
  | some (source, .model model) => outcome = .ok (.resolved (concrete model agent source))

theorem fromProfile_defined (closed : Closed supported configuration) {key : String} {source : ModelSelectionSource}
    (defined : (configuration.profiles key).isSome) :
    ∃ profile, configuration.profiles key = some profile ∧ profile.key = key ∧
      fromProfile configuration key agent source = .ok (ofProfile profile agent source) := by
  obtain ⟨profile, found⟩ := Option.isSome_iff_exists.mp defined
  exact ⟨profile, found, (closed.profiles key profile found).1, by rw [fromProfile, found]⟩

theorem resolve_selects {sources : ModelRoutingSources} {warnings : List ModelRoutingIssue}
    (closed : Closed supported configuration) :
    SelectsFirst configuration agent (resolveAgentRunModel (.configured sources configuration warnings) agent) := by
  have named {key : String} {source : ModelSelectionSource} (defined : (configuration.profiles key).isSome) :
      ∃ profile, configuration.profiles key = some profile ∧ profile.key = key ∧
        (AgentRunModelRouting.resolved <$> fromProfile configuration key agent source) =
          .ok (.resolved (ofProfile profile agent source)) := by
    obtain ⟨profile, found, same, returned⟩ := @fromProfile_defined configuration supported agent closed key source defined
    exact ⟨profile, found, same, by rw [returned]; rfl⟩
  have overridden {override : AgentModelOverride} {source : ModelSelectionSource}
      (grounded : Grounded supported configuration.profiles override) :
      match override with
      | .profile key => ∃ profile, configuration.profiles key = some profile ∧ profile.key = key ∧
          fromOverride configuration override agent source = .ok (.resolved (ofProfile profile agent source))
      | .model model => fromOverride configuration override agent source = .ok (.resolved (concrete model agent source)) := by
    cases override with
    | profile key =>
      obtain ⟨profile, found, same, returned⟩ := @named key source grounded
      exact ⟨profile, found, same, returned⟩
    | model model => rfl
  unfold SelectsFirst resolveAgentRunModel
  dsimp only
  simp only [firstApplicable, precedence]
  cases project : (configuration.projectAgentOverrides agent.projectId).bind fun overrides => overrides agent.agentName with
  | some override =>
    obtain ⟨overrides, placed, found⟩ := Option.bind_eq_some_iff.mp project
    have chosen := @overridden override .projectAgentOverride
      (closed.projectAgentOverrides _ overrides _ override placed found)
    cases override <;> exact chosen
  | none =>
    cases global : configuration.agentOverrides agent.agentName with
    | some override =>
      have chosen := @overridden override .agentOverride (closed.agentOverrides _ override global)
      cases override <;> exact chosen
    | none =>
      cases policy : configuration.policies agent.modelPolicy with
      | some key => exact named (closed.policies _ key policy)
      | none =>
        cases direct : configuration.profiles agent.modelPolicy with
        | some profile => exact @named agent.modelPolicy .rolePolicy (by rw [direct]; rfl)
        | none =>
          cases fallback : configuration.defaultProfile with
          | some key => exact named (closed.defaultProfile key fallback)
          | none =>
            cases legacy : configuration.legacyDefault with
            | some model => rfl
            | none => exact ⟨_, rfl⟩

end Resolution

section Locality

variable {projectId : String} {configuration changed : ModelRoutingConfiguration} {document other : Value}
  {environment : String → Option String} {parseYaml : String → Option Value}

/-- Documents that differ in nothing but the overrides of other projects. -/
def DiffersElsewhere (projectId : String) (document changed : Value) : Prop :=
  ∃ root other, document = .object root ∧ changed = .object other ∧
    (∀ key ∈ ["profiles", "policies", "default_profile", "agents"], Record.get other key = Record.get root key) ∧
    (Record.get other "projects").entries.filter (·.1 = projectId) =
      (Record.get root "projects").entries.filter (·.1 = projectId)

structure AgreesFor (projectId : String) (configuration changed : ModelRoutingConfiguration) : Prop where
  profiles : changed.profiles = configuration.profiles
  policies : changed.policies = configuration.policies
  defaultProfile : changed.defaultProfile = configuration.defaultProfile
  agentOverrides : changed.agentOverrides = configuration.agentOverrides
  projectAgentOverrides : changed.projectAgentOverrides projectId = configuration.projectAgentOverrides projectId
  legacyDefault : changed.legacyDefault = configuration.legacyDefault

theorem parseDocument_elsewhere {legacy : Option ConcreteModel} (differs : DiffersElsewhere projectId document other)
    (silent : (parseDocument services document).issues = []) (alsoSilent : (parseDocument services other).issues = []) :
    AgreesFor projectId (configurationOf (parseDocument services document).result legacy)
      (configurationOf (parseDocument services other).result legacy) := by
  obtain ⟨root, changed, rfl, rfl, same, kept⟩ := differs
  simp only [List.forall_mem_cons, List.not_mem_nil, false_implies, implies_true, and_true] at same
  obtain ⟨profiles, policies, defaultProfile, agents⟩ := same
  simp only [parseDocument, record, List.append_eq_nil_iff] at silent alsoSilent
  have projects := entries_silent (collect_silent silent.2).1
  have otherProjects := entries_silent (collect_silent alsoSilent.2).1
  simp only [parseDocument, record, configurationOf, profiles, policies, defaultProfile, agents]
  refine ⟨rfl, rfl, rfl, rfl, collect_congr ?_, rfl⟩
  rw [projects, otherProjects, kept]

theorem findings_elsewhere
    (differs : ∀ text, parseYaml text = services.parseYaml text ∨
      ∃ document changed, services.parseYaml text = some document ∧ parseYaml text = some changed ∧
        DiffersElsewhere projectId document changed)
    (silent : (findings services environment).issues = [])
    (alsoSilent : (findings { services with parseYaml } environment).issues = []) :
    AgreesFor projectId (findings services environment).configuration
      (findings { services with parseYaml } environment).configuration := by
  simp only [findings, List.append_eq_nil_iff] at silent alsoSilent
  obtain ⟨⟨-, documentSilent⟩, -⟩ := silent
  obtain ⟨⟨-, otherSilent⟩, -⟩ := alsoSilent
  -- Nothing but the document is read with the parser.
  have file (managed : Bool) (setting home : Option String) :
      routingFile { services with parseYaml } managed setting home = routingFile services managed setting home := rfl
  have legacy (setting provider : Option String) :
      legacyDefault { services with parseYaml } setting provider = legacyDefault services setting provider := rfl
  have parsing (document : Value) : parseDocument { services with parseYaml } document = parseDocument services document := rfl
  simp only [findings, legacy]
  rw [file] at otherSilent ⊢
  generalize routingFile services _ _ _ = read at documentSilent otherSilent ⊢
  generalize (legacyDefault services _ _).result = model
  have same : AgreesFor projectId (configurationOf .empty model) (configurationOf .empty model) :=
    ⟨rfl, rfl, rfl, rfl, rfl, rfl⟩
  unfold readDocument at documentSilent otherSilent ⊢
  dsimp only at documentSilent otherSilent ⊢
  cases known : read.text with
  | none => exact same
  | some text =>
    simp only [known] at documentSilent otherSilent ⊢
    split
    · exact same
    · next fits =>
      rw [if_neg fits] at documentSilent otherSilent
      rcases differs text with unchanged | ⟨document, other, first, second, differs⟩
      · rw [unchanged]
        cases services.parseYaml text with
        | none => exact same
        | some document => exact ⟨rfl, rfl, rfl, rfl, rfl, rfl⟩
      · simp only [first, second, parsing] at documentSilent otherSilent ⊢
        exact parseDocument_elsewhere differs documentSilent otherSilent

theorem resolve_agrees {agent : AgentModelSubject} {sources alsoSources : ModelRoutingSources}
    {warnings alsoWarnings : List ModelRoutingIssue} (agrees : AgreesFor agent.projectId configuration changed) :
    resolveAgentRunModel (.configured alsoSources changed alsoWarnings) agent =
      resolveAgentRunModel (.configured sources configuration warnings) agent := by
  simp only [resolveAgentRunModel, fromOverride, fromProfile, agrees.profiles, agrees.policies, agrees.defaultProfile,
    agrees.agentOverrides, agrees.projectAgentOverrides, agrees.legacyDefault]

end Locality

/-- A problem makes every resolution throw. A configured state names no undefined profile and no unsupported
provider, its first applicable rule selects, and the overrides of other projects do not matter. -/
theorem modelRouting_failsClosed (services : RoutingServices) (environment : String → Option String) :
    ((findings services environment).issues ≠ [] →
      (∃ sources issues warnings, loadModelRoutingState services environment = .misconfigured sources issues warnings) ∧
      ∀ agent, ∃ message, resolveAgentRunModel (loadModelRoutingState services environment) agent =
        .error ⟨.modelRoutingMisconfigured, message⟩) ∧
    ∀ sources configuration warnings,
      loadModelRoutingState services environment = .configured sources configuration warnings →
      Closed services.supported configuration ∧
      ∀ agent,
        (∀ message, resolveAgentRunModel (loadModelRoutingState services environment) agent ≠
          .error ⟨.modelProfileUndefined, message⟩) ∧
        SelectsFirst configuration agent (resolveAgentRunModel (loadModelRoutingState services environment) agent) ∧
        ∀ parseYaml : String → Option Value,
          (∀ text, parseYaml text = services.parseYaml text ∨
            ∃ document changed, services.parseYaml text = some document ∧ parseYaml text = some changed ∧
              DiffersElsewhere agent.projectId document changed) →
          (∃ sources configuration warnings,
            loadModelRoutingState { services with parseYaml } environment = .configured sources configuration warnings) →
          resolveAgentRunModel (loadModelRoutingState { services with parseYaml } environment) agent =
            resolveAgentRunModel (loadModelRoutingState services environment) agent := by
  constructor
  · intro problem
    have loaded : loadModelRoutingState services environment = .misconfigured (findings services environment).sources
        (findings services environment).issues (findings services environment).warnings := by
      rw [loadModelRoutingState]
      exact if_pos problem
    rw [loaded]
    exact ⟨⟨_, _, _, rfl⟩, fun agent => ⟨_, rfl⟩⟩
  · intro sources configuration warnings loaded
    obtain ⟨silent, rfl⟩ := load_configured loaded
    have closed := findings_closed silent
    refine ⟨closed, fun agent => ?_⟩
    rw [loaded]
    have selects := @resolve_selects _ _ agent sources warnings closed
    refine ⟨fun message reported => ?_, selects, ?_⟩
    · rw [reported, SelectsFirst] at selects
      split at selects
      · obtain ⟨_, other⟩ := selects
        cases other
      · obtain ⟨_, -, -, other⟩ := selects
        cases other
      · cases selects
    · rintro parseYaml differs ⟨alsoSources, changed, alsoWarnings, alsoLoaded⟩
      obtain ⟨alsoSilent, rfl⟩ := load_configured alsoLoaded
      rw [alsoLoaded]
      exact resolve_agrees (findings_elsewhere differs silent alsoSilent)

end AiOffice.LlmGateway
