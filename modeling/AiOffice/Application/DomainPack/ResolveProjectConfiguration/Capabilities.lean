import AiOffice.Application.DomainPack.ManageProjectDefinitions.Exportable
import AiOffice.Application.DomainPack.ResolveProjectConfiguration.Order

namespace AiOffice.Application.DomainPack

open Data Outcome Domain DomainPackContracts

variable {input : ConfigurationInput} {source : EffectiveSource} {closure : List DomainPackManifest}
  {definitions later : List ResolvedDefinition} {definition : ResolvedDefinition} {packs selected : List PackIdentity}
  {overrides : List CheckedOverride} {override : CheckedOverride} {holds : ResolvedDefinition → Prop}

inductive Contributed (closure : List DomainPackManifest) : ResolvedDefinition → Prop
  | intro {pack : PackIdentity} {manifest : DomainPackManifest} {kind : ContributionKind} {item : Contribution}
      (found : manifestOf closure pack = some manifest) (member : item ∈ manifest.contributions kind) :
      Contributed closure ⟨.pack pack kind item.localId, true, item.toDefinition, .packOwned none⟩

theorem addPacks_each (each : ∀ definition, Contributed closure definition → holds definition)
    (before : ∀ definition ∈ definitions, holds definition)
    (added : packs.foldlM (addPack closure) definitions = .ok later) : ∀ definition ∈ later, holds definition := by
  induction packs generalizing definitions with
  | nil =>
    cases added
    exact before
  | cons pack packs ih =>
    rw [List.foldlM_cons] at added
    obtain ⟨middle, first, rest⟩ := bind_ok added
    obtain ⟨manifest, found, rfl, -, -⟩ := addPack_ok first
    refine ih (fun definition member => ?_) rest
    rcases List.mem_append.mp member with old | new
    · exact before definition old
    · obtain ⟨kind, -, inKind⟩ := List.mem_flatMap.mp new
      obtain ⟨item, contributed, rfl⟩ := List.mem_map.mp inKind
      exact each _ (.intro found contributed)

theorem applyOverrides_each
    (each : ∀ override ∈ overrides, ∀ current next, holds current → current.effectiveId = override.effectiveId →
      overrideDefinition current override.operation override.payload = .ok next →
      holds { next with provenance := .packOwned (some (override.operation, override.revision)) })
    (before : ∀ definition ∈ definitions, holds definition)
    (applied : overrides.foldlM (applyOverride selected) definitions = .ok later) :
    ∀ definition ∈ later, holds definition := by
  induction overrides generalizing definitions with
  | nil =>
    cases applied
    exact before
  | cons override overrides ih =>
    rw [List.foldlM_cons] at applied
    obtain ⟨middle, first, rest⟩ := bind_ok applied
    obtain ⟨-, current, next, found, -, overridden, rfl⟩ := applyOverride_ok first
    obtain ⟨member, named⟩ := findDefinition_found found
    refine ih (fun other inOverrides => each other (List.mem_cons_of_mem _ inOverrides)) (fun definition inLater => ?_) rest
    obtain ⟨old, inDefinitions, rfl⟩ := List.mem_map.mp inLater
    split
    · exact each override List.mem_cons_self current next (before current member) named overridden
    · exact before old inDefinitions

/-- What holds of the definitions of the packs and of the project, and is kept by an override, holds of every definition
of a configuration. -/
theorem effectiveSource_each (resolved : effectiveSource input = .ok source)
    (packs : ∀ definition, Contributed source.closure definition → holds definition)
    (owned : ∀ entry checked, storedOwnedDefinition entry = .ok checked → holds checked.resolved)
    (overridden : ∀ entry override, storedOverride entry = .ok override → ∀ current next, holds current →
      current.effectiveId = override.effectiveId →
      overrideDefinition current override.operation override.payload = .ok next →
      holds { next with provenance := .packOwned (some (override.operation, override.revision)) }) :
    ∀ definition ∈ source.definitions, holds definition := by
  obtain ⟨_, -, resolved⟩ := bind_ok resolved
  obtain ⟨closure, -, resolved⟩ := bind_ok resolved
  obtain ⟨_, -, resolved⟩ := bind_ok resolved
  obtain ⟨ofPacks, packsAdded, resolved⟩ := bind_ok resolved
  obtain ⟨checkedOwned, ownedChecked, resolved⟩ := bind_ok resolved
  obtain ⟨withOwned, ownedAdded, resolved⟩ := bind_ok resolved
  obtain ⟨checkedOverrides, overridesChecked, resolved⟩ := bind_ok resolved
  obtain ⟨definitions, applied, resolved⟩ := bind_ok resolved
  cases resolved
  have contributed := addPacks_each packs (fun _ none => absurd none List.not_mem_nil) packsAdded
  obtain ⟨rfl, -⟩ := addAllOwned_ok ownedAdded
  refine applyOverrides_each (fun override member => ?_) (fun definition member => ?_) applied
  · obtain ⟨stored, -, accepted⟩ := Outcome.mapM_mem overridesChecked (mem_sortOn.mp member)
    exact overridden stored override accepted
  · rcases List.mem_append.mp member with ofPack | ofProject
    · exact contributed definition ofPack
    · obtain ⟨entry, inOwned, rfl⟩ := List.mem_map.mp ofProject
      obtain ⟨stored, -, accepted⟩ := Outcome.mapM_mem ownedChecked (mem_sortOn.mp inOwned)
      exact owned stored entry accepted

theorem effectiveSource_closure (resolved : effectiveSource input = .ok source) :
    resolveInstalledPackManifests input.catalog input.binding.packs = .ok source.closure := by
  obtain ⟨_, -, resolved⟩ := bind_ok resolved
  obtain ⟨closure, closed, resolved⟩ := bind_ok resolved
  obtain ⟨_, -, resolved⟩ := bind_ok resolved
  obtain ⟨_, -, resolved⟩ := bind_ok resolved
  obtain ⟨_, -, resolved⟩ := bind_ok resolved
  obtain ⟨_, -, resolved⟩ := bind_ok resolved
  obtain ⟨_, -, resolved⟩ := bind_ok resolved
  obtain ⟨_, -, resolved⟩ := bind_ok resolved
  cases resolved
  exact (mapError_ok packFailure).mp closed

end AiOffice.Application.DomainPack

namespace AiOffice.Application.DomainPack

open Data Outcome Domain DomainPackContracts

/-- The capabilities that the manifest of an exact pack declares for a role. -/
def capabilitiesOfRole (closure : List DomainPackManifest) (pack : PackIdentity) (role : String) : List String :=
  (((manifestOf closure pack).bind fun manifest => manifest.find .roles role).bind fun entry => entry.capabilities).getD []

/-- The role of a pack has the capabilities of its manifest, and what the project owns has none. -/
structure Declared (closure : List DomainPackManifest) (definition : ResolvedDefinition) : Prop where
  role : ∀ pack localId, definition.effectiveId = .pack pack .roles localId →
    definition.payload.capabilities.getD [] = capabilitiesOfRole closure pack localId
  owned : ∀ kind localId, definition.effectiveId = .project kind localId → definition.payload.capabilities = none

/-- The capabilities of a configuration are those that the manifests of its closure declare. -/
structure CapabilitiesDeclared (closure : List DomainPackManifest) (configuration : ResolvedProjectConfiguration) : Prop where
  packAgents : ∀ agent ∈ configuration.agents, ∀ pack kind localId, agent.effectiveId = .pack pack kind localId →
    ∀ capability ∈ agent.capabilities, ∃ role name, agent.roleId = some (.pack pack.id .roles role) ∧
      capability = .pack pack.id .capabilities name ∧ name ∈ capabilitiesOfRole closure pack role
  projectAgents : ∀ agent ∈ configuration.agents, ∀ kind localId, agent.effectiveId = .project kind localId →
    agent.capabilities = []
  packRoles : ∀ role ∈ configuration.roles, ∀ pack kind localId, role.effectiveId = .pack pack kind localId →
    role.capabilities = (capabilitiesOfRole closure pack localId).map fun name => .pack pack.id .capabilities name
  projectRoles : ∀ role ∈ configuration.roles, ∀ kind localId, role.effectiveId = .project kind localId →
    role.capabilities = []
  projectDefinitions : ∀ entry ∈ configuration.effectiveDefinitions, ∀ definition ∈ entry.2, ∀ kind localId,
    definition.effectiveId = .project kind localId → definition.payload.capabilities = none

variable {input : ConfigurationInput} {source : EffectiveSource} {closure : List DomainPackManifest}
  {definitions later : List ResolvedDefinition} {definition target agent : ResolvedDefinition} {pack : PackIdentity}
  {packs selected : List PackIdentity} {manifest : DomainPackManifest} {name : EffectiveId}

theorem parseDefinitionPayload_unprivileged {value : Value} {id : String} {extension : Bool} {kind : Option ContributionKind}
    {payload : DefinitionPayload} (parsed : parseDefinitionPayload value id extension kind = .ok payload) :
    payload.capabilities = none := by
  obtain ⟨item, common, -, described, field⟩ := parseDefinitionPayload_ok parsed
  obtain ⟨title, description, rfl⟩ := described.shape
  cases field <;> rfl

theorem parsePutOwned_shape {item : Record} {expected : Option Int} {mutation : ProjectDefinitionMutation}
    (parsed : parsePutOwned item expected = .ok mutation) :
    ∃ kind id payload enabled, mutation = .putOwned kind id payload enabled expected := by
  obtain ⟨_, -, parsed⟩ := bind_ok parsed
  obtain ⟨_, -, parsed⟩ := bind_ok parsed
  obtain ⟨_, -, parsed⟩ := bind_ok parsed
  obtain ⟨_, -, parsed⟩ := bind_ok parsed
  split at parsed
  · obtain ⟨_, -, parsed⟩ := bind_ok parsed
    cases parsed
    exact ⟨_, _, _, _, rfl⟩
  · cases parsed

theorem parsePutOverride_shape {item : Record} {expected : Option Int} {mutation : ProjectDefinitionMutation}
    (parsed : parsePutOverride item expected = .ok mutation) : ∃ source operation payload,
      mutation = .putOverride source operation payload expected ∧
      ∀ found ∈ payload, ∃ value, parseOverridePayload source operation value = .ok found := by
  obtain ⟨_, -, parsed⟩ := bind_ok parsed
  obtain ⟨_, -, parsed⟩ := bind_ok parsed
  obtain ⟨_, -, parsed⟩ := bind_ok parsed
  obtain ⟨_, -, parsed⟩ := bind_ok parsed
  split at parsed
  · cases parsed
    exact ⟨_, _, _, rfl, by simp⟩
  · obtain ⟨read, accepted, parsed⟩ := bind_ok parsed
    cases parsed
    refine ⟨_, _, _, rfl, fun found same => ?_⟩
    obtain rfl := Option.mem_some_iff.mp same
    exact ⟨_, accepted⟩

theorem storedOwnedDefinition_unprivileged {entry : ProjectOwnedDefinition} {checked : CheckedDefinition}
    (stored : storedOwnedDefinition entry = .ok checked) : checked.payload.capabilities = none := by
  obtain ⟨_, -, stored⟩ := bind_ok stored
  obtain ⟨_, -, stored⟩ := bind_ok stored
  split at stored
  · next parsed =>
    cases stored
    obtain ⟨item, -, ⟨_, owned⟩ | ⟨_, _, same⟩ | ⟨_, overridden⟩ | ⟨_, same⟩⟩ := parseDefinitionMutation_cases parsed
    · cases parsePutOwned_ok owned with
      | putOwned _ _ _ unprivileged => exact unprivileged
    · cases same
    · obtain ⟨_, _, _, same, -⟩ := parsePutOverride_shape overridden
      cases same
    · cases same
  · cases stored
  · cases stored

theorem storedOverride_unprivileged {entry : ProjectDefinitionOverride} {override : CheckedOverride}
    (stored : storedOverride entry = .ok override) (role : override.source.kind = .roles) :
    ∀ payload ∈ override.payload, payload.capabilities = none := by
  intro payload given
  unfold storedOverride at stored
  split at stored
  · next parsed =>
    obtain ⟨_, -, stored⟩ := bind_ok stored
    cases stored
    dsimp only at role given
    obtain ⟨item, -, ⟨_, owned⟩ | ⟨_, _, same⟩ | ⟨_, overridden⟩ | ⟨_, same⟩⟩ := parseDefinitionMutation_cases parsed
    · obtain ⟨_, _, _, _, same⟩ := parsePutOwned_shape owned
      cases same
    · cases same
    · obtain ⟨_, _, _, same, accepts⟩ := parsePutOverride_shape overridden
      cases same
      obtain ⟨value, accepted⟩ := accepts payload given
      simp only [parseOverridePayload, role, reduceCtorEq, and_false, if_false] at accepted
      exact parseDefinitionPayload_unprivileged accepted
    · cases same
  · cases stored
  · cases stored

theorem find_contribution {kind : ContributionKind} {item : Contribution} (member : item ∈ manifest.contributions kind) :
    manifest.find kind item.localId = some item := by
  have unique := manifest.valid.unique kind
  unfold DomainPackManifest.find
  generalize manifest.contributions kind = items at member unique
  induction items with
  | nil => cases member
  | cons first items ih =>
    rw [List.map_cons, List.nodup_cons] at unique
    rcases List.mem_cons.mp member with rfl | later
    · simp
    · have other : first.localId ≠ item.localId := fun same => unique.1 (same ▸ List.mem_map_of_mem later)
      rw [List.find?_cons_of_neg (by simpa using other)]
      exact ih later unique.2

theorem Contributed.declared (contributed : Contributed closure definition) : Declared closure definition := by
  obtain ⟨found, member⟩ := contributed
  refine ⟨fun other localId same => ?_, nofun⟩
  cases same
  rw [capabilitiesOfRole, found, Option.bind_some, find_contribution member]
  rfl

theorem overrideDefinition_capabilities {operation : OverrideOperation} {payload : Option DefinitionPayload}
    {current next : ResolvedDefinition} (overridden : overrideDefinition current operation payload = .ok next)
    (role : current.kind = .roles) (unprivileged : ∀ given ∈ payload, given.capabilities = none) :
    next.payload.capabilities = current.payload.capabilities := by
  unfold overrideDefinition at overridden
  dsimp only at overridden
  split at overridden
  · cases overridden
    rfl
  · cases overridden
    simp [replaceDefinition, role, unprivileged _ rfl]
  · split at overridden
    · cases overridden
      simp [extendDefinition, unprivileged _ rfl]
    · cases overridden
  · cases overridden

theorem overrideDefinition_declared {override : CheckedOverride} {current next : ResolvedDefinition}
    {provenance : DefinitionProvenance} (before : Declared closure current)
    (unprivileged : override.source.kind = .roles → ∀ payload ∈ override.payload, payload.capabilities = none)
    (named : current.effectiveId = override.effectiveId)
    (overridden : overrideDefinition current override.operation override.payload = .ok next) :
    Declared closure { next with provenance } := by
  have same := overrideDefinition_id overridden
  constructor
  · intro pack localId ofRole
    have kind : override.source.kind = .roles := by
      have kinds := congrArg EffectiveId.kind (same.symm.trans ofRole)
      rw [named] at kinds
      exact kinds
    have role : current.kind = .roles := by rw [ResolvedDefinition.kind, named]; exact kind
    rw [show next.payload.capabilities = _ from overrideDefinition_capabilities overridden role (unprivileged kind)]
    exact before.role pack localId (same.symm.trans ofRole)
  · intro kind localId ofProject
    have ofPack := same.symm.trans ofProject
    rw [named] at ofPack
    cases ofPack

theorem effectiveSource_declared (resolved : effectiveSource input = .ok source) :
    resolveInstalledPackManifests input.catalog input.binding.packs = .ok source.closure ∧
      ∀ definition ∈ source.definitions, Declared source.closure definition := by
  refine ⟨effectiveSource_closure resolved, effectiveSource_each resolved (fun _ contributed => contributed.declared) ?_ ?_⟩
  · intro entry checked stored
    exact ⟨nofun, fun _ _ _ => storedOwnedDefinition_unprivileged stored⟩
  · intro entry override stored current next before named overridden
    exact overrideDefinition_declared before (storedOverride_unprivileged stored) named overridden

theorem viewsOf_mem {View : Type} {noun : String} {view : ResolvedDefinition → Resolved View} {seen : List StableId}
    {views : List View × List StableId} (viewed : viewsOf noun view seen definitions = .ok views) :
    ∀ found ∈ views.1, ∃ definition ∈ definitions, definition.enabled = true ∧ view definition = .ok found := by
  induction definitions generalizing seen views with
  | nil =>
    cases viewed
    simp
  | cons definition rest ih =>
    rw [viewsOf] at viewed
    obtain ⟨_, -, viewed⟩ := bind_ok viewed
    split at viewed
    · next enabled =>
      obtain ⟨first, here, viewed⟩ := bind_ok viewed
      obtain ⟨others, later, viewed⟩ := bind_ok viewed
      cases viewed
      intro found member
      rcases List.mem_cons.mp member with rfl | member
      · exact ⟨definition, List.mem_cons_self, enabled, here⟩
      · obtain ⟨other, inRest, rest⟩ := ih later found member
        exact ⟨other, List.mem_cons_of_mem _ inRest, rest⟩
    · obtain ⟨others, later, viewed⟩ := bind_ok viewed
      cases viewed
      intro found member
      obtain ⟨other, inRest, rest⟩ := ih later found member
      exact ⟨other, List.mem_cons_of_mem _ inRest, rest⟩

theorem ofKind_mem {kind : ContributionKind} (member : definition ∈ source.ofKind kind) :
    definition ∈ source.definitions ∧ definition.kind = kind := by
  rw [EffectiveSource.ofKind, List.mem_filter] at member
  exact ⟨mem_sortOn.mp member.1, by simpa using member.2⟩

theorem resolveReference_ok {kind : ContributionKind} {localId : String} {referrer : Referrer}
    (referred : resolveReference definitions agent kind localId referrer = .ok target) :
    target ∈ definitions ∧ target.effectiveId = inNamespace agent.effectiveId kind localId := by
  unfold resolveReference at referred
  dsimp only at referred
  cases found : findDefinition definitions (inNamespace agent.effectiveId kind localId) with
  | none =>
    simp only [found] at referred
    split at referred <;> cases referred
  | some definition =>
    simp only [found] at referred
    split at referred
    · cases referred
      exact findDefinition_found found
    · cases referred

theorem requestedCapability_ok {role : Option ResolvedDefinition} {capability : String} {stable : StableId}
    (requested : requestedCapability definitions agent role capability = .ok stable) :
    stable = (inNamespace agent.effectiveId .capabilities capability).stable ∧
      ∃ definition, role = some definition ∧ capability ∈ definition.payload.capabilities.getD [] := by
  obtain ⟨target, referred, requested⟩ := bind_ok requested
  obtain ⟨_, declared, requested⟩ := bind_ok requested
  cases requested
  have declared := refuseIf_ok declared
  rw [Bool.not_eq_false', List.contains_iff_mem] at declared
  refine ⟨congrArg EffectiveId.stable (resolveReference_ok referred).2, ?_⟩
  cases role with
  | none => cases declared
  | some definition => exact ⟨definition, rfl, declared⟩

theorem roleOf_ok {role : ResolvedDefinition} (found : roleOf definitions agent = .ok (some role)) :
    ∃ localId, role ∈ definitions ∧ role.effectiveId = inNamespace agent.effectiveId .roles localId := by
  unfold roleOf at found
  split at found
  · cases found
  · next localId _ =>
    obtain ⟨target, referred, same⟩ := map_ok found
    cases same
    exact ⟨localId, resolveReference_ok referred⟩

theorem agentView_ok {view : ResolvedAgent} (viewed : agentView definitions agent = .ok view) :
    view.effectiveId = agent.effectiveId ∧ ∃ role, roleOf definitions agent = .ok role ∧
      view.roleId = role.map ResolvedDefinition.stableId ∧
      (agent.payload.capabilities.getD []).mapM (requestedCapability definitions agent role) = .ok view.capabilities := by
  obtain ⟨role, ofAgent, viewed⟩ := bind_ok viewed
  obtain ⟨prompts, -, viewed⟩ := bind_ok viewed
  obtain ⟨knowledge, -, viewed⟩ := bind_ok viewed
  obtain ⟨capabilities, requested, viewed⟩ := bind_ok viewed
  cases viewed
  exact ⟨rfl, role, ofAgent, rfl, requested⟩

theorem agentView_declared {view : ResolvedAgent} {kind : ContributionKind} {localId : String}
    (declared : ∀ definition ∈ definitions, Declared closure definition)
    (viewed : agentView definitions agent = .ok view) (ofPack : agent.effectiveId = .pack pack kind localId) :
    ∀ capability ∈ view.capabilities, ∃ role name, view.roleId = some (.pack pack.id .roles role) ∧
      capability = .pack pack.id .capabilities name ∧ name ∈ capabilitiesOfRole closure pack role := by
  obtain ⟨-, role, ofAgent, named, requested⟩ := agentView_ok viewed
  intro capability member
  obtain ⟨text, -, allowed⟩ := Outcome.mapM_mem requested member
  obtain ⟨same, definition, rfl, within⟩ := requestedCapability_ok allowed
  obtain ⟨roleId, inDefinitions, located⟩ := roleOf_ok ofAgent
  rw [ofPack] at same located
  rw [(declared definition inDefinitions).role pack roleId located] at within
  refine ⟨roleId, text, ?_, same, within⟩
  rw [named, Option.map_some, ResolvedDefinition.stableId, located]
  rfl

theorem roleView_declared (declared : Declared closure definition) (role : definition.kind = .roles)
    {kind : ContributionKind} {localId : String} (ofPack : definition.effectiveId = .pack pack kind localId) :
    (roleView definition).capabilities =
      (capabilitiesOfRole closure pack localId).map fun name => .pack pack.id .capabilities name := by
  obtain rfl : kind = .roles := by rw [ResolvedDefinition.kind, ofPack] at role; exact role
  rw [← declared.role pack localId ofPack, roleView, ofPack]

/-- In every configuration, the capabilities of an agent are among those that its pack declares for its role, and an
override of a role does not change them. -/
theorem capabilities_declared {digest : ConfigurationMaterial → Option String} {configuration : ResolvedProjectConfiguration}
    (resolved : resolveProjectConfiguration digest input = .ok configuration) :
    ∃ closure, resolveInstalledPackManifests input.catalog input.binding.packs = .ok closure ∧
      CapabilitiesDeclared closure configuration := by
  obtain ⟨source, sourced, resolved⟩ := bind_ok resolved
  obtain ⟨closed, declared⟩ := effectiveSource_declared sourced
  obtain ⟨workflows, -, resolved⟩ := bind_ok resolved
  obtain ⟨policies, -, resolved⟩ := bind_ok resolved
  obtain ⟨roles, rolesViewed, resolved⟩ := bind_ok resolved
  obtain ⟨agents, agentsViewed, resolved⟩ := bind_ok resolved
  obtain ⟨capabilities, -, resolved⟩ := bind_ok resolved
  dsimp only at resolved
  split at resolved
  · cases resolved
  · cases resolved
    refine ⟨source.closure, closed, ?_, ?_, ?_, ?_, ?_⟩
    · intro agent member pack kind localId ofPack
      obtain ⟨definition, inKind, -, viewed⟩ := viewsOf_mem agentsViewed agent member
      rw [(agentView_ok viewed).1] at ofPack
      exact agentView_declared declared viewed ofPack
    · intro agent member kind localId ofProject
      obtain ⟨definition, inKind, -, viewed⟩ := viewsOf_mem agentsViewed agent member
      obtain ⟨named, role, -, -, requested⟩ := agentView_ok viewed
      rw [named] at ofProject
      have none := (declared definition (ofKind_mem inKind).1).owned kind localId ofProject
      rw [none] at requested
      exact (Except.ok.inj requested).symm
    · intro role member pack kind localId ofPack
      obtain ⟨definition, inKind, -, viewed⟩ := viewsOf_mem rolesViewed role member
      cases viewed
      obtain ⟨inDefinitions, ofRole⟩ := ofKind_mem inKind
      exact roleView_declared (declared definition inDefinitions) ofRole ofPack
    · intro role member kind localId ofProject
      obtain ⟨definition, inKind, -, viewed⟩ := viewsOf_mem rolesViewed role member
      cases viewed
      have owned : definition.effectiveId = .project kind localId := ofProject
      rw [roleView, owned]
    · intro entry member definition inEntry kind localId ofProject
      obtain ⟨ofKind, -, rfl⟩ := List.mem_map.mp member
      exact (declared definition (ofKind_mem inEntry).1).owned kind localId ofProject

/-- Two packs with an agent each, one of which is disabled. -/
theorem capabilities_declared_twoPacks : ∃ configuration closure,
    resolveProjectConfiguration (fun _ => some "digest") (twoPacks [disabledEditor writingPack]) = .ok configuration ∧
      configuration.agents.map ResolvedAgent.capabilities = [[.pack "com.reviewing" .capabilities "search"]] ∧
      CapabilitiesDeclared closure configuration := by
  have resolves : ((resolveProjectConfiguration (fun _ => some "digest") (twoPacks [disabledEditor writingPack])).toOption.any
      fun configuration => configuration.agents.map ResolvedAgent.capabilities =
        [[.pack "com.reviewing" .capabilities "search"]]) = true := by decide +kernel
  cases resolved : resolveProjectConfiguration (fun _ => some "digest") (twoPacks [disabledEditor writingPack]) with
  | error issue =>
    rw [resolved] at resolves
    cases resolves
  | ok configuration =>
    rw [resolved] at resolves
    obtain ⟨closure, -, declared⟩ := capabilities_declared resolved
    exact ⟨configuration, closure, rfl, of_decide_eq_true resolves, declared⟩

end AiOffice.Application.DomainPack
