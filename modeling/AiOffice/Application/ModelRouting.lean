import Mathlib.Tactic.Common

namespace AiOffice.Application.ModelRouting

structure ConcreteModel where
  modelRef : String
  providerId : String
  model : String
  deriving DecidableEq

structure ModelProfile extends ConcreteModel where
  key : String
  reasoningEffort : Option String
  maxOutputTokens : Option Nat
  deriving DecidableEq

inductive AgentModelOverride
  | profile (profile : String)
  | model (model : ConcreteModel)
  deriving DecidableEq

/-- The entries by their keys. -/
abbrev FrozenMap (Item : Type) := String → Option Item

structure ModelRoutingConfiguration where
  profiles : FrozenMap ModelProfile
  policies : FrozenMap String
  defaultProfile : Option String
  agentOverrides : FrozenMap AgentModelOverride
  projectAgentOverrides : FrozenMap (FrozenMap AgentModelOverride)
  legacyDefault : Option ConcreteModel

inductive ModelRoutingIssueCode
  | configurationUnreadable
  | configurationInvalid
  | modelRefMalformed
  | providerUnsupported
  | profileUndefined
  | executionParameterInvalid
  | defaultUnresolved
  | agentOverrideUnavailable
  | managedEnvironmentIgnored
  | legacyProviderFormDeprecated
  deriving DecidableEq

structure ModelRoutingIssue where
  code : ModelRoutingIssueCode
  subject : String
  message : String
  deriving DecidableEq

inductive FileOrigin
  | environment
  | runtimeHome
  deriving DecidableEq

structure ModelRoutingSources where
  file : Bool
  fileOrigin : Option FileOrigin
  legacyEnvironment : Bool
  managed : Bool
  deriving DecidableEq

inductive ModelRoutingState
  | unconfigured (sources : ModelRoutingSources) (warnings : List ModelRoutingIssue)
  | configured (sources : ModelRoutingSources) (configuration : ModelRoutingConfiguration)
      (warnings : List ModelRoutingIssue)
  | misconfigured (sources : ModelRoutingSources) (issues warnings : List ModelRoutingIssue)

inductive ModelRoutingErrorCode
  | modelRoutingMisconfigured
  | modelPolicyUnresolved
  | modelProfileUndefined
  deriving DecidableEq

structure ModelRoutingError where
  code : ModelRoutingErrorCode
  message : String
  deriving DecidableEq

structure AgentModelSubject where
  projectId : String
  agentName : String
  modelPolicy : String

inductive ModelSelectionSource
  | projectAgentOverride
  | agentOverride
  | rolePolicy
  | default
  | legacyDefault
  deriving DecidableEq

structure AgentRunModelSelection where
  policy : String
  profile : Option String
  modelRef : String
  providerId : String
  model : String
  reasoningEffort : Option String
  maxOutputTokens : Option Nat
  source : ModelSelectionSource
  deriving DecidableEq

inductive AgentRunModelRouting
  | unrouted
  | resolved (selection : AgentRunModelSelection)
  deriving DecidableEq

def ofProfile (profile : ModelProfile) (subject : AgentModelSubject) (source : ModelSelectionSource) :
    AgentRunModelSelection :=
  { policy := subject.modelPolicy
    profile := some profile.key
    modelRef := profile.modelRef
    providerId := profile.providerId
    model := profile.model
    reasoningEffort := profile.reasoningEffort
    maxOutputTokens := profile.maxOutputTokens
    source }

def fromProfile (configuration : ModelRoutingConfiguration) (key : String) (subject : AgentModelSubject)
    (source : ModelSelectionSource) : Except ModelRoutingError AgentRunModelSelection :=
  match configuration.profiles key with
  | none =>
    .error ⟨.modelProfileUndefined,
      s!"Model profile \"{key}\" required by agent {subject.agentName} is not defined. No run was scheduled."⟩
  | some profile => .ok (ofProfile profile subject source)

def concrete (model : ConcreteModel) (subject : AgentModelSubject) (source : ModelSelectionSource) :
    AgentRunModelSelection :=
  { policy := subject.modelPolicy
    profile := none
    modelRef := model.modelRef
    providerId := model.providerId
    model := model.model
    reasoningEffort := none
    maxOutputTokens := none
    source }

def fromOverride (configuration : ModelRoutingConfiguration) (override : AgentModelOverride)
    (subject : AgentModelSubject) (source : ModelSelectionSource) : Except ModelRoutingError AgentRunModelRouting := do
  let selection ← match override with
    | .profile profile => fromProfile configuration profile subject source
    | .model model => .ok (concrete model subject source)
  return .resolved selection

def resolveAgentRunModel (state : ModelRoutingState) (subject : AgentModelSubject) :
    Except ModelRoutingError AgentRunModelRouting :=
  match state with
  | .unconfigured _ _ => .ok .unrouted
  | .misconfigured _ _ _ =>
    .error ⟨.modelRoutingMisconfigured,
      "Model routing configuration is invalid; run model:check. No run was scheduled."⟩
  | .configured _ configuration _ =>
    match (configuration.projectAgentOverrides subject.projectId).bind fun overrides => overrides subject.agentName with
    | some projectOverride => fromOverride configuration projectOverride subject .projectAgentOverride
    | none =>
      match configuration.agentOverrides subject.agentName with
      | some override => fromOverride configuration override subject .agentOverride
      | none =>
        let mapped := (configuration.policies subject.modelPolicy).or
          (if (configuration.profiles subject.modelPolicy).isSome then some subject.modelPolicy else none)
        match mapped with
        | some mapped => .resolved <$> fromProfile configuration mapped subject .rolePolicy
        | none =>
          match configuration.defaultProfile with
          | some defaultProfile => .resolved <$> fromProfile configuration defaultProfile subject .default
          | none =>
            match configuration.legacyDefault with
            | some legacyDefault => .ok (.resolved (concrete legacyDefault subject .legacyDefault))
            | none =>
              .error ⟨.modelPolicyUnresolved,
                s!"Model policy \"{subject.modelPolicy}\" of agent {subject.agentName} has no model profile and no default is configured. No run was scheduled."⟩

/-- What a rule of the precedence names. -/
abbrev Rule := ModelSelectionSource × Option AgentModelOverride

/-- The rules of the documented precedence, from the first to the last. -/
def precedence (configuration : ModelRoutingConfiguration) (subject : AgentModelSubject) : List Rule :=
  [(.projectAgentOverride, (configuration.projectAgentOverrides subject.projectId).bind fun overrides =>
      overrides subject.agentName),
    (.agentOverride, configuration.agentOverrides subject.agentName),
    (.rolePolicy, (configuration.policies subject.modelPolicy).map .profile),
    (.rolePolicy, (configuration.profiles subject.modelPolicy).map fun _ => .profile subject.modelPolicy),
    (.default, configuration.defaultProfile.map .profile),
    (.legacyDefault, configuration.legacyDefault.map .model)]

/-- The first rule that names something. -/
def firstApplicable (rules : List Rule) : Option (ModelSelectionSource × AgentModelOverride) :=
  rules.findSome? fun rule => rule.2.map fun target => (rule.1, target)

end AiOffice.Application.ModelRouting
