import AiOffice.Application.ModelRouting
import AiOffice.Data.PosixPath
import AiOffice.Data.TextCodec
import AiOffice.Domain.Schema

namespace AiOffice.LlmGateway

open Data Domain Application.ModelRouting

/-- What the configuration is read with: the file system, the YAML parser, the lower case of a text and the
directory of the process. A file that cannot be read is missing or not. -/
structure RoutingServices where
  readFile : String → Except Bool String
  parseYaml : String → Option Value
  toLowerCase : String → String
  cwd : String
  supported : List String
  /-- The file of the Runtime home, where the Runtime has one. -/
  runtimeHomeFile : Option String

def maximumConfigurationBytes : Nat := 256 * 1024
def maximumEntries : Nat := 1000
def maximumOutputTokens : Nat := 10000000
def runtimeHomeModelRoutingFileName := "model-routing.yaml"
def runtimeHomeModelRoutingSource := "runtime_home"

namespace modelRoutingEnvironment

def file := "AI_OFFICE_MODEL_ROUTING_FILE"
def legacyModel := "AI_OFFICE_LLM_MODEL"
def legacyProvider := "AI_OFFICE_LLM_PROVIDER"
def source := "AI_OFFICE_MODEL_ROUTING_SOURCE"

end modelRoutingEnvironment

/-- `^[first][rest]{0,limit}$` -/
def tokenPattern (first rest : Char → Bool) (limit : Nat) (value : String) : Bool :=
  match value.toList with
  | [] => false
  | char :: others => first char && others.length ≤ limit && others.all rest

def validToken : String → Bool :=
  tokenPattern Char.isAlphanum (fun char => char.isAlphanum || char ∈ ['.', '_', '-']) 63

def providerIdPattern : String → Bool :=
  tokenPattern Char.isLower (fun char => char.isLower || char.isDigit || char ∈ ['_', '-']) 31

def providerModelPattern : String → Bool :=
  tokenPattern Char.isAlphanum (fun char => char.isAlphanum || char ∈ ['.', '_', ':', '/', '@', '+', '-']) 127

def reasoningEffortPattern : String → Bool := providerIdPattern

def validProjectId : String → Bool :=
  tokenPattern Char.isAlphanum (fun char => char.isAlphanum || char ∈ ['.', '_', ':', '-']) 199

def isControlCharacter (char : Char) : Bool := char.val < 0x20 || (0x7F ≤ char.val && char.val ≤ 0x9F)

def validPolicyName (value : String) : Bool :=
  trim value = value && 0 < utf16Length value && utf16Length value ≤ 200 && !value.toList.any isControlCharacter

def nonEmpty (value : Option String) : Option String := (value.map trim).filter fun normalized => normalized ≠ ""

def parseCanonicalModelRef (modelRef : String) : Option ConcreteModel :=
  let chars := modelRef.toList
  let providerId := if ':' ∈ chars then String.ofList (chars.takeWhile (· ≠ ':')) else ""
  let model := if ':' ∈ chars then String.ofList ((chars.dropWhile (· ≠ ':')).drop 1) else ""
  if !providerIdPattern providerId || !providerModelPattern model then none
  else some ⟨s!"{providerId}:{model}", providerId, model⟩

/-- The reference of a legacy setting, and whether it is a bare model. -/
def parseModelRef (toLowerCase : String → String) (configuredModel : String) (compatibilityProvider : Option String) :
    Option (String × Bool) :=
  let value := trim configuredModel
  let chars := value.toList
  if ':' ∈ chars then
    let providerId := toLowerCase (trim (String.ofList (chars.takeWhile (· ≠ ':'))))
    let model := trim (String.ofList ((chars.dropWhile (· ≠ ':')).drop 1))
    if providerId = "" ∨ model = "" then none else some (s!"{providerId}:{model}", false)
  else (nonEmpty compatibilityProvider).map fun provider => (s!"{toLowerCase provider}:{value}", true)

def record : Value → Option Record
  | .object entries => some entries
  | _ => none

/-- A result, and the issues that were added on the way. -/
structure Reported (Result : Type) where
  result : Result
  issues : List ModelRoutingIssue

def sensitiveFieldNames : List String :=
  ["apikey", "authorization", "credential", "credentialref", "credentials", "password", "secret", "token"]

section Parsing

variable (services : RoutingServices)

def isSensitiveFieldKey (key : String) : Bool :=
  sensitiveFieldNames.contains
    (String.ofList ((services.toLowerCase key).toList.filter fun char => char.isLower || char.isDigit))

def checkKeys (value : Record) (allowed : List String) (subject : String) : List ModelRoutingIssue :=
  (value.filter fun entry => !allowed.contains entry.1).map fun (key, _) =>
    ⟨.configurationInvalid, if subject = "" then key else s!"{subject}.{key}",
      if isSensitiveFieldKey services key then
        "Credentials are not accepted in model routing configuration; providers read them from the Runtime host credential source."
      else s!"Unknown model routing key \"{key}\"."⟩

def routingFilePath (value : String) (home : Option String) : Option String :=
  if utf16Length value > 4096 ∨ value.toList.any isControlCharacter then none
  else if "~/".toList.isPrefixOf value.toList then
    (home.filter PosixPath.isAbsolute).map fun home =>
      PosixPath.resolve services.cwd [s!"{home}/" ++ String.ofList (value.toList.drop 2)]
  else if PosixPath.isAbsolute value then some (PosixPath.resolve services.cwd [value])
  else none

def concreteModel (value : Value) (subject : String) : Reported (Option ConcreteModel) :=
  let malformed : Reported (Option ConcreteModel) :=
    ⟨none, [⟨.modelRefMalformed, subject, s!"{subject} must be a canonical <provider>:<model> reference."⟩]⟩
  match value with
  | .string text =>
    match parseCanonicalModelRef text with
    | none => malformed
    | some parsed =>
      if services.supported.contains parsed.providerId then ⟨some parsed, []⟩
      else
        let providers := ", ".intercalate (sortOn codeUnits services.supported.dedup)
        ⟨none, [⟨.providerUnsupported, subject,
          s!"Unsupported LLM provider \"{parsed.providerId}\" in {subject}. Supported providers: {providers}."⟩]⟩
  | _ => malformed

def entries (value : Value) (subject : String) : Reported Record :=
  match value with
  | .undefined | .null => ⟨[], []⟩
  | .object map =>
    if map.length > maximumEntries then
      ⟨[], [⟨.configurationInvalid, subject, s!"{subject} has more than {maximumEntries} entries."⟩]⟩
    else ⟨map, []⟩
  | _ => ⟨[], [⟨.configurationInvalid, subject, s!"{subject} must be a map."⟩]⟩

def place {Item : Type} (each : String → Value → Reported (Option Item)) (map : FrozenMap Item) (entry : String × Value) :
    FrozenMap Item :=
  match (each entry.1 entry.2).result with
  | some item => Function.update map entry.1 (some item)
  | none => map

/-- A loop over the entries of a section. An iteration that is left early sets nothing. -/
def collect {Item : Type} (each : String → Value → Reported (Option Item)) (pending : Reported Record) :
    Reported (FrozenMap Item) :=
  ⟨pending.result.foldl (place each) fun _ => none,
    pending.issues ++ pending.result.flatMap fun entry => (each entry.1 entry.2).issues⟩

def parseAgentOverride (subjects : String) (declaredProfiles : List String) (agent : String) (raw : Value) :
    Reported (Option AgentModelOverride) :=
  let subject := s!"{subjects}.{agent}"
  match (record raw).filter fun _ => trim agent ≠ "" ∧ utf16Length agent ≤ 200 with
  | none =>
    ⟨none, [⟨.configurationInvalid, subject,
      "Agent overrides map a synchronized agent name to a profile or model."⟩]⟩
  | some override =>
    let unknown := checkKeys services override ["profile", "model"] subject
    let profile := override.get "profile"
    if profile.isUndefined = (override.get "model").isUndefined then
      ⟨none, unknown ++ [⟨.agentOverrideUnavailable, subject,
        s!"{subject} must set exactly one of profile or model."⟩]⟩
    else if profile.isUndefined then
      let model := concreteModel services (override.get "model") s!"{subject}.model"
      ⟨model.result.map .model, unknown ++ model.issues⟩
    else
      match profile with
      | .string profile =>
        if declaredProfiles.contains profile then ⟨some (.profile profile), unknown⟩
        else
          ⟨none, unknown ++ [⟨.agentOverrideUnavailable, s!"{subject}.profile",
            s!"Agent override {subject} names an undefined profile."⟩]⟩
      | _ =>
        ⟨none, unknown ++ [⟨.agentOverrideUnavailable, s!"{subject}.profile",
          s!"Agent override {subject} names an undefined profile."⟩]⟩

def parseAgentOverrides (value : Value) (subjects : String) (declaredProfiles : List String) :
    Reported (FrozenMap AgentModelOverride) :=
  collect (parseAgentOverride services subjects declaredProfiles) (entries value subjects)

def parseReasoningEffort (value : Value) (subject : String) : Except ModelRoutingIssue (Option String) :=
  let invalid := ⟨.executionParameterInvalid, s!"{subject}.reasoning_effort",
    "reasoning_effort must be a lowercase token such as low, medium or high."⟩
  match value with
  | .undefined => .ok none
  | .string effort => if reasoningEffortPattern effort then .ok (some effort) else .error invalid
  | _ => .error invalid

def parseMaxOutputTokens (value : Value) (subject : String) : Except ModelRoutingIssue (Option Nat) :=
  let invalid := ⟨.executionParameterInvalid, s!"{subject}.max_output_tokens",
    s!"max_output_tokens must be an integer from 1 to {maximumOutputTokens}."⟩
  match value with
  | .undefined => .ok none
  | .number tokens =>
    if tokens.isInt ∧ 1 ≤ tokens ∧ tokens ≤ maximumOutputTokens then .ok (some tokens.num.toNat) else .error invalid
  | _ => .error invalid

def parseProfile (key : String) (raw : Value) : Reported (Option ModelProfile) :=
  let subject := s!"profiles.{key}"
  if !validToken key then
    ⟨none, [⟨.configurationInvalid, subject,
      "Profile keys use letters, digits, '.', '_' or '-' (at most 64 characters)."⟩]⟩
  else
    match record raw with
    | none => ⟨none, [⟨.configurationInvalid, subject, s!"{subject} must be a map."⟩]⟩
    | some value =>
      let unknown := checkKeys services value ["model", "reasoning_effort", "max_output_tokens"] subject
      let model := concreteModel services (value.get "model") s!"{subject}.model"
      match parseReasoningEffort (value.get "reasoning_effort") subject with
      | .error issue => ⟨none, unknown ++ model.issues ++ [issue]⟩
      | .ok reasoningEffort =>
        match parseMaxOutputTokens (value.get "max_output_tokens") subject with
        | .error issue => ⟨none, unknown ++ model.issues ++ [issue]⟩
        | .ok maxOutputTokens =>
          ⟨model.result.map fun model => { model with key, reasoningEffort, maxOutputTokens },
            unknown ++ model.issues⟩

def parsePolicy (declaredProfiles : List String) (policy : String) (raw : Value) : Reported (Option String) :=
  let subject := s!"policies.{policy}"
  let invalid : Reported (Option String) :=
    ⟨none, [⟨.configurationInvalid, subject, "Policy mappings map a model policy name to a profile key."⟩]⟩
  match raw with
  | .string profile =>
    if !validPolicyName policy then invalid
    else if declaredProfiles.contains profile then ⟨some profile, []⟩
    else
      ⟨none, [⟨.profileUndefined, subject, s!"Model policy \"{policy}\" maps to undefined profile \"{profile}\"."⟩]⟩
  | _ => invalid

def parseDefaultProfile (declaredProfiles : List String) (value : Value) : Reported (Option String) :=
  let unresolved : Reported (Option String) :=
    ⟨none, [⟨.defaultUnresolved, "default_profile", "default_profile must name a defined profile."⟩]⟩
  match value with
  | .undefined | .null => ⟨none, []⟩
  | .string profile => if declaredProfiles.contains profile then ⟨some profile, []⟩ else unresolved
  | _ => unresolved

def parseProject (declaredProfiles : List String) (projectId : String) (raw : Value) :
    Reported (Option (FrozenMap AgentModelOverride)) :=
  let subject := if validProjectId projectId then s!"projects.{projectId}" else "projects.(invalid project id)"
  match (record raw).filter fun _ => validProjectId projectId with
  | none =>
    ⟨none, [⟨.configurationInvalid, subject,
      "Project overrides map a Runtime project id (see project:list) to an agents map."⟩]⟩
  | some project =>
    let unknown := checkKeys services project ["agents"] subject
    let overrides := parseAgentOverrides services (project.get "agents") s!"{subject}.agents" declaredProfiles
    ⟨some overrides.result, unknown ++ overrides.issues⟩

structure ParsedDocument where
  profiles : FrozenMap ModelProfile
  policies : FrozenMap String
  defaultProfile : Option String
  agentOverrides : FrozenMap AgentModelOverride
  projectAgentOverrides : FrozenMap (FrozenMap AgentModelOverride)

def ParsedDocument.empty : ParsedDocument := ⟨fun _ => none, fun _ => none, none, fun _ => none, fun _ => none⟩

def parseDocument (document : Value) : Reported ParsedDocument :=
  match record document with
  | none =>
    ⟨.empty, [⟨.configurationInvalid, "(root)", "Model routing configuration must be a map."⟩]⟩
  | some root =>
    let unknown := checkKeys services root
      ["schema_version", "profiles", "policies", "default_profile", "agents", "projects"] ""
    let version := if (root.get "schema_version").isNumber 1 then [] else
      [⟨.configurationInvalid, "schema_version", "schema_version must be 1."⟩]
    let pendingProfiles := entries (root.get "profiles") "profiles"
    let profiles := collect (parseProfile services) pendingProfiles
    -- A malformed profile is still declared, so that its references are not reported as well.
    let declaredProfiles := pendingProfiles.result.map (·.1)
    let policies := collect (parsePolicy declaredProfiles) (entries (root.get "policies") "policies")
    let defaultProfile := parseDefaultProfile declaredProfiles (root.get "default_profile")
    let agentOverrides := parseAgentOverrides services (root.get "agents") "agents" declaredProfiles
    let projectAgentOverrides :=
      collect (parseProject services declaredProfiles) (entries (root.get "projects") "projects")
    ⟨⟨profiles.result, policies.result, defaultProfile.result, agentOverrides.result, projectAgentOverrides.result⟩,
      unknown ++ version ++ profiles.issues ++ policies.issues ++ defaultProfile.issues ++ agentOverrides.issues ++
        projectAgentOverrides.issues⟩

structure RoutingFile where
  origin : Option FileOrigin
  text : Option String
  issues : List ModelRoutingIssue

def routingFile (managed : Bool) (fileSetting home : Option String) : RoutingFile :=
  match fileSetting.filter fun _ => !managed with
  | some fileSetting =>
    match routingFilePath services fileSetting home with
    | none =>
      ⟨some .environment, none, [⟨.configurationInvalid, modelRoutingEnvironment.file,
        s!"{modelRoutingEnvironment.file} must be an absolute path or ~/path."⟩]⟩
    | some path =>
      match services.readFile path with
      | .ok text => ⟨some .environment, some text, []⟩
      | .error _ =>
        ⟨some .environment, none, [⟨.configurationUnreadable, modelRoutingEnvironment.file,
          "The model routing file cannot be read."⟩]⟩
  | none =>
    match services.runtimeHomeFile with
    | some path =>
      match services.readFile path with
      | .ok text => ⟨some .runtimeHome, some text, []⟩
      | .error true => ⟨none, none, []⟩
      | .error false =>
        ⟨some .runtimeHome, none, [⟨.configurationUnreadable, runtimeHomeModelRoutingFileName,
          s!"The Runtime home {runtimeHomeModelRoutingFileName} cannot be read."⟩]⟩
    | none =>
      ⟨none, none, if managed then [⟨.configurationUnreadable, runtimeHomeModelRoutingFileName,
        "The managed Runtime has no Runtime home to read model routing from."⟩] else []⟩

def readDocument (file : RoutingFile) : Reported (Option ParsedDocument) :=
  let subject := if file.origin = some .environment then modelRoutingEnvironment.file else runtimeHomeModelRoutingFileName
  match file.text with
  | none => ⟨none, []⟩
  | some text =>
    if (text.toList.flatMap utf8Bytes).length > maximumConfigurationBytes then
      ⟨none, [⟨.configurationInvalid, subject, s!"The model routing file exceeds {maximumConfigurationBytes} bytes."⟩]⟩
    else
      match services.parseYaml text with
      | none => ⟨none, [⟨.configurationInvalid, subject, "The model routing file is not valid YAML or JSON."⟩]⟩
      | some parsed =>
        let document := parseDocument services parsed
        ⟨some document.result, document.issues⟩

def legacyDefault (setting provider : Option String) : Reported (Option ConcreteModel) :=
  match setting with
  | none => ⟨none, []⟩
  | some setting =>
    match parseModelRef services.toLowerCase setting provider with
    | none =>
      ⟨none, [⟨.modelRefMalformed, modelRoutingEnvironment.legacyModel,
        "AI_OFFICE_LLM_MODEL must be <provider>:<model> (or a bare model with AI_OFFICE_LLM_PROVIDER)."⟩]⟩
    | some (modelRef, _) => concreteModel services (.string modelRef) modelRoutingEnvironment.legacyModel

def legacyWarnings (setting provider : Option String) : List ModelRoutingIssue :=
  match setting.bind fun setting => parseModelRef services.toLowerCase setting provider with
  | some (_, true) =>
    [⟨.legacyProviderFormDeprecated, modelRoutingEnvironment.legacyModel,
      "A bare AI_OFFICE_LLM_MODEL with AI_OFFICE_LLM_PROVIDER is deprecated; use <provider>:<model>."⟩]
  | _ => []

def ignoredWarning (setting : String × Option String) : Option ModelRoutingIssue :=
  setting.2.map fun _ =>
    ⟨.managedEnvironmentIgnored, setting.1,
      s!"{setting.1} is ignored by the managed Runtime service, which reads model routing only from {runtimeHomeModelRoutingFileName} in AI_OFFICE_HOME."⟩

/-- What a load found: its sources, the configuration that it read, the problems and the warnings. -/
structure Findings where
  sources : ModelRoutingSources
  configuration : ModelRoutingConfiguration
  issues : List ModelRoutingIssue
  warnings : List ModelRoutingIssue

def configurationOf (parsed : ParsedDocument) (legacyDefault : Option ConcreteModel) : ModelRoutingConfiguration :=
  ⟨parsed.profiles, parsed.policies, parsed.defaultProfile, parsed.agentOverrides, parsed.projectAgentOverrides,
    legacyDefault⟩

def findings (environment : String → Option String) : Findings :=
  let sourceSetting := nonEmpty (environment modelRoutingEnvironment.source)
  let managed := decide (sourceSetting = some runtimeHomeModelRoutingSource)
  let sourceIssues := if sourceSetting.isSome && !managed then
    [⟨.configurationInvalid, modelRoutingEnvironment.source,
      s!"{modelRoutingEnvironment.source} accepts only {runtimeHomeModelRoutingSource}."⟩] else []
  let fileSetting := nonEmpty (environment modelRoutingEnvironment.file)
  let legacyAmbient := nonEmpty (environment modelRoutingEnvironment.legacyModel)
  let ignored := if managed then
    [(modelRoutingEnvironment.file, fileSetting), (modelRoutingEnvironment.legacyModel, legacyAmbient)].filterMap
      ignoredWarning else []
  let legacySetting := if managed then none else legacyAmbient
  let provider := environment modelRoutingEnvironment.legacyProvider
  let file := routingFile services managed fileSetting (environment "HOME")
  let document := readDocument services file
  let legacy := legacyDefault services legacySetting provider
  { sources := ⟨file.origin.isSome, file.origin, legacySetting.isSome, managed⟩
    configuration := configurationOf (document.result.getD .empty) legacy.result
    issues := sourceIssues ++ file.issues ++ document.issues ++ legacy.issues
    warnings := ignored ++ legacyWarnings services legacySetting provider }

def loadModelRoutingState (environment : String → Option String) : ModelRoutingState :=
  let found := findings services environment
  if found.issues ≠ [] then .misconfigured found.sources found.issues found.warnings
  else if !found.sources.file && !found.sources.legacyEnvironment then .unconfigured found.sources found.warnings
  else .configured found.sources found.configuration found.warnings

end Parsing

end AiOffice.LlmGateway
