import AiOffice.Connector.FilesystemPath
import AiOffice.Domain.Agent
import AiOffice.Domain.Capability.PolicyEngine

namespace AiOffice.Connector.Filesystem

open Data Domain Domain.Capability.PolicyEngine

inductive MaximumField
  | maxFileBytes
  | maxOutputBytes
  | maxResults
  | maxVisitedEntries
  | maxVisitedFiles
  | maxVisitedDirectories
  | maxDepth
  | maxPathBytes
  | maxPathSegments
  | maxDiffBytes
  | maxInlineContentBytes
  deriving DecidableEq

def MaximumField.text : MaximumField → String
  | .maxFileBytes => "maxFileBytes"
  | .maxOutputBytes => "maxOutputBytes"
  | .maxResults => "maxResults"
  | .maxVisitedEntries => "maxVisitedEntries"
  | .maxVisitedFiles => "maxVisitedFiles"
  | .maxVisitedDirectories => "maxVisitedDirectories"
  | .maxDepth => "maxDepth"
  | .maxPathBytes => "maxPathBytes"
  | .maxPathSegments => "maxPathSegments"
  | .maxDiffBytes => "maxDiffBytes"
  | .maxInlineContentBytes => "maxInlineContentBytes"

def maximumFields : List MaximumField :=
  [.maxFileBytes, .maxOutputBytes, .maxResults, .maxVisitedEntries, .maxVisitedFiles, .maxVisitedDirectories,
    .maxDepth, .maxPathBytes, .maxPathSegments, .maxDiffBytes, .maxInlineContentBytes]

def filesystemHardLimits : MaximumField → Nat
  | .maxFileBytes => 1024 * 1024
  | .maxOutputBytes => 48 * 1024
  | .maxResults => 1000
  | .maxVisitedEntries => 10000
  | .maxVisitedFiles => 5000
  | .maxVisitedDirectories => 1000
  | .maxDepth => 8
  | .maxPathBytes => 1024
  | .maxPathSegments => 128
  | .maxDiffBytes => 48 * 1024
  | .maxInlineContentBytes => 16 * 1024

def pathLimits (maximum : MaximumField → Nat) : FilesystemPathLimits :=
  ⟨maximum .maxPathBytes, maximum .maxPathSegments⟩

def fields : List String :=
  ["allowedPathPrefixes", "deniedPathPrefixes", "allowedExtensions"] ++ maximumFields.map MaximumField.text ++
    ["allowMutation"]

structure FilesystemConstraints where
  allowedPathPrefixes : Option (List String)
  deniedPathPrefixes : Option (List String)
  allowedExtensions : Option (List String)
  maximum : MaximumField → Option Nat
  allowMutation : Option Bool

structure EffectiveFilesystemConstraints where
  allowedPathPrefixes : Option (List String)
  deniedPathPrefixes : List String
  allowedExtensions : Option (List String)
  maximum : MaximumField → Nat
  allowMutation : Bool

def invalidConstraints (message : String) : Thrown := ⟨.invalidFilesystemConstraintsError, message⟩

def asText : Value → Option String
  | .string value => some value
  | _ => none

def asTexts : Value → Option (List String)
  | .array items => items.mapM asText
  | _ => none

def stringList (value : Value) (field : String) : Except Thrown (List String) :=
  match asTexts value with
  | some list => .ok list
  | none => .error (invalidConstraints s!"{field} must be a string array")

def normalizedPrefixes (value : Value) (field : String) : Except Thrown (List String) := do
  let list ← stringList value field
  match list.mapM fun path => normalizeRelativePath path (pathLimits filesystemHardLimits) false with
  | .ok paths => return sortedUnique paths
  | .error thrown =>
    if thrown.name = .invalidRelativePathError then
      .error (invalidConstraints s!"{field} contains an invalid path")
    else .error thrown

/-- The letters and digits of a pattern that ignores case: the long s and the Kelvin sign are letters of it. -/
def isExtensionAlnum (char : Char) : Bool := char.isAlphanum || char.toNat ∈ [0x017F, 0x212A]

def validExtension (extension : String) : Bool :=
  match extension.toList with
  | '.' :: first :: rest =>
    isExtensionAlnum first && rest.all fun char => isExtensionAlnum char || ['.', '_', '-'].contains char
  | _ => false

/-- The lower case of the letters that an extension may hold. No other letter has one of these as its lower
case, so a file whose extension holds another letter matches none that is allowed. -/
def toLowerCase (value : String) : String :=
  String.ofList (value.toList.map fun char => if char.toNat = 0x212A then 'k' else char.toLower)

def normalizedExtensions (value : Value) : Except Thrown (List String) := do
  let list ← stringList value "allowedExtensions"
  if list.any fun extension => !validExtension extension || includes extension "/" then
    .error (invalidConstraints "allowedExtensions contains an invalid extension")
  else return sortedUnique (list.map toLowerCase)

def asMaximum : Value → Option Nat
  | .number value =>
    if value.den = 1 ∧ isSafeInteger value.num ∧ 0 ≤ value.num then some value.num.toNat else none
  | _ => none

def whenPresent {Field : Type} (value : Value) (read : Value → Except Thrown Field) :
    Except Thrown (Option Field) :=
  match value with
  | .undefined => .ok none
  | value => (read value).map some

def checkMaximum (record : Record) (field : MaximumField) : Except Thrown Unit :=
  match record.get field.text with
  | .undefined => .ok ⟨⟩
  | candidate =>
    if (asMaximum candidate).isNone then
      .error (invalidConstraints s!"{field.text} must be a non-negative safe integer")
    else .ok ⟨⟩

def readMutation (record : Record) : Except Thrown (Option Bool) :=
  whenPresent (record.get "allowMutation") fun
    | .boolean value => .ok value
    | _ => .error (invalidConstraints "allowMutation must be boolean")

def unknownFields (record : Record) : List String := sort ((record.map Prod.fst).filter (· ∉ fields))

def parse (record : Record) : Except Thrown FilesystemConstraints :=
  let unknown := ", ".intercalate (unknownFields record)
  if unknownFields record ≠ [] then
    .error (invalidConstraints s!"Unsupported filesystem constraint fields: {unknown}")
  else do
    let allowedPathPrefixes ← whenPresent (record.get "allowedPathPrefixes") (normalizedPrefixes · "allowedPathPrefixes")
    let deniedPathPrefixes ← whenPresent (record.get "deniedPathPrefixes") (normalizedPrefixes · "deniedPathPrefixes")
    let allowedExtensions ← whenPresent (record.get "allowedExtensions") normalizedExtensions
    maximumFields.forM (checkMaximum record)
    let allowMutation ← readMutation record
    return {
      allowedPathPrefixes
      deniedPathPrefixes
      allowedExtensions
      maximum := fun field => asMaximum (record.get field.text)
      allowMutation }

def intersectPrefixes (left right : List String) : List String :=
  sortedUnique (left.flatMap fun first => right.filterMap fun second =>
    if pathMatchesPrefix first second then some first
    else if pathMatchesPrefix second first then some second
    else none)

def intersectExact (left right : List String) : List String := sort (left.filter right.contains)

inductive AllowedField
  | allowedPathPrefixes
  | allowedExtensions
  deriving DecidableEq

def FilesystemConstraints.allowed (constraints : FilesystemConstraints) : AllowedField → Option (List String)
  | .allowedPathPrefixes => constraints.allowedPathPrefixes
  | .allowedExtensions => constraints.allowedExtensions

def intersect : AllowedField → List String → List String → List String
  | .allowedPathPrefixes => intersectPrefixes
  | .allowedExtensions => intersectExact

def combinedAllowed (values : List FilesystemConstraints) (field : AllowedField) : Option (List String) :=
  match values.filterMap (·.allowed field) with
  | [] => none
  | first :: later => some (later.foldl (intersect field) first)

def operationPaths (operation : String) (arguments_ : Record) : List String :=
  if operation = "filesystem.move" then
    [arguments_.get "sourcePath", arguments_.get "destinationPath"].filterMap asText
  else (asText (arguments_.get "path")).toList

def satisfiesEffectivePathLimits (path : String) (effective : EffectiveFilesystemConstraints) (allowRoot : Bool) :
    Bool :=
  match normalizeRelativePath path (pathLimits effective.maximum) allowRoot with
  | .ok normalized => normalized = path
  | .error _ => false

def fileExtension (path : String) : String :=
  let basename := (path.toList.splitOn '/').getLastD []
  let stem := basename.reverse.dropWhile (· ≠ '.')
  -- `stem` is the name up to its last dot, reversed.
  if stem.length ≤ 1 then "" else toLowerCase (String.ofList (basename.drop (stem.length - 1)))

def effectiveConstraints (resource : FilesystemConstraints) (grants : List FilesystemConstraints) :
    EffectiveFilesystemConstraints :=
  let all := resource :: grants
  { allowedPathPrefixes := combinedAllowed all .allowedPathPrefixes
    allowedExtensions := combinedAllowed all .allowedExtensions
    deniedPathPrefixes := sortedUnique (all.flatMap fun value => value.deniedPathPrefixes.getD [])
    maximum := fun field => (all.filterMap (·.maximum field)).foldl min (filesystemHardLimits field)
    allowMutation := (grants.all fun value => value.allowMutation = some true) &&
      resource.allowMutation ≠ some false }

def EffectiveFilesystemConstraints.value (effective : EffectiveFilesystemConstraints) : Value :=
  let texts (list : List String) : Value := .array (list.map .string)
  .object ((effective.allowedPathPrefixes.map fun list => ("allowedPathPrefixes", texts list)).toList ++
    [("deniedPathPrefixes", texts effective.deniedPathPrefixes)] ++
    (effective.allowedExtensions.map fun list => ("allowedExtensions", texts list)).toList ++
    (maximumFields.map fun field => (field.text, .number (effective.maximum field))) ++
    [("allowMutation", .boolean effective.allowMutation)])

def directoryCapable (operation : String) : Bool :=
  operation = "filesystem.list" || operation = "filesystem.search"

def pathReasons (operation : String) (effective : EffectiveFilesystemConstraints) (path : String) : List String :=
  if !satisfiesEffectivePathLimits path effective (directoryCapable operation) then
    ["filesystem path exceeds effective path limits"]
  else
    let classification := classifyAllowedPath path effective.allowedPathPrefixes
    (if classification = .denied || (!directoryCapable operation && classification ≠ .insideAllowed) then
      ["filesystem path is outside allowed prefixes"] else []) ++
    (if effective.deniedPathPrefixes.any (pathMatchesPrefix path) then ["filesystem path is denied"] else [])

def refusals (operation : String) (arguments_ : Record) (effective : EffectiveFilesystemConstraints) : List String :=
  let paths := operationPaths operation arguments_
  (if effective.allowedPathPrefixes = some [] then ["filesystem allowed path intersection is empty"] else []) ++
  (if effective.allowedExtensions = some [] then ["filesystem allowed extension intersection is empty"] else []) ++
  (if paths = [] ∧ !directoryCapable operation then ["filesystem operation requires a normalized path"] else []) ++
  paths.flatMap (pathReasons operation effective) ++
  (if !directoryCapable operation && effective.allowedExtensions.any fun allowed =>
      paths.any fun path => !allowed.contains (fileExtension path) then
    ["filesystem extension is not allowed"] else []) ++
  (if "filesystem.".toList.isPrefixOf operation.toList && operation ≠ "filesystem.list" &&
      operation ≠ "filesystem.read" && operation ≠ "filesystem.search" && !effective.allowMutation then
    ["filesystem mutation is not allowed"] else [])

def combine (values : List Record) (resourceConfiguration : Record) :
    Except Thrown EffectiveFilesystemConstraints := do
  let resource ← parse resourceConfiguration
  let grants ← values.mapM parse
  return effectiveConstraints resource grants

def combineAndValidate : ConnectorConstraintEvaluator := fun operation arguments_ values resourceConfiguration =>
  let computed : Except Thrown ConnectorConstraintResult := do
    let effective ← combine values resourceConfiguration
    let reasons := refusals operation arguments_ effective
    let normalized ← normalizeCanonicalJson effective.value
    return { ok := reasons = [], effectiveConstraints := normalized, reasons }
  match computed with
  | .ok result => result
  | .error thrown => { ok := false, effectiveConstraints := .object [], reasons := [thrown.message] }

end AiOffice.Connector.Filesystem
