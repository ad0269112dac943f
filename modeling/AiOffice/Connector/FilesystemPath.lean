import AiOffice.Data.Forest
import AiOffice.Data.PosixPath
import AiOffice.Domain.Text

namespace AiOffice.Connector.Filesystem

open Data Domain

structure FilesystemPathLimits where
  maxPathBytes : Nat
  maxPathSegments : Nat

def unsafeControl (char : Char) : Bool := char.toNat ≤ 0x1F || char.toNat = 0x7F

/-- Matching without regard to case, of patterns whose letters have no other case variants. -/
def lowerCase (value : String) : String := String.ofList (value.toList.map Char.toLower)

def encodedSeparatorOrDot (value : String) : Bool :=
  ["%2e", "%2f", "%5c"].any (includes (lowerCase value))

def isAbsolute (value : String) : Bool := value.toList.head? = some '/'

def win32IsAbsolute (value : String) : Bool :=
  let separator (char : Char) : Bool := char = '/' || char = '\\'
  match value.toList with
  | [] => false
  | first :: rest =>
    separator first || first.isAlpha && match rest with
      | ':' :: third :: _ => separator third
      | _ => false

def isLineTerminator (char : Char) : Bool := char.toNat ∈ [0x0A, 0x0D, 0x2028, 0x2029]

def windowsDevices : List String :=
  ["con", "prn", "aux", "nul"] ++
    ["com", "lpt"].flatMap fun port => ["1", "2", "3", "4", "5", "6", "7", "8", "9"].map (port ++ ·)

def windowsReservedName (segment : List Char) : Bool :=
  let name := segment.takeWhile (· ≠ '.')
  let extension := segment.dropWhile (· ≠ '.')
  windowsDevices.contains (lowerCase (String.ofList name)) && !(extension.any isLineTerminator)

def invalidRelativePath : Thrown := ⟨.invalidRelativePathError, "Invalid relative filesystem path"⟩

def unsafeSegment (segment : List Char) : Bool :=
  segment.isEmpty || segment = ['.'] || segment = ['.', '.'] || segment.contains ':' ||
    segment.getLast? = some '.' || segment.getLast? = some ' ' || windowsReservedName segment

def normalizeRelativePath (value : String) (limits : FilesystemPathLimits) (allowRoot : Bool) :
    Except Thrown String :=
  let chars := value.toList
  if allowRoot ∧ value = "" then .ok ""
  else if value = "" ∨ isAbsolute value ∨ win32IsAbsolute value ∨ chars.head? = some '/' ∨
      chars.getLast? = some '/' ∨ '\\' ∈ chars ∨ chars.any unsafeControl ∨ encodedSeparatorOrDot value then
    .error invalidRelativePath
  else
    let segments := chars.splitOn '/'
    if segments.length > limits.maxPathSegments ∨ segments.any unsafeSegment ∨
        value.utf8ByteSize > limits.maxPathBytes then
      .error invalidRelativePath
    else .ok (String.ofList (['/'].intercalate segments))

def pathMatchesPrefix (path base : String) : Bool :=
  path = base || (base.toList ++ ['/']).isPrefixOf path.toList

def pathCanContainPrefix (path base : String) : Bool := path = "" || pathMatchesPrefix base path

inductive AllowedPathClassification
  | insideAllowed
  | ancestorOfAllowed
  | denied
  deriving DecidableEq

def classifyAllowedPath (path : String) : Option (List String) → AllowedPathClassification
  | none => .insideAllowed
  | some allowedPrefixes =>
    if allowedPrefixes.any (pathMatchesPrefix path) then .insideAllowed
    else if allowedPrefixes.any (pathCanContainPrefix path) then .ancestorOfAllowed
    else .denied

theorem normalizeRelativePath_ok {value normalized : String} {limits : FilesystemPathLimits} {allowRoot : Bool}
    (accepted : normalizeRelativePath value limits allowRoot = .ok normalized) : normalized = value := by
  simp only [normalizeRelativePath] at accepted
  split at accepted
  · next root => cases accepted; exact root.2.symm
  split at accepted
  · cases accepted
  split at accepted
  · cases accepted
  · cases accepted
    rw [List.intercalate_splitOn, String.ofList_toList]

theorem normalizeRelativePath_mono {value normalized : String} {narrow wide : FilesystemPathLimits} {allowRoot : Bool}
    (bytes : narrow.maxPathBytes ≤ wide.maxPathBytes) (segments : narrow.maxPathSegments ≤ wide.maxPathSegments)
    (accepted : normalizeRelativePath value narrow allowRoot = .ok normalized) :
    normalizeRelativePath value wide allowRoot = .ok normalized := by
  simp only [normalizeRelativePath] at accepted ⊢
  split at accepted
  · next root => rw [if_pos root, accepted]
  next notRoot =>
  rw [if_neg notRoot]
  split at accepted
  · cases accepted
  next safe =>
  rw [if_neg safe]
  split at accepted
  · cases accepted
  next within =>
  rw [if_neg, accepted]
  rintro (long | unsafe_ | large)
  · exact within (.inl (lt_of_le_of_lt segments long))
  · exact within (.inr (.inl unsafe_))
  · exact within (.inr (.inr (lt_of_le_of_lt bytes large)))

def Below (path base : String) : Prop := pathMatchesPrefix path base = true

instance : DecidableRel Below := fun _ _ => inferInstanceAs (Decidable (_ = true))

theorem below_iff {path base : String} : Below path base ↔ Under '/' path.toList base.toList := by
  simp only [Below, pathMatchesPrefix, Under, Bool.or_eq_true, decide_eq_true_eq, List.isPrefixOf_iff_prefix,
    String.toList_inj]

theorem below_forest : Forest Below where
  refl path := below_iff.mpr ((under_forest '/').refl _)
  antisymm := by
    intro left right below above
    exact String.toList_inj.mp ((under_forest '/').antisymm (below_iff.mp below) (below_iff.mp above))
  trans := by
    intro first second third below above
    exact below_iff.mpr ((under_forest '/').trans (below_iff.mp below) (below_iff.mp above))
  chain := by
    intro item left right overLeft overRight
    simp only [below_iff] at overLeft overRight ⊢
    exact (under_forest '/').chain overLeft overRight

theorem any_matches {path : String} {bases : List String} :
    bases.any (pathMatchesPrefix path) = true ↔ Covers Below bases path := List.any_eq_true

theorem classifyAllowedPath_inside {path : String} {allowed : Option (List String)} :
    classifyAllowedPath path allowed = .insideAllowed ↔ ∀ bases, allowed = some bases → Covers Below bases path := by
  cases allowed with
  | none => simp [classifyAllowedPath]
  | some bases =>
    simp only [classifyAllowedPath, Option.some.injEq, forall_eq', ← any_matches]
    split
    · next covered => simp only [covered]
    · next uncovered => split <;> simp only [uncovered, reduceCtorEq]

theorem classifyAllowedPath_notDenied {path : String} {bases : List String} :
    classifyAllowedPath path (some bases) ≠ .denied ↔
      Covers Below bases path ∨ ∃ base ∈ bases, path = "" ∨ Below base path := by
  have contains : bases.any (pathCanContainPrefix path) = true ↔ ∃ base ∈ bases, path = "" ∨ Below base path := by
    simp only [List.any_eq_true, pathCanContainPrefix, Bool.or_eq_true, decide_eq_true_eq, Below]
  simp only [classifyAllowedPath, ← any_matches, ← contains]
  split
  · next covered => simp only [covered, true_or, ne_eq, reduceCtorEq, not_false_eq_true]
  · next uncovered =>
    split
    · next ancestor => simp only [ancestor, or_true, ne_eq, reduceCtorEq, not_false_eq_true]
    · next neither => simp only [uncovered, neither, Bool.false_eq_true, or_self, ne_eq, not_true_eq_false]

end AiOffice.Connector.Filesystem

namespace AiOffice.Connector.Filesystem

open Data Domain

def sensitiveSegments : List String := [".ai-office", ".git", ".ssh", ".aws", ".kube"]

def sensitiveBasenames : List String :=
  [".npmrc", ".pypirc", ".netrc", "credentials", "credentials.json", "secrets", "secrets.json", "id_rsa",
    "id_ed25519", ".git-credentials", "git-credentials"]

def sensitiveExtensions : List String := [".pem", ".key", ".p12", ".pfx"]

def startsWith (value start : String) : Bool := start.toList.isPrefixOf value.toList

def endsWith (value ending : String) : Bool := ending.toList.isSuffixOf value.toList

-- `lower` is the lower case of a text, of any letters.
variable (lower : String → String)

def isSensitiveFilesystemSegment (segment : String) : Bool :=
  let text := lower segment
  startsWith text ".ai-office-txn-" || sensitiveSegments.contains text || text = ".env" ||
    startsWith text ".env." || sensitiveBasenames.contains text || sensitiveExtensions.any (endsWith text)

def isBuiltInSensitiveFilesystemPath (path : String) : Bool :=
  let segments := ((PosixPath.parts path).filter (· ≠ [])).map fun segment => lower (String.ofList segment)
  segments.any (isSensitiveFilesystemSegment lower) ||
    (segments.zip segments.tail).any (· = (".config", "gcloud"))

def isSensitiveFilesystemPath (path : String) (additionalDeniedPrefixes : List String) : Bool :=
  isBuiltInSensitiveFilesystemPath lower (lower path) ||
    additionalDeniedPrefixes.any fun base => pathMatchesPrefix (lower path) (lower base)

end AiOffice.Connector.Filesystem
