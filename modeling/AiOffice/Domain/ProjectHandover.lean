import AiOffice.Domain.CodeUnits

namespace AiOffice.Domain.ProjectHandover

open Data

/-- The material facts of a repository. A count or a flag is missing when its scan predates the signal. -/
structure RepositoryUnderstandingFacts where
  languages : List String
  frameworks : List String
  databases : List String
  testing : List String
  documentation : List String
  packageManager : Option String
  remoteUrl : Option String
  sourceFileCount : Option Int
  hasCommitHistory : Option Bool

def repositoryScaleBucket : Option Int → String
  | none => "unrecorded"
  | some count =>
    if count = 0 then "none"
    else if count < 10 then "tiny"
    else if count < 25 then "small"
    else if count < 100 then "medium"
    else if count < 500 then "large"
    else "very_large"

def factList (values : List String) : String := ",".intercalate (sort values)

def historyText : Option Bool → String
  | none => "unrecorded"
  | some true => "true"
  | some false => "false"

def fingerprintLines (facts : RepositoryUnderstandingFacts) : List String :=
  ["repository-understanding-v1",
    "languages=" ++ factList facts.languages,
    "frameworks=" ++ factList facts.frameworks,
    "databases=" ++ factList facts.databases,
    "testing=" ++ factList facts.testing,
    "documentation=" ++ factList facts.documentation,
    "packageManager=" ++ facts.packageManager.getD "",
    "remote=" ++ facts.remoteUrl.getD "",
    "scale=" ++ repositoryScaleBucket facts.sourceFileCount,
    "history=" ++ historyText facts.hasCommitHistory]

/-- The text that a confirmed review of a repository is bound to; its caller hashes it. -/
def repositoryUnderstandingFingerprintSource (facts : RepositoryUnderstandingFacts) : String :=
  "\n".intercalate (fingerprintLines facts)

/-- The same facts in each bucket, in whatever order they are listed. -/
structure SameFacts (facts others : RepositoryUnderstandingFacts) : Prop where
  languages : facts.languages.Perm others.languages
  frameworks : facts.frameworks.Perm others.frameworks
  databases : facts.databases.Perm others.databases
  testing : facts.testing.Perm others.testing
  documentation : facts.documentation.Perm others.documentation
  packageManager : facts.packageManager = others.packageManager
  remoteUrl : facts.remoteUrl = others.remoteUrl
  scale : repositoryScaleBucket facts.sourceFileCount = repositoryScaleBucket others.sourceFileCount
  history : facts.hasCommitHistory = others.hasCommitHistory

/-- Names without the separators; a list of one empty name would read as an empty list. -/
structure PlainNames (values : List String) : Prop where
  comma : ∀ value ∈ values, ',' ∉ value.toList
  line : ∀ value ∈ values, '\n' ∉ value.toList
  filled : values ≠ [""]

structure PlainText (value : Option String) : Prop where
  line : '\n' ∉ (value.getD "").toList
  filled : value ≠ some ""

structure PlainFacts (facts : RepositoryUnderstandingFacts) : Prop where
  languages : PlainNames facts.languages
  frameworks : PlainNames facts.frameworks
  databases : PlainNames facts.databases
  testing : PlainNames facts.testing
  documentation : PlainNames facts.documentation
  packageManager : PlainText facts.packageManager
  remoteUrl : PlainText facts.remoteUrl

section Joined

variable {separator : Char} {items others : List String}

theorem join_injective (free : ∀ item ∈ items, separator ∉ item.toList)
    (otherFree : ∀ item ∈ others, separator ∉ item.toList) (some_ : items ≠ []) (otherSome : others ≠ [])
    (same : (String.singleton separator).intercalate items = (String.singleton separator).intercalate others) :
    items = others := by
  have chars := congrArg String.toList same
  rw [String.toList_intercalate, String.toList_intercalate, String.toList_singleton] at chars
  have split {texts : List String} (separate : ∀ item ∈ texts, separator ∉ item.toList) (given : texts ≠ []) :
      ([separator].intercalate (texts.map String.toList)).splitOn separator = texts.map String.toList := by
    apply List.splitOn_intercalate separator
    · simpa using separate
    · simpa using given
  have parts := congrArg (List.splitOn separator) chars
  rw [split free some_, split otherFree otherSome] at parts
  exact List.map_injective_iff.mpr (fun _ _ => String.toList_injective) parts

end Joined

variable {values others : List String} {facts understanding : RepositoryUnderstandingFacts}

theorem sort_perm (values : List String) : (sort values).Perm values := sortOn_perm codeUnits values

theorem factList_perm (same : values.Perm others) : factList values = factList others := by
  unfold factList sort
  rw [sortOn_eq codeUnits_injective same]

theorem factList_injective (plain : PlainNames values) (otherPlain : PlainNames others)
    (same : factList values = factList others) : values.Perm others := by
  have free {texts : List String} (names : PlainNames texts) : ∀ item ∈ sort texts, ',' ∉ item.toList :=
    fun item member => names.comma item ((sort_perm texts).mem_iff.mp member)
  -- The text of an empty list is empty, which is the text of no other list but one empty name.
  have empty {texts : List String} (names : PlainNames texts) (none : factList texts = "") : texts = [] := by
    by_contra given
    have some_ : sort texts ≠ [] := fun nothing => given (sortOn_eq_nil.mp nothing)
    have single : sort texts = [""] := by
      refine @join_injective ',' _ _ (free names) (by simp) some_ (by simp) ?_
      simpa [factList] using none
    exact names.filled (List.perm_singleton.mp ((sort_perm texts).symm.trans (by rw [single])))
  by_cases nothing : sort values = []
  · have first := sortOn_eq_nil.mp nothing
    subst first
    rw [empty otherPlain (same.symm.trans (by simp [factList, nothing]))]
  by_cases otherNothing : sort others = []
  · have second := sortOn_eq_nil.mp otherNothing
    subst second
    rw [empty plain (same.trans (by simp [factList, otherNothing]))]
  have sorted := @join_injective ',' _ _ (free plain) (free otherPlain) nothing otherNothing same
  exact (sort_perm values).symm.trans (sorted ▸ sort_perm others)

theorem historyText_injective {history other : Option Bool} (same : historyText history = historyText other) :
    history = other := by
  rcases history with _ | _ | _ <;> rcases other with _ | _ | _ <;> first | rfl | exact absurd same (by decide)

theorem text_injective {text other : Option String} (plain : PlainText text) (otherPlain : PlainText other)
    (same : text.getD "" = other.getD "") : text = other := by
  cases text with
  | none =>
    cases other with
    | none => rfl
    | some _ => exact absurd (congrArg some same.symm) otherPlain.filled
  | some _ =>
    cases other with
    | none => exact absurd (congrArg some same) plain.filled
    | some _ => exact congrArg some same

theorem factList_line (plain : PlainNames values) : '\n' ∉ (factList values).toList := by
  intro member
  rw [factList, String.toList_intercalate] at member
  have free : ∀ item ∈ sort values, '\n' ∉ item.toList := fun item listed =>
    plain.line item ((sort_perm values).mem_iff.mp listed)
  generalize sort values = names at member free
  induction names with
  | nil => simp at member
  | cons name names ih =>
    cases names with
    | nil =>
      rw [List.map_cons, List.map_nil, List.intercalate_singleton] at member
      exact free name List.mem_cons_self member
    | cons next names =>
      rw [List.map_cons, List.map_cons, List.intercalate_cons_cons, ← List.map_cons, List.mem_append,
        List.mem_append] at member
      rcases member with (first | comma) | later
      · exact free name List.mem_cons_self first
      · exact absurd comma (by decide)
      · exact ih later fun item listed => free item (List.mem_cons_of_mem _ listed)

theorem scale_line (count : Option Int) : '\n' ∉ (repositoryScaleBucket count).toList := by
  unfold repositoryScaleBucket
  repeat' split
  all_goals decide

theorem history_line (history : Option Bool) : '\n' ∉ (historyText history).toList := by
  rcases history with _ | _ | _ <;> decide

theorem fingerprintLines_free (plain : PlainFacts facts) : ∀ line ∈ fingerprintLines facts, '\n' ∉ line.toList := by
  have labelled {label value : String} (labelFree : '\n' ∉ label.toList) (free : '\n' ∉ value.toList) :
      '\n' ∉ (label ++ value).toList := by
    rw [String.toList_append, List.mem_append, not_or]
    exact ⟨labelFree, free⟩
  simp only [fingerprintLines, List.forall_mem_cons, List.not_mem_nil, false_imp_iff, implies_true, and_true]
  exact ⟨by decide, labelled (by decide) (factList_line plain.languages),
    labelled (by decide) (factList_line plain.frameworks), labelled (by decide) (factList_line plain.databases),
    labelled (by decide) (factList_line plain.testing), labelled (by decide) (factList_line plain.documentation),
    labelled (by decide) plain.packageManager.line, labelled (by decide) plain.remoteUrl.line,
    labelled (by decide) (scale_line _), labelled (by decide) (history_line _)⟩

theorem fingerprint_same (same : SameFacts facts understanding) :
    repositoryUnderstandingFingerprintSource facts = repositoryUnderstandingFingerprintSource understanding := by
  simp only [repositoryUnderstandingFingerprintSource, fingerprintLines, factList_perm same.languages,
    factList_perm same.frameworks, factList_perm same.databases, factList_perm same.testing,
    factList_perm same.documentation, same.packageManager, same.remoteUrl, same.scale, same.history]

/-- Understandings without separators in their texts have one fingerprint source exactly when they have the same
facts. -/
theorem fingerprint_eq_iff (facts understanding : RepositoryUnderstandingFacts) (plain : PlainFacts facts)
    (otherPlain : PlainFacts understanding) :
    repositoryUnderstandingFingerprintSource facts = repositoryUnderstandingFingerprintSource understanding ↔
      SameFacts facts understanding := by
  constructor
  · intro same
    have lines := @join_injective '\n' _ _ (fingerprintLines_free plain) (fingerprintLines_free otherPlain)
      (List.cons_ne_nil _ _) (List.cons_ne_nil _ _) same
    simp only [fingerprintLines, List.cons.injEq, String.append_right_inj, true_and, and_true] at lines
    obtain ⟨languages, frameworks, databases, testing, documentation, packageManager, remoteUrl, scale, history⟩ := lines
    exact {
      languages := factList_injective plain.languages otherPlain.languages languages
      frameworks := factList_injective plain.frameworks otherPlain.frameworks frameworks
      databases := factList_injective plain.databases otherPlain.databases databases
      testing := factList_injective plain.testing otherPlain.testing testing
      documentation := factList_injective plain.documentation otherPlain.documentation documentation
      packageManager := text_injective plain.packageManager otherPlain.packageManager packageManager
      remoteUrl := text_injective plain.remoteUrl otherPlain.remoteUrl remoteUrl
      scale := scale
      history := historyText_injective history }
  · exact fingerprint_same

def scannedFacts (documentation : List String) : RepositoryUnderstandingFacts where
  languages := ["TypeScript"]
  frameworks := []
  databases := ["SQLite"]
  testing := []
  documentation := documentation
  packageManager := some "bun"
  remoteUrl := none
  sourceFileCount := some 44
  hasCommitHistory := some true

theorem fingerprint_eq_iff_scanned :
    repositoryUnderstandingFingerprintSource (scannedFacts ["README.md", "CONTRIBUTING.md"]) =
        repositoryUnderstandingFingerprintSource (scannedFacts ["CONTRIBUTING.md", "README.md"]) ↔
      SameFacts (scannedFacts ["README.md", "CONTRIBUTING.md"]) (scannedFacts ["CONTRIBUTING.md", "README.md"]) := by
  refine fingerprint_eq_iff _ _ ⟨?_, ?_, ?_, ?_, ?_, ?_, ?_⟩ ⟨?_, ?_, ?_, ?_, ?_, ?_, ?_⟩
  all_goals constructor <;> decide

theorem joined_documentation (several : 1 < facts.documentation.length) :
    repositoryUnderstandingFingerprintSource { facts with documentation := [factList facts.documentation] } =
        repositoryUnderstandingFingerprintSource facts ∧
      ¬SameFacts { facts with documentation := [factList facts.documentation] } facts := by
  constructor
  · have single : factList [factList facts.documentation] = factList facts.documentation := by
      rw [factList, sort, List.perm_singleton.mp (sortOn_perm codeUnits _), String.intercalate_singleton]
    simp only [repositoryUnderstandingFingerprintSource, fingerprintLines, single]
  · intro same
    have lengths := same.documentation.length_eq
    rw [List.length_singleton] at lengths
    omega

theorem separators_collide : ¬∀ facts understanding,
    repositoryUnderstandingFingerprintSource facts = repositoryUnderstandingFingerprintSource understanding ↔
      SameFacts facts understanding := by
  intro distinguishes
  obtain ⟨same, different⟩ := @joined_documentation (scannedFacts ["README.md", "CONTRIBUTING.md"]) (by decide)
  exact different ((distinguishes _ _).mp same)

end AiOffice.Domain.ProjectHandover
