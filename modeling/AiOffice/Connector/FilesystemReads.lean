import AiOffice.Connector.FilesystemConstraints
import AiOffice.Connector.FilesystemPath.Containment

namespace AiOffice.Connector.FilesystemReads

open Data Outcome Domain Connector.Filesystem

inductive FileKind
  | file
  | directory
  | symbolicLink
  | other
  deriving DecidableEq

structure Stats where
  kind : FileKind
  size : Nat
  nlink : Nat

/-- What a place answers: the entry there, that there is none, or that it cannot be looked at. -/
inductive Lookup
  | entry (stats : Stats)
  | missing
  | failed

/-- What reading a file gives: the number of its bytes and, if they are text, the text. -/
inductive FileBytes
  | opened (total : Nat) (content : Option String)
  | unavailable
  | failed

abbrev EntryName := { name : String // name ≠ "" ∧ '/' ∉ name.toList }

/-- The files below a root that stand still while they are read. A place is the way of names that leads there. -/
structure FileTree where
  lstat : List String → Lookup
  readdir : List String → Option (List EntryName)
  readFile : List String → FileBytes
  /-- The root is its own real path. -/
  canonical : Bool
  distinct : ∀ place names, readdir place = some names → names.Nodup
  listed : ∀ place names (name : EntryName) stats, readdir place = some names →
    lstat (place ++ [name.val]) = .entry stats → name ∈ names

/-- A sandbox that reads: its files, its constraints, and the lower case of texts. -/
structure FilesystemSandbox where
  tree : FileTree
  constraints : EffectiveFilesystemConstraints
  lower : String → String

def symlinkDenied : Thrown :=
  ⟨.filesystemSymlinkDeniedError, "Symbolic links are not permitted by the filesystem sandbox"⟩

def hardLinkDenied : Thrown :=
  ⟨.filesystemHardLinkDeniedError, "Hard-linked files are not permitted by the filesystem sandbox"⟩

def sensitivePath : Thrown := ⟨.sensitiveFilesystemPathError, "Filesystem path is unavailable"⟩

def entryNotFound : Thrown := ⟨.filesystemEntryNotFoundError, "Filesystem entry is unavailable"⟩

def notRegularFile : Thrown := ⟨.filesystemNotRegularFileError, "Filesystem entry is not a regular file"⟩

def notDirectory : Thrown := ⟨.filesystemNotDirectoryError, "Filesystem entry is not a directory"⟩

def binaryFile : Thrown := ⟨.filesystemBinaryFileError, "Filesystem content is not valid UTF-8 text"⟩

def fileTooLarge : Thrown := ⟨.filesystemFileTooLargeError, "Filesystem file exceeds the permitted byte limit"⟩

def outputTooLarge : Thrown :=
  ⟨.filesystemOutputTooLargeError, "Filesystem output exceeds the permitted byte limit"⟩

def sourceChanged : Thrown :=
  ⟨.filesystemSourceChangedError, "Filesystem source changed during the operation"⟩

def pathNames (path : String) : List String :=
  if path = "" then [] else (PosixPath.parts path).map String.ofList

def childPath (directory name : String) : String :=
  if directory = "" then name else directory ++ "/" ++ name

def FileTree.assertRoot (tree : FileTree) : Except Thrown Stats :=
  match tree.lstat [] with
  | .entry stats =>
    if stats.kind = .symbolicLink then .error symlinkDenied
    else if stats.kind ≠ .directory then .error notDirectory
    else if !tree.canonical then .error symlinkDenied
    else .ok stats
  | _ => .error entryNotFound

/-- Look at each entry on the way down. Only the last may be something else than a directory. -/
def FileTree.walk (tree : FileTree) (place : List String) (stats : Stats) : List String → Except Thrown Stats
  | [] => .ok stats
  | name :: names =>
    match tree.lstat (place ++ [name]) with
    | .missing => .error entryNotFound
    | .failed => .error sourceChanged
    | .entry stats =>
      if stats.kind = .symbolicLink then .error symlinkDenied
      else if names ≠ [] ∧ stats.kind ≠ .directory then .error notDirectory
      else tree.walk (place ++ [name]) stats names

section Names

variable {directory name : String}

theorem parts_single (single : '/' ∉ name.toList) : PosixPath.parts name = [name.toList] := by
  rw [PosixPath.parts]
  exact List.splitOn_eq_singleton single

theorem pathNames_child (name : EntryName) : pathNames (childPath directory name.val) = pathNames directory ++ [name.val] := by
  obtain ⟨name, full, single⟩ := name
  have itself := parts_single single
  simp only [pathNames, childPath]
  by_cases root : directory = ""
  · simp [root, full, itself]
  · have joined : directory ++ "/" ++ name ≠ "" := by
      intro empty
      exact root (String.append_eq_empty_iff.mp (String.append_eq_empty_iff.mp empty).1).1
    simp only [root, joined, if_false, parts_append, itself, List.map_append, List.map_cons, List.map_nil,
      String.ofList_toList]

theorem pathNames_injective {first second : String} (same : pathNames first = pathNames second) : first = second := by
  have full (path : String) (given : path ≠ "") : (PosixPath.parts path).map String.ofList ≠ [] := by
    intro empty
    exact List.splitOn_ne_nil _ _ (List.map_eq_nil_iff.mp empty)
  simp only [pathNames] at same
  split at same <;> split at same
  · next left right => rw [left, right]
  · next left right => exact absurd same.symm (full second right)
  · next left right => exact absurd same (full first left)
  · have parts : PosixPath.parts first = PosixPath.parts second :=
      List.map_injective_iff.mpr (fun _ _ => String.ofList_injective) same
    calc first = String.ofList (['/'].intercalate (first.toList.splitOn '/')) := by simp
      _ = String.ofList (['/'].intercalate (second.toList.splitOn '/')) := by rw [← PosixPath.parts, parts, PosixPath.parts]
      _ = second := by simp

theorem childPath_injective {first second : String} {left right : EntryName}
    (same : childPath first left.val = childPath second right.val) : first = second ∧ left = right := by
  have names := congrArg pathNames same
  rw [pathNames_child, pathNames_child] at names
  obtain ⟨places, last⟩ := List.append_inj' names rfl
  exact ⟨pathNames_injective places, Subtype.ext (List.singleton_injective last)⟩

end Names

theorem FileTree.walk_append {tree : FileTree} {place names : List String} {name : String} {stats above : Stats}
    (starts : stats.kind = .directory) (leads : tree.walk place stats names = .ok above) (directory : above.kind = .directory) :
    tree.walk place stats (names ++ [name]) = tree.walk (place ++ names) above [name] := by
  induction names generalizing place stats with
  | nil => cases leads; simp
  | cons first names ih =>
    simp only [FileTree.walk] at leads
    rw [List.cons_append, FileTree.walk]
    cases answer : tree.lstat (place ++ [first]) with
    | missing => rw [answer] at leads; cases leads
    | failed => rw [answer] at leads; cases leads
    | entry next =>
      rw [answer] at leads
      obtain ⟨notLink, leads⟩ := guard_ok leads
      obtain ⟨inner, leads⟩ := guard_ok leads
      have kept : next.kind = .directory := by
        by_cases last : names = []
        · subst last; cases leads; exact directory
        · exact not_not.mp fun other => inner ⟨last, other⟩
      have more := ih kept leads
      simp only [kept, ne_eq, not_true_eq_false, and_false, reduceCtorEq, if_false]
      rw [more, List.append_assoc, List.singleton_append]

def extension (lower : String → String) (path : String) : String :=
  let basename := (PosixPath.parts path).getLastD []
  let stem := basename.reverse.dropWhile (· ≠ '.')
  if stem.length ≤ 1 then "" else lower (String.ofList (basename.drop (stem.length - 1)))

structure TraversalBudget where
  visitedEntries : Nat
  visitedFiles : Nat
  visitedDirectories : Nat
  deriving DecidableEq

def traversalBudget : TraversalBudget := ⟨0, 0, 0⟩

structure BoundedDirectoryEntries where
  names : List EntryName
  truncated : Bool

def readNames (maximum : Nat) : List EntryName → Nat → List EntryName × Nat × Bool
  | [], visited => if maximum ≤ visited then ([], visited, true) else ([], visited, false)
  | name :: later, visited =>
    if maximum ≤ visited then ([], visited, true)
    else
      let (names, visited, truncated) := readNames maximum later (visited + 1)
      (name :: names, visited, truncated)

namespace FilesystemSandbox

variable (sandbox : FilesystemSandbox)

def maximum (field : MaximumField) : Nat := sandbox.constraints.maximum field

def isSensitive (path : String) : Bool :=
  isSensitiveFilesystemPath sandbox.lower path sandbox.constraints.deniedPathPrefixes

def assertVisible (path : String) : Except Thrown Unit :=
  if sandbox.isSensitive path then .error sensitivePath else .ok ⟨⟩

def classifyPath (path : String) : AllowedPathClassification :=
  if sandbox.isSensitive path then .denied
  else classifyAllowedPath path sandbox.constraints.allowedPathPrefixes

def extensionPermitted (path : String) : Bool :=
  match sandbox.constraints.allowedExtensions with
  | none => true
  | some allowed => allowed.contains (extension sandbox.lower path)

def assertInsideAllowed (path : String) : Except Thrown Unit :=
  if sandbox.classifyPath path ≠ .insideAllowed then .error sensitivePath else .ok ⟨⟩

def assertAccessibleByType (path : String) (stats : Stats) : Except Thrown Unit :=
  let classification := sandbox.classifyPath path
  if classification = .denied ∨ stats.kind = .file ∧ classification ≠ .insideAllowed then .error sensitivePath
  else .ok ⟨⟩

def assertEffectivePath (path : String) (allowRoot : Bool) : Except Thrown String := do
  let normalized ← normalizeRelativePath path (pathLimits sandbox.constraints.maximum) allowRoot
  if normalized ≠ path then .error invalidRelativePath else .ok normalized

def isPortableDiscoveredPath (path : String) : Bool :=
  match normalizeRelativePath path (pathLimits sandbox.constraints.maximum) false with
  | .ok normalized => normalized = path
  | .error _ => false

def inspect (path : String) : Except Thrown Stats := do
  let root ← sandbox.tree.assertRoot
  sandbox.assertVisible path
  sandbox.tree.walk [] root (pathNames path)

def inspectDiscovered (path : String) : Except Thrown (Option Stats) :=
  match sandbox.inspect path with
  | .ok stats => .ok (some stats)
  | .error thrown =>
    if thrown.name = .filesystemEntryNotFoundError ∨ thrown.name = .filesystemSymlinkDeniedError ∨
        thrown.name = .sensitiveFilesystemPathError then .ok none
    else .error thrown

def readBoundedDirectory (path : String) (budget : TraversalBudget) :
    Except Thrown (BoundedDirectoryEntries × TraversalBudget) :=
  if sandbox.maximum .maxVisitedDirectories ≤ budget.visitedDirectories ∨
      sandbox.maximum .maxVisitedEntries ≤ budget.visitedEntries then .ok (⟨[], true⟩, budget)
  else do
    let stats ← sandbox.inspect path
    if stats.kind ≠ .directory then .error notDirectory
    else
      sandbox.assertAccessibleByType path stats
      match sandbox.tree.readdir (pathNames path) with
      | none => .error sourceChanged
      | some names =>
        let (read, visitedEntries, truncated) :=
          readNames (sandbox.maximum .maxVisitedEntries) names budget.visitedEntries
        return (⟨if truncated then [] else sortOn (codeUnits ·.val) read, truncated⟩,
          { budget with visitedEntries, visitedDirectories := budget.visitedDirectories + 1 })

variable {sandbox : FilesystemSandbox} {path directory : String} {name : EntryName} {stats above : Stats}

theorem isPortable_iff : sandbox.isPortableDiscoveredPath path = true ↔
    Accepted (pathLimits sandbox.constraints.maximum) path := by
  have exact_ : Accepted (pathLimits sandbox.constraints.maximum) path ↔
      normalizeRelativePath path (pathLimits sandbox.constraints.maximum) false = .ok path := by
    simp [normalizeRelativePath_iff]
  rw [exact_, isPortableDiscoveredPath]
  cases computed : normalizeRelativePath path (pathLimits sandbox.constraints.maximum) false with
  | error thrown => simp
  | ok normalized => simp

theorem assertEffectivePath_ok {given : String} {allowRoot : Bool}
    (accepted : sandbox.assertEffectivePath given allowRoot = .ok path) : path = given := by
  obtain ⟨normalized, -, accepted⟩ := bind_ok accepted
  obtain ⟨same, accepted⟩ := guard_ok accepted
  cases accepted
  exact not_not.mp same

theorem assertRoot_directory {tree : FileTree} (passed : tree.assertRoot = .ok stats) : stats.kind = .directory := by
  simp only [FileTree.assertRoot] at passed
  split at passed
  · obtain ⟨-, passed⟩ := guard_ok passed
    obtain ⟨directory, passed⟩ := guard_ok passed
    obtain ⟨-, passed⟩ := guard_ok passed
    cases passed
    exact not_not.mp directory
  · cases passed

theorem inspect_child (inspected : sandbox.inspect directory = .ok above) (kind : above.kind = .directory) :
    sandbox.inspect (childPath directory name.val) =
      if sandbox.isSensitive (childPath directory name.val) then .error sensitivePath
      else sandbox.tree.walk (pathNames directory) above [name.val] := by
  obtain ⟨root, rooted, inspected⟩ := bind_ok inspected
  obtain ⟨-, -, leads⟩ := bind_ok inspected
  have further := @FileTree.walk_append _ [] _ name.val _ _ (assertRoot_directory rooted) leads kind
  rw [inspect, bind_returns rooted, pathNames_child, further, List.nil_append, assertVisible]
  split <;> rfl

theorem inspect_child_ok (inspected : sandbox.inspect directory = .ok above) (kind : above.kind = .directory) :
    sandbox.inspect (childPath directory name.val) = .ok stats ↔
      sandbox.isSensitive (childPath directory name.val) = false ∧
        sandbox.tree.lstat (pathNames directory ++ [name.val]) = .entry stats ∧ stats.kind ≠ .symbolicLink := by
  rw [inspect_child inspected kind]
  by_cases sensitive : sandbox.isSensitive (childPath directory name.val) = true
  · simp [sensitive]
  · simp only [sensitive, FileTree.walk]
    cases answer : sandbox.tree.lstat (pathNames directory ++ [name.val]) with
    | missing => simp
    | failed => simp
    | entry found =>
      by_cases link : found.kind = .symbolicLink
      · simp only [link, if_true, Lookup.entry.injEq]
        constructor
        · nofun
        · rintro ⟨-, rfl, notLink⟩; exact absurd link notLink
      · simp only [link, ne_eq, not_true_eq_false, false_and, if_false, Except.ok.injEq, Lookup.entry.injEq,
          Bool.false_eq_true]
        constructor
        · rintro rfl; exact ⟨trivial, rfl, link⟩
        · rintro ⟨-, same, -⟩; exact same

theorem inspectDiscovered_ok {found : Option Stats} (computed : sandbox.inspectDiscovered path = .ok found) :
    (∃ stats, found = some stats ∧ sandbox.inspect path = .ok stats) ∨
      found = none ∧ ∀ stats, sandbox.inspect path ≠ .ok stats := by
  simp only [inspectDiscovered] at computed
  split at computed
  · next stats inspected => cases computed; exact .inl ⟨stats, rfl, inspected⟩
  · next thrown inspected =>
    split at computed
    · cases computed
      exact .inr ⟨rfl, fun stats same => by rw [inspected] at same; cases same⟩
    · cases computed

theorem readNames_complete {maximum visited after : Nat} {names read : List EntryName}
    (computed : readNames maximum names visited = (read, after, false)) : read = names := by
  induction names generalizing visited read with
  | nil =>
    simp only [readNames] at computed
    split at computed <;> cases computed
    rfl
  | cons name later ih =>
    simp only [readNames] at computed
    split at computed
    · cases computed
    · cases rest : readNames maximum later (visited + 1) with
      | mk others ends =>
        obtain ⟨last, truncated⟩ := ends
        rw [rest] at computed
        cases computed
        rw [ih rest]

structure Opened (sandbox : FilesystemSandbox) (path : String) (names : List EntryName) : Prop where
  inspected : ∃ stats, sandbox.inspect path = .ok stats ∧ stats.kind = .directory
  distinct : names.Nodup
  covers : ∀ (name : EntryName) stats, sandbox.tree.lstat (pathNames path ++ [name.val]) = .entry stats → name ∈ names

theorem readBoundedDirectory_ok {budget after : TraversalBudget} {read : BoundedDirectoryEntries}
    (computed : sandbox.readBoundedDirectory path budget = .ok (read, after)) :
    read.truncated = true ∧ read.names = [] ∨
      read.truncated = false ∧ Opened sandbox path read.names ∧
        budget.visitedDirectories < sandbox.maximum .maxVisitedDirectories ∧
        after.visitedDirectories = budget.visitedDirectories + 1 := by
  simp only [readBoundedDirectory] at computed
  split at computed
  · cases computed; exact .inl ⟨rfl, rfl⟩
  next allowed =>
  obtain ⟨stats, inspected, computed⟩ := bind_ok computed
  obtain ⟨directory, computed⟩ := guard_ok computed
  obtain ⟨-, -, computed⟩ := bind_ok computed
  split at computed
  · cases computed
  next names listing =>
  cases computed
  cases ends : readNames (sandbox.maximum .maxVisitedEntries) names budget.visitedEntries with
  | mk others rest =>
    obtain ⟨visited, truncated⟩ := rest
    cases truncated with
    | true => exact .inl ⟨rfl, rfl⟩
    | false =>
      have all := readNames_complete ends
      refine .inr ⟨rfl, ⟨⟨stats, inspected, not_not.mp directory⟩, ?_, ?_⟩, by omega, rfl⟩
      · exact (sortOn_perm _ others).nodup_iff.mpr (all ▸ sandbox.tree.distinct _ names listing)
      · intro name stats found
        simpa [all] using sandbox.tree.listed _ names name stats listing found

end FilesystemSandbox

def twoTexts (first second : String) : FileTree where
  lstat
    | [] => .entry ⟨.directory, 0, 2⟩
    | ["a.txt"] => .entry ⟨.file, first.utf8ByteSize, 1⟩
    | ["src"] => .entry ⟨.directory, 0, 2⟩
    | ["src", "b.txt"] => .entry ⟨.file, second.utf8ByteSize, 1⟩
    | _ => .missing
  readdir
    | [] => some [⟨"src", by decide⟩, ⟨"a.txt", by decide⟩]
    | ["src"] => some [⟨"b.txt", by decide⟩]
    | _ => none
  readFile
    | ["a.txt"] => .opened first.utf8ByteSize (some first)
    | ["src", "b.txt"] => .opened second.utf8ByteSize (some second)
    | _ => .unavailable
  canonical := true
  distinct place names listing := by
    split at listing <;> cases listing <;> decide
  listed place names name stats listing found := by
    obtain ⟨name, proper⟩ := name
    split at listing <;> cases listing <;> simp only [List.nil_append, List.singleton_append] at found <;>
      split at found <;> simp_all

def openConstraints (maxDepth : Nat) : EffectiveFilesystemConstraints where
  allowedPathPrefixes := none
  deniedPathPrefixes := []
  allowedExtensions := none
  maximum := fun field => if field = .maxDepth then maxDepth else filesystemHardLimits field
  allowMutation := false

end AiOffice.Connector.FilesystemReads

namespace AiOffice.Connector.FilesystemReads

open Domain

/-- The bytes of a code unit that stands alone in the canonical text of a string. A surrogate alone is escaped. -/
def unitSize (unit : Nat) : Nat :=
  if unit ∈ [0x22, 0x5C, 0x08, 0x09, 0x0A, 0x0C, 0x0D] then 2
  else if unit < 0x20 then 6
  else if unit < 0x80 then 1
  else if unit < 0x800 then 2
  else if 0xD800 ≤ unit ∧ unit < 0xE000 then 6
  else 3

def isPair (high low : Nat) : Bool := 0xD800 ≤ high && high < 0xDC00 && 0xDC00 ≤ low && low < 0xE000

def unitsSize : List Nat → Nat
  | [] => 0
  | [unit] => unitSize unit
  | first :: second :: rest =>
    if isPair first second then 4 + unitsSize rest else unitSize first + unitsSize (second :: rest)

def stringSize (units : List Nat) : Nat := 2 + unitsSize units

def booleanSize (value : Bool) : Nat := if value then 4 else 5

def numberSize (value : Nat) : Nat := (toString value).length

/-- The bytes of items with a comma between each two, and a bracket at either end. -/
def bracketed (items : List Nat) : Nat := 2 + items.sum + (items.length - 1)

def memberSize (name : String) (value : Nat) : Nat := stringSize (codeUnits name) + 1 + value

end AiOffice.Connector.FilesystemReads
