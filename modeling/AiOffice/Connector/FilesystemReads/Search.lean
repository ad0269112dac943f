import AiOffice.Connector.FilesystemReads
import AiOffice.Connector.FilesystemReads.Excerpt
import AiOffice.Connector.UnifiedDiff
import AiOffice.Data.Occurrences

namespace AiOffice.Connector.FilesystemReads

open Data Outcome Domain Connector.Filesystem

structure SearchArguments where
  path : String
  query : List Nat
  caseSensitive : Bool

structure SearchMatch where
  path : String
  line : Nat
  column : Nat
  excerpt : List Nat
  deriving DecidableEq

structure SearchOutput where
  path : String
  hits : List SearchMatch
  truncated : Bool
  visitedFiles : Nat
  deriving DecidableEq

def SearchMatch.size (found : SearchMatch) : Nat :=
  bracketed [memberSize "path" (stringSize (codeUnits found.path)), memberSize "line" (numberSize found.line),
    memberSize "column" (numberSize found.column), memberSize "excerpt" (stringSize found.excerpt)]

def SearchOutput.byteLength (output : SearchOutput) : Nat :=
  bracketed [memberSize "path" (stringSize (codeUnits output.path)),
    memberSize "matches" (bracketed (output.hits.map SearchMatch.size)),
    memberSize "truncated" (booleanSize output.truncated),
    memberSize "visitedFiles" (numberSize output.visitedFiles)]

/-- The files that a search found, and the directories that are left. -/
structure Traversal where
  files : List String
  pending : List (String × Nat)
  budget : TraversalBudget
  truncated : Bool
  deriving DecidableEq

structure Hits where
  hits : List SearchMatch
  truncated : Bool

def textLines (content : String) : List String :=
  ((UnifiedDiff.replaceAllCrLf content.toList).splitOn '\n').map String.ofList

namespace FilesystemSandbox

-- `lowerUnits` is the lower case of a text that is given by its code units.
variable (sandbox : FilesystemSandbox) (lowerUnits : List Nat → List Nat) (arguments_ : SearchArguments)

def readTextFile (path : String) : Except Thrown String :=
  if !sandbox.extensionPermitted path then .error sensitivePath
  else do
    let stats ← sandbox.inspect path
    if stats.kind ≠ .file then .error notRegularFile
    else if 1 < stats.nlink then .error hardLinkDenied
    else if sandbox.maximum .maxFileBytes < stats.size then .error fileTooLarge
    else
      match sandbox.tree.readFile (pathNames path) with
      | .unavailable => .error entryNotFound
      | .failed => .error sourceChanged
      | .opened total content =>
        if sandbox.maximum .maxFileBytes < total then .error fileTooLarge
        else
          match content with
          | none => .error binaryFile
          | some text => .ok text

def searchName (current : String × Nat) (name : EntryName) (traversal : Traversal) :
    Except Thrown (ForInStep Traversal) :=
  let path := childPath current.1 name.val
  let depth := current.2 + 1
  if !sandbox.isPortableDiscoveredPath path then .ok (.yield traversal)
  else do
    match ← sandbox.inspectDiscovered path with
    | none => return .yield traversal
    | some stats =>
      let classification := sandbox.classifyPath path
      if stats.kind = .directory then
        if classification = .denied then return .yield traversal
        else if depth < sandbox.maximum .maxDepth then
          return .yield { traversal with pending := traversal.pending ++ [(path, depth)] }
        else return .yield { traversal with truncated := true }
      else if stats.kind = .file then
        if classification ≠ .insideAllowed then return .yield traversal
        else if 1 < stats.nlink then .error hardLinkDenied
        else if sandbox.maximum .maxVisitedFiles ≤ traversal.budget.visitedFiles then
          return .done { traversal with truncated := true }
        else
          let visited := { traversal with
            budget := { traversal.budget with visitedFiles := traversal.budget.visitedFiles + 1 } }
          if !sandbox.extensionPermitted path then return .yield visited
          else return .yield { visited with files := traversal.files ++ [path] }
      else return .yield traversal

/-- Visit the pending directories. Each takes one of the directories that may be visited, or ends the traversal,
so that as many rounds and one are enough. -/
def searchDirectories : Nat → Traversal → Except Thrown Traversal
  | 0, traversal => .ok traversal
  | rounds + 1, traversal =>
    match traversal.pending with
    | [] => .ok traversal
    | current :: pending =>
      if traversal.truncated then .ok traversal
      else do
        let (directory, budget) ← sandbox.readBoundedDirectory current.1 traversal.budget
        let opened := { traversal with pending, budget, truncated := directory.truncated }
        let visited ← forIn directory.names opened (sandbox.searchName current)
        searchDirectories rounds visited

def traverse (start : String) : Except Thrown Traversal := do
  let stats ← sandbox.inspect start
  sandbox.assertAccessibleByType start stats
  match stats.kind with
  | .file =>
    if sandbox.maximum .maxVisitedFiles = 0 then return ⟨[], [], traversalBudget, true⟩
    else return ⟨[start], [], { traversalBudget with visitedFiles := 1 }, false⟩
  | .directory =>
    sandbox.searchDirectories (sandbox.maximum .maxVisitedDirectories + 1)
      ⟨[], [(start, 0)], traversalBudget, false⟩
  | _ => .error notRegularFile

def needle : List Nat := if arguments_.caseSensitive then arguments_.query else lowerUnits arguments_.query

def haystack (line : String) : List Nat :=
  if arguments_.caseSensitive then codeUnits line else lowerUnits (codeUnits line)

def matchAt (path : String) (lineIndex : Nat) (line : String) (column : Nat) : SearchMatch :=
  ⟨path, lineIndex + 1, column + 1, safeSnippet line column⟩

def candidate (visitedFiles : Nat) (hits : Hits) (found : SearchMatch) : SearchOutput :=
  ⟨arguments_.path, hits.hits ++ [found], hits.truncated, visitedFiles⟩

/-- The matches of a line. Each takes a place of the line, so that as many rounds as places are enough. -/
def searchLine (visitedFiles : Nat) (path : String) (lineIndex : Nat) (line : String) : Nat → Nat → Hits → Hits
  | 0, _, hits => hits
  | rounds + 1, start, hits =>
    if (haystack lowerUnits arguments_ line).length < start then hits
    else
      match indexOf (needle lowerUnits arguments_) (haystack lowerUnits arguments_ line) start with
      | none => hits
      | some column =>
        let found := matchAt path lineIndex line column
        if sandbox.maximum .maxResults ≤ hits.hits.length then { hits with truncated := true }
        else if sandbox.maximum .maxOutputBytes < (candidate arguments_ visitedFiles hits found).byteLength then
          { hits with truncated := true }
        else
          searchLine visitedFiles path lineIndex line rounds (column + max 1 (needle lowerUnits arguments_).length)
            { hits with hits := hits.hits ++ [found] }

def searchLines (visitedFiles : Nat) (path : String) : Nat → List String → Hits → Hits
  | _, [], hits => hits
  | lineIndex, line :: lines, hits =>
    let searched := sandbox.searchLine lowerUnits arguments_ visitedFiles path lineIndex line
      ((haystack lowerUnits arguments_ line).length + 1) 0 hits
    if searched.truncated then searched else searchLines visitedFiles path (lineIndex + 1) lines searched

def searchFiles (visitedFiles : Nat) : List String → Hits → Except Thrown Hits
  | [], hits => .ok hits
  | path :: paths, hits => do
    sandbox.assertInsideAllowed path
    let content ← sandbox.readTextFile path
    let searched := sandbox.searchLines lowerUnits arguments_ visitedFiles path 0 (textLines content) hits
    if searched.truncated then return searched else searchFiles visitedFiles paths searched

def search : Except Thrown SearchOutput := do
  let start ← sandbox.assertEffectivePath arguments_.path true
  let traversal ← sandbox.traverse start
  let hits ← sandbox.searchFiles lowerUnits arguments_ traversal.files.length (sort traversal.files)
    ⟨[], traversal.truncated⟩
  let output : SearchOutput := ⟨start, hits.hits, hits.truncated, traversal.files.length⟩
  if sandbox.maximum .maxOutputBytes < output.byteLength then .error outputTooLarge else return output

def matchesFrom (path : String) (lineIndex : Nat) (line : String) (start : Nat) : List SearchMatch :=
  (scan (needle lowerUnits arguments_) start 0 ((haystack lowerUnits arguments_ line).drop start)).map
    (matchAt path lineIndex line)

def lineMatches (path : String) (lineIndex : Nat) (line : String) : List SearchMatch :=
  (occurrences (needle lowerUnits arguments_) (haystack lowerUnits arguments_ line)).map (matchAt path lineIndex line)

def fits (visitedFiles : Nat) (hits : Hits) (found : SearchMatch) : Bool :=
  hits.hits.length < sandbox.maximum .maxResults &&
    (candidate arguments_ visitedFiles hits found).byteLength ≤ sandbox.maximum .maxOutputBytes

def fill (visitedFiles : Nat) : List SearchMatch → Hits → Hits
  | [], hits => hits
  | found :: later, hits =>
    if sandbox.fits arguments_ visitedFiles hits found then
      fill visitedFiles later { hits with hits := hits.hits ++ [found] }
    else { hits with truncated := true }

variable {sandbox lowerUnits arguments_} {visitedFiles lineIndex start : Nat} {path line : String} {hits : Hits}
  {found later : List SearchMatch}

theorem fill_room {found : SearchMatch} (few : ¬sandbox.maximum .maxResults ≤ hits.hits.length)
    (small : ¬sandbox.maximum .maxOutputBytes < (candidate arguments_ visitedFiles hits found).byteLength) :
    sandbox.fill arguments_ visitedFiles (found :: later) hits =
      sandbox.fill arguments_ visitedFiles later { hits with hits := hits.hits ++ [found] } := by
  rw [fill, if_pos]
  simp only [fits, Bool.and_eq_true, decide_eq_true_eq]
  omega

theorem fill_full {found : SearchMatch} (full : sandbox.fits arguments_ visitedFiles hits found = false) :
    sandbox.fill arguments_ visitedFiles (found :: later) hits = { hits with truncated := true } := by
  rw [fill, full]
  rfl

theorem searchLine_fill {rounds : Nat} (inside : start ≤ (haystack lowerUnits arguments_ line).length)
    (enough : (haystack lowerUnits arguments_ line).length < start + rounds) :
    sandbox.searchLine lowerUnits arguments_ visitedFiles path lineIndex line rounds start hits =
      sandbox.fill arguments_ visitedFiles (matchesFrom lowerUnits arguments_ path lineIndex line start) hits := by
  induction rounds generalizing start hits with
  | zero => omega
  | succ rounds ih =>
    rw [searchLine, if_neg (Nat.not_lt.mpr inside), matchesFrom]
    cases found : indexOf (needle lowerUnits arguments_) (haystack lowerUnits arguments_ line) start with
    | none => rw [indexOf_none found]; rfl
    | some column =>
      rw [indexOf_some found inside, List.map_cons]
      dsimp only
      split
      · next full => rw [fill_full]; simp [fits, Nat.not_lt.mpr full]
      split
      · next large => rw [fill_full]; simp [fits, large]
      next few small =>
      rw [fill_room few small]
      split
      · next more => exact ih more (by have behind := indexOf_start found; omega)
      · next none =>
        -- The next place lies behind the line.
        cases rounds with
        | zero => rfl
        | succ rounds => rw [searchLine, if_pos (Nat.lt_of_not_le none)]; rfl

theorem fill_ends (hits : Hits) : ∃ taken rest, later = taken ++ rest ∧
    (sandbox.fill arguments_ visitedFiles later hits).hits = hits.hits ++ taken ∧
    (rest = [] ∧ (sandbox.fill arguments_ visitedFiles later hits).truncated = hits.truncated ∨
      ∃ next others, rest = next :: others ∧
        sandbox.fits arguments_ visitedFiles { hits with hits := hits.hits ++ taken } next = false) := by
  induction later generalizing hits with
  | nil => exact ⟨[], [], rfl, (List.append_nil _).symm, .inl ⟨rfl, rfl⟩⟩
  | cons found later ih =>
    by_cases room : sandbox.fits arguments_ visitedFiles hits found = true
    · obtain ⟨taken, rest, parts, reported, ends⟩ := ih { hits with hits := hits.hits ++ [found] }
      rw [fill, if_pos room]
      refine ⟨found :: taken, rest, by rw [parts, List.cons_append], by simp [reported], ?_⟩
      simpa only [List.append_assoc, List.singleton_append] using ends
    · have full : sandbox.fits arguments_ visitedFiles hits found = false := by simpa using room
      rw [fill_full full]
      exact ⟨[], found :: later, rfl, (List.append_nil _).symm, .inr ⟨found, later, rfl, by simpa using full⟩⟩

theorem fill_append (going : hits.truncated = false) : sandbox.fill arguments_ visitedFiles (found ++ later) hits =
    if (sandbox.fill arguments_ visitedFiles found hits).truncated then sandbox.fill arguments_ visitedFiles found hits
    else sandbox.fill arguments_ visitedFiles later (sandbox.fill arguments_ visitedFiles found hits) := by
  induction found generalizing hits with
  | nil => simp [fill, going]
  | cons first found ih =>
    rw [List.cons_append, fill, fill]
    split
    · exact ih going
    · rfl

theorem fill_truncated (cut : hits.truncated = true) :
    (sandbox.fill arguments_ visitedFiles later hits).truncated = true := by
  induction later generalizing hits with
  | nil => exact cut
  | cons found later ih =>
    rw [fill]
    split
    · exact ih cut
    · rfl

theorem searchLine_whole (path : String) (lineIndex : Nat) (line : String) (hits : Hits) :
    sandbox.searchLine lowerUnits arguments_ visitedFiles path lineIndex line
      ((haystack lowerUnits arguments_ line).length + 1) 0 hits =
    sandbox.fill arguments_ visitedFiles (lineMatches lowerUnits arguments_ path lineIndex line) hits :=
  searchLine_fill (Nat.zero_le _) (by omega)

def linesMatches (lowerUnits : List Nat → List Nat) (arguments_ : SearchArguments) (path : String) :
    Nat → List String → List SearchMatch
  | _, [] => []
  | lineIndex, line :: lines =>
    lineMatches lowerUnits arguments_ path lineIndex line ++ linesMatches lowerUnits arguments_ path (lineIndex + 1) lines

theorem mem_linesMatches {lines : List String} {found : SearchMatch} :
    found ∈ linesMatches lowerUnits arguments_ path lineIndex lines ↔ ∃ later line, lines[later]? = some line ∧
      found ∈ lineMatches lowerUnits arguments_ path (lineIndex + later) line := by
  induction lines generalizing lineIndex with
  | nil => simp [linesMatches]
  | cons line lines ih =>
    rw [linesMatches, List.mem_append, ih]
    constructor
    · rintro (here | ⟨later, line, placed, member⟩)
      · exact ⟨0, line, rfl, here⟩
      · exact ⟨later + 1, line, placed, by rwa [Nat.add_assoc, Nat.add_comm 1 later] at member⟩
    · rintro ⟨later, other, placed, member⟩
      cases later with
      | zero => cases placed; exact .inl member
      | succ later => exact .inr ⟨later, other, placed, by rwa [Nat.add_assoc, Nat.add_comm 1 later]⟩

theorem searchLines_fill {lines : List String} (going : hits.truncated = false) :
    sandbox.searchLines lowerUnits arguments_ visitedFiles path lineIndex lines hits =
      sandbox.fill arguments_ visitedFiles (linesMatches lowerUnits arguments_ path lineIndex lines) hits := by
  induction lines generalizing lineIndex hits with
  | nil => rfl
  | cons line lines ih =>
    rw [searchLines, searchLine_whole, linesMatches, fill_append going]
    split
    · rfl
    · next stays => exact ih (by simpa using stays)

theorem searchLines_cut {lines : List String} (cut : hits.truncated = true) :
    sandbox.searchLines lowerUnits arguments_ visitedFiles path lineIndex (line :: lines) hits =
      sandbox.fill arguments_ visitedFiles (lineMatches lowerUnits arguments_ path lineIndex line) hits := by
  rw [searchLines, searchLine_whole, if_pos (fill_truncated cut)]

theorem readTextFile_ok {content : String} (read : sandbox.readTextFile path = .ok content) :
    ∃ total, sandbox.tree.readFile (pathNames path) = .opened total (some content) := by
  simp only [readTextFile] at read
  obtain ⟨-, read⟩ := guard_ok read
  obtain ⟨stats, -, read⟩ := bind_ok read
  obtain ⟨-, read⟩ := guard_ok read
  obtain ⟨-, read⟩ := guard_ok read
  obtain ⟨-, read⟩ := guard_ok read
  split at read
  · cases read
  · cases read
  next total content opened =>
  obtain ⟨-, read⟩ := guard_ok read
  cases content with
  | none => cases read
  | some text => cases read; exact ⟨total, opened⟩

def textOf (sandbox : FilesystemSandbox) (path : String) : Option String :=
  match sandbox.tree.readFile (pathNames path) with
  | .opened _ content => content
  | _ => none

def fileMatches (sandbox : FilesystemSandbox) (lowerUnits : List Nat → List Nat) (arguments_ : SearchArguments)
    (path : String) : List SearchMatch :=
  match textOf sandbox path with
  | none => []
  | some content => linesMatches lowerUnits arguments_ path 0 (textLines content)

theorem fileMatches_read {content : String} (read : sandbox.readTextFile path = .ok content) :
    fileMatches sandbox lowerUnits arguments_ path = linesMatches lowerUnits arguments_ path 0 (textLines content) := by
  obtain ⟨total, opened⟩ := readTextFile_ok read
  simp only [fileMatches, textOf, opened]

theorem searchFiles_fill {paths : List String} {last : Hits} (going : hits.truncated = false)
    (searched : sandbox.searchFiles lowerUnits arguments_ visitedFiles paths hits = .ok last) :
    last = sandbox.fill arguments_ visitedFiles (paths.flatMap (fileMatches sandbox lowerUnits arguments_)) hits := by
  induction paths generalizing hits with
  | nil => cases searched; rfl
  | cons path paths ih =>
    obtain ⟨-, -, searched⟩ := bind_ok searched
    obtain ⟨content, read, searched⟩ := bind_ok searched
    rw [searchLines_fill going, ← fileMatches_read read] at searched
    rw [List.flatMap_cons, fill_append going]
    dsimp only at searched
    split at searched
    · next full => cases searched; rw [if_pos full]
    · next stays =>
      rw [if_neg stays]
      exact ih (by simpa using stays) searched

theorem textLines_cons (content : String) : ∃ line lines, textLines content = line :: lines :=
  List.exists_cons_of_ne_nil fun empty => List.splitOn_ne_nil _ _ (List.map_eq_nil_iff.mp empty)

theorem searchFiles_cut {paths : List String} {last : Hits} (cut : hits.truncated = true)
    (searched : sandbox.searchFiles lowerUnits arguments_ visitedFiles (path :: paths) hits = .ok last) :
    ∃ line lines, fileMatches sandbox lowerUnits arguments_ path =
        lineMatches lowerUnits arguments_ path 0 line ++ linesMatches lowerUnits arguments_ path 1 lines ∧
      last = sandbox.fill arguments_ visitedFiles (lineMatches lowerUnits arguments_ path 0 line) hits := by
  obtain ⟨-, -, searched⟩ := bind_ok searched
  obtain ⟨content, read, searched⟩ := bind_ok searched
  obtain ⟨line, lines, parts⟩ := textLines_cons content
  rw [parts, searchLines_cut cut] at searched
  dsimp only at searched
  rw [if_pos (fill_truncated cut)] at searched
  cases searched
  exact ⟨line, lines, by rw [fileMatches_read read, parts, linesMatches], rfl⟩

/-- An occurrence of the query in a visited file, as the match that reports it. -/
structure Occurs (sandbox : FilesystemSandbox) (lowerUnits : List Nat → List Nat) (arguments_ : SearchArguments)
    (files : List String) (found : SearchMatch) : Prop where
  visited : found.path ∈ files
  occurs : ∃ content lineIndex line column, textOf sandbox found.path = some content ∧
    (textLines content)[lineIndex]? = some line ∧
    column ∈ occurrences (needle lowerUnits arguments_) (haystack lowerUnits arguments_ line) ∧
    found = matchAt found.path lineIndex line column

/-- The occurrences in visited files, in the order of files, lines and columns. -/
def visitedMatches (sandbox : FilesystemSandbox) (lowerUnits : List Nat → List Nat) (arguments_ : SearchArguments)
    (files : List String) : List SearchMatch :=
  (sort files).flatMap (fileMatches sandbox lowerUnits arguments_)

theorem mem_visitedMatches {files : List String} {found : SearchMatch} :
    found ∈ visitedMatches sandbox lowerUnits arguments_ files ↔ Occurs sandbox lowerUnits arguments_ files found := by
  simp only [visitedMatches, List.mem_flatMap, sort, mem_sortOn]
  constructor
  · rintro ⟨path, visited, member⟩
    rw [fileMatches] at member
    split at member
    · cases member
    next content held =>
    obtain ⟨lineIndex, line, placed, inLine⟩ := mem_linesMatches.mp member
    obtain ⟨column, at_, rfl⟩ := List.mem_map.mp inLine
    rw [Nat.zero_add]
    exact ⟨visited, content, lineIndex, line, column, held, placed, at_, rfl⟩
  · rintro ⟨visited, content, lineIndex, line, column, held, placed, at_, same⟩
    refine ⟨found.path, visited, ?_⟩
    rw [fileMatches, held]
    refine mem_linesMatches.mpr ⟨lineIndex, line, placed, ?_⟩
    rw [Nat.zero_add]
    exact List.mem_map.mpr ⟨column, at_, same.symm⟩

/-- A search met the limit of its results or of its output: the next match has no room behind those reported. -/
def LimitReached (sandbox : FilesystemSandbox) (lowerUnits : List Nat → List Nat) (arguments_ : SearchArguments)
    (traversal : Traversal) (output : SearchOutput) : Prop :=
  ∃ next others, visitedMatches sandbox lowerUnits arguments_ traversal.files = output.hits ++ next :: others ∧
    sandbox.fits arguments_ traversal.files.length ⟨output.hits, traversal.truncated⟩ next = false

theorem search_ok {output : SearchOutput} {traversal : Traversal}
    (traversed : sandbox.traverse arguments_.path = .ok traversal)
    (returned : sandbox.search lowerUnits arguments_ = .ok output) : ∃ hits,
      sandbox.searchFiles lowerUnits arguments_ traversal.files.length (sort traversal.files)
        ⟨[], traversal.truncated⟩ = .ok hits ∧
      output = ⟨arguments_.path, hits.hits, hits.truncated, traversal.files.length⟩ := by
  obtain ⟨start, accepted, returned⟩ := bind_ok returned
  obtain rfl := assertEffectivePath_ok accepted
  obtain ⟨again, traversedAgain, returned⟩ := bind_ok returned
  cases traversed.symm.trans traversedAgain
  obtain ⟨hits, searched, returned⟩ := bind_ok returned
  obtain ⟨-, returned⟩ := guard_ok returned
  cases returned
  exact ⟨hits, searched, rfl⟩

theorem lineMatches_place {found : SearchMatch} (member : found ∈ lineMatches lowerUnits arguments_ path lineIndex line) :
    found.path = path ∧ found.line = lineIndex + 1 := by
  obtain ⟨column, -, rfl⟩ := List.mem_map.mp member
  exact ⟨rfl, rfl⟩

theorem fileMatches_path {found : SearchMatch} (member : found ∈ fileMatches sandbox lowerUnits arguments_ path) :
    found.path = path := by
  rw [fileMatches] at member
  split at member
  · cases member
  · obtain ⟨later, line, -, inLine⟩ := mem_linesMatches.mp member
    exact (lineMatches_place inLine).1

/-- Unless its results or its output reached their limit, a search reports every occurrence in the files that it
visited when no limit of the traversal kept others out, or else when each is on the first line of the first file. -/
theorem search_complete_iff {output : SearchOutput} {traversal : Traversal}
    (traversed : sandbox.traverse arguments_.path = .ok traversal)
    (returned : sandbox.search lowerUnits arguments_ = .ok output)
    (roomy : ¬LimitReached sandbox lowerUnits arguments_ traversal output) :
    (∀ found, Occurs sandbox lowerUnits arguments_ traversal.files found → found ∈ output.hits) ↔
      (traversal.truncated = false ∨ ∀ found, Occurs sandbox lowerUnits arguments_ traversal.files found →
        (sort traversal.files).head? = some found.path ∧ found.line = 1) := by
  obtain ⟨hits, searched, rfl⟩ := search_ok traversed returned
  simp only [← mem_visitedMatches]
  by_cases cut : traversal.truncated = true
  · simp only [cut, Bool.true_eq_false, false_or]
    rw [visitedMatches]
    cases files : sort traversal.files with
    | nil => simp
    | cons path paths =>
      rw [files, cut] at searched
      obtain ⟨line, lines, parts, rfl⟩ := searchFiles_cut rfl searched
      obtain ⟨taken, rest, split, reported, ends⟩ := @fill_ends sandbox arguments_ traversal.files.length
        (lineMatches lowerUnits arguments_ path 0 line) ⟨[], true⟩
      rw [List.nil_append] at reported
      have whole : rest = [] := by
        rcases ends with ⟨none, -⟩ | ⟨next, others, rfl, full⟩
        · exact none
        · refine absurd ⟨next, others ++ linesMatches lowerUnits arguments_ path 1 lines ++
            paths.flatMap (fileMatches sandbox lowerUnits arguments_), ?_, ?_⟩ roomy
          · dsimp only
            rw [reported, visitedMatches, files, List.flatMap_cons, parts, split]
            simp only [List.append_assoc, List.cons_append]
          · dsimp only
            rw [reported, cut]
            exact full
      subst whole
      rw [List.append_nil] at split
      rw [reported, ← split]
      constructor
      · intro complete found member
        obtain ⟨place, number⟩ := lineMatches_place (complete found member)
        exact ⟨by rw [place]; rfl, number⟩
      · intro first found member
        obtain ⟨place, number⟩ := first found member
        obtain ⟨other, inFiles, inFile⟩ := List.mem_flatMap.mp member
        obtain rfl : path = found.path := by simpa using place
        obtain rfl := fileMatches_path inFile
        rw [parts] at inFile
        refine (List.mem_append.mp inFile).resolve_right fun later => ?_
        obtain ⟨index, line, -, inLine⟩ := mem_linesMatches.mp later
        have := (lineMatches_place inLine).2
        omega
  · have going : traversal.truncated = false := by simpa using cut
    rw [going] at searched
    have filled := searchFiles_fill rfl searched
    subst filled
    obtain ⟨taken, rest, split, reported, ends⟩ := @fill_ends sandbox arguments_ traversal.files.length
      (visitedMatches sandbox lowerUnits arguments_ traversal.files) ⟨[], false⟩
    rw [List.nil_append] at reported
    simp only [going, true_or, iff_true]
    intro found member
    rcases ends with ⟨rfl, -⟩ | ⟨next, others, rfl, full⟩
    · rw [List.append_nil] at split
      exact reported ▸ split ▸ member
    · refine absurd ⟨next, others, ?_, ?_⟩ roomy
      · exact split.trans (congrArg (· ++ next :: others) reported.symm)
      · rw [going]
        exact reported.symm ▸ full

def needleQuery : SearchArguments := ⟨"", codeUnits "needle", true⟩

theorem search_complete_iff_texts : let sandbox : FilesystemSandbox := ⟨twoTexts "first\nneedle" "needle", openConstraints 8, lowerCase⟩
    ∀ found, Occurs sandbox id needleQuery ["a.txt", "src/b.txt"] found →
      found ∈ [matchAt "a.txt" 1 "needle" 0, matchAt "src/b.txt" 0 "needle" 0] := by
  intro sandbox
  have traversed : sandbox.traverse needleQuery.path = .ok ⟨["a.txt", "src/b.txt"], [], ⟨3, 2, 2⟩, false⟩ := by
    decide
  have returned : sandbox.search id needleQuery =
      .ok ⟨"", [matchAt "a.txt" 1 "needle" 0, matchAt "src/b.txt" 0 "needle" 0], false, 2⟩ := by decide
  have all : visitedMatches sandbox id needleQuery ["a.txt", "src/b.txt"] =
      [matchAt "a.txt" 1 "needle" 0, matchAt "src/b.txt" 0 "needle" 0] := by decide
  refine (@search_complete_iff sandbox id needleQuery _ _ traversed returned ?_).mpr (.inl rfl)
  rintro ⟨next, others, same, -⟩
  simp only [all] at same
  simp at same

/-- A directory at the greatest depth stops the search behind the first line of the first file. -/
theorem search_drops_second_line : let sandbox : FilesystemSandbox := ⟨twoTexts "first\nneedle" "needle", openConstraints 1, lowerCase⟩
    ∃ traversal output, sandbox.traverse "" = .ok traversal ∧ sandbox.search id needleQuery = .ok output ∧
      ¬LimitReached sandbox id needleQuery traversal output ∧
      ∃ found, Occurs sandbox id needleQuery traversal.files found ∧ found ∉ output.hits := by
  intro sandbox
  have all : visitedMatches sandbox id needleQuery ["a.txt"] = [matchAt "a.txt" 1 "needle" 0] := by decide
  have room : sandbox.fits needleQuery 1 ⟨[], true⟩ (matchAt "a.txt" 1 "needle" 0) = true := by decide
  refine ⟨⟨["a.txt"], [], ⟨2, 1, 1⟩, true⟩, ⟨"", [], true, 1⟩, by decide, by decide, ?_,
    matchAt "a.txt" 1 "needle" 0, mem_visitedMatches.mp (by rw [all]; exact List.mem_cons_self), List.not_mem_nil⟩
  rintro ⟨next, others, same, full⟩
  rw [all] at same
  cases same
  exact absurd full (by simpa using room)

end FilesystemSandbox

end AiOffice.Connector.FilesystemReads

namespace AiOffice.Connector.FilesystemReads.FilesystemSandbox

open Data Outcome Domain Connector.Filesystem

variable {sandbox : FilesystemSandbox} {lowerUnits : List Nat → List Nat} {arguments_ : SearchArguments}
  {output : SearchOutput} {traversal : Traversal} {found : SearchMatch}

/-- A search reports only occurrences. -/
theorem search_reports (returned : sandbox.search lowerUnits arguments_ = .ok output) (reported : found ∈ output.hits) :
    ∃ files, Occurs sandbox lowerUnits arguments_ files found := by
  obtain ⟨start, accepted, entered⟩ := bind_ok returned
  obtain rfl := assertEffectivePath_ok accepted
  obtain ⟨traversal, traversed, -⟩ := bind_ok entered
  obtain ⟨hits, searched, rfl⟩ := search_ok traversed returned
  refine ⟨traversal.files, mem_visitedMatches.mp ?_⟩
  by_cases cut : traversal.truncated = true
  · rw [cut] at searched
    cases files : sort traversal.files with
    | nil =>
      rw [files] at searched
      cases searched
      cases reported
    | cons path paths =>
      rw [files] at searched
      obtain ⟨line, lines, parts, rfl⟩ := searchFiles_cut rfl searched
      obtain ⟨taken, rest, split, all, -⟩ := @fill_ends sandbox arguments_ traversal.files.length
        (lineMatches lowerUnits arguments_ path 0 line) ⟨[], true⟩
      dsimp only at reported
      rw [all, List.nil_append] at reported
      rw [visitedMatches, files, List.flatMap_cons, parts, split]
      simp [reported]
  · have going : traversal.truncated = false := by simpa using cut
    rw [going] at searched
    obtain rfl := searchFiles_fill rfl searched
    obtain ⟨taken, rest, split, all, -⟩ := @fill_ends sandbox arguments_ traversal.files.length
      (visitedMatches sandbox lowerUnits arguments_ traversal.files) ⟨[], false⟩
    have inside : found ∈ taken := by
      rw [List.nil_append] at all
      exact all ▸ reported
    rw [split]
    exact List.mem_append_left _ inside

/-- Lower-casing a line keeps a part of it in its place: what stands before the part and the part itself keep
their lengths, and the line is lower-cased as its three parts are. -/
structure KeepsPlace (lowerUnits : List Nat → List Nat) (units : List Nat) (column length : Nat) : Prop where
  apart : lowerUnits units = lowerUnits (units.take column) ++ lowerUnits ((units.drop column).take length) ++
    lowerUnits (units.drop (column + length))
  before : (lowerUnits (units.take column)).length = column
  itself : (lowerUnits ((units.drop column).take length)).length = length

theorem keepsPlace_map (lowerUnit : Nat → Nat) {units : List Nat} {column length : Nat}
    (inside : column + length ≤ units.length) : KeepsPlace (List.map lowerUnit) units column length where
  apart := by
    rw [← List.map_append, ← List.map_append]
    congr 1
    rw [List.append_assoc, ← List.drop_drop, List.take_append_drop, List.take_append_drop]
  before := by rw [List.length_map, List.length_take]; omega
  itself := by rw [List.length_map, List.length_take, List.length_drop]; omega

theorem KeepsPlace.same {units needle : List Nat} {column : Nat} (kept : KeepsPlace lowerUnits units column needle.length)
    (starts : needle <+: (lowerUnits units).drop column) :
    lowerUnits ((units.drop column).take needle.length) = needle := by
  rw [kept.apart, List.append_assoc, List.drop_append, kept.before, Nat.sub_self, List.drop_zero,
    List.drop_eq_nil_of_le kept.before.le, List.nil_append] at starts
  have part := List.prefix_of_prefix_length_le starts (List.prefix_append _ _) kept.itself.ge
  exact (part.eq_of_length kept.itself.symm).symm

/-- Where a search reports a match, it stands in the original line: exactly, or up to letter case when lower-casing
keeps the place. Its excerpt shows it, up to a hundred code units and with controls as spaces, when no secret is
redacted before its end. -/
theorem search_positions (returned : sandbox.search lowerUnits arguments_ = .ok output) (reported : found ∈ output.hits) :
    ∃ content line column, textOf sandbox found.path = some content ∧ found.line ≠ 0 ∧
      (textLines content)[found.line - 1]? = some line ∧ found.column = column + 1 ∧
      (arguments_.caseSensitive = true → arguments_.query <+: (codeUnits line).drop column) ∧
      (arguments_.caseSensitive = false →
        KeepsPlace lowerUnits (codeUnits line) column (lowerUnits arguments_.query).length →
        lowerUnits (((codeUnits line).drop column).take (lowerUnits arguments_.query).length) =
          lowerUnits arguments_.query) ∧
      (Clear false (spaceControls line.toList) (column + (needle lowerUnits arguments_).length) →
        ((((codeUnits line).drop column).take (needle lowerUnits arguments_).length).map shownUnit).take 100 <:+:
          found.excerpt) := by
  obtain ⟨files, -, content, lineIndex, line, column, held, placed, occurs, same⟩ := search_reports returned reported
  have starts := occurrences_initial occurs
  have number : found.line = lineIndex + 1 := congrArg SearchMatch.line same
  have excerpt : found.excerpt = safeSnippet line column := congrArg SearchMatch.excerpt same
  refine ⟨content, line, column, held, by omega, by rw [number]; exact placed, congrArg SearchMatch.column same, ?_, ?_, ?_⟩
  · intro sensitive
    simpa only [needle, haystack, sensitive, if_true] using starts
  · intro insensitive kept
    simp only [needle, haystack, insensitive, Bool.false_eq_true, if_false] at starts
    exact kept.same starts
  · intro clear
    rw [excerpt]
    exact safeSnippet_shows clear

def lowerLatin (unit : Nat) : Nat := if 0x41 ≤ unit ∧ unit ≤ 0x5A then unit + 0x20 else unit

theorem search_positions_insensitive :
    let sandbox : FilesystemSandbox := ⟨twoTexts "first\nsome Needle" "", openConstraints 8, lowerCase⟩
    sandbox.search (List.map lowerLatin) ⟨"", codeUnits "NEEDLE", false⟩ =
        .ok ⟨"", [matchAt "a.txt" 1 "some Needle" 5], false, 2⟩ ∧
      (((codeUnits "some Needle").drop 5).take 6).map lowerLatin = codeUnits "needle" := by
  intro sandbox
  have returned : sandbox.search (List.map lowerLatin) ⟨"", codeUnits "NEEDLE", false⟩ =
      .ok ⟨"", [matchAt "a.txt" 1 "some Needle" 5], false, 2⟩ := by decide
  obtain ⟨content, line, column, held, -, placed, same, -, insensitive, -⟩ := search_positions returned List.mem_cons_self
  have text : textOf sandbox "a.txt" = some "first\nsome Needle" := by decide
  have second : (textLines "first\nsome Needle")[1]? = some "some Needle" := by decide
  obtain rfl : content = "first\nsome Needle" := Option.some.inj (held.symm.trans text)
  obtain rfl : line = "some Needle" := Option.some.inj (placed.symm.trans second)
  obtain rfl : column = 5 := Nat.succ_injective same.symm
  exact ⟨returned, insensitive rfl (keepsPlace_map lowerLatin (by decide))⟩

/-- A secret is not shown where it was found. -/
theorem search_hides_secret :
    let sandbox : FilesystemSandbox := ⟨twoTexts "password=hunter2" "", openConstraints 8, lowerCase⟩
    ∃ output found, sandbox.search id ⟨"", codeUnits "hunter2", true⟩ = .ok output ∧ found ∈ output.hits ∧
      found.excerpt = codeUnits "password=[REDACTED]" ∧ ¬codeUnits "hunter2" <:+: found.excerpt :=
  ⟨⟨"", [matchAt "a.txt" 0 "password=hunter2" 9], false, 2⟩, matchAt "a.txt" 0 "password=hunter2" 9,
    by decide, List.mem_cons_self, by decide, by decide⟩

end AiOffice.Connector.FilesystemReads.FilesystemSandbox
