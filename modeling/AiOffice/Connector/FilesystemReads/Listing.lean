import AiOffice.Connector.FilesystemReads
import AiOffice.Data.Loop

namespace AiOffice.Connector.FilesystemReads

open Data Outcome Domain Connector.Filesystem

structure ListedEntry where
  path : String
  kind : FileKind
  byteLength : Option Nat
  deriving DecidableEq

structure ListArguments where
  path : String
  recursive : Bool

structure ListOutput where
  path : String
  entries : List ListedEntry
  truncated : Bool
  deriving DecidableEq

def kindText (kind : FileKind) : String := if kind = .directory then "directory" else "file"

def ListedEntry.size (entry : ListedEntry) : Nat :=
  bracketed ([memberSize "path" (stringSize (codeUnits entry.path)),
    memberSize "kind" (stringSize (codeUnits (kindText entry.kind)))] ++
    (entry.byteLength.map fun bytes => memberSize "byteLength" (numberSize bytes)).toList)

def ListOutput.byteLength (output : ListOutput) : Nat :=
  bracketed [memberSize "path" (stringSize (codeUnits output.path)),
    memberSize "entries" (bracketed (output.entries.map ListedEntry.size)),
    memberSize "truncated" (booleanSize output.truncated)]

def listedEntry (path : String) (stats : Stats) : ListedEntry :=
  ⟨path, stats.kind, if stats.kind = .file then some stats.size else none⟩

/-- A listing while its directories are visited: those that are left are the `pending` ones, with their depth. -/
structure Listing where
  entries : List ListedEntry
  pending : List (String × Nat)
  budget : TraversalBudget
  truncated : Bool

namespace FilesystemSandbox

variable (sandbox : FilesystemSandbox) (arguments_ : ListArguments)

def passedOver (path : String) (stats : Stats) : Bool :=
  let classification := sandbox.classifyPath path
  classification = .denied || (stats.kind = .file && classification ≠ .insideAllowed) ||
    (stats.kind = .file && 1 < stats.nlink) || (stats.kind ≠ .file && stats.kind ≠ .directory)

def addEntry (path : String) (depth : Nat) (stats : Stats) (listing : Listing) : ForInStep Listing :=
  if sandbox.maximum .maxDepth < depth then .yield { listing with truncated := true }
  else
    let entry := listedEntry path stats
    let candidate : ListOutput := ⟨arguments_.path, listing.entries ++ [entry], listing.truncated⟩
    if sandbox.maximum .maxResults ≤ listing.entries.length then .done { listing with truncated := true }
    else if sandbox.maximum .maxOutputBytes < candidate.byteLength then .done { listing with truncated := true }
    else
      .yield { listing with
        entries := listing.entries ++ [entry]
        pending := if arguments_.recursive ∧ stats.kind = .directory then listing.pending ++ [(path, depth)]
          else listing.pending }

def listStats (path : String) (depth : Nat) (stats : Stats) (listing : Listing) : ForInStep Listing :=
  if stats.kind = .file then
    if sandbox.maximum .maxVisitedFiles ≤ listing.budget.visitedFiles then .done { listing with truncated := true }
    else
      let visited := { listing with
        budget := { listing.budget with visitedFiles := listing.budget.visitedFiles + 1 } }
      if !sandbox.extensionPermitted path then .yield visited
      else sandbox.addEntry arguments_ path depth stats visited
  else sandbox.addEntry arguments_ path depth stats listing

def listName (current : String × Nat) (name : EntryName) (listing : Listing) :
    Except Thrown (ForInStep Listing) :=
  let path := childPath current.1 name.val
  if !sandbox.isPortableDiscoveredPath path then .ok (.yield listing)
  else do
    match ← sandbox.inspectDiscovered path with
    | none => return .yield listing
    | some stats =>
      if sandbox.passedOver path stats then return .yield listing
      else return sandbox.listStats arguments_ path (current.2 + 1) stats listing

/-- Visit the pending directories. Each takes one of the directories that may be visited, or ends the listing,
so that as many rounds and one are enough. -/
def listDirectories : Nat → Listing → Except Thrown Listing
  | 0, listing => .ok listing
  | rounds + 1, listing =>
    match listing.pending with
    | [] => .ok listing
    | current :: pending => do
      let (directory, budget) ← sandbox.readBoundedDirectory current.1 listing.budget
      let opened := { listing with pending, budget, truncated := listing.truncated || directory.truncated }
      let visited ← forIn directory.names opened (sandbox.listName arguments_ current)
      if visited.truncated ∨ !arguments_.recursive then return visited
      else listDirectories rounds visited

def list : Except Thrown ListOutput := do
  let start ← sandbox.assertEffectivePath arguments_.path true
  let stats ← sandbox.inspect start
  sandbox.assertAccessibleByType start stats
  if stats.kind ≠ .directory then .error notDirectory
  else
    let listing ← sandbox.listDirectories arguments_ (sandbox.maximum .maxVisitedDirectories + 1)
      ⟨[], [(start, 0)], traversalBudget, false⟩
    let output : ListOutput := ⟨start, listing.entries, listing.truncated⟩
    if sandbox.maximum .maxOutputBytes < output.byteLength then .error outputTooLarge
    else return output

structure Permitted (path : String) (stats : Stats) : Prop where
  portable : Accepted (pathLimits sandbox.constraints.maximum) path
  access : stats.kind = .directory ∧ sandbox.classifyPath path ≠ .denied ∨
    stats.kind = .file ∧ sandbox.classifyPath path = .insideAllowed ∧ stats.nlink ≤ 1 ∧
      sandbox.extensionPermitted path = true

/-- The permitted entries below the start of a listing: those of the directory itself, and those of the
directories that are shown when the listing is recursive. -/
inductive Shown : String → Stats → Prop
  | child {name : EntryName} {stats : Stats}
      (found : sandbox.tree.lstat (pathNames arguments_.path ++ [name.val]) = .entry stats)
      (permitted : sandbox.Permitted (childPath arguments_.path name.val) stats) :
      Shown (childPath arguments_.path name.val) stats
  | deeper {directory : String} {above : Stats} {name : EntryName} {stats : Stats}
      (recursive : arguments_.recursive = true) (shown : Shown directory above) (kind : above.kind = .directory)
      (found : sandbox.tree.lstat (pathNames directory ++ [name.val]) = .entry stats)
      (permitted : sandbox.Permitted (childPath directory name.val) stats) :
      Shown (childPath directory name.val) stats

/-- What one name does to a listing: it is passed over, it meets a limit, or it adds an entry. -/
inductive NameStep (current : String × Nat) (name : EntryName) (listing : Listing) : ForInStep Listing → Prop
  | passed (budget : TraversalBudget) (same : budget.visitedDirectories = listing.budget.visitedDirectories)
      (hidden : ∀ stats, sandbox.tree.lstat (pathNames current.1 ++ [name.val]) = .entry stats →
        ¬sandbox.Permitted (childPath current.1 name.val) stats) :
      NameStep current name listing (.yield { listing with budget })
  | limited (budget : TraversalBudget) (same : budget.visitedDirectories = listing.budget.visitedDirectories) :
      NameStep current name listing (.yield { listing with budget, truncated := true })
  | ended (budget : TraversalBudget) (same : budget.visitedDirectories = listing.budget.visitedDirectories) :
      NameStep current name listing (.done { listing with budget, truncated := true })
  | added (budget : TraversalBudget) (same : budget.visitedDirectories = listing.budget.visitedDirectories)
      (stats : Stats) (found : sandbox.tree.lstat (pathNames current.1 ++ [name.val]) = .entry stats)
      (permitted : sandbox.Permitted (childPath current.1 name.val) stats)
      (room : listing.entries.length < sandbox.maximum .maxResults) :
      NameStep current name listing (.yield { listing with
        entries := listing.entries ++ [listedEntry (childPath current.1 name.val) stats]
        pending := if arguments_.recursive ∧ stats.kind = .directory then
          listing.pending ++ [(childPath current.1 name.val, current.2 + 1)] else listing.pending
        budget })

variable {sandbox arguments_} {current : String × Nat} {name : EntryName} {listing : Listing}
  {step : ForInStep Listing} {above stats : Stats} {path : String}

theorem passedOver_iff (portable : Accepted (pathLimits sandbox.constraints.maximum) path) :
    sandbox.Permitted path stats ↔
      sandbox.passedOver path stats = false ∧ (stats.kind = .file → sandbox.extensionPermitted path = true) := by
  simp only [passedOver, Bool.or_eq_false_iff, Bool.and_eq_false_iff, decide_eq_false_iff_not, ne_eq, not_not]
  constructor
  · rintro ⟨-, ⟨directory, open_⟩ | ⟨file, inside, links, extension⟩⟩
    · simp [directory, open_]
    · simp [file, inside, extension, Nat.not_lt.mpr links]
  · rintro ⟨⟨⟨⟨notDenied, inside⟩, links⟩, known⟩, extension⟩
    refine ⟨portable, ?_⟩
    by_cases file : stats.kind = .file
    · simp only [file, not_true_eq_false, false_or] at inside links
      exact .inr ⟨file, inside, Nat.le_of_not_lt links, extension file⟩
    · exact .inl ⟨known.resolve_left file, notDenied⟩

theorem addEntry_step (found : sandbox.tree.lstat (pathNames current.1 ++ [name.val]) = .entry stats)
    (permitted : sandbox.Permitted (childPath current.1 name.val) stats) (budget : TraversalBudget)
    (same : budget.visitedDirectories = listing.budget.visitedDirectories) :
    NameStep sandbox arguments_ current name listing
      (sandbox.addEntry arguments_ (childPath current.1 name.val) (current.2 + 1) stats { listing with budget }) := by
  simp only [addEntry]
  split
  · exact .limited budget same
  split
  · exact .ended budget same
  next room =>
  split
  · exact .ended budget same
  · exact .added budget same stats found permitted (Nat.lt_of_not_le room)

theorem listName_step (inspected : sandbox.inspect current.1 = .ok above) (kind : above.kind = .directory)
    (computed : sandbox.listName arguments_ current name listing = .ok step) :
    NameStep sandbox arguments_ current name listing step := by
  simp only [listName] at computed
  split at computed
  · next refused =>
    cases computed
    exact .passed listing.budget rfl fun stats _ permitted => by
      simp [isPortable_iff.mpr permitted.portable] at refused
  next portable =>
  simp only [Bool.not_eq_true, Bool.not_eq_false'] at portable
  have accepted := isPortable_iff.mp portable
  obtain ⟨discovered, asked, computed⟩ := bind_ok computed
  rcases inspectDiscovered_ok asked with ⟨stats, rfl, there⟩ | ⟨rfl, nowhere⟩
  · have found := ((inspect_child_ok inspected kind).mp there).2.1
    simp only at computed
    split at computed
    · next skipped =>
      cases computed
      refine .passed listing.budget rfl fun other answered permitted => ?_
      cases found.symm.trans answered
      exact absurd skipped (by simp [((passedOver_iff accepted).mp permitted).1])
    next kept =>
    cases computed
    simp only [listStats]
    split
    · next file =>
      split
      · exact .ended listing.budget rfl
      split
      · next refused =>
        refine .passed { listing.budget with visitedFiles := listing.budget.visitedFiles + 1 } rfl
          fun other answered permitted => ?_
        cases found.symm.trans answered
        simp [((passedOver_iff accepted).mp permitted).2 file] at refused
      · next extension =>
        have permitted := (passedOver_iff accepted).mpr ⟨by simpa using kept, fun _ => by simpa using extension⟩
        exact addEntry_step found permitted { listing.budget with visitedFiles := listing.budget.visitedFiles + 1 } rfl
    · next other =>
      have permitted := (passedOver_iff accepted).mpr ⟨by simpa using kept, fun file => absurd file other⟩
      exact addEntry_step found permitted listing.budget rfl
  · cases computed
    refine .passed listing.budget rfl fun stats answered permitted => ?_
    -- A permitted entry that is there would have been found.
    refine nowhere stats ((inspect_child_ok inspected kind).mpr ⟨?_, answered, ?_⟩)
    · have open_ : sandbox.classifyPath (childPath current.1 name.val) ≠ .denied := by
        rcases permitted.access with ⟨-, open_⟩ | ⟨-, inside, -⟩
        · exact open_
        · simp [inside]
      by_contra sensitive
      exact open_ (by simp [classifyPath, sensitive])
    · rcases permitted.access with ⟨directory, -⟩ | ⟨file, -⟩
      · simp [directory]
      · simp [file]

theorem Shown.longer (shown : sandbox.Shown arguments_ path stats) :
    (pathNames arguments_.path).length < (pathNames path).length := by
  induction shown with
  | child found permitted => simp [pathNames_child]
  | deeper recursive shown kind found permitted ih => simp only [pathNames_child, List.length_append]; omega

/-- What every listing keeps: no more results than allowed, and only entries that the constraints permit. -/
structure Bounded (sandbox : FilesystemSandbox) (listing : Listing) : Prop where
  few : listing.entries.length ≤ sandbox.maximum .maxResults
  permitted : ∀ entry ∈ listing.entries, ∃ stats, entry = listedEntry entry.path stats ∧ sandbox.Permitted entry.path stats

/-- The directories whose entries a listing shows after those of its start. -/
def expanded (arguments_ : ListArguments) (entries : List ListedEntry) : List String :=
  if arguments_.recursive then (entries.filter (·.kind = .directory)).map ListedEntry.path else []

/-- The entries of a listing when these names of these directories have been looked at. -/
structure Explored (sandbox : FilesystemSandbox) (arguments_ : ListArguments) (looked : String → EntryName → Prop)
    (entries : List ListedEntry) : Prop where
  distinct : (entries.map ListedEntry.path).Nodup
  sound : ∀ entry ∈ entries, ∃ directory name stats, looked directory name ∧
    entry = listedEntry (childPath directory name.val) stats ∧
    sandbox.Shown arguments_ (childPath directory name.val) stats
  complete : ∀ directory (name : EntryName) stats, looked directory name →
    sandbox.tree.lstat (pathNames directory ++ [name.val]) = .entry stats →
    sandbox.Permitted (childPath directory name.val) stats →
    listedEntry (childPath directory name.val) stats ∈ entries

def Reached (sandbox : FilesystemSandbox) (arguments_ : ListArguments) (directory : String) : Prop :=
  directory = arguments_.path ∨
    arguments_.recursive = true ∧ ∃ above, sandbox.Shown arguments_ directory above ∧ above.kind = .directory

variable {looked : String → EntryName → Prop} {entries : List ListedEntry} {directory : String}

theorem Reached.shown (reached : Reached sandbox arguments_ directory)
    (found : sandbox.tree.lstat (pathNames directory ++ [name.val]) = .entry stats)
    (permitted : sandbox.Permitted (childPath directory name.val) stats) :
    sandbox.Shown arguments_ (childPath directory name.val) stats := by
  rcases reached with rfl | ⟨recursive, above, shown, kind⟩
  · exact .child found permitted
  · exact .deeper recursive shown kind found permitted

namespace Explored

theorem apart (explored : Explored sandbox arguments_ looked entries) : arguments_.path ∉ entries.map ListedEntry.path := by
  intro member
  obtain ⟨entry, inside, same⟩ := List.mem_map.mp member
  obtain ⟨directory, name, stats, -, rfl, shown⟩ := explored.sound entry inside
  have longer := shown.longer
  rw [← same] at longer
  exact lt_irrefl _ longer

theorem expanded_distinct (explored : Explored sandbox arguments_ looked entries) :
    (arguments_.path :: expanded arguments_ entries).Nodup := by
  have part : (expanded arguments_ entries).Sublist (entries.map ListedEntry.path) := by
    rw [expanded]
    split
    · exact List.filter_sublist.map _
    · exact List.nil_sublist _
  exact List.nodup_cons.mpr ⟨fun member => explored.apart (part.subset member), explored.distinct.sublist part⟩

theorem reached (explored : Explored sandbox arguments_ looked entries)
    (member : directory ∈ arguments_.path :: expanded arguments_ entries) : Reached sandbox arguments_ directory := by
  rcases List.mem_cons.mp member with rfl | later
  · exact .inl rfl
  rw [expanded] at later
  split at later
  · next recursive =>
    obtain ⟨entry, kept, same⟩ := List.mem_map.mp later
    obtain ⟨inside, kind⟩ := List.mem_filter.mp kept
    obtain ⟨above, name, stats, -, rfl, shown⟩ := explored.sound entry inside
    subst same
    exact .inr ⟨recursive, stats, shown, of_decide_eq_true kind⟩
  · cases later

theorem passed (explored : Explored sandbox arguments_ looked entries)
    (hidden : ∀ stats, sandbox.tree.lstat (pathNames directory ++ [name.val]) = .entry stats →
      ¬sandbox.Permitted (childPath directory name.val) stats) :
    Explored sandbox arguments_ (fun place other => looked place other ∨ place = directory ∧ other = name) entries where
  distinct := explored.distinct
  sound entry member := by
    obtain ⟨place, other, stats, seen, same, shown⟩ := explored.sound entry member
    exact ⟨place, other, stats, .inl seen, same, shown⟩
  complete place other stats seen found permitted := by
    rcases seen with seen | ⟨rfl, rfl⟩
    · exact explored.complete place other stats seen found permitted
    · exact absurd permitted (hidden stats found)

theorem added (explored : Explored sandbox arguments_ looked entries) (reached : Reached sandbox arguments_ directory)
    (fresh : ¬looked directory name)
    (found : sandbox.tree.lstat (pathNames directory ++ [name.val]) = .entry stats)
    (permitted : sandbox.Permitted (childPath directory name.val) stats) :
    Explored sandbox arguments_ (fun place other => looked place other ∨ place = directory ∧ other = name)
      (entries ++ [listedEntry (childPath directory name.val) stats]) where
  distinct := by
    rw [List.map_append, List.map_cons, List.map_nil, List.nodup_append]
    refine ⟨explored.distinct, List.nodup_singleton _, ?_⟩
    rintro path member other new rfl
    obtain ⟨entry, inside, same⟩ := List.mem_map.mp member
    obtain ⟨place, otherName, others, seen, rfl, -⟩ := explored.sound entry inside
    have paths : childPath place otherName.val = childPath directory name.val :=
      same.trans (List.mem_singleton.mp new)
    obtain ⟨rfl, rfl⟩ := childPath_injective paths
    exact fresh seen
  sound entry member := by
    rcases List.mem_append.mp member with old | new
    · obtain ⟨place, other, stats, seen, same, shown⟩ := explored.sound entry old
      exact ⟨place, other, stats, .inl seen, same, shown⟩
    · exact ⟨directory, name, stats, .inr ⟨rfl, rfl⟩, List.mem_singleton.mp new, reached.shown found permitted⟩
  complete place other otherStats seen answered allowed := by
    rcases seen with seen | ⟨rfl, rfl⟩
    · exact List.mem_append_left _ (explored.complete place other otherStats seen answered allowed)
    · cases found.symm.trans answered
      exact List.mem_append_right _ List.mem_cons_self

end Explored

/-- The state of a listing while the names of a directory are looked at. -/
structure Reading (sandbox : FilesystemSandbox) (arguments_ : ListArguments) (done : List String) (current : String)
    (visited : Nat) (seen : List EntryName) (listing : Listing) : Prop where
  bounded : Bounded sandbox listing
  budget : listing.budget.visitedDirectories = visited
  explored : listing.truncated = false →
    Explored sandbox arguments_ (fun place name => place ∈ done ∨ place = current ∧ name ∈ seen) listing.entries
  queue : listing.truncated = false →
    done ++ current :: listing.pending.map Prod.fst = arguments_.path :: expanded arguments_ listing.entries

variable {done : List String} {visited : Nat} {seen : List EntryName}

theorem Bounded.added (bounded : Bounded sandbox listing) (permitted : sandbox.Permitted path stats)
    (room : listing.entries.length < sandbox.maximum .maxResults) {next : Listing}
    (entries : next.entries = listing.entries ++ [listedEntry path stats]) : Bounded sandbox next where
  few := by rw [entries, List.length_append, List.length_singleton]; omega
  permitted entry member := by
    rw [entries] at member
    rcases List.mem_append.mp member with old | new
    · exact bounded.permitted entry old
    · obtain rfl := List.mem_singleton.mp new
      exact ⟨stats, rfl, permitted⟩

theorem expanded_added (entry : ListedEntry) : expanded arguments_ (entries ++ [entry]) = expanded arguments_ entries ++
    if arguments_.recursive ∧ entry.kind = .directory then [entry.path] else [] := by
  simp only [expanded, List.filter_append, List.map_append]
  by_cases recursive : arguments_.recursive = true <;> by_cases kind : entry.kind = .directory <;> simp [recursive, kind]

/-- One name keeps the state of a reading. -/
theorem Reading.keeps {result : ForInStep Listing} {next : Listing}
    (reading : Reading sandbox arguments_ done current.1 visited seen listing) (fresh : name ∉ seen)
    (taken : NameStep sandbox arguments_ current name listing result) (goes : result = .yield next ∨ result = .done next) :
    Reading sandbox arguments_ done current.1 visited (seen ++ [name]) next := by
  have widen (place : String) (other : EntryName) :
      ((place ∈ done ∨ place = current.1 ∧ other ∈ seen) ∨ place = current.1 ∧ other = name) ↔
        (place ∈ done ∨ place = current.1 ∧ other ∈ seen ++ [name]) := by
    simp only [List.mem_append, List.mem_singleton]
    tauto
  cases taken with
  | passed budget same hidden =>
    obtain rfl : _ = next := by simpa using goes
    refine ⟨⟨reading.bounded.few, reading.bounded.permitted⟩, same.trans reading.budget, fun going => ?_, reading.queue⟩
    have explored := (reading.explored going).passed hidden
    simpa only [widen] using explored
  | limited budget same =>
    obtain rfl : _ = next := by simpa using goes
    exact ⟨⟨reading.bounded.few, reading.bounded.permitted⟩, same.trans reading.budget, nofun, nofun⟩
  | ended budget same =>
    obtain rfl : _ = next := by simpa using goes
    exact ⟨⟨reading.bounded.few, reading.bounded.permitted⟩, same.trans reading.budget, nofun, nofun⟩
  | added budget same stats found permitted room =>
    obtain rfl : _ = next := by simpa using goes
    refine ⟨reading.bounded.added permitted room rfl, same.trans reading.budget, fun going => ?_, fun going => ?_⟩
    · have explored := reading.explored going
      have queue := reading.queue going
      have member : current.1 ∈ arguments_.path :: expanded arguments_ listing.entries :=
        queue ▸ List.mem_append_right _ List.mem_cons_self
      have notDone : current.1 ∉ done := by
        have distinct := explored.expanded_distinct
        rw [← queue, List.nodup_append] at distinct
        exact fun inside => distinct.2.2 _ inside _ List.mem_cons_self rfl
      have unseen : ¬(current.1 ∈ done ∨ current.1 = current.1 ∧ name ∈ seen) := by simp [notDone, fresh]
      simpa only [widen] using explored.added (explored.reached member) unseen found permitted
    · have queue := reading.queue going
      rw [expanded_added, ← List.cons_append, ← queue]
      by_cases deeper : arguments_.recursive = true ∧ stats.kind = .directory <;> simp [listedEntry, deeper]

structure Visiting (sandbox : FilesystemSandbox) (arguments_ : ListArguments) (done : List String) (listing : Listing) :
    Prop where
  bounded : Bounded sandbox listing
  explored : listing.truncated = false → Explored sandbox arguments_ (fun place _ => place ∈ done) listing.entries
  queue : listing.truncated = false →
    done ++ listing.pending.map Prod.fst = arguments_.path :: expanded arguments_ listing.entries

/-- The names of an opened directory, looked at in turn. -/
theorem Visiting.reads {depth : Nat} {pending : List (String × Nat)} {read : BoundedDirectoryEntries}
    {budget : TraversalBudget} {last : Listing}
    (visiting : Visiting sandbox arguments_ done listing) (going : listing.truncated = false)
    (first : listing.pending = (directory, depth) :: pending) (opened : Opened sandbox directory read.names)
    (looked : forIn read.names { listing with pending, budget, truncated := false }
      (sandbox.listName arguments_ (directory, depth)) = .ok last) :
    Visiting sandbox arguments_ (done ++ [directory]) last ∧
      last.budget.visitedDirectories = budget.visitedDirectories := by
  obtain ⟨above, inspected, kind⟩ := opened.inspected
  have steps (name : EntryName) (state : Listing) (result : ForInStep Listing)
      (computed : sandbox.listName arguments_ (directory, depth) name state = .ok result) :
      NameStep sandbox arguments_ (directory, depth) name state result :=
    @listName_step _ _ (directory, depth) _ _ _ _ inspected kind computed
  have starts : Reading sandbox arguments_ done directory budget.visitedDirectories []
      { listing with pending, budget, truncated := false } := by
    refine ⟨⟨visiting.bounded.few, visiting.bounded.permitted⟩, rfl, fun _ => ?_, fun _ => ?_⟩
    · simpa using visiting.explored going
    · simpa [first] using visiting.queue going
  have fresh {seen rest : List EntryName} {name : EntryName} (placed : seen ++ name :: rest = read.names) : name ∉ seen := by
    have distinct := opened.distinct
    rw [← placed, List.nodup_append] at distinct
    exact fun inside => distinct.2.2 _ inside _ List.mem_cons_self rfl
  have yields (seen : List EntryName) (name : EntryName) (rest : List EntryName) (state next : Listing)
      (placed : seen ++ name :: rest = read.names)
      (reading : Reading sandbox arguments_ done directory budget.visitedDirectories seen state)
      (computed : sandbox.listName arguments_ (directory, depth) name state = .ok (.yield next)) :
      Reading sandbox arguments_ done directory budget.visitedDirectories (seen ++ [name]) next :=
    @Reading.keeps _ _ (directory, depth) _ _ _ _ _ _ _ reading (fresh placed) (steps name state _ computed) (.inl rfl)
  have breaks (seen : List EntryName) (name : EntryName) (rest : List EntryName) (state next : Listing)
      (placed : seen ++ name :: rest = read.names)
      (reading : Reading sandbox arguments_ done directory budget.visitedDirectories seen state)
      (computed : sandbox.listName arguments_ (directory, depth) name state = .ok (.done next)) :
      next.truncated = true ∧ ∃ seen, Reading sandbox arguments_ done directory budget.visitedDirectories seen next := by
    have taken := steps name state _ computed
    refine ⟨?_, seen ++ [name], @Reading.keeps _ _ (directory, depth) _ _ _ _ _ _ _ reading (fresh placed) taken (.inr rfl)⟩
    cases taken
    rfl
  have ends := Loop.forIn_ends yields breaks starts looked
  rcases ends with reading | ⟨stopped, seen, reading⟩
  · refine ⟨⟨reading.bounded, fun going => ?_, fun going => ?_⟩, reading.budget⟩
    · have explored := reading.explored going
      refine ⟨explored.distinct, fun entry member => ?_, fun place name stats seen found permitted => ?_⟩
      · obtain ⟨place, name, stats, seen, same, shown⟩ := explored.sound entry member
        refine ⟨place, name, stats, ?_, same, shown⟩
        rcases seen with old | ⟨rfl, -⟩ <;> simp [*]
      · refine explored.complete place name stats ?_ found permitted
        rcases List.mem_append.mp seen with old | new
        · exact .inl old
        · obtain rfl := List.mem_singleton.mp new
          exact .inr ⟨rfl, opened.covers name stats found⟩
    · simpa using reading.queue going
  · exact ⟨⟨reading.bounded, fun going => by simp [stopped] at going, fun going => by simp [stopped] at going⟩, reading.budget⟩

/-- A listing that was not cut short has looked at its start and at every directory that it shows. -/
theorem listDirectories_visits {rounds : Nat} {last : Listing} (visiting : Visiting sandbox arguments_ done listing)
    (going : listing.truncated = false)
    (enough : listing.budget.visitedDirectories + rounds = sandbox.maximum .maxVisitedDirectories + 1)
    (within : listing.budget.visitedDirectories ≤ sandbox.maximum .maxVisitedDirectories)
    (returned : sandbox.listDirectories arguments_ rounds listing = .ok last) :
    Bounded sandbox last ∧ (last.truncated = false →
      Explored sandbox arguments_ (fun place _ => place ∈ arguments_.path :: expanded arguments_ last.entries) last.entries) := by
  induction rounds generalizing listing done with
  | zero => omega
  | succ rounds ih =>
    rw [listDirectories] at returned
    split at returned
    · next empty =>
      cases returned
      refine ⟨visiting.bounded, fun going => ?_⟩
      have queue := visiting.queue going
      rw [empty, List.map_nil, List.append_nil] at queue
      exact queue ▸ visiting.explored going
    next current pending first =>
    obtain ⟨directory, depth⟩ := current
    obtain ⟨⟨read, budget⟩, opened, returned⟩ := bind_ok returned
    dsimp only at returned
    obtain ⟨visited, looked, returned⟩ := bind_ok returned
    simp only [going, Bool.false_or] at looked
    rcases readBoundedDirectory_ok opened with ⟨cut, none⟩ | ⟨complete, names, before, after⟩
    · rw [cut, none, List.forIn_nil] at looked
      cases looked
      rw [if_pos (.inl rfl)] at returned
      cases returned
      exact ⟨⟨visiting.bounded.few, visiting.bounded.permitted⟩, nofun⟩
    · rw [complete] at looked
      obtain ⟨next, same⟩ := visiting.reads going first names looked
      split at returned
      · next leaves =>
        cases returned
        refine ⟨next.bounded, fun going => ?_⟩
        -- A listing that is not recursive has no directory left.
        have flat : arguments_.recursive = false := by simpa [going] using leaves
        have queue := next.queue going
        have only : expanded arguments_ last.entries = [] := by simp [expanded, flat]
        have place : done ++ [directory] = [arguments_.path] := by
          rw [only, List.append_assoc] at queue
          have length := congrArg List.length queue
          simp only [List.length_append, List.length_cons, List.length_nil, List.length_map] at length
          have emptied : last.pending = [] := List.length_eq_zero_iff.mp (by omega)
          simpa [emptied] using queue
        rw [only, ← place]
        exact next.explored going
      · next stays =>
        simp only [not_or, Bool.not_eq_true] at stays
        exact ih next stays.1 (by omega) (by omega) returned

theorem Explored.covers
    (explored : Explored sandbox arguments_ (fun place _ => place ∈ arguments_.path :: expanded arguments_ entries) entries)
    (shown : sandbox.Shown arguments_ path stats) : listedEntry path stats ∈ entries := by
  induction shown with
  | child found permitted => exact explored.complete _ _ _ List.mem_cons_self found permitted
  | deeper recursive shown kind found permitted ih =>
    refine explored.complete _ _ _ (List.mem_cons_of_mem _ ?_) found permitted
    rw [expanded, if_pos recursive]
    exact List.mem_map.mpr ⟨_, List.mem_filter.mpr ⟨ih, decide_eq_true kind⟩, rfl⟩

/-- A listing that is not cut short holds the permitted entries below its start, each once. Every listing stays
within the limits of the results and of the output, and holds only what the constraints permit. -/
theorem list_complete_bounded {output : ListOutput} (returned : sandbox.list arguments_ = .ok output) :
    (output.truncated = false → (output.entries.map ListedEntry.path).Nodup ∧
      ∀ entry, entry ∈ output.entries ↔ ∃ path stats, sandbox.Shown arguments_ path stats ∧ entry = listedEntry path stats) ∧
    output.entries.length ≤ sandbox.maximum .maxResults ∧
    output.byteLength ≤ sandbox.maximum .maxOutputBytes ∧
    ∀ entry ∈ output.entries, ∃ stats, entry = listedEntry entry.path stats ∧ sandbox.Permitted entry.path stats := by
  obtain ⟨start, accepted, returned⟩ := bind_ok returned
  obtain rfl := assertEffectivePath_ok accepted
  obtain ⟨stats, -, returned⟩ := bind_ok returned
  obtain ⟨-, -, returned⟩ := bind_ok returned
  obtain ⟨-, returned⟩ := guard_ok returned
  obtain ⟨listing, visited, returned⟩ := bind_ok returned
  obtain ⟨fits, returned⟩ := guard_ok returned
  cases returned
  have starts : Visiting sandbox arguments_ [] ⟨[], [(arguments_.path, 0)], traversalBudget, false⟩ := by
    refine ⟨⟨Nat.zero_le _, nofun⟩, fun _ => ⟨List.nodup_nil, nofun, fun _ _ _ seen => by cases seen⟩, fun _ => ?_⟩
    simp [expanded]
  obtain ⟨bounded, complete⟩ := listDirectories_visits starts rfl (Nat.zero_add _) (Nat.zero_le _) visited
  refine ⟨fun going => ?_, bounded.few, Nat.le_of_not_lt fits, bounded.permitted⟩
  have explored := complete going
  refine ⟨explored.distinct, fun entry => ⟨fun member => ?_, ?_⟩⟩
  · obtain ⟨directory, name, stats, -, same, shown⟩ := explored.sound entry member
    exact ⟨_, stats, shown, same⟩
  · rintro ⟨path, stats, shown, rfl⟩
    exact explored.covers shown

def bothTexts : ListOutput :=
  ⟨"", [⟨"a.txt", .file, some 12⟩, ⟨"src", .directory, none⟩, ⟨"src/b.txt", .file, some 6⟩], false⟩

theorem list_complete_bounded_texts :
    let sandbox : FilesystemSandbox := ⟨twoTexts "first\nneedle" "needle", openConstraints 8, lowerCase⟩
    (∀ entry, entry ∈ bothTexts.entries ↔ ∃ path stats, sandbox.Shown ⟨"", true⟩ path stats ∧ entry = listedEntry path stats) ∧
      bothTexts.byteLength ≤ sandbox.maximum .maxOutputBytes := by
  intro sandbox
  have returned : sandbox.list ⟨"", true⟩ = .ok bothTexts := by decide
  obtain ⟨complete, -, small, -⟩ := list_complete_bounded returned
  exact ⟨(complete rfl).2, small⟩

end FilesystemSandbox

end AiOffice.Connector.FilesystemReads
