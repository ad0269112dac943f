import Mathlib.Data.List.Basic

namespace AiOffice.Data

theorem splitOn_part (separator : Char) (text : List Char) : ∀ part ∈ text.splitOn separator, separator ∉ part := by
  induction text with
  | nil => simp
  | cons char text ih =>
    intro part member
    rw [List.splitOn_cons_eq_if_modifyHead] at member
    split at member
    case isTrue same =>
        rcases List.mem_cons.mp member with rfl | later
        · exact List.not_mem_nil
        · exact ih part later
    case isFalse different =>
        cases parts : text.splitOn separator with
        | nil => exact absurd parts (List.splitOn_ne_nil _ _)
        | cons first rest =>
          rw [parts, List.modifyHead_cons] at member
          rw [parts] at ih
          rcases List.mem_cons.mp member with rfl | later
          · have apart : char ≠ separator := by simpa using different
            intro inside
            rcases List.mem_cons.mp inside with same | inside
            · exact apart same.symm
            · exact ih first List.mem_cons_self inside
          · exact ih part (List.mem_cons_of_mem _ later)

namespace PosixPath

def parts (path : String) : List (List Char) := path.toList.splitOn '/'

def isAbsolute (path : String) : Bool := path.toList.head? = some '/'

def ofSegments (segments : List (List Char)) : String := String.ofList ('/' :: ['/'].intercalate segments)

/-- Keep a segment behind those kept before. The segment `..` takes the last of these away, if there is one. -/
def keep (kept : List (List Char)) (segment : List Char) : List (List Char) :=
  if segment = [] ∨ segment = ['.'] then kept
  else if segment = ['.', '.'] then kept.dropLast
  else kept ++ [segment]

def normalize (segments : List (List Char)) : List (List Char) := segments.foldl keep []

/-- The last absolute path and those behind it; if none is absolute, all of them behind the working directory. -/
def fromLastAbsolute (cwd : String) : List String → List String
  | [] => [cwd]
  | path :: paths =>
    if paths.any isAbsolute then fromLastAbsolute cwd paths
    else if isAbsolute path then path :: paths
    else cwd :: path :: paths

def segments (cwd : String) (paths : List String) : List (List Char) :=
  normalize ((fromLastAbsolute cwd paths).flatMap parts)

/-- The absolute path that a sequence of paths leads to from the working directory. -/
def resolve (cwd : String) (paths : List String) : String := ofSegments (segments cwd paths)

/-- The way from one place to another: up to where they part, and down from there. -/
def steps : List (List Char) → List (List Char) → List (List Char)
  | source :: sources, target :: targets =>
    if source = target then steps sources targets
    else List.replicate (sources.length + 1) ['.', '.'] ++ target :: targets
  | sources, targets => List.replicate sources.length ['.', '.'] ++ targets

def relative (cwd source target : String) : String :=
  String.ofList (['/'].intercalate (steps (segments cwd [source]) (segments cwd [target])))

structure Proper (segment : List Char) : Prop where
  full : segment ≠ []
  notHere : segment ≠ ['.']
  notUp : segment ≠ ['.', '.']
  single : '/' ∉ segment

variable {cwd path : String} {given rest kept : List (List Char)} {segment : List Char}

theorem keep_proper (proper : Proper segment) : keep kept segment = kept ++ [segment] := by
  rw [keep, if_neg (not_or.mpr ⟨proper.full, proper.notHere⟩), if_neg proper.notUp]

theorem foldl_keep_proper (proper : ∀ segment ∈ rest, Proper segment) : rest.foldl keep kept = kept ++ rest := by
  induction rest generalizing kept with
  | nil => simp
  | cons segment rest ih =>
    obtain ⟨here, later⟩ := List.forall_mem_cons.mp proper
    rw [List.foldl_cons, keep_proper here, ih later, List.append_assoc, List.singleton_append]

theorem normalize_append (proper : ∀ segment ∈ rest, Proper segment) :
    normalize (given ++ rest) = normalize given ++ rest := by
  rw [normalize, List.foldl_append, foldl_keep_proper proper, normalize]

theorem normalize_proper (single : ∀ segment ∈ given, '/' ∉ segment) : ∀ segment ∈ normalize given, Proper segment := by
  suffices each : ∀ kept, (∀ segment ∈ kept, Proper segment) → ∀ segment ∈ given.foldl keep kept, Proper segment from
    each [] (by simp)
  induction given with
  | nil => exact fun kept proper => proper
  | cons first given ih =>
    obtain ⟨here, later⟩ := List.forall_mem_cons.mp single
    intro kept proper
    refine ih later (keep kept first) ?_
    unfold keep
    split
    · exact proper
    next visible =>
    rw [not_or] at visible
    split
    · exact fun segment member => proper segment ((List.dropLast_sublist kept).subset member)
    next down =>
    intro segment member
    rcases List.mem_append.mp member with before | last
    · exact proper segment before
    · rw [List.mem_singleton.mp last]
      exact ⟨visible.1, visible.2, down, here⟩

theorem segments_proper : ∀ segment ∈ segments cwd [path], Proper segment := by
  refine normalize_proper fun segment member => ?_
  obtain ⟨_, _, part⟩ := List.mem_flatMap.mp member
  exact splitOn_part '/' _ segment part

theorem segments_absolute (absolute : isAbsolute path = true) : segments cwd [path] = normalize (parts path) := by
  simp [segments, fromLastAbsolute, absolute]

theorem segments_behind {paths : List String} (absolute : isAbsolute path = true)
    (relative : ∀ other ∈ paths, isAbsolute other = false) :
    segments cwd (path :: paths) = normalize (parts path ++ paths.flatMap parts) := by
  have none : paths.any isAbsolute = false := List.any_eq_false.mpr fun other member => by simp [relative other member]
  rw [segments, fromLastAbsolute, none, absolute]
  rfl

theorem isAbsolute_ofSegments : isAbsolute (ofSegments given) = true := by
  simp [isAbsolute, ofSegments]

theorem segments_ofSegments (proper : ∀ segment ∈ given, Proper segment) : segments cwd [ofSegments given] = given := by
  rw [segments_absolute isAbsolute_ofSegments, parts, ofSegments, String.toList_ofList]
  have split : ('/' :: ['/'].intercalate given).splitOn '/' = [] :: (['/'].intercalate given).splitOn '/' :=
    List.splitOn_append_cons_self_of_not_mem List.not_mem_nil _
  rw [split]
  cases given with
  | nil => rfl
  | cons first given =>
    rw [List.splitOn_intercalate '/' (fun segment member => (proper segment member).single) (List.cons_ne_nil _ _)]
    exact @normalize_append [[]] _ proper

theorem steps_append : steps given (given ++ rest) = rest := by
  induction given with
  | nil => cases rest <;> rfl
  | cons first given ih => rw [List.cons_append, steps, if_pos rfl, ih]

end PosixPath

end AiOffice.Data
