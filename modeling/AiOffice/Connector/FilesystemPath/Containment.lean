import AiOffice.Connector.FilesystemPath
import AiOffice.Data.Outcome
import Mathlib.Data.List.Infix

namespace AiOffice.Connector.Filesystem

open Data Data.PosixPath Domain

def pathOutsideRoot : Thrown := ⟨.pathOutsideRootError, "Filesystem path is outside the registered root"⟩

/-- The place of a path below a root, on a POSIX host with this working directory. -/
def resolveContainedPath (cwd root path : String) : Except Thrown String :=
  let candidate := if path = "" then root else resolve cwd (root :: (parts path).map String.ofList)
  let relation := relative cwd root candidate
  if relation = "" then .ok candidate
  else if relation = ".." ∨ "../".toList.isPrefixOf relation.toList ∨ PosixPath.isAbsolute relation then
    .error pathOutsideRoot
  else .ok candidate

/-- A place strictly below a root: a way down leads there, through segments that each name an entry. -/
def StrictlyBelow (cwd place root : String) : Prop :=
  ∃ down, down ≠ [] ∧ segments cwd [place] = segments cwd [root] ++ down

variable {value normalized other root place cwd : String} {limits : FilesystemPathLimits} {allowRoot : Bool}

structure Accepted (limits : FilesystemPathLimits) (value : String) : Prop where
  full : value ≠ ""
  relative : isAbsolute value = false
  notWindows : win32IsAbsolute value = false
  opened : value.toList.getLast? ≠ some '/'
  noBackslash : '\\' ∉ value.toList
  noControl : value.toList.any unsafeControl = false
  notEncoded : encodedSeparatorOrDot value = false
  short : (parts value).length ≤ limits.maxPathSegments
  safe : ∀ segment ∈ parts value, unsafeSegment segment = false
  small : value.utf8ByteSize ≤ limits.maxPathBytes

theorem normalizeRelativePath_iff : normalizeRelativePath value limits allowRoot = .ok normalized ↔
    normalized = value ∧ (allowRoot = true ∧ value = "" ∨ Accepted limits value) := by
  constructor
  · intro accepted
    refine ⟨normalizeRelativePath_ok accepted, ?_⟩
    simp only [normalizeRelativePath] at accepted
    split at accepted
    · next root => exact .inl root
    obtain ⟨outer, accepted⟩ := Outcome.guard_ok accepted
    obtain ⟨inner, -⟩ := Outcome.guard_ok accepted
    simp only [not_or, Bool.not_eq_true] at outer inner
    obtain ⟨full, relative, notWindows, -, opened, noBackslash, noControl, notEncoded⟩ := outer
    obtain ⟨short, safe, small⟩ := inner
    exact .inr ⟨full, relative, notWindows, opened, noBackslash, noControl, notEncoded, Nat.le_of_not_lt short,
      fun segment member => by simpa using List.any_eq_false.mp safe segment member, Nat.le_of_not_lt small⟩
  · rintro ⟨rfl, ⟨rfl, rfl⟩ | accepted⟩
    · rfl
    · simp only [normalizeRelativePath]
      rw [if_neg fun root => accepted.full root.2, if_neg, if_neg, List.intercalate_splitOn, String.ofList_toList]
      · simp only [not_or, Bool.not_eq_true]
        exact ⟨Nat.not_lt.mpr accepted.short, List.any_eq_false.mpr fun segment member => by
          simp [accepted.safe segment member], Nat.not_lt.mpr accepted.small⟩
      · simp only [not_or, Bool.not_eq_true]
        have relative := accepted.relative
        exact ⟨accepted.full, relative, accepted.notWindows, of_decide_eq_false relative, accepted.opened,
          accepted.noBackslash, accepted.noControl, accepted.notEncoded⟩

section Parents

variable {parent rest : String}

theorem parts_append (parent rest : String) : parts (parent ++ "/" ++ rest) = parts parent ++ parts rest := by
  have text : (parent ++ "/" ++ rest).toList = parent.toList ++ '/' :: rest.toList := by simp
  rw [parts, text]
  exact List.splitOn_append_cons_self _ _

theorem unsafeSegment_nil : unsafeSegment [] = true := rfl

theorem includes_append {text pattern : String} (more : String) (found : includes text pattern = true) :
    includes (text ++ more) pattern = true := by
  obtain ⟨suffix, member, starts⟩ := List.any_eq_true.mp found
  obtain ⟨before, chars⟩ := (List.mem_tails _ _).mp member
  refine List.any_eq_true.mpr ⟨suffix ++ more.toList, (List.mem_tails _ _).mpr ⟨before, ?_⟩, ?_⟩
  · rw [String.toList_append, ← chars, List.append_assoc]
  · rw [List.isPrefixOf_iff_prefix] at starts ⊢
    exact starts.trans (List.prefix_append _ _)

theorem lowerCase_append (first second : String) : lowerCase (first ++ second) = lowerCase first ++ lowerCase second := by
  simp [lowerCase]

theorem win32IsAbsolute_append (more : String) (absolute : win32IsAbsolute value = true) :
    win32IsAbsolute (value ++ more) = true := by
  simp only [win32IsAbsolute, String.toList_append] at absolute ⊢
  cases chars : value.toList with
  | nil => rw [chars] at absolute; cases absolute
  | cons first others =>
    rw [chars] at absolute
    match others, absolute with
    | [], absolute => simp_all
    | [second], absolute => simp_all
    | second :: third :: later, absolute =>
      by_cases colon : second = ':'
      · subst colon
        simpa using absolute
      · simp_all

/-- A part of an accepted path from its start is accepted. -/
theorem Accepted.ofParent (accepted : Accepted limits (parent ++ "/" ++ rest)) (full : parent ≠ "") :
    Accepted limits parent := by
  have segments := parts_append parent rest
  have safe (segment : List Char) (member : segment ∈ parts parent) : unsafeSegment segment = false :=
    accepted.safe segment (segments ▸ List.mem_append_left _ member)
  have text : (parent ++ "/" ++ rest).toList = parent.toList ++ '/' :: rest.toList := by simp
  have chars : parent.toList ≠ [] := fun empty => full (String.toList_injective empty)
  constructor
  · exact full
  · have relative := accepted.relative
    rw [isAbsolute, text, List.head?_append_of_ne_nil _ chars] at relative
    exact relative
  · by_contra absolute
    have := win32IsAbsolute_append ("/" ++ rest) (by simpa using absolute)
    rw [← String.append_assoc, accepted.notWindows] at this
    cases this
  · intro closed
    have split := List.dropLast_append_getLast? _ closed
    have empty : [] ∈ parts parent := by
      rw [parts, ← split, List.splitOn_append_cons_self]
      simp
    have := safe [] empty
    rw [unsafeSegment_nil] at this
    cases this
  · exact fun member => accepted.noBackslash (text ▸ List.mem_append_left _ member)
  · have none := accepted.noControl
    rw [text, List.any_append, Bool.or_eq_false_iff] at none
    exact none.1
  · by_contra encoded
    obtain ⟨pattern, member, found⟩ := List.any_eq_true.mp (show encodedSeparatorOrDot parent = true by simpa using encoded)
    have := accepted.notEncoded
    rw [encodedSeparatorOrDot, String.append_assoc, lowerCase_append] at this
    exact absurd (includes_append _ found) (List.any_eq_false.mp this pattern member)
  · have short := accepted.short
    rw [segments, List.length_append] at short
    omega
  · exact safe
  · have small := accepted.small
    rw [String.utf8ByteSize_append, String.utf8ByteSize_append] at small
    omega

end Parents

theorem Accepted.proper (accepted : Accepted limits value) : ∀ segment ∈ parts value, Proper segment := by
  intro segment member
  have safe := accepted.safe segment member
  simp only [unsafeSegment, Bool.or_eq_false_iff, decide_eq_false_iff_not, List.isEmpty_eq_false_iff] at safe
  obtain ⟨⟨⟨⟨⟨⟨full, notHere⟩, notUp⟩, -⟩, -⟩, -⟩, -⟩ := safe
  exact ⟨full, notHere, notUp, splitOn_part '/' _ segment member⟩

theorem inside_relation (proper : ∀ segment ∈ parts value, Proper segment) :
    ¬ (value = ".." ∨ "../".toList.isPrefixOf value.toList ∨ PosixPath.isAbsolute value) := by
  rintro (rfl | starts | absolute)
  · exact (proper ['.', '.'] (by decide)).notUp rfl
  · obtain ⟨later, chars⟩ := List.isPrefixOf_iff_prefix.mp starts
    have first : ['.', '.'] ∈ parts value := by
      have text : value.toList = ['.', '.'] ++ '/' :: later := chars.symm
      rw [parts, text, List.splitOn_append_cons_self_of_not_mem (by decide)]
      exact List.mem_cons_self
    exact (proper _ first).notUp rfl
  · have first : [] ∈ parts value := by
      cases chars : value.toList with
      | nil => simp [PosixPath.isAbsolute, chars] at absolute
      | cons char later =>
        have slash : char = '/' := by simpa [PosixPath.isAbsolute, chars] using absolute
        have split : ('/' :: later).splitOn '/' = [] :: later.splitOn '/' :=
          List.splitOn_append_cons_self_of_not_mem List.not_mem_nil _
        rw [parts, chars, slash, split]
        exact List.mem_cons_self
    exact (proper _ first).full rfl

theorem Accepted.resolve (accepted : Accepted limits value) (absolute : PosixPath.isAbsolute root = true) :
    resolveContainedPath cwd root value = .ok (ofSegments (segments cwd [root] ++ parts value)) := by
  have proper := accepted.proper
  have names (segment : List Char) (member : segment ∈ parts value) : parts (String.ofList segment) = [segment] := by
    rw [parts, String.toList_ofList]
    exact List.splitOn_eq_singleton (proper segment member).single
  have behind : ∀ other ∈ (parts value).map String.ofList, PosixPath.isAbsolute other = false := by
    intro other member
    obtain ⟨segment, inside, rfl⟩ := List.mem_map.mp member
    have single := (proper segment inside).single
    cases segment with
    | nil => simp [PosixPath.isAbsolute]
    | cons first later =>
      have other : first ≠ '/' := fun same => single (same ▸ List.mem_cons_self)
      simp [PosixPath.isAbsolute, other]
  have flat : ((parts value).map String.ofList).flatMap parts = parts value := by
    rw [List.flatMap_map, List.flatMap_congr names]
    simp
  have candidate : PosixPath.resolve cwd (root :: (parts value).map String.ofList) =
      ofSegments (segments cwd [root] ++ parts value) := by
    rw [PosixPath.resolve, segments_behind absolute behind, flat, normalize_append proper, segments_absolute absolute]
  have relation : PosixPath.relative cwd root (ofSegments (segments cwd [root] ++ parts value)) = value := by
    have all : ∀ segment ∈ segments cwd [root] ++ parts value, Proper segment := fun segment member =>
      (List.mem_append.mp member).elim (segments_proper segment) (proper segment)
    rw [PosixPath.relative, segments_ofSegments all, steps_append, parts, List.intercalate_splitOn, String.ofList_toList]
  simp only [resolveContainedPath]
  rw [if_neg accepted.full, candidate, relation, if_neg accepted.full, if_neg (inside_relation proper)]

theorem parts_injective : parts.Injective := by
  intro first second same
  have joined := congrArg (List.intercalate ['/']) same
  rw [parts, parts, List.intercalate_splitOn, List.intercalate_splitOn] at joined
  exact String.toList_injective joined

theorem resolveContainedPath_root : resolveContainedPath cwd root "" = .ok root := by
  have same : PosixPath.relative cwd root root = "" := by
    have none := @steps_append (segments cwd [root]) []
    rw [List.append_nil] at none
    rw [PosixPath.relative, none]
    rfl
  simp [resolveContainedPath, same]

theorem Accepted.below (accepted : Accepted limits value) :
    segments cwd [ofSegments (segments cwd [root] ++ parts value)] = segments cwd [root] ++ parts value :=
  segments_ofSegments fun segment member =>
    (List.mem_append.mp member).elim (segments_proper segment) (accepted.proper segment)

theorem Accepted.apart {otherLimits : FilesystemPathLimits} {otherRoot : Bool} {otherNormalized : String}
    (accepted : Accepted limits value) (absolute : PosixPath.isAbsolute root = true)
    (acceptedOther : normalizeRelativePath other otherLimits otherRoot = .ok otherNormalized) (different : other ≠ value) :
    resolveContainedPath cwd root otherNormalized ≠ resolveContainedPath cwd root value := by
  intro same
  rw [accepted.resolve absolute] at same
  obtain ⟨rfl, ⟨-, rfl⟩ | below⟩ := normalizeRelativePath_iff.mp acceptedOther
  · rw [resolveContainedPath_root] at same
    have places := congrArg (fun place => segments cwd [place]) (Except.ok.inj same)
    rw [accepted.below, List.self_eq_append_right] at places
    exact List.splitOn_ne_nil _ _ places
  · rw [below.resolve absolute] at same
    have places := congrArg (fun place => segments cwd [place]) (Except.ok.inj same)
    rw [accepted.below, below.below] at places
    exact different (parts_injective (List.append_cancel_left places))

/-- A path that is accepted is the root, or leads strictly below it from any absolute root, to a place of its own, and
so does every path above it. -/
theorem normalizeRelativePath_contained (accepted : normalizeRelativePath value limits allowRoot = .ok normalized) :
    (value = "" ∧ allowRoot = true ∧ ∀ cwd root, resolveContainedPath cwd root normalized = .ok root) ∨
      (∀ segment ∈ parts normalized, segment ≠ [] ∧ segment ≠ ['.'] ∧ segment ≠ ['.', '.']) ∧
      (∀ cwd root, PosixPath.isAbsolute root = true →
        ∃ place, resolveContainedPath cwd root normalized = .ok place ∧ StrictlyBelow cwd place root ∧
          ∀ other otherLimits otherRoot otherNormalized,
            normalizeRelativePath other otherLimits otherRoot = .ok otherNormalized → other ≠ value →
              resolveContainedPath cwd root otherNormalized ≠ .ok place) ∧
      ∀ parent rest, value = parent ++ "/" ++ rest → parent ≠ "" →
        normalizeRelativePath parent limits allowRoot = .ok parent := by
  obtain ⟨rfl, ⟨allowed, rfl⟩ | below⟩ := normalizeRelativePath_iff.mp accepted
  · exact .inl ⟨rfl, allowed, fun cwd root => resolveContainedPath_root⟩
  · refine .inr ⟨fun segment member => ?_, fun cwd root absolute => ?_, fun parent rest joined full => ?_⟩
    · have proper := below.proper segment member
      exact ⟨proper.full, proper.notHere, proper.notUp⟩
    · refine ⟨_, below.resolve absolute, ⟨_, List.splitOn_ne_nil _ _, below.below⟩, ?_⟩
      intro other otherLimits otherRoot otherNormalized acceptedOther different
      rw [← below.resolve absolute]
      exact below.apart absolute acceptedOther different
    · rw [joined] at below
      exact normalizeRelativePath_iff.mpr ⟨rfl, .inr (below.ofParent full)⟩

theorem normalizeRelativePath_contained_file : ∃ place,
    resolveContainedPath "/" "/srv/project" "src/main.ts" = .ok place ∧ StrictlyBelow "/" place "/srv/project" := by
  have accepted : normalizeRelativePath "src/main.ts" ⟨1024, 32⟩ false = .ok "src/main.ts" := by decide
  rcases normalizeRelativePath_contained accepted with root | below
  · exact absurd root.1 (by decide)
  · obtain ⟨place, resolved, strictly, -⟩ := below.2.1 "/" "/srv/project" (by decide)
    exact ⟨place, resolved, strictly⟩

/-- The root is accepted where it is allowed: it has an empty segment, and does not lead below itself. -/
theorem normalizeRelativePath_root :
    normalizeRelativePath "" ⟨1024, 32⟩ true = .ok "" ∧ [] ∈ parts "" ∧
      resolveContainedPath "/" "/srv/project" "" = .ok "/srv/project" ∧
        ¬ StrictlyBelow "/" "/srv/project" "/srv/project" := by
  refine ⟨by decide, by decide, resolveContainedPath_root, ?_⟩
  rintro ⟨down, some, same⟩
  exact some (List.self_eq_append_right.mp same)

end AiOffice.Connector.Filesystem
