import AiOffice.AgentClientIntegrations.ClaudeBridge
import AiOffice.Application.OfficeManifestSchema

namespace AiOffice.AgentClientIntegrations

open Data Domain DomainPackContracts Application Application.OfficeManifestSchema

def officeTaskKinds : List String := ["feature", "bugfix", "maintenance", "research", "release"]

def officeTaskKindsMaxCount : Nat := 16 * 5

def taskKindsHeading : Text := "Classify tasks as ".toList
def taskKindsEnd : Text := " and resolve".toList
def taskKindsPlaceholder : Text := "Classify tasks as <project task kinds> and resolve".toList

def skillDescription : Text :=
  "description: Install, inspect, hand over, onboard, configure, operate, troubleshoot, and safely remove AI Office for this repository. Use when the user wants AI Office status, wants to hand this project over to the virtual office, or asks about office design, task workflows, client integration, controlled actions, memory, durable project knowledge, or lifecycle help.".toList

def skillFrontMatter : List Text := ["---".toList, "name: ai-office".toList, skillDescription, "---".toList, []]

/-- What follows the task kinds in their line. -/
def operatingGuidance : Text :=
  " `ai-office office:pipeline --project <projectId> --task-kind <kind>` before operating them. Guidance-only definitions describe expected work. For an enforced definition, use `pipeline:start`, inspect `pipeline:status`, bind only the assigned registered agent, and use explicit runtime transitions. Runtime authorization is authoritative: never bypass assignments, stage capabilities, approvals, separation rules, `action:*` requests, or controlled execution. Use `task:*` and `run:*` for work, `client:*` only for manual integration recovery, and `memory:*` only for memory reusable across projects. Never launch Codex or Claude implicitly.".toList

/-- The fixed prose of the skill: the lines between the marker and the line of the task kinds, and what stands
below that line. -/
structure SkillProse where
  above : List Text
  below : Text
  lines : ∀ line ∈ above, (∀ char ∈ line, isLineTerminator char = false) ∧ ¬taskKindsHeading <+: line
  unreturned : '\r' ∉ below

def kindList : List Text → Text
  | [] => []
  | [kind] => kind
  | [first, second] => first ++ " or ".toList ++ second
  | kinds => ", ".toList.intercalate kinds.dropLast ++ ", or ".toList ++ kinds.getLastD []

def linesText (lines : List Text) : Text := lines.flatMap (· ++ ['\n'])

def skillLines (prose : SkillProse) : List Text := skillFrontMatter ++ managedProjectSkillMarker :: prose.above

def compileProjectSkill (prose : SkillProse) (taskKinds : Option (List String)) : Text :=
  let kinds := match taskKinds with
    | some kinds => if kinds.length > 0 then kinds else officeTaskKinds
    | none => officeTaskKinds
  linesText (skillLines prose) ++ (taskKindsHeading ++ kindList (kinds.map String.toList) ++ taskKindsEnd ++
    operatingGuidance) ++ '\n' :: prose.below

/-- `(.+) and resolve`, with the longest group. -/
def longestList : Text → Option (Text × Text)
  | [] => none
  | char :: rest =>
    match longestList rest with
    | some (list, behind) => some (char :: list, behind)
    | none => if taskKindsEnd.isPrefixOf rest then some ([char], rest.drop taskKindsEnd.length) else none

/-- A match of the pattern at the start of a line: the list, and what follows the match. -/
def taskKindsHere (text : Text) : Option (Text × Text) :=
  if taskKindsHeading.isPrefixOf text then
    let body := text.drop taskKindsHeading.length
    (longestList (body.takeWhile fun char => !isLineTerminator char)).map fun (list, behind) =>
      (list, behind ++ body.dropWhile fun char => !isLineTerminator char)
  else none

structure TaskKindsLine where
  before : Text
  list : Text
  behind : Text

/-- `/^Classify tasks as (.+) and resolve/mu` -/
def findTaskKinds : Bool → Text → Option TaskKindsLine
  | _, [] => none
  | lineStart, char :: rest =>
    match if lineStart then taskKindsHere (char :: rest) else none with
    | some (list, behind) => some ⟨[], list, behind⟩
    | none => (findTaskKinds (isLineTerminator char) rest).map fun found => { found with before := char :: found.before }

def afterOr : Text → Option Text
  | 'o' :: 'r' :: char :: rest => if isWhiteSpace char then some (rest.dropWhile isWhiteSpace) else none
  | _ => none

/-- `,\s*(?:or\s+)?|\s+or\s+` at the start of a text: what follows it. -/
def afterSeparator : Text → Option Text
  | [] => none
  | char :: rest =>
    if char = ',' then
      let behind := rest.dropWhile isWhiteSpace
      some ((afterOr behind).getD behind)
    else if isWhiteSpace char then afterOr (rest.dropWhile isWhiteSpace)
    else none

theorem afterOr_shorter {text behind : Text} (found : afterOr text = some behind) : behind.length < text.length := by
  unfold afterOr at found
  split at found
  · next char rest =>
    split at found
    · cases found
      have short := (List.dropWhile_sublist isWhiteSpace (l := rest)).length_le
      simp only [List.length_cons]
      omega
    · cases found
  · cases found

theorem afterSeparator_shorter {text behind : Text} (found : afterSeparator text = some behind) :
    behind.length < text.length := by
  unfold afterSeparator at found
  split at found
  · cases found
  · next char rest =>
    have short := (List.dropWhile_sublist isWhiteSpace (l := rest)).length_le
    rw [List.length_cons]
    split at found
    · cases there : afterOr (rest.dropWhile isWhiteSpace) with
      | none =>
        simp only [there, Option.getD_none, Option.some.injEq] at found
        rw [← found]
        omega
      | some other =>
        simp only [there, Option.getD_some, Option.some.injEq] at found
        have shorter := afterOr_shorter there
        rw [← found]
        omega
    · split at found
      · have shorter := afterOr_shorter found
        omega
      · cases found

def splitKinds (current : Text) : Text → List Text
  | [] => [current]
  | char :: rest =>
    match _found : afterSeparator (char :: rest) with
    | some behind => current :: splitKinds [] behind
    | none => splitKinds (current ++ [char]) rest
termination_by text => text.length
decreasing_by
  · exact afterSeparator_shorter _found
  · exact Nat.lt_succ_self _

def declaredTaskKinds (content : Text) : Option (List String) :=
  (findTaskKinds true content).bind fun found =>
    let kinds := (splitKinds [] found.list).map String.ofList
    if kinds.Nodup ∧ kinds.length ≤ officeTaskKindsMaxCount ∧
        kinds.all (fun kind => utf16Length kind ≤ officeIdentifierMaxLength && officeIdentifierPattern kind) then
      some kinds
    else none

def normalizedProjectSkill (content : Text) : Text :=
  match findTaskKinds true content with
  | none => content
  | some found => found.before ++ taskKindsPlaceholder ++ found.behind

/-- Whether a text is the project skill of some list of task kinds, which is not verified. -/
def generatedProjectSkill (prose : SkillProse) : GeneratedSkill := fun content =>
  (declaredTaskKinds content).isSome &&
    equivalentText (some (normalizedProjectSkill content)) (normalizedProjectSkill (compileProjectSkill prose none))

section Lists

variable {kind current tail : Text}

/-- Letters, digits and hyphens: neither white space nor a comma. -/
def Plain (kind : Text) : Prop := ∀ char ∈ kind, isLowerAlphanum char = true ∨ char = '-'

theorem Plain.dark (plain : Plain kind) : ∀ char ∈ kind, isWhiteSpace char = false ∧ char ≠ ',' := by
  have ascii : ∀ code < 128, isLowerAlphanum (Char.ofNat code) = true ∨ Char.ofNat code = '-' →
      isWhiteSpace (Char.ofNat code) = false ∧ Char.ofNat code ≠ ',' := by decide
  intro char member
  have here := plain char member
  have small : char.toNat < 128 := by
    rcases here with letter | rfl
    · rcases Bool.or_eq_true_iff.mp letter with range | range
      · have high := of_decide_eq_true (Bool.and_eq_true_iff.mp range).2
        exact Nat.lt_of_le_of_lt (UInt32.le_iff_toNat_le.mp high) (by decide)
      · have high := of_decide_eq_true (Bool.and_eq_true_iff.mp range).2
        exact Nat.lt_of_le_of_lt (UInt32.le_iff_toNat_le.mp high) (by decide)
    · decide
  have known := ascii char.toNat small
  rw [Char.ofNat_toNat] at known
  exact known here

theorem splitOnP_member {separates : Char → Bool} {text : Text} {char : Char} (member : char ∈ text) :
    separates char = true ∨ ∃ part ∈ text.splitOnP separates, char ∈ part := by
  induction text with
  | nil => cases member
  | cons first rest ih =>
    rw [List.splitOnP_cons_eq_if_modifyHead]
    by_cases same : separates first = true
    · rw [if_pos same]
      rcases List.mem_cons.mp member with rfl | later
      · exact .inl same
      · exact (ih later).imp_right fun ⟨part, inParts, inside⟩ => ⟨part, List.mem_cons_of_mem _ inParts, inside⟩
    · rw [if_neg same]
      cases parts : rest.splitOnP separates with
      | nil => exact absurd parts (List.splitOnP_ne_nil _ _)
      | cons head others =>
        rw [List.modifyHead_cons]
        rcases List.mem_cons.mp member with rfl | later
        · exact .inr ⟨_, List.mem_cons_self, List.mem_cons_self⟩
        · rcases ih later with here | ⟨part, inParts, inside⟩
          · exact .inl here
          · rw [parts] at inParts
            rcases List.mem_cons.mp inParts with rfl | behind
            · exact .inr ⟨_, List.mem_cons_self, List.mem_cons_of_mem _ inside⟩
            · exact .inr ⟨part, List.mem_cons_of_mem _ behind, inside⟩

theorem identifier_plain {value : String} (identifier : officeIdentifierPattern value = true) :
    Plain value.toList ∧ value.toList ≠ [] := by
  simp only [officeIdentifierPattern, namePattern, Bool.and_eq_true, List.all_eq_true] at identifier
  obtain ⟨starts, parts⟩ := identifier
  constructor
  · intro char member
    rcases @splitOnP_member (fun char => ['-'].contains char) _ _ member with separator | ⟨part, inParts, inside⟩
    · exact .inr (by simpa using separator)
    · exact .inl ((parts part inParts).2 char inside)
  · intro empty
    rw [empty] at starts
    cases starts

theorem dropWhile_plain (plain : Plain kind) (nonempty : kind ≠ []) :
    (kind ++ tail).dropWhile isWhiteSpace = kind ++ tail := by
  cases kind with
  | nil => exact absurd rfl nonempty
  | cons char rest => rw [List.cons_append, List.dropWhile_cons_of_neg (by simp [(plain.dark char List.mem_cons_self).1])]

theorem splitKinds_plain (plain : Plain kind) : splitKinds current (kind ++ tail) = splitKinds (current ++ kind) tail := by
  induction kind generalizing current with
  | nil => simp
  | cons char rest ih =>
    obtain ⟨notWhite, notComma⟩ := plain.dark char List.mem_cons_self
    have none : afterSeparator (char :: (rest ++ tail)) = none := by
      rw [afterSeparator, if_neg notComma, if_neg (by simp [notWhite])]
    rw [List.cons_append, splitKinds]
    split
    · next behind found => rw [none] at found; cases found
    · rw [ih fun other member => plain other (List.mem_cons_of_mem _ member), List.append_assoc, List.singleton_append]

theorem splitKinds_separator {separator behind : Text} (found : afterSeparator separator = some behind) :
    splitKinds current separator = current :: splitKinds [] behind := by
  cases separator with
  | nil => cases found
  | cons char rest =>
    rw [splitKinds]
    split
    · next other there => rw [there] at found; rw [Option.some.inj found]
    · next none => rw [none] at found; cases found

theorem splitKinds_last (plain : Plain kind) : splitKinds current kind = [current ++ kind] := by
  have ends := @splitKinds_plain kind current [] plain
  rw [List.append_nil] at ends
  rw [ends, splitKinds]

/-- A list of two: an identifier that is the word `or` stands at the end, or before white space and `or`. -/
theorem afterSeparator_or (plain : Plain kind) (nonempty : kind ≠ []) :
    afterSeparator (" or ".toList ++ kind) = some kind := by
  have kept := @dropWhile_plain kind [] plain nonempty
  rw [List.append_nil] at kept
  change afterSeparator (' ' :: 'o' :: 'r' :: ' ' :: kind) = some kind
  rw [afterSeparator, if_neg (by decide), if_pos (by decide), List.dropWhile_cons_of_neg (by decide), afterOr,
    if_pos (by decide), kept]

theorem afterSeparator_commaOr (plain : Plain kind) (nonempty : kind ≠ []) :
    afterSeparator (", or ".toList ++ kind) = some kind := by
  have kept := @dropWhile_plain kind [] plain nonempty
  rw [List.append_nil] at kept
  change afterSeparator (',' :: ' ' :: 'o' :: 'r' :: ' ' :: kind) = some kind
  rw [afterSeparator, if_pos rfl, List.dropWhile_cons_of_pos (by decide), List.dropWhile_cons_of_neg (by decide)]
  dsimp only
  rw [afterOr, if_pos (by decide), kept, Option.getD_some]

/-- In front of a comma an identifier is never taken for the word of the separator. -/
theorem afterSeparator_comma (plain : Plain kind) (nonempty : kind ≠ []) :
    afterSeparator (", ".toList ++ (kind ++ ',' :: tail)) = some (kind ++ ',' :: tail) := by
  have noWord : afterOr (kind ++ ',' :: tail) = none := by
    unfold afterOr
    split
    · next char rest shape =>
      match kind, nonempty, plain.dark with
      | [_], _, _ => cases (List.cons.inj shape).2
      | [_, _], _, _ =>
        obtain ⟨rfl, -⟩ := List.cons.inj (List.cons.inj (List.cons.inj shape).2).2
        rfl
      | _ :: _ :: third :: _, _, dark =>
        obtain ⟨rfl, -⟩ := List.cons.inj (List.cons.inj (List.cons.inj shape).2).2
        rw [if_neg (by simp [(dark third (by simp)).1])]
    · rfl
  change afterSeparator (',' :: ' ' :: (kind ++ ',' :: tail)) = _
  rw [afterSeparator, if_pos rfl, List.dropWhile_cons_of_pos (by decide), dropWhile_plain plain nonempty]
  dsimp only
  rw [noWord, Option.getD_none]

theorem splitKinds_many {first last : Text} {others : List Text} (plain : ∀ kind ∈ first :: others, Plain kind ∧ kind ≠ [])
    (lastPlain : Plain last ∧ last ≠ []) :
    splitKinds current (", ".toList.intercalate (first :: others) ++ (", or ".toList ++ last)) =
      (current ++ first) :: others ++ [last] := by
  induction others generalizing first current with
  | nil =>
    rw [List.intercalate_singleton, splitKinds_plain (plain first List.mem_cons_self).1,
      splitKinds_separator (afterSeparator_commaOr lastPlain.1 lastPlain.2), splitKinds_last lastPlain.1]
    rfl
  | cons second others ih =>
    obtain ⟨here, later⟩ := List.forall_mem_cons.mp plain
    have comma : ∃ tail, ", ".toList.intercalate (second :: others) ++ (", or ".toList ++ last) = second ++ ',' :: tail := by
      cases others with
      | nil => exact ⟨_, by rw [List.intercalate_singleton]; rfl⟩
      | cons third others =>
        rw [List.intercalate_cons_cons, List.append_assoc, List.append_assoc]
        exact ⟨_, rfl⟩
    obtain ⟨tail, shape⟩ := comma
    have rest := @ih [] second later
    rw [shape] at rest
    have named := (List.forall_mem_cons.mp later).1
    rw [List.intercalate_cons_cons, List.append_assoc, List.append_assoc, splitKinds_plain here.1, shape,
      splitKinds_separator (afterSeparator_comma named.1 named.2), rest]
    rfl

theorem splitKinds_kindList {kinds : List Text} (nonempty : kinds ≠ []) (plain : ∀ kind ∈ kinds, Plain kind ∧ kind ≠ []) :
    splitKinds [] (kindList kinds) = kinds := by
  match kinds, nonempty, plain with
  | [kind], _, plain => exact splitKinds_last (plain kind List.mem_cons_self).1
  | [first, second], _, plain =>
    have other := plain second (by simp)
    rw [kindList, List.append_assoc, splitKinds_plain (plain first List.mem_cons_self).1,
      splitKinds_separator (afterSeparator_or other.1 other.2), splitKinds_last other.1]
    rfl
  | first :: second :: third :: others, _, plain =>
    have whole : first :: (second :: third :: others).dropLast ++ [(first :: second :: third :: others).getLastD []] =
        first :: second :: third :: others := by
      rw [← List.dropLast_cons_of_ne_nil (by simp), List.getLastD_eq_getLast?, List.getLast?_eq_getLast_of_ne_nil (by simp),
        Option.getD_some, List.dropLast_append_getLast]
    have inside (kind : Text) (member : kind ∈ first :: (second :: third :: others).dropLast ++
        [(first :: second :: third :: others).getLastD []]) : Plain kind ∧ kind ≠ [] := plain kind (whole ▸ member)
    change splitKinds [] (", ".toList.intercalate (first :: second :: third :: others).dropLast ++ ", or ".toList ++ _) = _
    rw [List.dropLast_cons_of_ne_nil (by simp), List.append_assoc, splitKinds_many
      (fun kind member => inside kind (List.mem_append_left _ member)) (inside _ (by simp))]
    exact whole

end Lists

section Lines

variable {line rest list behind content : Text} {lineStart : Bool}

/-- A text stops where a line ends. -/
def Stops (rest : Text) : Prop := ∀ char ∈ rest.head?, isLineTerminator char = true

def OneLine (line : Text) : Prop := ∀ char ∈ line, isLineTerminator char = false

theorem oneLine_of_all (none : line.all (fun char => !isLineTerminator char) = true) : OneLine line := by
  intro char member
  have here := List.all_eq_true.mp none char member
  rwa [Bool.not_eq_true'] at here

theorem longestList_spec (found : longestList line = some (list, behind)) : line = list ++ (taskKindsEnd ++ behind) := by
  induction line generalizing list with
  | nil => cases found
  | cons char rest ih =>
    rw [longestList] at found
    split at found
    · next longer => cases found; rw [List.cons_append, ← ih longer]
    · split at found
      · next ends =>
        cases found
        obtain ⟨after, rfl⟩ := List.isPrefixOf_iff_prefix.mp ends
        rw [List.drop_left]
        rfl
      · cases found

theorem longestList_append (none : longestList (taskKindsEnd ++ behind) = none) (nonempty : list ≠ []) :
    longestList (list ++ (taskKindsEnd ++ behind)) = some (list, behind) := by
  induction list with
  | nil => exact absurd rfl nonempty
  | cons char rest ih =>
    rw [List.cons_append, longestList]
    cases rest with
    | nil => rw [List.nil_append, none, if_pos (List.isPrefixOf_iff_prefix.mpr (List.prefix_append _ _)), List.drop_left]
    | cons second others => rw [ih (List.cons_ne_nil _ _)]

theorem taskKindsHere_line (one : OneLine line) (stops : Stops rest) : taskKindsHere (line ++ rest) =
    if taskKindsHeading <+: line then
      (longestList (line.drop taskKindsHeading.length)).map fun (list, behind) => (list, behind ++ rest)
    else none := by
  have heading : taskKindsHeading <+: line ++ rest ↔ taskKindsHeading <+: line := by
    refine ⟨fun starts => ?_, fun starts => starts.trans (List.prefix_append _ _)⟩
    rcases List.prefix_or_prefix_of_prefix starts (List.prefix_append line rest) with inside | ⟨later, whole⟩
    · exact inside
    · cases later with
      | nil => rw [← whole, List.append_nil]
      | cons char others =>
        -- The heading would go on into the next line.
        obtain ⟨after, same⟩ := starts
        rw [← whole, List.append_assoc, List.append_cancel_left_eq] at same
        have ends := stops char (by rw [← same]; rfl)
        have inHeading : char ∈ taskKindsHeading := by rw [← whole]; simp
        rw [oneLine_of_all (by decide) char inHeading] at ends
        cases ends
  unfold taskKindsHere
  by_cases starts : taskKindsHeading <+: line
  · obtain ⟨body, rfl⟩ := starts
    have bodyOne : ∀ char ∈ body, (!isLineTerminator char) = true := fun char member => by
      simp [one char (List.mem_append_right _ member)]
    have none : rest.takeWhile (fun char => !isLineTerminator char) = [] ∧
        rest.dropWhile (fun char => !isLineTerminator char) = rest := by
      cases rest with
      | nil => exact ⟨rfl, rfl⟩
      | cons char others => simp [stops char rfl]
    rw [if_pos (List.isPrefixOf_iff_prefix.mpr (heading.mpr (List.prefix_append _ _))),
      if_pos (List.prefix_append _ _), List.append_assoc, List.drop_left, List.drop_left]
    dsimp only
    rw [List.takeWhile_append_of_pos bodyOne, List.dropWhile_append_of_pos bodyOne, none.1, none.2, List.append_nil]
  · rw [if_neg starts, if_neg (mt List.isPrefixOf_iff_prefix.mp (mt heading.mp starts))]

theorem taskKindsHere_other {char : Char} (other : char ≠ 'C') : taskKindsHere (char :: rest) = none := by
  rw [taskKindsHere, if_neg]
  intro starts
  obtain ⟨_, same⟩ := List.isPrefixOf_iff_prefix.mp starts
  exact other (List.cons.inj same).1.symm

def TaskKindsLine.after (above : Text) (found : TaskKindsLine) : TaskKindsLine := { found with before := above ++ found.before }

theorem findTaskKinds_inside (one : OneLine line) :
    findTaskKinds false (line ++ '\n' :: rest) = (findTaskKinds true rest).map (·.after (line ++ ['\n'])) := by
  induction line with
  | nil => rfl
  | cons char line ih =>
    obtain ⟨here, later⟩ := List.forall_mem_cons.mp one
    rw [List.cons_append, findTaskKinds, if_neg Bool.false_ne_true, here, ih later, Option.map_map]
    rfl

theorem findTaskKinds_line (one : OneLine line) (apart : ¬taskKindsHeading <+: line) :
    findTaskKinds true (line ++ '\n' :: rest) = (findTaskKinds true rest).map (·.after (line ++ ['\n'])) := by
  have none := @taskKindsHere_line line ('\n' :: rest) one (by rintro _ ⟨⟩; decide)
  rw [if_neg apart] at none
  cases line with
  | nil =>
    rw [List.nil_append] at none ⊢
    rw [findTaskKinds, if_pos rfl, none]
    rfl
  | cons char line =>
    obtain ⟨here, later⟩ := List.forall_mem_cons.mp one
    rw [List.cons_append] at none ⊢
    rw [findTaskKinds, if_pos rfl, none, here]
    dsimp only
    rw [findTaskKinds_inside later, Option.map_map]
    rfl

theorem findTaskKinds_lines {lines : List Text} (apart : ∀ line ∈ lines, OneLine line ∧ ¬taskKindsHeading <+: line) :
    findTaskKinds true (linesText lines ++ rest) = (findTaskKinds true rest).map (·.after (linesText lines)) := by
  induction lines with
  | nil => exact Option.map_id'.symm
  | cons line lines ih =>
    obtain ⟨here, later⟩ := List.forall_mem_cons.mp apart
    rw [linesText, List.flatMap_cons, ← linesText, List.append_assoc, List.append_assoc, List.singleton_append,
      findTaskKinds_line here.1 here.2, ih later, Option.map_map]
    cases findTaskKinds true rest with
    | none => rfl
    | some found => simp [TaskKindsLine.after]

theorem findTaskKinds_found (here : taskKindsHere content = some (list, behind)) :
    findTaskKinds true content = some ⟨[], list, behind⟩ := by
  cases content with
  | nil => cases here
  | cons char rest => rw [findTaskKinds, if_pos rfl, here]

end Lines

section LineEndings

variable {content rest line : Text} {lineStart : Bool}

def TaskKindsLine.normalized (found : TaskKindsLine) : TaskKindsLine :=
  ⟨normalizeEol found.before, found.list, normalizeEol found.behind⟩

theorem OneLine.unreturned (one : OneLine line) : '\r' ∉ line := fun member => by cases (one _ member).symm.trans rfl

theorem OneLine.normalize_append (one : OneLine line) (rest : Text) :
    normalizeEol (line ++ rest) = line ++ normalizeEol rest := by
  rw [normalizeEol_append (.inl fun last => one.unreturned (List.mem_of_getLast? last)), normalizeEol_plain one.unreturned]

theorem Stops.normalized (stops : Stops rest) : Stops (normalizeEol rest) := by
  cases rest with
  | nil => exact nofun
  | cons char others =>
    have ends := stops char rfl
    by_cases back : char = '\r'
    · subst back
      cases others with
      | nil => rintro _ ⟨⟩; decide
      | cons next others =>
        by_cases feed : next = '\n'
        · subst feed; rintro _ ⟨⟩; decide
        · rw [normalizeEol_return (by simpa using feed)]
          rintro _ ⟨⟩
          decide
    · rw [normalizeEol_cons back]
      rintro _ ⟨⟩
      exact ends

theorem line_split (text : Text) : ∃ line rest, text = line ++ rest ∧ OneLine line ∧ Stops rest := by
  refine ⟨text.takeWhile (fun char => !isLineTerminator char), text.dropWhile (fun char => !isLineTerminator char),
    List.takeWhile_append_dropWhile.symm, fun char member => by simpa using List.mem_takeWhile_imp member, fun char first => ?_⟩
  have ends := List.head?_dropWhile_not (fun char => !isLineTerminator char) text
  rw [first] at ends
  simpa using ends

theorem taskKindsHere_normalizeEol (text : Text) :
    (taskKindsHere text).map (fun found => (found.1, normalizeEol found.2)) = taskKindsHere (normalizeEol text) := by
  obtain ⟨line, rest, rfl, one, stops⟩ := line_split text
  rw [taskKindsHere_line one stops, one.normalize_append, taskKindsHere_line one stops.normalized]
  split
  · cases found : longestList (line.drop taskKindsHeading.length) with
    | none => rfl
    | some answer =>
      have shape := longestList_spec found
      have part : OneLine answer.2 := by
        intro char member
        have inDrop : char ∈ line.drop taskKindsHeading.length := by
          rw [shape]
          simp [member]
        exact one char (List.mem_of_mem_drop inDrop)
      simp [part.normalize_append]
  · rfl

theorem findTaskKinds_before {found : TaskKindsLine} (lookup : findTaskKinds lineStart content = some found) :
    found.before <+: content := by
  induction content generalizing lineStart found with
  | nil => cases lookup
  | cons char rest ih =>
    rw [findTaskKinds] at lookup
    split at lookup
    · cases lookup; exact List.nil_prefix
    · obtain ⟨other, later, rfl⟩ := Option.map_eq_some_iff.mp lookup
      exact (List.prefix_cons_inj char).mpr (ih later)

theorem findTaskKinds_normalizeEol (content : Text) (lineStart : Bool) :
    (findTaskKinds lineStart content).map (·.normalized) = findTaskKinds lineStart (normalizeEol content) := by
  have skipped {char : Char} {lineStart : Bool} {rest : Text} (other : char ≠ 'C') :
      findTaskKinds lineStart (char :: rest) = (findTaskKinds (isLineTerminator char) rest).map (·.after [char]) := by
    rw [findTaskKinds, taskKindsHere_other other, ite_self]
    rfl
  induction content using normalizeEol.induct generalizing lineStart with
  | case1 => rfl
  | case2 rest ih =>
    rw [normalizeEol, skipped (by decide), skipped (by decide), skipped (by decide), ← ih, Option.map_map,
      Option.map_map, Option.map_map]
    rfl
  | case3 rest other ih =>
    have notFeed : rest.head? ≠ some '\n' := by
      intro first
      obtain ⟨later, same⟩ := List.head?_eq_some_iff.mp first
      exact other later same
    rw [normalizeEol_return notFeed, skipped (by decide), skipped (by decide)]
    change _ = (findTaskKinds true (normalizeEol rest)).map _
    rw [← ih, Option.map_map, Option.map_map]
    change (findTaskKinds true rest).map _ = _
    cases lookup : findTaskKinds true rest with
    | none => rfl
    | some found =>
      obtain ⟨behind, whole⟩ := findTaskKinds_before lookup
      have kept : found.before.head? ≠ some '\n' := by
        intro first
        obtain ⟨later, same⟩ := List.head?_eq_some_iff.mp first
        exact notFeed (by rw [← whole, same]; rfl)
      simp [TaskKindsLine.after, TaskKindsLine.normalized, normalizeEol_return kept]
  | case4 char rest _ other ih =>
    have here := taskKindsHere_normalizeEol (char :: rest)
    rw [normalizeEol_cons other] at here ⊢
    rw [findTaskKinds, findTaskKinds]
    cases lineStart with
    | false =>
      rw [if_neg Bool.false_ne_true, if_neg Bool.false_ne_true, ← ih, Option.map_map, Option.map_map]
      simp [Function.comp_def, TaskKindsLine.normalized, normalizeEol_cons other]
    | true =>
      rw [if_pos rfl, if_pos rfl, ← here]
      cases taskKindsHere (char :: rest) with
      | none =>
        simp only [Option.map_none]
        rw [← ih, Option.map_map, Option.map_map]
        simp [Function.comp_def, TaskKindsLine.normalized, normalizeEol_cons other]
      | some answer => rfl

end LineEndings

section ReadingBack

variable {prose : SkillProse} {kinds : List String} {content : Text}

set_option maxRecDepth 8000 in
theorem skillLines_apart : ∀ line ∈ skillLines prose, OneLine line ∧ ¬taskKindsHeading <+: line := by
  have chars : skillDescription = _ := String.toList_ofList
  have fixed : ∀ line ∈ skillFrontMatter ++ [managedProjectSkillMarker],
      line.all (fun char => !isLineTerminator char) = true ∧ taskKindsHeading.isPrefixOf line = false := by
    rw [skillFrontMatter, chars]
    decide +kernel
  intro line member
  rw [skillLines, List.append_cons] at member
  rcases List.mem_append.mp member with here | above
  · obtain ⟨one, apart⟩ := fixed line here
    refine ⟨oneLine_of_all one, fun starts => ?_⟩
    rw [List.isPrefixOf_iff_prefix.mpr starts] at apart
    cases apart
  · exact prose.lines line above

theorem terminator_white {char : Char} (ends : isLineTerminator char = true) : isWhiteSpace char = true := by
  simp only [isLineTerminator, List.mem_cons, List.not_mem_nil, or_false, decide_eq_true_eq] at ends
  rcases ends with same | same | same | same <;> simp [isWhiteSpace, same]

theorem mem_intercalate {separator : Text} {parts : List Text} {char : Char}
    (member : char ∈ separator.intercalate parts) : char ∈ separator ∨ ∃ part ∈ parts, char ∈ part := by
  induction parts with
  | nil => cases member
  | cons first others ih =>
    cases others with
    | nil =>
      rw [List.intercalate_singleton] at member
      exact .inr ⟨first, List.mem_cons_self, member⟩
    | cons second others =>
      rw [List.intercalate_cons_cons] at member
      rcases List.mem_append.mp member with here | later
      · rcases List.mem_append.mp here with here | between
        · exact .inr ⟨first, List.mem_cons_self, here⟩
        · exact .inl between
      · exact (ih later).imp_right fun ⟨part, inParts, inside⟩ => ⟨part, List.mem_cons_of_mem _ inParts, inside⟩

theorem mem_kindList {kinds : List Text} {char : Char} (member : char ∈ kindList kinds) :
    char ∈ ", or".toList ∨ ∃ kind ∈ kinds, char ∈ kind := by
  match kinds, member with
  | [kind], member => exact .inr ⟨kind, List.mem_cons_self, member⟩
  | [first, second], member =>
    rcases List.mem_append.mp member with earlier | last
    · rcases List.mem_append.mp earlier with here | word
      · exact .inr ⟨first, by simp, here⟩
      · exact .inl ((by decide : " or ".toList ⊆ ", or".toList) word)
    · exact .inr ⟨second, by simp, last⟩
  | first :: second :: third :: others, member =>
    rcases List.mem_append.mp member with earlier | last
    · rcases List.mem_append.mp earlier with joined | word
      · rcases mem_intercalate joined with comma | ⟨part, inParts, inside⟩
        · exact .inl ((by decide : ", ".toList ⊆ ", or".toList) comma)
        · exact .inr ⟨part, List.dropLast_subset _ inParts, inside⟩
      · exact .inl ((by decide : ", or ".toList ⊆ ", or".toList) word)
    · refine .inr ⟨_, ?_, last⟩
      rw [List.getLastD_eq_getLast?, List.getLast?_eq_getLast_of_ne_nil (by simp), Option.getD_some]
      exact List.getLast_mem _

theorem kindList_oneLine {kinds : List Text} (plain : ∀ kind ∈ kinds, Plain kind ∧ kind ≠ []) : OneLine (kindList kinds) := by
  intro char member
  rcases mem_kindList member with word | ⟨kind, inKinds, inside⟩
  · exact oneLine_of_all (by decide) char word
  · have dark := ((plain kind inKinds).1.dark char inside).1
    cases ends : isLineTerminator char with
    | false => rfl
    | true => rw [terminator_white ends] at dark; cases dark

theorem kindList_nonempty {kinds : List Text} (nonempty : kinds ≠ []) (plain : ∀ kind ∈ kinds, Plain kind ∧ kind ≠ []) :
    kindList kinds ≠ [] := by
  intro empty
  have split := splitKinds_kindList nonempty plain
  rw [empty, splitKinds] at split
  exact (plain [] (by rw [← split]; exact List.mem_cons_self)).2 rfl

/-- The line of the task kinds. -/
def taskKindsLine (kinds : List String) : Text :=
  taskKindsHeading ++ kindList (kinds.map String.toList) ++ taskKindsEnd ++ operatingGuidance

theorem compileProjectSkill_some (nonempty : kinds ≠ []) : compileProjectSkill prose (some kinds) =
    linesText (skillLines prose) ++ (taskKindsLine kinds ++ '\n' :: prose.below) := by
  simp only [compileProjectSkill, if_pos (List.length_pos_of_ne_nil nonempty), List.append_assoc, taskKindsLine]

theorem compileProjectSkill_none : compileProjectSkill prose none = compileProjectSkill prose (some officeTaskKinds) := rfl

theorem kinds_plain (identifiers : ∀ kind ∈ kinds, officeIdentifierPattern kind = true) :
    ∀ kind ∈ kinds.map String.toList, Plain kind ∧ kind ≠ [] := by
  intro text member
  obtain ⟨kind, inKinds, rfl⟩ := List.mem_map.mp member
  exact identifier_plain (identifiers kind inKinds)

set_option maxRecDepth 8000 in
theorem operatingGuidance_oneLine : OneLine operatingGuidance := by
  have chars : operatingGuidance = _ := String.toList_ofList
  have none : operatingGuidance.all (fun char => !isLineTerminator char) = true := by rw [chars]; decide +kernel
  exact oneLine_of_all none

set_option maxRecDepth 8000 in
theorem operatingGuidance_ends : longestList (taskKindsEnd ++ operatingGuidance) = none := by
  have chars : operatingGuidance = _ := String.toList_ofList
  have none : (longestList (taskKindsEnd ++ operatingGuidance)).isNone = true := by rw [chars]; decide +kernel
  exact Option.isNone_iff_eq_none.mp none

theorem taskKindsLine_oneLine (identifiers : ∀ kind ∈ kinds, officeIdentifierPattern kind = true) :
    OneLine (taskKindsLine kinds) := by
  intro char member
  rw [taskKindsLine, List.append_assoc, List.append_assoc] at member
  rcases List.mem_append.mp member with heading | member
  · exact oneLine_of_all (by decide) char heading
  rcases List.mem_append.mp member with list | member
  · exact kindList_oneLine (kinds_plain identifiers) char list
  rcases List.mem_append.mp member with ends | guidance
  · exact oneLine_of_all (by decide) char ends
  · exact operatingGuidance_oneLine char guidance

/-- What stands behind the task kinds. -/
def behindTaskKinds (prose : SkillProse) : Text := operatingGuidance ++ '\n' :: prose.below

theorem findTaskKinds_skill (nonempty : kinds ≠ []) (identifiers : ∀ kind ∈ kinds, officeIdentifierPattern kind = true) :
    findTaskKinds true (compileProjectSkill prose (some kinds)) =
      some ⟨linesText (skillLines prose), kindList (kinds.map String.toList), behindTaskKinds prose⟩ := by
  have plain := kinds_plain identifiers
  have listed := longestList_append operatingGuidance_ends (kindList_nonempty (by simpa using nonempty) plain)
  have here : taskKindsHere (taskKindsLine kinds ++ '\n' :: prose.below) =
      some (kindList (kinds.map String.toList), behindTaskKinds prose) := by
    rw [taskKindsHere_line (taskKindsLine_oneLine identifiers) (by rintro _ ⟨⟩; decide), taskKindsLine, List.append_assoc,
      List.append_assoc, if_pos (List.prefix_append _ _), List.drop_left, listed]
    rfl
  rw [compileProjectSkill_some nonempty, findTaskKinds_lines skillLines_apart, findTaskKinds_found here]
  simp [TaskKindsLine.after]

theorem linesText_unreturned {lines : List Text} (one : ∀ line ∈ lines, OneLine line) : '\r' ∉ linesText lines := by
  intro member
  obtain ⟨line, inLines, inside⟩ := List.mem_flatMap.mp member
  rcases List.mem_append.mp inside with here | feed
  · exact (one line inLines).unreturned here
  · cases List.mem_singleton.mp feed

theorem compileProjectSkill_unreturned (nonempty : kinds ≠ [])
    (identifiers : ∀ kind ∈ kinds, officeIdentifierPattern kind = true) : '\r' ∉ compileProjectSkill prose (some kinds) := by
  rw [compileProjectSkill_some nonempty, List.mem_append, List.mem_append, List.mem_cons, not_or, not_or, not_or]
  exact ⟨linesText_unreturned fun line member => (skillLines_apart line member).1,
    (taskKindsLine_oneLine identifiers).unreturned, by decide, prose.unreturned⟩

/-- A converted skill has the same list, between texts that were converted. -/
theorem findTaskKinds_converted (nonempty : kinds ≠ [])
    (identifiers : ∀ kind ∈ kinds, officeIdentifierPattern kind = true)
    (converted : normalizeEol content = compileProjectSkill prose (some kinds)) :
    ∃ before behind, findTaskKinds true content = some ⟨before, kindList (kinds.map String.toList), behind⟩ ∧
      normalizeEol before = linesText (skillLines prose) ∧ normalizeEol behind = behindTaskKinds prose := by
  have found := findTaskKinds_normalizeEol content true
  rw [converted, findTaskKinds_skill nonempty identifiers] at found
  obtain ⟨⟨before, list, behind⟩, lookup, same⟩ := Option.map_eq_some_iff.mp found
  simp only [TaskKindsLine.normalized, TaskKindsLine.mk.injEq] at same
  obtain ⟨sameBefore, rfl, sameBehind⟩ := same
  exact ⟨before, behind, lookup, sameBefore, sameBehind⟩

theorem declaredTaskKinds_converted (nonempty : kinds ≠ []) (distinct : kinds.Nodup)
    (few : kinds.length ≤ officeTaskKindsMaxCount)
    (identifiers : ∀ kind ∈ kinds, officeIdentifierPattern kind = true ∧ utf16Length kind ≤ officeIdentifierMaxLength)
    (converted : normalizeEol content = compileProjectSkill prose (some kinds)) :
    declaredTaskKinds content = some kinds := by
  have named : ∀ kind ∈ kinds, officeIdentifierPattern kind = true := fun kind member => (identifiers kind member).1
  obtain ⟨before, behind, lookup, -, -⟩ := findTaskKinds_converted nonempty named converted
  have readBack : (splitKinds [] (kindList (kinds.map String.toList))).map String.ofList = kinds := by
    rw [splitKinds_kindList (by simpa using nonempty) (kinds_plain named), List.map_map]
    simp
  have checked : kinds.all (fun kind => utf16Length kind ≤ officeIdentifierMaxLength && officeIdentifierPattern kind) = true := by
    rw [List.all_eq_true]
    intro kind member
    rw [decide_eq_true (identifiers kind member).2, (identifiers kind member).1]
    rfl
  rw [declaredTaskKinds, lookup]
  dsimp only [Option.bind_some]
  rw [readBack, if_pos ⟨distinct, few, checked⟩]

theorem normalizedProjectSkill_converted (nonempty : kinds ≠ [])
    (identifiers : ∀ kind ∈ kinds, officeIdentifierPattern kind = true)
    (converted : normalizeEol content = compileProjectSkill prose (some kinds)) :
    normalizeEol (normalizedProjectSkill content) =
      linesText (skillLines prose) ++ (taskKindsPlaceholder ++ behindTaskKinds prose) := by
  obtain ⟨before, behind, lookup, sameBefore, sameBehind⟩ := findTaskKinds_converted nonempty identifiers converted
  have one : OneLine taskKindsPlaceholder := oneLine_of_all (by decide)
  rw [normalizedProjectSkill, lookup]
  dsimp only
  have starts : (taskKindsPlaceholder ++ behind).head? ≠ some '\n' := by rintro ⟨⟩
  rw [List.append_assoc, normalizeEol_append (.inr starts), one.normalize_append, sameBefore, sameBehind]

set_option maxRecDepth 8000 in
theorem skill_marked (nonempty : kinds ≠ []) {file : LocalInstructionFile} (stored : file.content = some content)
    (converted : normalizeEol content = compileProjectSkill prose (some kinds)) : isProjectSkillManaged file = true := by
  have chars : skillDescription = _ := String.toList_ofList
  have front : firstAt "\n---\n".toList ((linesText skillFrontMatter).drop 4) = some 385 ∧
      "---\nname: ai-office\n".toList.isPrefixOf (linesText skillFrontMatter) = true ∧
      (linesText skillFrontMatter).drop 394 = ['\n'] := by
    rw [skillFrontMatter, chars]
    decide +kernel
  obtain ⟨ends, starts, last⟩ := front
  have long : 394 ≤ (linesText skillFrontMatter).length := by
    by_contra short
    rw [List.drop_eq_nil_of_le (by omega)] at last
    cases last
  obtain ⟨rest, shape⟩ : ∃ rest, compileProjectSkill prose (some kinds) =
      linesText skillFrontMatter ++ (managedProjectSkillMarker ++ '\n' :: rest) := by
    rw [compileProjectSkill_some nonempty, skillLines, linesText, List.flatMap_append, List.flatMap_cons]
    exact ⟨_, by simp only [linesText, List.append_assoc, List.cons_append, List.nil_append]; rfl⟩
  have place : indexOf "\n---\n".toList (compileProjectSkill prose (some kinds)) 4 = some 389 := by
    rw [indexOf, shape, List.drop_append_of_le_length (by omega), firstAt_append ends]
    rfl
  have named : "---\nname: ai-office\n".toList <+: compileProjectSkill prose (some kinds) := by
    rw [shape]
    exact (List.isPrefixOf_iff_prefix.mp starts).trans (List.prefix_append _ _)
  have marked : '\n' :: managedProjectSkillMarker ++ ['\n'] <+: (compileProjectSkill prose (some kinds)).drop 394 := by
    rw [shape, List.drop_append_of_le_length long, last]
    exact ⟨rest, by simp⟩
  rw [isProjectSkillManaged, hasManagedSkillMarker, stored, Option.map_some, converted]
  dsimp only
  rw [place, List.isPrefixOf_iff_prefix.mpr named, Bool.true_and]
  exact List.isPrefixOf_iff_prefix.mpr marked

/-- The generated list reads back, and an inspection without a contract takes the skill for integrated, whatever
line endings it was given since. -/
theorem projectSkill_readsBack (prose : SkillProse) {kinds : List String} (nonempty : kinds ≠ []) (distinct : kinds.Nodup)
    (few : kinds.length ≤ officeTaskKindsMaxCount)
    (identifiers : ∀ kind ∈ kinds, officeIdentifierPattern kind = true ∧ utf16Length kind ≤ officeIdentifierMaxLength) :
    declaredTaskKinds (compileProjectSkill prose (some kinds)) = some kinds ∧
      ∀ content file, normalizeEol content = compileProjectSkill prose (some kinds) → file.content = some content →
        declaredTaskKinds content = some kinds ∧ isProjectSkillManaged file = true ∧
          projectSkillState (generatedProjectSkill prose) file = fileState file .aiOfficeOwned .integrated := by
  have named : ∀ kind ∈ kinds, officeIdentifierPattern kind = true := fun kind member => (identifiers kind member).1
  have unconverted {kinds : List String} (nonempty : kinds ≠ []) (named : ∀ kind ∈ kinds, officeIdentifierPattern kind = true) :
      normalizeEol (compileProjectSkill prose (some kinds)) = compileProjectSkill prose (some kinds) :=
    normalizeEol_plain (compileProjectSkill_unreturned nonempty named)
  refine ⟨declaredTaskKinds_converted nonempty distinct few identifiers (unconverted nonempty named),
    fun content file converted stored => ?_⟩
  have declared := declaredTaskKinds_converted nonempty distinct few identifiers converted
  have managed := skill_marked nonempty stored converted
  have shipped : officeTaskKinds ≠ [] ∧ ∀ kind ∈ officeTaskKinds, officeIdentifierPattern kind = true := by decide
  have generated : generatedProjectSkill prose content = true := by
    rw [generatedProjectSkill, declared, compileProjectSkill_none, equivalentText, Option.isSome_some, Bool.true_and,
      Option.any_some, decide_eq_true_eq, normalizedProjectSkill_converted nonempty named converted,
      normalizedProjectSkill_converted shipped.1 shipped.2 (unconverted shipped.1 shipped.2)]
  have present : file.present = true := by rw [LocalInstructionFile.present, stored]; rfl
  refine ⟨declared, managed, ?_⟩
  rw [projectSkillState, managed, present, stored, Option.any_some, generated]
  rfl

theorem projectSkill_readsBack_or :
    let prose : SkillProse := ⟨[[], "# AI Office".toList], "After that.\n".toList, by simp [isLineTerminator]; decide, by decide⟩
    let kinds := ["feature", "or", "bugfix"]
    declaredTaskKinds (compileProjectSkill prose (some kinds)) = some kinds ∧
      ∀ content file, normalizeEol content = compileProjectSkill prose (some kinds) → file.content = some content →
        declaredTaskKinds content = some kinds ∧ isProjectSkillManaged file = true ∧
          projectSkillState (generatedProjectSkill prose) file = fileState file .aiOfficeOwned .integrated :=
  projectSkill_readsBack _ (List.cons_ne_nil _ _) (by decide) (by decide) (by decide)

end ReadingBack

end AiOffice.AgentClientIntegrations
