import AiOffice.Data.Outcome
import AiOffice.Data.PosixPath
import AiOffice.Domain.Text

namespace AiOffice.Connector.UnifiedDiff

open Data Outcome Domain

structure SplitText where
  lines : List (List Char)
  finalNewline : Bool

def replaceAllCrLf : List Char → List Char
  | '\r' :: '\n' :: rest => '\n' :: replaceAllCrLf rest
  | char :: rest => char :: replaceAllCrLf rest
  | [] => []

def bodyLines (body : List Char) : List (List Char) := if body.length = 0 then [] else body.splitOn '\n'

def splitText (value : String) : SplitText :=
  let normalized := replaceAllCrLf value.toList
  let finalNewline : Bool := normalized.getLast? = some '\n'
  { lines := bodyLines (if finalNewline then normalized.dropLast else normalized), finalNewline }

def range (count : Nat) : String := if count = 1 then "1" else "1," ++ toString count

def throwIfAborted (aborted : Bool) : Except Thrown Unit :=
  if aborted then .error ⟨.filesystemOperationAbortedError, "Filesystem operation was aborted"⟩ else .ok ()

structure UnifiedDiffInput where
  oldPath : Option String
  newPath : Option String
  oldContent : String
  newContent : String
  maxBytes : Nat

def UnifiedDiffInput.Unchanged (input : UnifiedDiffInput) : Prop :=
  input.oldPath = input.newPath ∧ input.oldContent = input.newContent

instance (input : UnifiedDiffInput) : Decidable input.Unchanged := inferInstanceAs (Decidable (_ ∧ _))

/-- The lines of one side behind its mark. The signal is read again before each of them. -/
def markLines (mark : Char) (aborted : Nat → Bool) : Nat → List (List Char) → Except Thrown (List (List Char))
  | _, [] => .ok []
  | reading, line :: lines => do
    throwIfAborted (aborted reading)
    let rest ← markLines mark aborted (reading + 1) lines
    return (mark :: line) :: rest

def missingNewline (text : SplitText) : List (List Char) :=
  if text.finalNewline = false ∧ text.lines.length > 0 then ["\\ No newline at end of file".toList] else []

def fileHeader (oldPath newPath : Option String) : List (List Char) :=
  [("--- " ++ (oldPath.map ("a/" ++ ·)).getD "/dev/null").toList,
    ("+++ " ++ (newPath.map ("b/" ++ ·)).getD "/dev/null").toList]

def createUnifiedDiff (input : UnifiedDiffInput) (aborted : Nat → Bool) : Except Thrown String := do
  throwIfAborted (aborted 0)
  if input.Unchanged then .ok ""
  else
    let oldText := splitText input.oldContent
    let newText := splitText input.newContent
    let header := fileHeader input.oldPath input.newPath ++
      [("@@ -" ++ range oldText.lines.length ++ " +" ++ range newText.lines.length ++ " @@").toList]
    let removed ← markLines '-' aborted 1 oldText.lines
    let added ← markLines '+' aborted (1 + oldText.lines.length) newText.lines
    let lines := header ++ removed ++ missingNewline oldText ++ added ++ missingNewline newText
    let diff := String.ofList (['\n'].intercalate lines ++ ['\n'])
    if diff.utf8ByteSize > input.maxBytes then
      .error ⟨.filesystemDiffTooLargeError, "Filesystem simulation diff exceeds the permitted byte limit"⟩
    else .ok diff

section Lines

theorem replaceAllCrLf_plain {text : List Char} (plain : '\r' ∉ text) : replaceAllCrLf text = text := by
  induction text with
  | nil => rfl
  | cons char rest ih =>
    have here : char ≠ '\r' := fun same => plain (same ▸ List.mem_cons_self)
    rw [replaceAllCrLf, ih fun member => plain (List.mem_cons_of_mem _ member)]
    intro rest' same
    exact absurd same here

/-- The contents whose split has no lines: with a final newline and without. -/
def Blank (content : String) : Prop := content = "" ∨ content = "\n"

instance (content : String) : Decidable (Blank content) := inferInstanceAs (Decidable (_ ∨ _))

theorem bodyLines_line {body line : List Char} (member : line ∈ bodyLines body) : '\n' ∉ line := by
  unfold bodyLines at member
  split at member
  · exact absurd member List.not_mem_nil
  · exact splitOn_part _ _ line member

theorem bodyLines_text {body : List Char} : ['\n'].intercalate (bodyLines body) = body := by
  unfold bodyLines
  split
  case isTrue empty => exact (List.length_eq_zero_iff.mp empty).symm
  case isFalse => exact List.intercalate_splitOn _

theorem splitText_line {content : String} {line : List Char} (member : line ∈ (splitText content).lines) :
    '\n' ∉ line := bodyLines_line member

theorem splitText_text {content : String} (plain : '\r' ∉ content.toList) :
    content.toList =
      ['\n'].intercalate (splitText content).lines ++ if (splitText content).finalNewline then ['\n'] else [] := by
  simp only [splitText, replaceAllCrLf_plain plain, bodyLines_text]
  by_cases final : content.toList.getLast? = some '\n'
  · simp only [final, decide_true, if_true]
    exact (List.dropLast_append_getLast? _ final).symm
  · simp [final]

theorem splitText_lines_nil {content : String} (plain : '\r' ∉ content.toList) :
    (splitText content).lines = [] ↔ Blank content := by
  constructor
  · intro empty
    have text := splitText_text plain
    rw [empty, List.intercalate_nil, List.nil_append] at text
    split at text
    · exact .inr (String.toList_injective text)
    · exact .inl (String.toList_injective text)
  · rintro (rfl | rfl) <;> decide

/-- What a split tells apart: contents that are not the same, the blank ones taken as one. -/
def Alike (first second : String) : Prop := first = second ∨ Blank first ∧ Blank second

instance (first second : String) : Decidable (Alike first second) := inferInstanceAs (Decidable (_ ∨ _))

theorem splitText_alike {first second : String} (plain : '\r' ∉ first.toList) (plain' : '\r' ∉ second.toList)
    (lines : (splitText first).lines = (splitText second).lines)
    (ends : missingNewline (splitText first) = missingNewline (splitText second)) : Alike first second := by
  by_cases blank : (splitText first).lines = []
  · exact .inr ⟨(splitText_lines_nil plain).mp blank, (splitText_lines_nil plain').mp (lines ▸ blank)⟩
  · left
    have full : (splitText second).lines.length > 0 := List.length_pos_iff.mpr (lines ▸ blank)
    have final : (splitText first).finalNewline = (splitText second).finalNewline := by
      simp only [missingNewline, lines, full, and_true] at ends
      cases one : (splitText first).finalNewline <;> cases other : (splitText second).finalNewline <;>
        simp [one, other] at ends ⊢
    apply String.toList_injective
    rw [splitText_text plain, splitText_text plain', lines, final]

end Lines

theorem markLines_ok {mark : Char} {aborted : Nat → Bool} {reading : Nat} {lines marked : List (List Char)}
    (read : markLines mark aborted reading lines = .ok marked) : marked = lines.map (mark :: ·) := by
  induction lines generalizing reading marked with
  | nil => exact (Except.ok.inj read).symm
  | cons line lines ih =>
    obtain ⟨-, -, read⟩ := bind_ok read
    obtain ⟨rest, later, read⟩ := bind_ok read
    obtain rfl := Except.ok.inj read
    rw [ih later, List.map_cons]

def hunk (oldText newText : SplitText) : List (List Char) :=
  ("@@ -" ++ range oldText.lines.length ++ " +" ++ range newText.lines.length ++ " @@").toList ::
    (oldText.lines.map ('-' :: ·) ++ missingNewline oldText ++
      (newText.lines.map ('+' :: ·) ++ missingNewline newText))

theorem createUnifiedDiff_ok {input : UnifiedDiffInput} {aborted : Nat → Bool} {diff : String}
    (created : createUnifiedDiff input aborted = .ok diff) :
    diff = if input.Unchanged then "" else
      String.ofList (['\n'].intercalate (fileHeader input.oldPath input.newPath ++
        hunk (splitText input.oldContent) (splitText input.newContent)) ++ ['\n']) := by
  obtain ⟨-, -, created⟩ := bind_ok created
  by_cases unchanged : input.Unchanged
  · rw [if_pos unchanged] at created ⊢
    exact (Except.ok.inj created).symm
  · rw [if_neg unchanged] at created ⊢
    obtain ⟨removed, old, created⟩ := bind_ok created
    obtain ⟨added, new, created⟩ := bind_ok created
    obtain ⟨-, created⟩ := guard_ok created
    rw [← Except.ok.inj created, markLines_ok old, markLines_ok new]
    simp [hunk, List.append_assoc]

section Hunk

theorem digit_newline (count : Nat) : '\n' ∉ (toString count).toList := by
  intro member
  rw [Nat.toString_eq_repr, Nat.toList_repr] at member
  exact absurd (Nat.isDigit_of_mem_toDigits (by decide) (by decide) member) (by decide)

theorem range_newline (count : Nat) : '\n' ∉ (range count).toList := by
  unfold range
  split
  · decide
  · have digits := digit_newline count
    simpa using digits

theorem missingNewline_mark (text : SplitText) : ∀ line ∈ missingNewline text, line.head? = some '\\' := by
  intro line member
  unfold missingNewline at member
  split at member
  · obtain rfl := List.mem_singleton.mp member
    decide
  · exact absurd member List.not_mem_nil

theorem hunk_line {oldText newText : SplitText} (old : ∀ line ∈ oldText.lines, '\n' ∉ line)
    (new : ∀ line ∈ newText.lines, '\n' ∉ line) : ∀ line ∈ hunk oldText newText, '\n' ∉ line := by
  have missing (text : SplitText) : ∀ line ∈ missingNewline text, '\n' ∉ line := by
    intro line member
    unfold missingNewline at member
    split at member
    · obtain rfl := List.mem_singleton.mp member
      decide
    · exact absurd member List.not_mem_nil
  have marked {mark : Char} (apart : '\n' ≠ mark) {lines : List (List Char)} (clean : ∀ line ∈ lines, '\n' ∉ line) :
      ∀ line ∈ lines.map (mark :: ·), '\n' ∉ line := by
    intro line member
    obtain ⟨unmarked, _, rfl⟩ := List.mem_map.mp member
    exact fun inside => (List.mem_cons.mp inside).elim apart (clean unmarked ‹_›)
  intro line member
  rcases List.mem_cons.mp member with rfl | member
  · simp [range_newline]
  · rcases List.mem_append.mp member with member | member <;> rcases List.mem_append.mp member with member | member
    · exact marked (by decide) old line member
    · exact missing oldText line member
    · exact marked (by decide) new line member
    · exact missing newText line member

theorem hunk_marked (oldText newText : SplitText) :
    (hunk oldText newText).filter (·.head? = some '-') = oldText.lines.map ('-' :: ·) ∧
      (hunk oldText newText).filter (·.head? = some '+') = newText.lines.map ('+' :: ·) := by
  have missing (text : SplitText) (mark : Char) (apart : mark ≠ '\\') :
      (missingNewline text).filter (·.head? = some mark) = [] := by
    refine List.filter_eq_nil_iff.mpr fun line member => ?_
    rw [missingNewline_mark text line member]
    simpa using apart.symm
  have marked (mark : Char) (lines : List (List Char)) :
      (lines.map (mark :: ·)).filter (·.head? = some mark) = lines.map (mark :: ·) :=
    List.filter_eq_self.mpr fun line member => by
      obtain ⟨line, -, rfl⟩ := List.mem_map.mp member
      simp
  have other (mark other : Char) (apart : mark ≠ other) (lines : List (List Char)) :
      (lines.map (other :: ·)).filter (·.head? = some mark) = [] :=
    List.filter_eq_nil_iff.mpr fun line member => by
      obtain ⟨line, -, rfl⟩ := List.mem_map.mp member
      simpa using apart.symm
  constructor
  · rw [hunk, List.filter_cons_of_neg (by simp), List.filter_append, List.filter_append, List.filter_append,
      marked, missing _ _ (by decide), missing _ _ (by decide), other _ _ (by decide)]
    simp
  · rw [hunk, List.filter_cons_of_neg (by simp), List.filter_append, List.filter_append, List.filter_append,
      marked, missing _ _ (by decide), missing _ _ (by decide), other _ _ (by decide)]
    simp

theorem missingNewline_cases (text : SplitText) :
    missingNewline text = [] ∨
      missingNewline text = ["\\ No newline at end of file".toList] ∧ text.lines ≠ [] := by
  unfold missingNewline
  split
  · case isTrue missing => exact .inr ⟨rfl, List.length_pos_iff.mp missing.2⟩
  · exact .inl rfl

private theorem missing_apart {text : SplitText} {rest : List (List Char)} :
    text.lines.map ('+' :: ·) ++ missingNewline text ≠ "\\ No newline at end of file".toList :: rest := by
  intro same
  cases lines : text.lines with
  | nil =>
    rcases missingNewline_cases text with none | ⟨-, some⟩
    · rw [lines, none] at same
      exact absurd same (List.cons_ne_nil _ _).symm
    · exact some lines
  | cons line lines' =>
    rw [lines, List.map_cons, List.cons_append] at same
    have first := (List.cons.inj same).1
    exact absurd (List.cons.inj first).1 (by decide)

theorem hunk_injective {oldText newText oldText' newText' : SplitText}
    (same : hunk oldText newText = hunk oldText' newText') :
    oldText.lines = oldText'.lines ∧ newText.lines = newText'.lines ∧
      missingNewline oldText = missingNewline oldText' ∧ missingNewline newText = missingNewline newText' := by
  have cons {mark : Char} : Function.Injective (List.map (mark :: ·)) :=
    List.map_injective_iff.mpr (List.cons_injective)
  have removed := congrArg (List.filter (·.head? = some '-')) same
  have added := congrArg (List.filter (·.head? = some '+')) same
  rw [(hunk_marked _ _).1, (hunk_marked _ _).1] at removed
  rw [(hunk_marked _ _).2, (hunk_marked _ _).2] at added
  have old := cons removed
  have new := cons added
  have tails := (List.cons.inj same).2
  rw [old, List.append_assoc, List.append_assoc] at tails
  have behind := List.append_cancel_left tails
  rcases missingNewline_cases oldText with none | ⟨some, -⟩ <;>
    rcases missingNewline_cases oldText' with none' | ⟨some', -⟩
  · rw [none, none', new] at behind
    exact ⟨old, new, none.trans none'.symm, List.append_cancel_left (List.append_cancel_left behind)⟩
  · rw [none, some'] at behind
    exact absurd behind missing_apart
  · rw [some, none'] at behind
    exact absurd behind.symm missing_apart
  · rw [some, some', new] at behind
    exact ⟨old, new, some.trans some'.symm, List.append_cancel_left (List.append_cancel_left behind)⟩

end Hunk

private theorem text_injective {header lines lines' : List (List Char)} (clean : ∀ line ∈ lines, '\n' ∉ line)
    (clean' : ∀ line ∈ lines', '\n' ∉ line) (some : lines ≠ []) (some' : lines' ≠ [])
    (same : ['\n'].intercalate (header ++ lines) ++ ['\n'] = ['\n'].intercalate (header ++ lines') ++ ['\n']) :
    lines = lines' := by
  have joined := List.append_cancel_right same
  have hunks : ['\n'].intercalate lines = ['\n'].intercalate lines' := by
    clear same
    induction header with
    | nil => exact joined
    | cons line header ih =>
      refine ih ?_
      rw [List.cons_append, List.cons_append, List.intercalate_cons_of_ne_nil (by simp [some]),
        List.intercalate_cons_of_ne_nil (by simp [some'])] at joined
      exact List.append_cancel_left joined
  have split := congrArg (List.splitOn '\n') hunks
  rwa [List.splitOn_intercalate _ clean some, List.splitOn_intercalate _ clean' some'] at split

/-- Two diffs of one pair of paths have the same text: neither side has changed in either, or both sides are alike. -/
def SameDiff (oldPath newPath : Option String) (old new old' new' : String) : Prop :=
  let unchanged (old new : String) := oldPath = newPath ∧ old = new
  unchanged old new ∧ unchanged old' new' ∨
    ¬ unchanged old new ∧ ¬ unchanged old' new' ∧ Alike old old' ∧ Alike new new'

theorem Alike.splitText {first second : String} (alike : Alike first second) :
    (splitText first).lines = (splitText second).lines ∧
      missingNewline (UnifiedDiff.splitText first) = missingNewline (UnifiedDiff.splitText second) := by
  rcases alike with rfl | ⟨rfl | rfl, rfl | rfl⟩ <;> exact ⟨rfl, rfl⟩

theorem createUnifiedDiff_same {oldPath newPath : Option String} {old new old' new' : String} {maxBytes maxBytes' : Nat}
    {aborted aborted' : Nat → Bool} {diff diff' : String} (plain : ∀ content ∈ [old, new, old', new'], '\r' ∉ content.toList)
    (first : createUnifiedDiff ⟨oldPath, newPath, old, new, maxBytes⟩ aborted = .ok diff)
    (second : createUnifiedDiff ⟨oldPath, newPath, old', new', maxBytes'⟩ aborted' = .ok diff') :
    diff = diff' ↔ SameDiff oldPath newPath old new old' new' := by
  obtain rfl := createUnifiedDiff_ok first
  obtain rfl := createUnifiedDiff_ok second
  have filled (lines : List Char) : String.ofList (lines ++ ['\n']) ≠ "" := by
    intro empty
    have := congrArg String.toList empty
    simp at this
  by_cases unchanged : UnifiedDiffInput.Unchanged ⟨oldPath, newPath, old, new, maxBytes⟩ <;>
    by_cases unchanged' : UnifiedDiffInput.Unchanged ⟨oldPath, newPath, old', new', maxBytes'⟩
  · rw [if_pos unchanged, if_pos unchanged']
    exact ⟨fun _ => .inl ⟨unchanged, unchanged'⟩, fun _ => rfl⟩
  · rw [if_pos unchanged, if_neg unchanged']
    refine ⟨fun same => absurd same.symm (filled _), ?_⟩
    rintro (⟨-, both⟩ | ⟨neither, -⟩)
    · exact absurd both unchanged'
    · exact absurd unchanged neither
  · rw [if_neg unchanged, if_pos unchanged']
    refine ⟨fun same => absurd same (filled _), ?_⟩
    rintro (⟨both, -⟩ | ⟨-, neither, -⟩)
    · exact absurd both unchanged
    · exact absurd unchanged' neither
  · rw [if_neg unchanged, if_neg unchanged']
    constructor
    · intro same
      have hunks := text_injective (hunk_line (fun _ => splitText_line) fun _ => splitText_line)
        (hunk_line (fun _ => splitText_line) fun _ => splitText_line) (List.cons_ne_nil _ _) (List.cons_ne_nil _ _)
        (String.ofList_injective same)
      obtain ⟨olds, news, oldEnd, newEnd⟩ := hunk_injective hunks
      exact .inr ⟨unchanged, unchanged',
        splitText_alike (plain old (by simp)) (plain old' (by simp)) olds oldEnd,
        splitText_alike (plain new (by simp)) (plain new' (by simp)) news newEnd⟩
    · rintro (⟨both, -⟩ | ⟨-, -, olds, news⟩)
      · exact absurd both unchanged
      · simp only [hunk, olds.splitText.1, olds.splitText.2, news.splitText.1, news.splitText.2]

/-- A diff tells what both contents are, up to the blank ones. For one old content it so tells two new contents
apart, but for the empty one and the single newline. -/
theorem createUnifiedDiff_determines {oldPath newPath : Option String} {old new old' new' : String}
    {maxBytes maxBytes' : Nat} {aborted aborted' : Nat → Bool} {diff diff' : String}
    (plain : ∀ content ∈ [old, new, old', new'], '\r' ∉ content.toList)
    (first : createUnifiedDiff ⟨oldPath, newPath, old, new, maxBytes⟩ aborted = .ok diff)
    (second : createUnifiedDiff ⟨oldPath, newPath, old', new', maxBytes'⟩ aborted' = .ok diff') :
    (diff = diff' ↔ SameDiff oldPath newPath old new old' new') ∧
      (old = old' → new ≠ new' →
        (diff ≠ diff' ↔ ¬ (Blank new ∧ Blank new') ∨ oldPath = newPath ∧ (old = new ∨ old = new'))) := by
  have same := createUnifiedDiff_same plain first second
  refine ⟨same, ?_⟩
  rintro rfl different
  rw [ne_eq, same, SameDiff]
  constructor
  · intro apart
    by_contra collapsed
    rw [not_or, not_not] at collapsed
    exact apart (.inr ⟨fun one => collapsed.2 ⟨one.1, .inl one.2⟩, fun other => collapsed.2 ⟨other.1, .inr other.2⟩,
      .inl rfl, .inr collapsed.1⟩)
  · rintro told (⟨⟨-, rfl⟩, -, rfl⟩ | ⟨unchanged, unchanged', -, rfl | blank⟩)
    · exact different rfl
    · exact different rfl
    · rcases told with full | ⟨path, one | other⟩
      · exact full blank
      · exact unchanged ⟨path, one⟩
      · exact unchanged' ⟨path, other⟩

/-- Two changes of one file, told apart. -/
theorem createUnifiedDiff_determines_lines :
    ("--- a/notes.txt\n+++ b/notes.txt\n@@ -1 +1 @@\n-a\n\\ No newline at end of file\n+b\n" : String) ≠
      "--- a/notes.txt\n+++ b/notes.txt\n@@ -1 +1,0 @@\n-a\n\\ No newline at end of file\n" :=
  ((@createUnifiedDiff_determines (some "notes.txt") (some "notes.txt") "a" "b\n" "a" "" 1024 1024 (fun _ => false)
    (fun _ => false) _ _ (by simp) (by decide) (by decide)).2 rfl (by decide)).mpr (.inl (by decide))

theorem createUnifiedDiff_blank :
    let text := "--- a/notes.txt\n+++ b/notes.txt\n@@ -1 +1,0 @@\n-a\n\\ No newline at end of file\n"
    createUnifiedDiff ⟨some "notes.txt", some "notes.txt", "a", "", 1024⟩ (fun _ => false) = .ok text ∧
      createUnifiedDiff ⟨some "notes.txt", some "notes.txt", "a", "\n", 1024⟩ (fun _ => false) = .ok text ∧
      ("" : String) ≠ "\n" := by
  decide

end AiOffice.Connector.UnifiedDiff
