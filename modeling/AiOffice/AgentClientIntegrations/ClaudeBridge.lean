import AiOffice.AgentClientIntegrations.Adapters

namespace AiOffice.AgentClientIntegrations

open Data Domain

variable {content before behind managed kept : Text} {char : Char}

def Blank (content : Text) : Prop := ∀ char ∈ content, isWhiteSpace char = true

instance (content : Text) : Decidable (Blank content) := List.decidableBAll _ content

section Trimming

theorem trimEnd_eq_nil : trimEnd content = [] ↔ Blank content := List.rdropWhile_eq_nil_iff

theorem trimEnd_split (content : Text) : ∃ spaces, Blank spaces ∧ content = trimEnd content ++ spaces := by
  induction content using List.reverseRecOn with
  | nil => exact ⟨[], nofun, rfl⟩
  | append_singleton content char ih =>
    rw [trimEnd, List.rdropWhile_concat]
    split
    · next white =>
      obtain ⟨spaces, blank, whole⟩ := ih
      refine ⟨spaces ++ [char], ?_, ?_⟩
      · intro other member
        rcases List.mem_append.mp member with inside | last
        · exact blank other inside
        · rwa [List.mem_singleton.mp last]
      · rw [← List.append_assoc]
        exact congrArg (· ++ [char]) whole
    · exact ⟨[], nofun, (List.append_nil _).symm⟩

theorem trimEnd_append (dark : ∀ char ∈ content.getLast?, isWhiteSpace char = false) :
    trimEnd (content ++ behind) = content ++ trimEnd behind := by
  induction behind using List.reverseRecOn with
  | nil =>
    rw [List.append_nil, trimEnd, List.rdropWhile_eq_self_iff.mpr, trimEnd, List.rdropWhile_nil, List.append_nil]
    intro nonempty
    rw [dark _ (List.getLast?_eq_getLast_of_ne_nil nonempty)]
    exact Bool.false_ne_true
  | append_singleton behind char ih =>
    rw [← List.append_assoc, trimEnd, List.rdropWhile_concat, trimEnd, List.rdropWhile_concat]
    split
    · exact ih
    · rw [List.append_assoc]

theorem trimEnd_dark (content : Text) : ∀ char ∈ (trimEnd content).getLast?, isWhiteSpace char = false := by
  intro char last
  have nonempty : trimEnd content ≠ [] := by
    intro empty
    rw [empty] at last
    cases last
  have ends := List.rdropWhile_last_not isWhiteSpace content nonempty
  rw [List.getLast?_eq_getLast_of_ne_nil nonempty, Option.mem_some_iff] at last
  rw [← last]
  exact eq_false_of_ne_true ends

theorem trimBoth_dark (starts : ∀ char ∈ content.head?, isWhiteSpace char = false)
    (ends : ∀ char ∈ content.getLast?, isWhiteSpace char = false) : trimBoth content = content := by
  have front : content.dropWhile isWhiteSpace = content := by
    cases content with
    | nil => rfl
    | cons char rest => rw [List.dropWhile_cons, starts char rfl]; rfl
  have kept : trimEnd (content ++ []) = content ++ trimEnd [] := trimEnd_append ends
  rw [trimBoth, front]
  simpa [trimEnd] using kept

theorem trimBoth_around (starts : ∀ char ∈ managed.head?, isWhiteSpace char = false)
    (ends : ∀ char ∈ managed.getLast?, isWhiteSpace char = false) (nonempty : managed ≠ []) :
    trimBoth (before ++ managed ++ behind) = managed ↔ Blank before ∧ Blank behind := by
  have front : (managed ++ behind).dropWhile isWhiteSpace = managed ++ behind := by
    cases managed with
    | nil => exact absurd rfl nonempty
    | cons char rest => rw [List.cons_append, List.dropWhile_cons, starts char rfl]; rfl
  have last (text : Text) : ∀ char ∈ (text ++ managed).getLast?, isWhiteSpace char = false := by
    rw [List.getLast?_append_of_ne_nil _ nonempty]
    exact ends
  have clean : (before.dropWhile isWhiteSpace).isEmpty = true ↔ Blank before := by
    rw [List.isEmpty_iff]
    exact List.dropWhile_eq_nil_iff
  rw [trimBoth, List.append_assoc, List.dropWhile_append, front]
  split
  · next empty =>
    rw [trimEnd_append ends, List.append_right_eq_self, trimEnd_eq_nil]
    exact (and_iff_right (clean.mp empty)).symm
  · next more =>
    rw [← List.append_assoc, trimEnd_append (last _), List.append_assoc]
    constructor
    · intro same
      have length := congrArg List.length same
      simp only [List.length_append] at length
      have some : (before.dropWhile isWhiteSpace).length ≠ 0 := by
        rwa [Ne, List.length_eq_zero_iff, ← List.isEmpty_iff]
      omega
    · intro blank
      exact absurd (clean.mpr blank.1) more

end Trimming

section LineEnds

theorem normalizeEol_return (other : content.head? ≠ some '\n') :
    normalizeEol ('\r' :: content) = '\n' :: normalizeEol content := by
  cases content with
  | nil => rfl
  | cons first rest =>
    rw [normalizeEol]
    rintro later ⟨⟩
    exact other rfl

theorem normalizeEol_cons (other : char ≠ '\r') : normalizeEol (char :: content) = char :: normalizeEol content := by
  rw [normalizeEol]
  · intro rest same
    exact absurd same other
  · exact other

theorem normalizeEol_append (apart : before.getLast? ≠ some '\r' ∨ behind.head? ≠ some '\n') :
    normalizeEol (before ++ behind) = normalizeEol before ++ normalizeEol behind := by
  induction before using normalizeEol.induct with
  | case1 => rfl
  | case2 rest ih =>
    rw [List.cons_append, List.cons_append, normalizeEol, normalizeEol, List.cons_append, ih]
    cases rest with
    | nil => simp
    | cons first rest => simpa using apart
  | case3 rest other ih =>
    cases rest with
    | nil =>
      have next : behind.head? ≠ some '\n' := by simpa using apart
      exact normalizeEol_return next
    | cons first rest =>
      have differs : first ≠ '\n' := fun same => other rest (by rw [same])
      have next (text : Text) : (first :: text).head? ≠ some '\n' := by simpa using differs
      rw [List.cons_append, List.cons_append, normalizeEol_return (next _), normalizeEol_return (next _),
        List.cons_append, ← List.cons_append, ih (by simpa using apart)]
  | case4 char rest _ other ih =>
    rw [List.cons_append, normalizeEol_cons other, normalizeEol_cons other, List.cons_append, ih]
    cases rest with
    | nil => simp
    | cons first rest => simpa using apart

theorem normalizeEol_plain (plain : '\r' ∉ content) : normalizeEol content = content := by
  induction content with
  | nil => rfl
  | cons char rest ih =>
    rw [List.mem_cons, not_or] at plain
    rw [normalizeEol_cons (Ne.symm plain.1), ih plain.2]

theorem mem_normalizeEol (notReturn : char ≠ '\r') (notFeed : char ≠ '\n') :
    char ∈ normalizeEol content ↔ char ∈ content := by
  induction content using normalizeEol.induct with
  | case1 => rfl
  | case2 rest ih => simp [normalizeEol, ih, notReturn, notFeed]
  | case3 rest other ih =>
    rw [normalizeEol_return, List.mem_cons, List.mem_cons, ih]
    · simp [notReturn, notFeed]
    · intro first
      obtain ⟨later, same⟩ := List.head?_eq_some_iff.mp first
      exact other later same
  | case4 first rest _ other ih => rw [normalizeEol_cons other, List.mem_cons, List.mem_cons, ih]

theorem blank_normalizeEol : Blank (normalizeEol content) ↔ Blank content := by
  have feed : isWhiteSpace '\n' = true := by decide
  have back : isWhiteSpace '\r' = true := by decide
  have dark {char : Char} (other : isWhiteSpace char ≠ true) : char ∈ normalizeEol content ↔ char ∈ content := by
    apply mem_normalizeEol
    · rintro rfl
      exact other back
    · rintro rfl
      exact other feed
  constructor <;> intro blank char member <;> by_contra other
  · exact other (blank char ((dark other).mpr member))
  · exact other (blank char ((dark other).mp member))

end LineEnds

section Blocks

/-- A text with one managed block in it: what stands before the block, the block, and what stands behind it. -/
structure SingleBlock (content before managed behind : Text) : Prop where
  whole : content = before ++ managed ++ behind
  starts : claudeManagedStart <+: managed
  ends : claudeManagedEnd <:+ managed
  oneStart : occurrences claudeManagedStart content = [before.length]
  oneEnd : occurrences claudeManagedEnd content = [before.length + (managed.length - claudeManagedEnd.length)]

/-- All of the text outside the block comes from AI Office: it is white space, or the rest of the
file that AI Office generates. -/
def OfficeOwn (before behind : Text) : Prop :=
  (Blank before ∧ Blank behind) ∨
    (normalizeEol before = claudeCompatibilityHeading ++ ['\n', '\n'] ∧ normalizeEol behind = ['\n'])

theorem markers_length : claudeManagedStart.length = 62 ∧ claudeManagedEnd.length = 62 := by
  have start : claudeManagedStart = _ := String.toList_ofList
  have ended : claudeManagedEnd = _ := String.toList_ofList
  rw [start, ended]
  decide

def Owned (content managed : Text) : Prop :=
  normalizeEol content = normalizeEol claudeManagedFileContent ∨
    trimBoth (normalizeEol content) = trimBoth (normalizeEol managed)

instance (content managed : Text) : Decidable (Owned content managed) := inferInstanceAs (Decidable (_ ∨ _))

variable (block : SingleBlock content before managed behind)

include block in
theorem SingleBlock.long : claudeManagedEnd.length ≤ managed.length := block.ends.length_le

include block in
theorem analyze_block (relativePath : String) :
    analyzeClaudeBridge ⟨relativePath, some content⟩ =
      ⟨if Owned content managed then .aiOfficeOwned else .merged,
        if normalizeEol managed = normalizeEol claudeManagedBlock then .integrated else .drifted,
        .managed before.length (before.length + managed.length)⟩ := by
  have long := block.long
  have finish : before.length + (managed.length - claudeManagedEnd.length) + claudeManagedEnd.length =
      before.length + managed.length := by omega
  have middle : slice content before.length (before.length + managed.length) = managed := by
    rw [slice, block.whole, ← List.length_append, List.take_left, List.drop_left]
  have some : ¬before.length + managed.length ≤ before.length := by
    have size := markers_length.2
    omega
  simp only [analyzeClaudeBridge, block.oneStart, block.oneEnd, finish, if_neg some, middle]
  rfl

theorem managed_edges : claudeManagedStart.head? = some '<' ∧ claudeManagedEnd.getLast? = some '>' ∧
    claudeManagedStart.getLast? = some '>' ∧ '\r' ∉ claudeManagedStart ∧ '\r' ∉ claudeManagedEnd := by
  have start : claudeManagedStart = _ := String.toList_ofList
  have ended : claudeManagedEnd = _ := String.toList_ofList
  rw [start, ended]
  decide

include block in
theorem SingleBlock.head : managed.head? = some '<' := by
  obtain ⟨rest, rfl⟩ := block.starts
  exact List.head?_append_of_ne_nil _ (by decide) |>.trans managed_edges.1

include block in
theorem SingleBlock.last : managed.getLast? = some '>' := by
  obtain ⟨rest, rfl⟩ := block.ends
  rw [List.getLast?_append_of_ne_nil _ (by decide)]
  exact managed_edges.2.1

include block in
theorem SingleBlock.normalized : claudeManagedStart <+: normalizeEol managed ∧
    claudeManagedEnd <:+ normalizeEol managed := by
  have edges := managed_edges
  constructor
  · obtain ⟨rest, rfl⟩ := block.starts
    rw [normalizeEol_append (.inl (by rw [edges.2.2.1]; decide)), normalizeEol_plain edges.2.2.2.1]
    exact List.prefix_append _ _
  · obtain ⟨rest, rfl⟩ := block.ends
    rw [normalizeEol_append (.inr (by decide)), normalizeEol_plain edges.2.2.2.2]
    exact List.suffix_append _ _

include block in
theorem SingleBlock.normalizeEol_whole :
    normalizeEol content = normalizeEol before ++ normalizeEol managed ++ normalizeEol behind := by
  rw [block.whole, normalizeEol_append, normalizeEol_append]
  · exact .inr (by rw [block.head]; decide)
  · left
    have last := block.last
    rw [List.getLast?_append_of_ne_nil _ (by rintro rfl; cases last), last]
    decide

set_option maxRecDepth 4000 in
theorem generated_markers :
    (∀ place ≤ claudeManagedFileContent.length,
      claudeManagedStart.isPrefixOf (claudeManagedFileContent.drop place) = true → place = 29) ∧
    ∀ place ≤ claudeManagedFileContent.length,
      claudeManagedEnd.isPrefixOf (claudeManagedFileContent.drop place) = true → place = 106 := by
  decide

set_option maxRecDepth 4000 in
theorem generated_plain : '\r' ∉ claudeManagedFileContent ∧ claudeManagedFileContent.length = 169 ∧
    claudeManagedFileContent.take 29 = claudeCompatibilityHeading ++ ['\n', '\n'] ∧
    claudeManagedFileContent.drop 168 = ['\n'] := by
  decide

include block in
theorem officeOwn_of_owned (owned : Owned content managed) : OfficeOwn before behind := by
  rw [Owned, block.normalizeEol_whole] at owned
  obtain ⟨starts, ends⟩ := block.normalized
  rcases owned with generated | spaces
  · right
    obtain ⟨plain, size, front, back⟩ := generated_plain
    rw [normalizeEol_plain plain] at generated
    have fits := congrArg List.length generated
    rw [List.length_append, List.length_append, size] at fits
    obtain ⟨inner, middle⟩ := ends
    have enough := congrArg List.length middle
    rw [List.length_append, markers_length.2] at enough
    have first : (normalizeEol before).length = 29 := by
      apply generated_markers.1 _ (by omega)
      rw [← generated, List.append_assoc, List.drop_left, List.isPrefixOf_iff_prefix]
      exact starts.trans (List.prefix_append _ _)
    have last : (normalizeEol before ++ inner).length = 106 := by
      apply generated_markers.2 _ (by rw [List.length_append]; omega)
      rw [← generated, ← middle, ← List.append_assoc, List.append_assoc, List.drop_left, List.isPrefixOf_iff_prefix]
      exact List.prefix_append _ _
    rw [List.length_append] at last
    constructor
    · rw [← front, ← generated, ← first, List.append_assoc, List.take_left]
    · have length : (normalizeEol before ++ normalizeEol managed).length = 168 := by
        rw [List.length_append]
        omega
      rw [← back, ← generated, ← length, List.drop_left]
  · left
    have head : (normalizeEol managed).head? = some '<' := by
      obtain ⟨rest, whole⟩ := starts
      rw [← whole]
      exact List.head?_append_of_ne_nil _ (by decide) |>.trans managed_edges.1
    have last : (normalizeEol managed).getLast? = some '>' := by
      obtain ⟨rest, whole⟩ := ends
      rw [← whole, List.getLast?_append_of_ne_nil _ (by decide)]
      exact managed_edges.2.1
    have darkHead : ∀ char ∈ (normalizeEol managed).head?, isWhiteSpace char = false := by
      rw [head]
      exact fun char same => Option.some.inj same ▸ rfl
    have darkLast : ∀ char ∈ (normalizeEol managed).getLast?, isWhiteSpace char = false := by
      rw [last]
      exact fun char same => Option.some.inj same ▸ rfl
    rw [trimBoth_dark darkHead darkLast] at spaces
    have blank := (trimBoth_around darkHead darkLast (by rintro none; rw [none] at head; cases head)).mp spaces
    exact ⟨blank_normalizeEol.mp blank.1, blank_normalizeEol.mp blank.2⟩

/-- What a removal leaves: the text on both sides of the block, less at most one line end on each side. -/
def RemovesOnly (before behind text : Text) : Prop :=
  ∃ front gone kept lost, before = front ++ gone ∧ behind = lost ++ kept ∧ text = front ++ kept ∧
    gone ∈ [[], ['\n'], ['\r', '\n']] ∧ lost ∈ [[], ['\n'], ['\r', '\n']]

theorem withoutClaudeManagedBlock_removesOnly (content : Text) (start finish : Nat) :
    RemovesOnly (content.take start) (content.drop finish) (withoutClaudeManagedBlock content start finish) := by
  have front (before : Text) : ∃ front gone, before = front ++ gone ∧ gone ∈ [[], ['\n'], ['\r', '\n']] ∧
      (if "\r\n\r\n".toList.isSuffixOf before then before.take (before.length - 2)
        else if "\n\n".toList.isSuffixOf before then before.take (before.length - 1) else before) = front := by
    split
    · next ends =>
      obtain ⟨rest, rfl⟩ := List.isSuffixOf_iff_suffix.mp ends
      exact ⟨rest ++ ['\r', '\n'], ['\r', '\n'], by simp, by simp, by simp [List.take_append]⟩
    · split
      · next ends =>
        obtain ⟨rest, rfl⟩ := List.isSuffixOf_iff_suffix.mp ends
        exact ⟨rest ++ ['\n'], ['\n'], by simp, by simp, by simp [List.take_append]⟩
      · exact ⟨before, [], by simp, by simp, rfl⟩
  have back (behind : Text) : ∃ lost kept, behind = lost ++ kept ∧ lost ∈ [[], ['\n'], ['\r', '\n']] ∧
      (if "\r\n".toList.isPrefixOf behind then behind.drop 2
        else if "\n".toList.isPrefixOf behind then behind.drop 1 else behind) = kept := by
    split
    · next starts =>
      obtain ⟨rest, rfl⟩ := List.isPrefixOf_iff_prefix.mp starts
      exact ⟨['\r', '\n'], rest, by simp, by simp, rfl⟩
    · split
      · next starts =>
        obtain ⟨rest, rfl⟩ := List.isPrefixOf_iff_prefix.mp starts
        exact ⟨['\n'], rest, by simp, by simp, rfl⟩
      · exact ⟨[], behind, by simp, by simp, rfl⟩
  obtain ⟨front, gone, first, cut, left⟩ := front (content.take start)
  obtain ⟨lost, kept, second, trimmed, right⟩ := back (content.drop finish)
  refine ⟨front, gone, kept, lost, first, second, ?_, cut, trimmed⟩
  rw [withoutClaudeManagedBlock]
  simp only [left, right]

end Blocks

section Installed

def MarkerFree (content : Text) : Prop := ¬claudeManagedStart <:+: content ∧ ¬claudeManagedEnd <:+: content

theorem MarkerFree.occurrences (free : MarkerFree content) :
    occurrences claudeManagedStart content = [] ∧ occurrences claudeManagedEnd content = [] :=
  ⟨(occurrences_eq_nil (by decide)).mpr free.1, (occurrences_eq_nil (by decide)).mpr free.2⟩

theorem MarkerFree.part (free : MarkerFree content) (part : kept <+: content) : MarkerFree kept :=
  ⟨fun inside => free.1 (inside.trans part.isInfix), fun inside => free.2 (inside.trans part.isInfix)⟩

theorem trimEnd_initial (content : Text) : trimEnd content <+: content := List.rdropWhile_prefix _ _

theorem analyze_free (free : MarkerFree content) (relativePath : String) :
    analyzeClaudeBridge ⟨relativePath, some content⟩ =
      if importsDirectly true content then ⟨.userOwned, .integrated, .directImport⟩
      else ⟨.userOwned, .unmanaged, .unmanaged⟩ := by
  simp only [analyzeClaudeBridge, free.occurrences.1, free.occurrences.2]

theorem feed_outside : '\n' ∉ claudeManagedStart ∧ '\n' ∉ claudeManagedEnd ∧ '\n' ∉ claudeImport := by decide

set_option maxRecDepth 4000 in
theorem scan_block (place : Nat) :
    scan claudeManagedStart place 0 (claudeManagedBlock ++ ['\n']) = [place] ∧
      scan claudeManagedEnd place 0 (claudeManagedBlock ++ ['\n']) = [place + 77] :=
  ⟨rfl, rfl⟩

set_option maxRecDepth 4000 in
theorem block_plain : '\r' ∉ claudeManagedBlock ∧ claudeManagedBlock.length = 139 ∧
    claudeManagedBlock.head? = some '<' ∧ claudeManagedBlock.getLast? = some '>' := by
  decide

theorem occurrences_installed {marker : Text} (nonempty : marker ≠ []) (outside : '\n' ∉ marker)
    (none : occurrences marker (trimEnd content) = []) :
    occurrences marker (withClaudeManagedBlock content) =
      scan marker ((trimEnd content).length + 2) 0 (claudeManagedBlock ++ ['\n']) := by
  have whole : withClaudeManagedBlock content = trimEnd content ++ '\n' :: ([] ++ '\n' :: (claudeManagedBlock ++ ['\n'])) := by
    simp [withClaudeManagedBlock]
  have empty : scan marker ((trimEnd content).length + 1) 0 [] = [] := by simp [scan, nonempty]
  rw [whole, occurrences_separated nonempty outside, none, scan_separated nonempty outside (Nat.zero_le _), empty]
  rfl

theorem installed_block (free : MarkerFree content) :
    SingleBlock (withClaudeManagedBlock content) (trimEnd content ++ ['\n', '\n']) claudeManagedBlock ['\n'] := by
  have none := (free.part (trimEnd_initial content)).occurrences
  have length : (trimEnd content ++ ['\n', '\n']).length = (trimEnd content).length + 2 := List.length_append
  refine ⟨by simp [withClaudeManagedBlock], ⟨'\n' :: claudeImport ++ '\n' :: claudeManagedEnd, ?_⟩,
    ⟨claudeManagedStart ++ '\n' :: claudeImport ++ ['\n'], ?_⟩, ?_, ?_⟩
  · simp [claudeManagedBlock]
  · simp [claudeManagedBlock]
  · rw [occurrences_installed (by decide) feed_outside.1 none.1, length]
    exact (scan_block _).1
  · rw [occurrences_installed (by decide) feed_outside.2.1 none.2, length, block_plain.2.1, markers_length.2]
    exact (scan_block _).2

/-- The text that a user wrote: more than white space, and not just the heading that AI Office generates. -/
def HasOwnText (content : Text) : Prop :=
  ¬Blank content ∧ normalizeEol (trimEnd content) ≠ claudeCompatibilityHeading

instance (content : Text) : Decidable (HasOwnText content) := inferInstanceAs (Decidable (_ ∧ _))

theorem blank_trimEnd : Blank (trimEnd content) ↔ Blank content := by
  constructor
  · intro blank
    obtain ⟨spaces, white, whole⟩ := trimEnd_split content
    rw [whole]
    intro char member
    rcases List.mem_append.mp member with first | last
    · exact blank char first
    · exact white char last
  · intro blank
    rw [trimEnd_eq_nil.mpr blank]
    exact nofun

theorem normalizeEol_installed (free : MarkerFree content) :
    normalizeEol (withClaudeManagedBlock content) =
      normalizeEol (trimEnd content) ++ ['\n', '\n'] ++ claudeManagedBlock ++ ['\n'] := by
  have dark : (trimEnd content).getLast? ≠ some '\r' := by
    intro last
    have white := trimEnd_dark content '\r' last
    rw [show isWhiteSpace '\r' = true by decide] at white
    cases white
  have feeds : normalizeEol ['\n', '\n'] = ['\n', '\n'] := normalizeEol_plain (by decide)
  have feed : normalizeEol ['\n'] = ['\n'] := normalizeEol_plain (by decide)
  rw [(installed_block free).normalizeEol_whole, normalizeEol_append (.inl dark), feeds, feed,
    normalizeEol_plain block_plain.1]

theorem generated_eq : claudeManagedFileContent =
    claudeCompatibilityHeading ++ ['\n', '\n'] ++ claudeManagedBlock ++ ['\n'] := by
  simp [claudeManagedFileContent]

theorem blank_around (content : Text) :
    (Blank (normalizeEol (trimEnd content) ++ ['\n', '\n']) ∧ Blank ['\n']) ↔ Blank content := by
  constructor
  · rintro ⟨blank, -⟩
    apply blank_trimEnd.mp
    apply blank_normalizeEol.mp
    intro char member
    exact blank char (List.mem_append_left _ member)
  · intro blank
    refine ⟨?_, by decide⟩
    rw [trimEnd_eq_nil.mpr blank]
    decide

theorem owned_installed (free : MarkerFree content) :
    Owned (withClaudeManagedBlock content) claudeManagedBlock ↔ ¬HasOwnText content := by
  have edges : (∀ char ∈ claudeManagedBlock.head?, isWhiteSpace char = false) ∧
      (∀ char ∈ claudeManagedBlock.getLast?, isWhiteSpace char = false) ∧ claudeManagedBlock ≠ [] := by
    rw [block_plain.2.2.1, block_plain.2.2.2]
    refine ⟨fun char same => Option.some.inj same ▸ rfl, fun char same => Option.some.inj same ▸ rfl, ?_⟩
    rintro none
    have size := block_plain.2.1
    rw [none] at size
    cases size
  obtain ⟨starts, ends, some⟩ := edges
  have trimmed : trimBoth (normalizeEol (withClaudeManagedBlock content)) = trimBoth (normalizeEol claudeManagedBlock) ↔
      Blank content := by
    rw [normalizeEol_installed free, normalizeEol_plain block_plain.1, trimBoth_dark starts ends,
      trimBoth_around starts ends some]
    exact blank_around content
  have generated : normalizeEol (withClaudeManagedBlock content) = normalizeEol claudeManagedFileContent ↔
      normalizeEol (trimEnd content) = claudeCompatibilityHeading := by
    rw [normalizeEol_installed free, normalizeEol_plain generated_plain.1, generated_eq]
    simp only [List.append_cancel_right_eq]
  rw [Owned, trimmed, generated, HasOwnText, not_and_or, not_not, not_not]
  exact Or.comm

theorem without_installed (content : Text) :
    withoutClaudeManagedBlock (withClaudeManagedBlock content) (trimEnd content ++ ['\n', '\n']).length
        ((trimEnd content ++ ['\n', '\n']).length + claudeManagedBlock.length) =
      trimEnd content ++ ['\n'] := by
  have whole : withClaudeManagedBlock content = (trimEnd content ++ ['\n', '\n']) ++ (claudeManagedBlock ++ ['\n']) := by
    simp [withClaudeManagedBlock]
  have first : (withClaudeManagedBlock content).take (trimEnd content ++ ['\n', '\n']).length =
      trimEnd content ++ ['\n', '\n'] := by
    rw [whole, List.take_left]
  have last : (withClaudeManagedBlock content).drop
      ((trimEnd content ++ ['\n', '\n']).length + claudeManagedBlock.length) = ['\n'] := by
    rw [whole, ← List.append_assoc, ← List.length_append, List.drop_left]
  have other : ¬"\r\n\r\n".toList.isSuffixOf (trimEnd content ++ ['\n', '\n']) = true := by
    rw [List.isSuffixOf_iff_suffix]
    rintro ⟨rest, same⟩
    have halves : (rest ++ ['\r', '\n']) ++ ['\r', '\n'] = trimEnd content ++ ['\n', '\n'] := by simpa using same
    have ends := (List.append_inj' halves rfl).2
    cases ends
  have feeds : "\n\n".toList.isSuffixOf (trimEnd content ++ ['\n', '\n']) = true :=
    List.isSuffixOf_iff_suffix.mpr (List.suffix_append _ _)
  rw [withoutClaudeManagedBlock]
  simp only [first, last, if_neg other, if_pos feeds]
  simp [List.take_append]

end Installed

section Imports

theorem importsDirectly_mem {lineStart : Bool} (imports : importsDirectly lineStart content = true) : '@' ∈ content := by
  induction content generalizing lineStart with
  | nil => cases imports
  | cons char rest ih =>
    rw [importsDirectly, Bool.or_eq_true, Bool.and_eq_true] at imports
    rcases imports with ⟨-, here⟩ | later
    · rw [importsHere, Bool.and_eq_true, List.isPrefixOf_iff_prefix] at here
      exact here.1.subset (by decide)
    · exact List.mem_cons_of_mem _ (ih later)

theorem dark_trimEnd (dark : isWhiteSpace char = false) (member : char ∈ content) : char ∈ trimEnd content := by
  obtain ⟨spaces, blank, whole⟩ := trimEnd_split content
  rw [whole] at member
  rcases List.mem_append.mp member with first | last
  · exact first
  · rw [blank char last] at dark
    cases dark

theorem hasOwnText_of_imports (imports : importsDirectly true content = true) : HasOwnText content := by
  have member := importsDirectly_mem imports
  constructor
  · intro blank
    have white := blank '@' member
    rw [show isWhiteSpace '@' = false by decide] at white
    cases white
  · intro heading
    have inside : '@' ∈ normalizeEol (trimEnd content) :=
      (mem_normalizeEol (by decide) (by decide)).mpr (dark_trimEnd (by decide) member)
    rw [heading] at inside
    exact absurd inside (by decide)

theorem importsHere_feed {spaces : Text} (blank : Blank spaces) (here : importsHere (content ++ ['\n']) = true) :
    importsHere (content ++ spaces) = true := by
  rw [importsHere, Bool.and_eq_true, List.isPrefixOf_iff_prefix, prefix_separated feed_outside.2.2] at here
  obtain ⟨⟨rest, rfl⟩, ends⟩ := here
  rw [importsHere, Bool.and_eq_true, List.isPrefixOf_iff_prefix]
  refine ⟨⟨rest ++ spaces, (List.append_assoc ..).symm⟩, ?_⟩
  rw [List.append_assoc, List.drop_left] at ends ⊢
  dsimp only at ends ⊢
  by_cases all : Blank rest
  · have white : (rest ++ spaces).dropWhile isWhiteSpace = [] := by
      rw [List.dropWhile_eq_nil_iff]
      intro char member
      rcases List.mem_append.mp member with first | last
      · exact all char first
      · exact blank char last
    simp [white]
  · have some : rest.dropWhile isWhiteSpace ≠ [] := fun none => all (List.dropWhile_eq_nil_iff.mp none)
    have short : (rest.takeWhile isWhiteSpace).length ≠ rest.length := by
      intro same
      have whole := congrArg List.length (List.takeWhile_append_dropWhile (p := isWhiteSpace) (l := rest))
      rw [List.length_append, same, Nat.add_eq_left, List.length_eq_zero_iff] at whole
      exact some whole
    rw [List.takeWhile_append, if_neg short, List.dropWhile_append, if_neg (by simpa using some)] at ends ⊢
    simpa [some] using ends

theorem importsDirectly_feed {lineStart : Bool} {spaces : Text} (blank : Blank spaces)
    (imports : importsDirectly lineStart (content ++ ['\n']) = true) :
    importsDirectly lineStart (content ++ spaces) = true := by
  induction content generalizing lineStart with
  | nil => cases lineStart <;> exact absurd imports (by decide)
  | cons char rest ih =>
    rw [List.cons_append, importsDirectly, Bool.or_eq_true, Bool.and_eq_true] at imports ⊢
    rcases imports with ⟨start, here⟩ | later
    · rw [← List.cons_append] at here ⊢
      exact .inl ⟨start, importsHere_feed blank here⟩
    · exact .inr (ih later)

theorem analyze_restored (free : MarkerFree content) (unmanaged : importsDirectly true content = false)
    (relativePath : String) :
    (analyzeClaudeBridge ⟨relativePath, some (trimEnd content ++ ['\n'])⟩).kind = .unmanaged := by
  have none := (free.part (trimEnd_initial content)).occurrences
  have outside := feed_outside
  have left : MarkerFree (trimEnd content ++ ['\n']) := by
    constructor
    · rw [← occurrences_eq_nil (by decide), occurrences_separated (by decide) outside.1, none.1]
      rfl
    · rw [← occurrences_eq_nil (by decide), occurrences_separated (by decide) outside.2.1, none.2]
      rfl
  have plain : ¬importsDirectly true (trimEnd content ++ ['\n']) = true := by
    intro imports
    obtain ⟨spaces, blank, whole⟩ := trimEnd_split content
    have before := importsDirectly_feed blank imports
    rw [← whole, unmanaged] at before
    cases before
  rw [analyze_free left, if_neg plain]

end Imports
end AiOffice.AgentClientIntegrations
