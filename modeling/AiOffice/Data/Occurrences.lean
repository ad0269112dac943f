import Mathlib.Data.List.Infix

namespace AiOffice.Data

variable {Item : Type} [DecidableEq Item]

def firstAt (needle : List Item) : List Item → Option Nat
  | [] => if needle = [] then some 0 else none
  | item :: rest => if needle.isPrefixOf (item :: rest) then some 0 else (firstAt needle rest).map (· + 1)

/-- The place of the first occurrence that does not start before a given place. -/
def indexOf (needle text : List Item) (start : Nat) : Option Nat := (firstAt needle (text.drop start)).map (start + ·)

/-- Scan a text from left to right. An occurrence is passed whole before the next is looked for. -/
def scan (needle : List Item) (place : Nat) : Nat → List Item → List Nat
  | 0, [] => if needle = [] then [place] else []
  | _ + 1, [] => []
  | 0, item :: rest =>
    if needle.isPrefixOf (item :: rest) then place :: scan needle (place + 1) (needle.length - 1) rest
    else scan needle (place + 1) 0 rest
  | passed + 1, _ :: rest => scan needle (place + 1) passed rest

def occurrences (needle text : List Item) : List Nat := scan needle 0 0 text

variable {needle text : List Item} {place start : Nat}

theorem scan_pass {passed : Nat} (inside : passed ≤ text.length) :
    scan needle place passed text = scan needle (place + passed) 0 (text.drop passed) := by
  induction passed generalizing place text with
  | zero => simp
  | succ passed ih =>
    cases text with
    | nil => simp at inside
    | cons item rest =>
      rw [scan, ih (by simpa using inside), List.drop_succ_cons, Nat.add_assoc, Nat.add_comm 1 passed]

theorem firstAt_none (absent : firstAt needle text = none) : scan needle place 0 text = [] := by
  induction text generalizing place with
  | nil =>
    by_cases empty : needle = [] <;> simp [firstAt, empty] at absent
    simp [scan, empty]
  | cons item rest ih =>
    rw [firstAt] at absent
    split at absent
    · cases absent
    · next other =>
      rw [scan, if_neg other]
      exact ih (by simpa using absent)

/-- A scan finds the first occurrence, and goes on behind it. Only an empty needle is found at the end. -/
theorem firstAt_some {first : Nat} (found : firstAt needle text = some first) :
    scan needle place 0 text = (place + first) ::
      if first + max 1 needle.length ≤ text.length then
        scan needle (place + (first + max 1 needle.length)) 0 (text.drop (first + max 1 needle.length))
      else [] := by
  induction text generalizing place first with
  | nil =>
    by_cases empty : needle = [] <;> simp [firstAt, empty] at found
    subst found
    simp [scan, empty]
  | cons item rest ih =>
    rw [firstAt] at found
    split at found
    · next starts =>
      cases found
      have short := (List.isPrefixOf_iff_prefix.mp starts).length_le
      rw [List.length_cons] at short
      have passed : needle.length - 1 ≤ rest.length := by omega
      have step : max 1 needle.length = needle.length - 1 + 1 := by omega
      rw [scan, if_pos starts, scan_pass passed, if_pos (by rw [List.length_cons]; omega), step, Nat.zero_add,
        List.drop_succ_cons]
      congr 2
      omega
    · next other =>
      obtain ⟨later, behind, rfl⟩ := Option.map_eq_some_iff.mp found
      rw [scan, if_neg other, ih behind]
      have shift : later + 1 + max 1 needle.length = later + max 1 needle.length + 1 := by omega
      rw [shift, List.drop_succ_cons, List.length_cons]
      have here : place + 1 + later = place + (later + 1) := by omega
      have next : place + 1 + (later + max 1 needle.length) = place + (later + max 1 needle.length + 1) := by omega
      simp only [Nat.add_le_add_iff_right, here, next]

theorem firstAt_fits {first : Nat} (found : firstAt needle text = some first) : first + needle.length ≤ text.length := by
  induction text generalizing first with
  | nil =>
    by_cases empty : needle = [] <;> simp [firstAt, empty] at found
    simp [← found, empty]
  | cons item rest ih =>
    rw [firstAt] at found
    split at found
    · next starts =>
      cases found
      rw [Nat.zero_add]
      exact (List.isPrefixOf_iff_prefix.mp starts).length_le
    · obtain ⟨later, behind, rfl⟩ := Option.map_eq_some_iff.mp found
      have inside := ih behind
      rw [List.length_cons]
      omega

/-- The first occurrence in the front of a text is the first of the text. -/
theorem firstAt_append {first : Nat} (found : firstAt needle text = some first) (rest : List Item) :
    firstAt needle (text ++ rest) = some first := by
  induction text generalizing first with
  | nil =>
    by_cases empty : needle = [] <;> simp [firstAt, empty] at found
    subst found
    cases rest <;> simp [firstAt, empty]
  | cons item text ih =>
    have fits := firstAt_fits found
    rw [firstAt] at found
    rw [List.cons_append, firstAt]
    split at found
    · next starts =>
      cases found
      have reaches : needle <+: item :: (text ++ rest) :=
        (List.isPrefixOf_iff_prefix.mp starts).trans (List.prefix_append (item :: text) rest)
      rw [if_pos (List.isPrefixOf_iff_prefix.mpr reaches)]
    · next other =>
      obtain ⟨later, behind, rfl⟩ := Option.map_eq_some_iff.mp found
      rw [if_neg, ih behind, Option.map_some]
      intro starts
      have inside : needle <+: item :: text := by
        apply List.prefix_of_prefix_length_le (List.isPrefixOf_iff_prefix.mp starts) (List.prefix_append (item :: text) rest)
        omega
      exact other (List.isPrefixOf_iff_prefix.mpr inside)

theorem indexOf_none (absent : indexOf needle text start = none) : scan needle place 0 (text.drop start) = [] :=
  firstAt_none (by simpa [indexOf] using absent)

theorem indexOf_some {column : Nat} (found : indexOf needle text start = some column) (inside : start ≤ text.length) :
    scan needle start 0 (text.drop start) = column ::
      if column + max 1 needle.length ≤ text.length then
        scan needle (column + max 1 needle.length) 0 (text.drop (column + max 1 needle.length))
      else [] := by
  obtain ⟨first, behind, rfl⟩ := Option.map_eq_some_iff.mp found
  rw [firstAt_some behind, List.length_drop, List.drop_drop]
  have same : first + max 1 needle.length ≤ text.length - start ↔ start + first + max 1 needle.length ≤ text.length := by
    omega
  simp only [same, Nat.add_assoc]

theorem indexOf_start {column : Nat} (found : indexOf needle text start = some column) : start ≤ column := by
  obtain ⟨first, -, rfl⟩ := Option.map_eq_some_iff.mp found
  exact Nat.le_add_right start first

theorem scan_initial {passed column : Nat} (found : column ∈ scan needle place passed text) :
    ∃ behind, column = place + behind ∧ needle <+: text.drop behind := by
  induction text generalizing place passed with
  | nil =>
    cases passed with
    | succ passed => simp [scan] at found
    | zero =>
      by_cases empty : needle = [] <;> simp [scan, empty] at found
      exact ⟨0, found, by simp [empty]⟩
  | cons item rest ih =>
    have later {passed : Nat} (found : column ∈ scan needle (place + 1) passed rest) :
        ∃ behind, column = place + behind ∧ needle <+: (item :: rest).drop behind := by
      obtain ⟨behind, same, starts⟩ := ih found
      exact ⟨behind + 1, by omega, starts⟩
    cases passed with
    | succ passed => exact later found
    | zero =>
      rw [scan] at found
      split at found
      · next starts =>
        rcases List.mem_cons.mp found with rfl | found
        · exact ⟨0, rfl, List.isPrefixOf_iff_prefix.mp starts⟩
        · exact later found
      · exact later found

theorem occurrences_initial {column : Nat} (found : column ∈ occurrences needle text) : needle <+: text.drop column := by
  obtain ⟨behind, rfl, starts⟩ := scan_initial found
  rwa [Nat.zero_add]

theorem scan_eq_nil (nonempty : needle ≠ []) : scan needle place 0 text = [] ↔ ¬needle <:+: text := by
  induction text generalizing place with
  | nil => simp [scan, nonempty]
  | cons item rest ih =>
    rw [scan, List.infix_cons_iff]
    split
    · next starts => simp [List.isPrefixOf_iff_prefix.mp starts]
    · next other =>
      have differs : ¬needle <+: item :: rest := fun starts => other (List.isPrefixOf_iff_prefix.mpr starts)
      rw [ih]
      simp [differs]

theorem occurrences_eq_nil (nonempty : needle ≠ []) : occurrences needle text = [] ↔ ¬needle <:+: text :=
  scan_eq_nil nonempty

section Separated

variable {separator : Item} {before after : List Item}

omit [DecidableEq Item] in
theorem prefix_separated (outside : separator ∉ needle) :
    needle <+: before ++ separator :: after ↔ needle <+: before := by
  constructor
  · intro starts
    by_cases short : needle.length ≤ before.length
    · exact List.prefix_of_prefix_length_le starts (List.prefix_append _ _) short
    · have reaches : before ++ [separator] <+: before ++ separator :: after := ⟨after, by simp⟩
      have inside : before ++ [separator] <+: needle := by
        apply List.prefix_of_prefix_length_le reaches starts
        rw [List.length_append, List.length_singleton]
        omega
      exact absurd (inside.subset (by simp)) outside
  · intro starts
    exact starts.trans (List.prefix_append _ _)

/-- A separator that the needle does not hold cuts a scan in two. -/
theorem scan_separated {passed : Nat} (nonempty : needle ≠ []) (outside : separator ∉ needle)
    (inside : passed ≤ before.length) :
    scan needle place passed (before ++ separator :: after) =
      scan needle place passed before ++ scan needle (place + before.length + 1) 0 after := by
  induction before generalizing place passed with
  | nil =>
    obtain rfl : passed = 0 := by simpa using inside
    have other : ¬needle.isPrefixOf (separator :: after) = true := by
      rw [List.isPrefixOf_iff_prefix]
      intro starts
      have same : needle <+: [] ++ separator :: after ↔ needle <+: [] := prefix_separated outside
      exact nonempty (List.prefix_nil.mp (same.mp starts))
    simp [scan, nonempty, other]
  | cons item rest ih =>
    have shift : place + (item :: rest).length + 1 = place + 1 + rest.length + 1 := by
      rw [List.length_cons]
      omega
    cases passed with
    | succ passed =>
      rw [List.cons_append, scan, scan, shift]
      exact ih (by simpa using inside)
    | zero =>
      have same : needle <+: (item :: rest) ++ separator :: after ↔ needle <+: item :: rest :=
        prefix_separated outside
      rw [List.cons_append] at same
      simp only [← List.isPrefixOf_iff_prefix] at same
      rw [List.cons_append, scan, scan, shift]
      by_cases starts : needle.isPrefixOf (item :: rest) = true
      · have fits := (List.isPrefixOf_iff_prefix.mp starts).length_le
        rw [List.length_cons] at fits
        rw [if_pos (same.mpr starts), if_pos starts, ih (by omega), List.cons_append]
      · rw [if_neg (starts ∘ same.mp), if_neg starts, ih (Nat.zero_le _)]

theorem occurrences_separated (nonempty : needle ≠ []) (outside : separator ∉ needle) :
    occurrences needle (before ++ separator :: after) =
      occurrences needle before ++ scan needle (before.length + 1) 0 after := by
  rw [occurrences, scan_separated nonempty outside (Nat.zero_le _), Nat.zero_add]
  rfl

end Separated

end AiOffice.Data
