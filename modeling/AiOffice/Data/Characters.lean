import Mathlib.Data.List.Basic

namespace AiOffice.Data

universe u

variable {Item : Type u} {pairs : Item → Item → Bool} {units before after : List Item} {high low : Item} {limit : Nat}

def charactersOf (pairs : Item → Item → Bool) : List Item → List (List Item)
  | [] => []
  | [unit] => [[unit]]
  | first :: second :: rest =>
    if pairs first second then [first, second] :: charactersOf pairs rest
    else [first] :: charactersOf pairs (second :: rest)

@[simp] theorem charactersOf_flatten (units : List Item) : (charactersOf pairs units).flatten = units := by
  induction units using charactersOf.induct pairs with
  | case1 => rfl
  | case2 unit => rfl
  | case3 first second rest paired ih => simp [charactersOf, paired, ih]
  | case4 first second rest apart ih => simp [charactersOf, apart, ih]

def takeCharacters (pairs : Item → Item → Bool) (limit : Nat) (units : List Item) : List Item :=
  ((charactersOf pairs units).take limit).flatten

theorem takeCharacters_initial (limit : Nat) (units : List Item) : takeCharacters pairs limit units <+: units := by
  refine ⟨((charactersOf pairs units).drop limit).flatten, ?_⟩
  rw [takeCharacters, ← List.flatten_append, List.take_append_drop, charactersOf_flatten]

theorem takeCharacters_pair {first second : Item} {rest : List Item} (paired : pairs first second = true) (limit : Nat) :
    takeCharacters pairs (limit + 1) (first :: second :: rest) = first :: second :: takeCharacters pairs limit rest := by
  simp [takeCharacters, charactersOf, paired]

theorem takeCharacters_apart {first second : Item} {rest : List Item} (apart : ¬pairs first second = true) (limit : Nat) :
    takeCharacters pairs (limit + 1) (first :: second :: rest) =
      first :: takeCharacters pairs limit (second :: rest) := by
  simp [takeCharacters, charactersOf, apart]

theorem charactersOf_apart {first : Item} (apart : ∀ second ∈ units.head?, ¬pairs first second = true) :
    charactersOf pairs (first :: units) = [first] :: charactersOf pairs units := by
  cases units with
  | nil => rfl
  | cons second rest => rw [charactersOf, if_neg (apart second rfl)]

theorem charactersOf_takeCharacters (limit : Nat) (units : List Item) :
    charactersOf pairs (takeCharacters pairs limit units) = (charactersOf pairs units).take limit := by
  induction units using charactersOf.induct pairs generalizing limit with
  | case1 => simp [takeCharacters, charactersOf]
  | case2 unit => cases limit <;> simp [takeCharacters, charactersOf]
  | case3 first second rest paired ih =>
    cases limit with
    | zero => rfl
    | succ limit => simp [takeCharacters_pair paired, charactersOf, paired, ih]
  | case4 first second rest apart ih =>
    cases limit with
    | zero => rfl
    | succ limit =>
      have follows : ∀ next ∈ (takeCharacters pairs limit (second :: rest)).head?, ¬pairs first next = true := by
        intro next isNext
        obtain ⟨tail, same⟩ := List.head?_eq_some_iff.mp isNext
        obtain ⟨rest', whole⟩ := @takeCharacters_initial _ pairs limit (second :: rest)
        rw [same, List.cons_append, List.cons.injEq] at whole
        rwa [whole.1]
      rw [takeCharacters_apart apart, charactersOf_apart follows, ih, charactersOf, if_neg apart, List.take_succ_cons]

/-- A cut behind a character never lies between two units that pair. -/
theorem takeCharacters_whole (distinct : ∀ first second third, pairs first second = true → pairs second third = false)
    (text : units = before ++ high :: low :: after) (cut : takeCharacters pairs limit units = before ++ [high]) :
    pairs high low = false := by
  induction units using charactersOf.induct pairs generalizing limit before with
  | case1 => simp at text
  | case2 unit =>
    have length := congrArg List.length text
    simp only [List.length_cons, List.length_nil, List.length_append] at length
    omega
  | case3 first second rest paired ih =>
    cases limit with
    | zero => simp [takeCharacters] at cut
    | succ limit =>
      rw [takeCharacters_pair paired] at cut
      match before, text, cut with
      | [], _, cut => simp at cut
      | [_], text, _ =>
        simp only [List.cons_append, List.nil_append, List.cons.injEq] at text
        obtain ⟨-, rfl, -⟩ := text
        exact distinct first second low paired
      | _ :: _ :: before, text, cut =>
        simp only [List.cons_append, List.cons.injEq] at text cut
        exact ih text.2.2 cut.2.2
  | case4 first second rest apart ih =>
    cases limit with
    | zero => simp [takeCharacters] at cut
    | succ limit =>
      rw [takeCharacters_apart apart] at cut
      cases before with
      | nil =>
        simp only [List.nil_append, List.cons.injEq] at text
        obtain ⟨rfl, rfl, -⟩ := text
        simpa using apart
      | cons unit before =>
        simp only [List.cons_append, List.cons.injEq] at text cut
        exact ih text.2 cut.2

theorem characters_le_length (units : List Item) : (charactersOf pairs units).length ≤ units.length := by
  induction units using charactersOf.induct pairs with
  | case1 => exact Nat.le_refl _
  | case2 unit => exact Nat.le_refl _
  | case3 first second rest paired ih =>
    rw [charactersOf, if_pos paired, List.length_cons, List.length_cons, List.length_cons]
    omega
  | case4 first second rest apart ih =>
    rw [charactersOf, if_neg apart, List.length_cons, List.length_cons]
    omega

theorem takeCharacters_long (enough : (charactersOf pairs units).length ≤ limit) :
    takeCharacters pairs limit units = units := by
  rw [takeCharacters, List.take_of_length_le enough, charactersOf_flatten]

end AiOffice.Data
