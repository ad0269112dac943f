import Mathlib.Data.List.Basic

namespace AiOffice.Data

universe u

variable {Item : Type u}

/-- A partial order in which what lies above an item is a chain, as the prefixes of a word do. -/
structure Forest (below : Item → Item → Prop) : Prop where
  refl : ∀ item, below item item
  antisymm : ∀ {left right}, below left right → below right left → left = right
  trans : ∀ {first second third}, below first second → below second third → below first third
  chain : ∀ {item left right}, below item left → below item right → below left right ∨ below right left

def Covers (below : Item → Item → Prop) (roots : List Item) (item : Item) : Prop := ∃ root ∈ roots, below item root

variable {below : Item → Item → Prop} {left right : List Item} {lists : List (List Item)} {item : Item}

theorem Forest.covers_root (forest : Forest below) (member : item ∈ left) : Covers below left item :=
  ⟨item, member, forest.refl item⟩

theorem Covers.mono {lower upper : Item} (covered : Covers below left upper)
    (forest : Forest below) (under : below lower upper) : Covers below left lower := by
  obtain ⟨root, member, above⟩ := covered
  exact ⟨root, member, forest.trans under above⟩

def meet (below : Item → Item → Prop) [DecidableRel below] (left right : List Item) : List Item :=
  left.flatMap fun first => right.filterMap fun second =>
    if below first second then some first else if below second first then some second else none

variable [DecidableRel below]

theorem Forest.mem_meet (forest : Forest below) :
    item ∈ meet below left right ↔
      (item ∈ left ∧ Covers below right item) ∨ (item ∈ right ∧ Covers below left item) := by
  simp only [meet, List.mem_flatMap, List.mem_filterMap]
  constructor
  · rintro ⟨first, inLeft, second, inRight, chosen⟩
    split at chosen
    · next under => cases chosen; exact .inl ⟨inLeft, second, inRight, under⟩
    · split at chosen
      · next under => cases chosen; exact .inr ⟨inRight, first, inLeft, under⟩
      · cases chosen
  · rintro (⟨inLeft, root, inRight, under⟩ | ⟨inRight, root, inLeft, under⟩)
    · exact ⟨item, inLeft, root, inRight, if_pos under⟩
    · refine ⟨root, inLeft, item, inRight, ?_⟩
      split
      · next above => rw [forest.antisymm above under]
      · rfl

theorem Forest.covers_meet (forest : Forest below) :
    Covers below (meet below left right) item ↔ Covers below left item ∧ Covers below right item := by
  constructor
  · rintro ⟨root, member, under⟩
    rcases forest.mem_meet.mp member with ⟨inLeft, covered⟩ | ⟨inRight, covered⟩
    · exact ⟨⟨root, inLeft, under⟩, covered.mono forest under⟩
    · exact ⟨covered.mono forest under, ⟨root, inRight, under⟩⟩
  · rintro ⟨⟨first, inLeft, underFirst⟩, ⟨second, inRight, underSecond⟩⟩
    rcases forest.chain underFirst underSecond with lower | lower
    · exact ⟨first, forest.mem_meet.mpr (.inl ⟨inLeft, second, inRight, lower⟩), underFirst⟩
    · exact ⟨second, forest.mem_meet.mpr (.inr ⟨inRight, first, inLeft, lower⟩), underSecond⟩

theorem Forest.covers_fold (forest : Forest below) {step : List Item → List Item → List Item}
    (steps : ∀ left right item, item ∈ step left right ↔ item ∈ meet below left right) :
    Covers below (lists.foldl step left) item ↔ Covers below left item ∧ ∀ list ∈ lists, Covers below list item := by
  induction lists generalizing left with
  | nil => simp
  | cons list lists ih =>
    have stepped : Covers below (step left list) item ↔ Covers below (meet below left list) item := by
      simp only [Covers, steps]
    rw [List.foldl_cons, ih, stepped, forest.covers_meet, List.forall_mem_cons, and_assoc]

theorem Forest.mem_fold (forest : Forest below) {step : List Item → List Item → List Item}
    (steps : ∀ left right item, item ∈ step left right ↔ item ∈ meet below left right) :
    item ∈ lists.foldl step left ↔
      (∃ list ∈ left :: lists, item ∈ list) ∧ ∀ list ∈ left :: lists, Covers below list item := by
  induction lists generalizing left with
  | nil =>
    simpa using forest.covers_root
  | cons list lists ih =>
    rw [List.foldl_cons, ih]
    have stepped : Covers below (step left list) item ↔ Covers below left item ∧ Covers below list item := by
      rw [← forest.covers_meet]
      simp only [Covers, steps]
    simp only [List.mem_cons, exists_eq_or_imp, forall_eq_or_imp, stepped, steps, forest.mem_meet]
    constructor
    · rintro ⟨found, ⟨overLeft, overList⟩, rest⟩
      refine ⟨?_, overLeft, overList, rest⟩
      rcases found with (⟨inLeft, -⟩ | ⟨inList, -⟩) | later
      · exact .inl inLeft
      · exact .inr (.inl inList)
      · exact .inr (.inr later)
    · rintro ⟨found, overLeft, overList, rest⟩
      refine ⟨?_, ⟨overLeft, overList⟩, rest⟩
      rcases found with inLeft | inList | later
      · exact .inl (.inl ⟨inLeft, overList⟩)
      · exact .inl (.inr ⟨inList, overLeft⟩)
      · exact .inr later

section

variable {Letter : Type u} {separator : Letter} {path base : List Letter}

def Under (separator : Letter) (path base : List Letter) : Prop := path = base ∨ base ++ [separator] <+: path

theorem Under.isPrefix (under : Under separator path base) : base <+: path := by
  rcases under with rfl | longer
  · exact List.prefix_rfl
  · exact (List.prefix_append base _).trans longer

theorem Under.ofInitial {left right : List Letter} (shorter : left ++ [separator] <+: right ++ [separator]) :
    Under separator right left := by
  rcases List.prefix_concat_iff.mp shorter with same | longer
  · exact .inl (List.append_cancel_right same).symm
  · exact .inr longer

theorem under_forest (separator : Letter) : Forest (Under separator) where
  refl path := .inl rfl
  antisymm := by
    intro left right below above
    exact above.isPrefix.eq_of_length_le below.isPrefix.length_le
  trans := by
    rintro first second third (rfl | below) above
    · exact above
    · rcases above with rfl | longer
      · exact .inr below
      · exact .inr (longer.trans ((List.prefix_append second _).trans below))
  chain := by
    rintro item left right (rfl | overLeft) overRight
    · exact .inl overRight
    · rcases overRight with rfl | overRight
      · exact .inr (.inr overLeft)
      · rcases List.prefix_or_prefix_of_prefix overLeft overRight with shorter | shorter
        · exact .inr (.ofInitial shorter)
        · exact .inl (.ofInitial shorter)

end

end AiOffice.Data
