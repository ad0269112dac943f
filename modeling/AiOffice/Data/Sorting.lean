import Mathlib.Data.List.Dedup
import Mathlib.Data.List.Induction
import Mathlib.Data.List.Sort

namespace AiOffice.Data

universe u v

variable {Item : Type u} {Key : Type v} [LinearOrder Key] {key : Item → Key} {items others : List Item} {item : Item}

def sortOn (key : Item → Key) (items : List Item) : List Item :=
  items.insertionSort fun left right => key left ≤ key right

theorem sortOn_perm (key : Item → Key) (items : List Item) : (sortOn key items).Perm items :=
  List.perm_insertionSort _ items

@[simp] theorem mem_sortOn : item ∈ sortOn key items ↔ item ∈ items := (sortOn_perm key items).mem_iff

@[simp] theorem sortOn_eq_nil : sortOn key items = [] ↔ items = [] :=
  ⟨fun empty => List.nil_perm.mp (empty ▸ sortOn_perm key items), fun empty => by rw [empty]; rfl⟩

theorem sortOn_sorted (key : Item → Key) (items : List Item) :
    (sortOn key items).Pairwise fun left right => key left ≤ key right := by
  have : Std.Total fun left right : Item => key left ≤ key right := ⟨fun left right => le_total _ _⟩
  have : IsTrans Item fun left right => key left ≤ key right := ⟨fun _ _ _ => le_trans⟩
  exact List.pairwise_insertionSort _ items

theorem sortOn_eq_of_keys (different : ∀ left ∈ items, ∀ right ∈ items, key left = key right → left = right)
    (reordered : items.Perm others) : sortOn key items = sortOn key others := by
  have same : (sortOn key items).Perm (sortOn key others) :=
    (sortOn_perm key items).trans (reordered.trans (sortOn_perm key others).symm)
  refine same.eq_of_pairwise (fun left right here there below above => ?_) (sortOn_sorted key items)
    (sortOn_sorted key others)
  exact different left (mem_sortOn.mp here) right (reordered.mem_iff.mpr (mem_sortOn.mp there)) (le_antisymm below above)

theorem sortOn_eq (different : key.Injective) (reordered : items.Perm others) :
    sortOn key items = sortOn key others :=
  sortOn_eq_of_keys (fun _ _ _ _ same => different same) reordered

section Orders

variable {order also : Item → Item → Prop} [DecidableRel order] [DecidableRel also]

omit [LinearOrder Key] in
theorem orderedInsert_congr (same : ∀ other ∈ items, (order item other ↔ also item other)) :
    items.orderedInsert order item = items.orderedInsert also item := by
  induction items with
  | nil => rfl
  | cons first rest ih =>
    have later := ih fun other member => same other (List.mem_cons_of_mem _ member)
    simp only [List.orderedInsert, same first List.mem_cons_self, later]

omit [LinearOrder Key] in
theorem insertionSort_congr (same : ∀ left ∈ items, ∀ right ∈ items, (order left right ↔ also left right)) :
    items.insertionSort order = items.insertionSort also := by
  induction items with
  | nil => rfl
  | cons first rest ih =>
    have later := ih fun left member right other =>
      same left (List.mem_cons_of_mem _ member) right (List.mem_cons_of_mem _ other)
    rw [List.insertionSort_cons, List.insertionSort_cons, later]
    refine orderedInsert_congr fun other member => same first List.mem_cons_self other (List.mem_cons_of_mem _ ?_)
    exact (List.mem_insertionSort also).mp member

end Orders

variable [DecidableEq Item]

def sortedSet (key : Item → Key) (items : List Item) : List Item := sortOn key items.dedup

@[simp] theorem mem_sortedSet : item ∈ sortedSet key items ↔ item ∈ items := by
  rw [sortedSet, mem_sortOn, List.mem_dedup]

theorem sortedSet_eq (different : key.Injective) (same : ∀ item, item ∈ items ↔ item ∈ others) :
    sortedSet key items = sortedSet key others := by
  refine sortOn_eq different ((List.perm_ext_iff_of_nodup items.nodup_dedup others.nodup_dedup).mpr fun item => ?_)
  rw [List.mem_dedup, List.mem_dedup, same]

end AiOffice.Data

namespace AiOffice.Data

open Std

universe u

variable {Item : Type u} {compare : Item → Item → Ordering} {items rest best seen : List Item} {item other first last : Item}
  {before : Item → Bool} {limit : Nat}

def sortBy (compare : Item → Item → Ordering) (items : List Item) : List Item :=
  items.mergeSort fun left right => (compare left right).isLE

def Before (compare : Item → Item → Ordering) (left right : Item) : Prop := compare left right = .lt

def NotAfter (compare : Item → Item → Ordering) (left right : Item) : Prop := (compare left right).isLE = true

instance : DecidableRel (Before compare) := fun left right => inferInstanceAs (Decidable (compare left right = .lt))

instance : DecidableRel (NotAfter compare) := fun left right => inferInstanceAs (Decidable ((compare left right).isLE = true))

def splice (items : List Item) (index : Nat) (item : Item) : List Item := items.take index ++ item :: items.drop index

/-- A binary search for the first item that comes after, in a list where those after it do too. -/
def insertionPoint (before : Item → Bool) (items : List Item) : Nat → Nat → Nat → Nat
  | 0, low, _ => low
  | fuel + 1, low, high =>
    if low < high then
      let middle := (low + high) / 2
      if items[middle]?.any before then insertionPoint before items fuel low middle
      else insertionPoint before items fuel (middle + 1) high
    else low

def binarySearch (before : Item → Bool) (items : List Item) : Nat :=
  insertionPoint before items items.length 0 items.length

/-- One step of a loop that keeps the best items, sorted: it skips an item that cannot be among them. -/
def keepBest (compare : Item → Item → Ordering) (search : (Item → Bool) → List Item → Nat) (limit : Nat) (best : List Item)
    (item : Item) : List Item :=
  if best.length = limit && best.getLast?.any (fun last => compare item last ≠ .lt) then best
  else
    let grown := splice best (search (fun other => compare item other = .lt) best) item
    if limit < grown.length then grown.dropLast else grown

section Search

theorem findIdx_le_iff (monotone : items.Pairwise fun left right => before left = true → before right = true) {index : Nat}
    (inside : index < items.length) : items.findIdx before ≤ index ↔ items[index]?.any before = true := by
  rw [List.getElem?_eq_getElem inside, Option.any_some]
  constructor
  · intro found
    have here := @List.findIdx_getElem _ before items (by omega)
    rcases Nat.lt_or_eq_of_le found with less | same
    · exact List.pairwise_iff_getElem.mp monotone _ _ (by omega) inside less here
    · simpa only [same] using here
  · intro here
    by_contra later
    exact absurd here (by simpa using List.not_of_lt_findIdx (Nat.lt_of_not_le later))

theorem insertionPoint_eq (monotone : items.Pairwise fun left right => before left = true → before right = true)
    {fuel low high : Nat} (above : low ≤ items.findIdx before) (below : items.findIdx before ≤ high)
    (inside : high ≤ items.length) (enough : high ≤ fuel + low) :
    insertionPoint before items fuel low high = items.findIdx before := by
  induction fuel generalizing low high with
  | zero =>
    rw [insertionPoint]
    omega
  | succ fuel ih =>
    rw [insertionPoint]
    split
    · have found := @findIdx_le_iff _ _ _ monotone ((low + high) / 2) (by omega)
      simp only
      split
      · next here => exact ih above (found.mpr here) (by omega) (by omega)
      · next here =>
          have later := found.not.mpr here
          exact ih (by omega) below inside (by omega)
    · omega

theorem binarySearch_eq (monotone : items.Pairwise fun left right => before left = true → before right = true) :
    binarySearch before items = items.findIdx before :=
  insertionPoint_eq monotone (Nat.zero_le _) List.findIdx_le_length le_rfl le_rfl

end Search

section Insertion

theorem splice_findIdx (compare : Item → Item → Ordering) (item : Item) (items : List Item) :
    splice items (items.findIdx fun other => compare item other = .lt) item =
      items.orderedInsert (Before compare) item := by
  induction items with
  | nil => rfl
  | cons first rest ih =>
    rw [List.orderedInsert_cons, List.findIdx_cons]
    by_cases below : Before compare item first
    · rw [if_pos below]
      rw [Before] at below
      simp [splice, below]
    · rw [if_neg below, ← ih]
      rw [Before] at below
      simp [splice, below]

theorem take_orderedInsert (limit : Nat) (item : Item) (items : List Item) :
    (items.orderedInsert (Before compare) item).take limit =
      ((items.take limit).orderedInsert (Before compare) item).take limit := by
  induction items generalizing limit with
  | nil => simp
  | cons first rest ih =>
    cases limit with
    | zero => rfl
    | succ limit =>
      rw [List.take_succ_cons, List.orderedInsert_cons, List.orderedInsert_cons]
      split
      · cases limit with
        | zero => rfl
        | succ limit => simp [List.take_take]
      · rw [List.take_succ_cons, List.take_succ_cons, ih]

theorem orderedInsert_last (after : ∀ other ∈ items, ¬Before compare item other) :
    items.orderedInsert (Before compare) item = items ++ [item] := by
  induction items with
  | nil => rfl
  | cons first items ih =>
    obtain ⟨here, later⟩ := List.forall_mem_cons.mp after
    rw [List.orderedInsert_of_not_le _ _ here, ih later, List.cons_append]

theorem sortBy_perm (items : List Item) : (sortBy compare items).Perm items := List.mergeSort_perm _ _

variable [TransCmp compare]

theorem before_iff : Before compare item other ↔ ¬NotAfter compare other item := by
  rw [NotAfter, Bool.not_eq_true, Ordering.isLE_eq_false]
  exact OrientedCmp.gt_iff_lt.symm

theorem isLE_total (left right : Item) : ((compare left right).isLE || (compare right left).isLE) = true := by
  rw [Bool.or_eq_true]
  by_contra neither
  obtain ⟨after, earlier⟩ := not_or.mp neither
  have before : Before compare right left := before_iff.mpr after
  exact earlier (Ordering.isLE_of_eq_lt before)

theorem sortBy_sorted (items : List Item) : (sortBy compare items).Pairwise (NotAfter compare) := by
  exact List.pairwise_mergeSort (fun _ _ _ => TransCmp.isLE_trans) isLE_total items

theorem sortBy_cons (item : Item) (items : List Item) :
    sortBy compare (item :: items) = (sortBy compare items).orderedInsert (NotAfter compare) item := by
  obtain ⟨front, back, whole, others, earlier⟩ := @List.mergeSort_cons _
    (fun left right => (compare left right).isLE) (fun _ _ _ => TransCmp.isLE_trans) isLE_total item items
  have sorted := @sortBy_sorted _ compare _ (item :: items)
  rw [sortBy, whole] at sorted
  have later := (List.pairwise_cons.mp (List.pairwise_append.mp sorted).2.1).1
  rw [sortBy, sortBy, whole, others]
  clear whole others sorted
  induction front with
  | nil =>
    cases back with
    | nil => rfl
    | cons first back => exact (List.orderedInsert_cons_of_le _ _ (later first List.mem_cons_self)).symm
  | cons first front ih =>
    obtain ⟨here, rest⟩ := List.forall_mem_cons.mp earlier
    rw [List.cons_append, List.cons_append, List.orderedInsert_of_not_le _ _ (by simpa [NotAfter] using here), ← ih rest]

theorem orderedInsert_comm (first last : Item) (items : List Item) :
    (items.orderedInsert (Before compare) last).orderedInsert (NotAfter compare) first =
      (items.orderedInsert (NotAfter compare) first).orderedInsert (Before compare) last := by
  have apart : ∀ {left right : Item}, Before compare left right ↔ ¬NotAfter compare right left := before_iff
  induction items with
  | nil =>
    by_cases ordered : NotAfter compare first last <;> simp [apart, ordered]
  | cons other items ih =>
    by_cases below : NotAfter compare first other <;> by_cases above : NotAfter compare other last
    · have ordered : NotAfter compare first last := TransCmp.isLE_trans below above
      simp [apart, below, above, ordered]
    · by_cases ordered : NotAfter compare first last <;> simp [apart, below, above, ordered]
    · simp [apart, below, above, ih]
    · have ordered : ¬NotAfter compare first last := fun ordered =>
        below (TransCmp.isLE_trans ordered (Ordering.isLE_of_eq_lt (before_iff.mpr above)))
      simp [apart, below, above, ordered]

theorem sortBy_snoc (items : List Item) (item : Item) :
    sortBy compare (items ++ [item]) = (sortBy compare items).orderedInsert (Before compare) item := by
  induction items with
  | nil => simp [sortBy]
  | cons first items ih => rw [List.cons_append, sortBy_cons, sortBy_cons, ih, orderedInsert_comm]

theorem sorted_monotone (sorted : items.Pairwise (NotAfter compare)) (item : Item) :
    items.Pairwise fun left right => decide (compare item left = .lt) = true → decide (compare item right = .lt) = true :=
  sorted.imp fun notAfter before => by
    rw [decide_eq_true_eq] at before ⊢
    exact TransCmp.lt_of_lt_of_isLE before notAfter

/-- A comparison by what a function gives is one of the same kind. -/
instance comparedBy {Value : Type*} (value : Value → Item) : TransCmp fun left right => compare (value left) (value right) where
  eq_swap := OrientedCmp.eq_swap
  isLE_trans := TransCmp.isLE_trans

/-- What is kept of the items seen so far is the start of their stable sort. -/
theorem keepBest_step {search : (Item → Bool) → List Item → Nat} (kept : best = (sortBy compare seen).take limit)
    (finds : ∀ before items, items.Pairwise (fun left right => before left = true → before right = true) →
      search before items = items.findIdx before) :
    keepBest compare search limit best item = (sortBy compare (seen ++ [item])).take limit := by
  have sorted : best.Pairwise (NotAfter compare) := by
    rw [kept]
    exact (sortBy_sorted seen).sublist (List.take_sublist _ _)
  have short : best.length ≤ limit := by
    rw [kept]
    exact List.length_take_le _ _
  have grown : (sortBy compare (seen ++ [item])).take limit = (best.orderedInsert (Before compare) item).take limit := by
    rw [sortBy_snoc, take_orderedInsert, ← kept]
  rw [keepBest, grown]
  split
  · next skips =>
      simp only [Bool.and_eq_true, decide_eq_true_eq, Option.any_eq_true] at skips
      obtain ⟨full, last, isLast, behind⟩ := skips
      obtain ⟨front, rfl⟩ := List.getLast?_eq_some_iff.mp isLast
      have after : ∀ other ∈ front ++ [last], ¬Before compare item other := by
        intro other member before
        rcases List.mem_append.mp member with inFront | isSame
        · have notAfter := (List.pairwise_append.mp sorted).2.2 other inFront last (List.mem_singleton_self last)
          exact behind (TransCmp.lt_of_lt_of_isLE before notAfter)
        · rw [List.mem_singleton.mp isSame] at before
          exact behind before
      rw [orderedInsert_last after, ← full, List.take_left']
      rfl
  · rw [finds _ _ (sorted_monotone sorted item), splice_findIdx]
    have length : (best.orderedInsert (Before compare) item).length = best.length + 1 := List.orderedInsert_length _ _ _
    simp only
    split
    · rw [List.dropLast_eq_take]
      congr 1
      omega
    · exact (List.take_of_length_le (by omega)).symm

theorem keepBest_spec (compare : Item → Item → Ordering) [TransCmp compare] {search : (Item → Bool) → List Item → Nat}
    (limit : Nat) (items : List Item)
    (finds : ∀ before items, items.Pairwise (fun left right => before left = true → before right = true) →
      search before items = items.findIdx before) :
    items.foldl (keepBest compare search limit) [] = (sortBy compare items).take limit := by
  induction items using List.reverseRecOn with
  | nil => simp [sortBy]
  | append_singleton items item ih => rw [List.foldl_concat, ih, keepBest_step rfl finds]

end Insertion

end AiOffice.Data
