import Mathlib.Data.List.Nodup
import Mathlib.Order.Defs.LinearOrder

namespace AiOffice.Data

universe u v

variable {Row : Type u} {Key : Type v} {rows : List Row} {key : Row → Key} {selected : Row → Bool} {row other : Row}

theorem keyed_eq (unique : (rows.map key).Nodup) (member : row ∈ rows) (also : other ∈ rows)
    (same : key other = key row) : other = row :=
  List.inj_on_of_nodup_map unique also member same

theorem find_keyed (unique : (rows.map key).Nodup) (member : row ∈ rows) (holds : selected row = true)
    (only : ∀ other ∈ rows, selected other = true → key other = key row) : rows.find? selected = some row := by
  cases lookup : rows.find? selected with
  | none => exact absurd holds (by simpa using List.find?_eq_none.mp lookup row member)
  | some found =>
    have also := List.mem_of_find?_eq_some lookup
    rw [keyed_eq unique member also (only found also (List.find?_some lookup))]

theorem keyed_map {change : Row → Row} (kept : ∀ row, key (change row) = key row) (unique : (rows.map key).Nodup) :
    ((rows.map change).map key).Nodup := by
  have same : key ∘ change = key := funext kept
  rwa [List.map_map, same]

theorem keyed_filterMap {Read : Type*} {read : Row → Option Read} {readKey : Read → Key}
    (kept : ∀ row result, read row = some result → readKey result = key row) (unique : (rows.map key).Nodup) :
    ((rows.filterMap read).map readKey).Nodup := by
  induction rows with
  | nil => exact List.nodup_nil
  | cons row rows ih =>
    rw [List.map_cons, List.nodup_cons] at unique
    cases first : read row with
    | none =>
      rw [List.filterMap_cons_none first]
      exact ih unique.2
    | some result =>
      rw [List.filterMap_cons_some first, List.map_cons, List.nodup_cons]
      refine ⟨fun again => unique.1 ?_, ih unique.2⟩
      obtain ⟨later, member, same⟩ := List.mem_map.mp again
      obtain ⟨source, inRows, reads⟩ := List.mem_filterMap.mp member
      rw [← kept row result first, ← same, kept source later reads]
      exact List.mem_map_of_mem inRows

theorem find_reverse_keyed [DecidableEq Key] (unique : (rows.map key).Nodup) (member : row ∈ rows) :
    (rows.reverse.find? fun other => key other = key row) = some row := by
  have uniqueReverse : (rows.reverse.map key).Nodup := by
    rw [List.map_reverse]
    exact List.nodup_reverse.mpr unique
  exact find_keyed uniqueReverse (List.mem_reverse.mpr member) (decide_eq_true rfl) fun _ _ => of_decide_eq_true

theorem sorted_map {order : Row → Nat} {change : Row → Row} (kept : ∀ row, order (change row) = order row)
    (selects : ∀ row, selected (change row) = selected row) :
    ((rows.map change).filter selected).mergeSort (fun left right => decide (order left ≤ order right)) =
      ((rows.filter selected).mergeSort fun left right => decide (order left ≤ order right)).map change := by
  have same : selected ∘ change = selected := funext selects
  rw [List.filter_map, same]
  exact (List.map_mergeSort fun left _ right _ => by rw [kept, kept]).symm

def unseen [DecidableEq Key] (key : Row → Key) (visited : List Key) (rows : List Row) : Nat :=
  rows.countP fun row => key row ∉ visited

theorem unseen_cons [DecidableEq Key] {visited : List Key} :
    unseen key visited (row :: rows) = unseen key visited rows + if key row ∈ visited then 0 else 1 := by
  by_cases known : key row ∈ visited <;> simp [unseen, known]

theorem unseen_le [DecidableEq Key] {visited : List Key} (next : Key) :
    unseen key (next :: visited) rows ≤ unseen key visited rows := by
  refine List.countP_mono_left fun other _ outside => ?_
  simp only [decide_eq_true_eq, List.mem_cons, not_or] at outside ⊢
  exact outside.2

theorem unseen_lt [DecidableEq Key] {visited : List Key} (member : row ∈ rows) (fresh : key row ∉ visited) :
    unseen key (key row :: visited) rows < unseen key visited rows := by
  induction rows with
  | nil => cases member
  | cons first rest ih =>
    simp only [unseen_cons, List.mem_cons]
    rcases List.mem_cons.mp member with rfl | later
    · have fewer := @unseen_le _ _ rest key _ visited (key row)
      simp only [fresh, true_or, if_true, if_false]
      omega
    · have shrinks := ih later
      by_cases known : key first ∈ visited <;> by_cases same : key first = key row <;>
        simp only [known, same, true_or, or_true, or_false, if_true, if_false] <;> omega

end AiOffice.Data

namespace AiOffice.Data

universe u v w

variable {Row : Type u} {Key : Type v} {Version : Type w} [Preorder Version] {key : Row → Key} {version : Row → Version}
  {rows after : List Row} {read stored : Row}

/-- What a reader relies on that read a row: the row of its key is the one that was read, or a later version of it. -/
def Remembered (key : Row → Key) (version : Row → Version) (rows : List Row) (read : Row) : Prop :=
  ∀ stored ∈ rows, key stored = key read → stored = read ∨ version read < version stored

theorem Remembered.same (remembered : Remembered key version rows read) (member : stored ∈ rows)
    (about : key stored = key read) (unchanged : version stored = version read) : stored = read := by
  rcases remembered stored member about with same | later
  · exact same
  · exact absurd later (by rw [unchanged]; exact lt_irrefl _)

theorem Remembered.of_only (only : ∀ stored ∈ rows, key stored = key read → stored = read) :
    Remembered key version rows read :=
  fun stored member about => .inl (only stored member about)

theorem Remembered.revised (remembered : Remembered key version rows read)
    (revises : ∀ later ∈ after, key later = key read → later ∈ rows ∨ version read < version later) :
    Remembered key version after read := by
  intro later member about
  rcases revises later member about with kept | newer
  · exact remembered later kept about
  · exact .inr newer

end AiOffice.Data
