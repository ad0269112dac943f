import Mathlib.Tactic.Common

namespace AiOffice.Data

universe u

variable {Row : Type u} {amount other : Row → Nat} {selected wider : Row → Bool} {rows later : List Row}

def tally (amount : Row → Nat) (selected : Row → Bool) : List Row → Nat
  | [] => 0
  | row :: rows => (if selected row then amount row else 0) + tally amount selected rows

theorem tally_append : tally amount selected (rows ++ later) =
    tally amount selected rows + tally amount selected later := by
  induction rows with
  | nil => simp [tally]
  | cons row rows ih => simp [tally, ih, Nat.add_assoc]

@[simp] theorem tally_singleton {row : Row} :
    tally amount selected [row] = if selected row then amount row else 0 := by
  simp [tally]

theorem tally_snoc {row : Row} : tally amount selected (rows ++ [row]) =
    tally amount selected rows + if selected row then amount row else 0 := by
  rw [tally_append, tally_singleton]

theorem tally_le (grows : ∀ row ∈ rows, selected row = true → wider row = true ∧ amount row ≤ other row) :
    tally amount selected rows ≤ tally other wider rows := by
  induction rows with
  | nil => exact Nat.le_refl _
  | cons row rows ih =>
    obtain ⟨first, rest⟩ := List.forall_mem_cons.mp grows
    have later := ih rest
    simp only [tally]
    by_cases chosen : selected row = true
    · obtain ⟨taken, larger⟩ := first chosen
      rw [if_pos chosen, if_pos taken]
      omega
    · rw [if_neg chosen]
      omega

theorem tally_mono (widens : ∀ row ∈ rows, selected row = true → wider row = true) :
    tally amount selected rows ≤ tally amount wider rows :=
  tally_le fun row member chosen => ⟨widens row member chosen, Nat.le_refl _⟩

theorem tally_none (none : ∀ row ∈ rows, selected row = false) : tally amount selected rows = 0 := by
  induction rows with
  | nil => rfl
  | cons row rows ih =>
    obtain ⟨first, rest⟩ := List.forall_mem_cons.mp none
    simp [tally, first, ih rest]

theorem tally_disjoint {left right : Row → Bool} (within : ∀ row ∈ rows, left row = true → wider row = true)
    (also : ∀ row ∈ rows, right row = true → wider row = true)
    (apart : ∀ row ∈ rows, ¬(left row = true ∧ right row = true)) :
    tally amount left rows + tally amount right rows ≤ tally amount wider rows := by
  induction rows with
  | nil => exact Nat.le_refl _
  | cons row rows ih =>
    obtain ⟨first, rest⟩ := List.forall_mem_cons.mp within
    obtain ⟨second, others⟩ := List.forall_mem_cons.mp also
    obtain ⟨not, exclusive⟩ := List.forall_mem_cons.mp apart
    have later := ih rest others exclusive
    simp only [tally]
    by_cases chosen : left row = true
    · have unchosen : right row ≠ true := fun right => not ⟨chosen, right⟩
      rw [if_pos chosen, if_neg unchosen, if_pos (first chosen)]
      omega
    · rw [if_neg chosen]
      by_cases taken : right row = true
      · rw [if_pos taken, if_pos (second taken)]
        omega
      · rw [if_neg taken]
        omega

theorem tally_single (single : rows.countP selected ≤ 1) :
    tally amount selected rows = 0 ∨
      ∃ row ∈ rows, selected row = true ∧ tally amount selected rows = amount row := by
  induction rows with
  | nil => exact .inl rfl
  | cons row rows ih =>
    by_cases chosen : selected row = true
    · rw [List.countP_cons_of_pos chosen] at single
      have others : ∀ other ∈ rows, selected other = false := by
        have none : rows.countP selected = 0 := by omega
        simpa [List.countP_eq_zero] using none
      exact .inr ⟨row, List.mem_cons_self, chosen, by simp [tally, chosen, tally_none others]⟩
    · rw [List.countP_cons_of_neg chosen] at single
      obtain nothing | ⟨other, member, taken, same⟩ := ih single
      · exact .inl (by simp [tally, chosen, nothing])
      · exact .inr ⟨other, List.mem_cons_of_mem _ member, taken, by simp [tally, chosen, same]⟩

theorem tally_of_map {Source : Type u} (change : Source → Row) (sources : List Source) :
    tally amount selected (sources.map change) =
      tally (fun source => amount (change source)) (fun source => selected (change source)) sources := by
  induction sources with
  | nil => rfl
  | cons source sources ih => simp [tally, ih]

theorem tally_map {change : Row → Row} (kept : ∀ row ∈ rows, amount (change row) = amount row) :
    tally amount selected (rows.map change) = tally amount (fun row => selected (change row)) rows := by
  rw [tally_of_map]
  exact Nat.le_antisymm (tally_le fun row member chosen => ⟨chosen, Nat.le_of_eq (kept row member)⟩)
    (tally_le fun row member chosen => ⟨chosen, Nat.le_of_eq (kept row member).symm⟩)

end AiOffice.Data
