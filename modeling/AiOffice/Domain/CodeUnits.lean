import AiOffice.Data.Sorting
import Mathlib.Data.List.Lex
import Mathlib.Data.Nat.Basic

namespace AiOffice.Domain

open Data

def charUnits (char : Char) : List Nat :=
  if char.toNat ≤ 0xFFFF then [char.toNat]
  else [0xD800 + (char.toNat - 0x10000) / 0x400, 0xDC00 + (char.toNat - 0x10000) % 0x400]

def codeUnits (value : String) : List Nat := value.toList.flatMap charUnits

private theorem toNat_inj {first second : Char} (same : first.toNat = second.toNat) : first = second :=
  Char.ext (UInt32.toNat_inj.mp same)

private theorem charUnits_append {first second : Char} {rest others : List Nat}
    (same : charUnits first ++ rest = charUnits second ++ others) : first = second ∧ rest = others := by
  have firstValid := first.valid
  have secondValid := second.valid
  simp only [UInt32.isValidChar, Nat.isValidChar] at firstValid secondValid
  change first.toNat < _ ∨ _ < first.toNat ∧ first.toNat < _ at firstValid
  change second.toNat < _ ∨ _ < second.toNat ∧ second.toNat < _ at secondValid
  unfold charUnits at same
  split at same <;> split at same <;> simp only [List.cons_append, List.nil_append, List.cons.injEq] at same
  · exact ⟨toNat_inj same.1, same.2⟩
  · omega
  · omega
  · exact ⟨toNat_inj (by omega), same.2.2⟩

private theorem charUnits_ne_nil (char : Char) : charUnits char ≠ [] := by
  unfold charUnits
  split <;> exact List.cons_ne_nil _ _

private theorem units_injective {left right : List Char} (same : left.flatMap charUnits = right.flatMap charUnits) :
    left = right := by
  induction left generalizing right with
  | nil =>
    cases right with
    | nil => rfl
    | cons char chars => exact absurd (List.append_eq_nil_iff.mp same.symm).1 (charUnits_ne_nil char)
  | cons first left ih =>
    cases right with
    | nil => exact absurd (List.append_eq_nil_iff.mp same).1 (charUnits_ne_nil first)
    | cons second right =>
      obtain ⟨rfl, rest⟩ := charUnits_append same
      rw [ih rest]

theorem codeUnits_injective : codeUnits.Injective :=
  fun _ _ same => String.toList_injective (units_injective same)

def sort (values : List String) : List String := sortOn codeUnits values

def sortedUnique (values : List String) : List String := sortedSet codeUnits values

end AiOffice.Domain
