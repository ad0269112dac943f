import Mathlib.Tactic.Common

namespace AiOffice.Transition

universe u v

variable {State : Type u} {Label : Type v} {step weaker : State → Label → State → Prop}
  {start middle final : State} {labels later : List Label}

/-- The finite runs of a labelled step relation. The labels stand in the order of the steps. -/
inductive Run (step : State → Label → State → Prop) (start : State) : List Label → State → Prop
  | nil : Run step start [] start
  | snoc {labels label before after} (earlier : Run step start labels before)
      (last : step before label after) : Run step start (labels ++ [label]) after

def Reachable (step : State → Label → State → Prop) (start state : State) : Prop :=
  ∃ labels, Run step start labels state

theorem Run.invariant (run : Run step start labels final) (holds : State → Prop) (initially : holds start)
    (kept : ∀ before label after, holds before → step before label after → holds after) : holds final := by
  induction run with
  | nil => exact initially
  | snoc _ last ih => exact kept _ _ _ ih last

theorem Reachable.invariant (reached : Reachable step start final) (holds : State → Prop)
    (initially : holds start)
    (kept : ∀ before label after, holds before → step before label after → holds after) : holds final := by
  obtain ⟨labels, run⟩ := reached
  exact run.invariant holds initially kept

theorem Reachable.refl (start : State) : Reachable step start start := ⟨[], .nil⟩

theorem Reachable.snoc {label : Label} (reached : Reachable step start middle)
    (last : step middle label final) : Reachable step start final := by
  obtain ⟨labels, run⟩ := reached
  exact ⟨labels ++ [label], run.snoc last⟩

theorem Run.weaken (run : Run step start labels final)
    (allowed : ∀ before label after, step before label after → weaker before label after) :
    Run weaker start labels final := by
  induction run with
  | nil => exact .nil
  | snoc _ last ih => exact ih.snoc (allowed _ _ _ last)

theorem Run.append (first : Run step start labels middle) (second : Run step middle later final) :
    Run step start (labels ++ later) final := by
  induction second with
  | nil => simpa using first
  | snoc _ last ih =>
    rw [← List.append_assoc]
    exact ih.snoc last

theorem Run.cons {label : Label} (first : step start label middle) (rest : Run step middle later final) :
    Run step start (label :: later) final :=
  Run.append (Run.nil.snoc first) rest

end AiOffice.Transition
