import AiOffice.Data.Outcome

namespace AiOffice.Data.Loop

open Outcome

universe u v

variable {Item : Type u} {State Error : Type v} {step : Item → State → Except Error (ForInStep State)}
  {items : List Item} {state last : State}

/-- Where a loop ends that may break: at a state that its steps keep, after all items, or at one that a
breaking step leaves. -/
theorem forIn_ends {known : List Item → State → Prop} {left : State → Prop}
    (yields : ∀ done item rest state next, done ++ item :: rest = items → known done state →
      step item state = .ok (.yield next) → known (done ++ [item]) next)
    (breaks : ∀ done item rest state next, done ++ item :: rest = items → known done state →
      step item state = .ok (.done next) → left next)
    (starts : known [] state) (returned : forIn items state step = .ok last) : known items last ∨ left last := by
  suffices general : ∀ rest done state, done ++ rest = items → known done state →
      forIn rest state step = .ok last → known items last ∨ left last from general items [] state rfl starts returned
  intro rest
  induction rest with
  | nil =>
    intro done state placed holds returned
    rw [List.forIn_nil] at returned
    cases returned
    rw [List.append_nil] at placed
    exact .inl (placed ▸ holds)
  | cons item rest ih =>
    intro done state placed holds returned
    rw [List.forIn_cons] at returned
    obtain ⟨taken, computed, returned⟩ := bind_ok returned
    cases taken with
    | done next =>
      cases returned
      exact .inr (breaks done item rest state _ placed holds computed)
    | yield next =>
      refine ih (done ++ [item]) next ?_ (yields done item rest state next placed holds computed) returned
      rw [List.append_assoc, List.singleton_append, placed]

end AiOffice.Data.Loop
