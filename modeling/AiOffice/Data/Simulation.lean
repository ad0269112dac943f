import AiOffice.Data.Outcome

namespace AiOffice.Data

universe u v w x y

section Alike

variable {Error : Type u} {Result : Type v} {Other : Type w} {Next : Type v} {OtherNext : Type w}

/-- Two computations both throw, or both return results that are related. -/
inductive Alike (related : Result → Other → Prop) : Except Error Result → Except Error Other → Prop
  | returns {result : Result} {other : Other} (holds : related result other) : Alike related (.ok result) (.ok other)
  | throws {thrown otherThrown : Error} : Alike related (.error thrown) (.error otherThrown)

variable {related : Result → Other → Prop} {final : Next → OtherNext → Prop} {here : Except Error Result}
  {there : Except Error Other}

theorem Alike.of_eq {computed same : Except Error Result} {reflects : Result → Result → Prop}
    (equal : computed = same) (holds : ∀ result, reflects result result) : Alike reflects computed same := by
  subst equal
  cases computed with
  | ok result => exact .returns (holds result)
  | error => exact .throws

theorem Alike.bind {next : Result → Except Error Next} {otherNext : Other → Except Error OtherNext}
    (first : Alike related here there)
    (continues : ∀ result other, related result other → Alike final (next result) (otherNext other)) :
    Alike final (here >>= next) (there >>= otherNext) := by
  cases first with
  | returns holds => exact continues _ _ holds
  | throws => exact .throws

theorem Alike.map_left {change : Result → Next} {reached : Next → Other → Prop} (first : Alike related here there)
    (changes : ∀ result other, related result other → reached (change result) other) :
    Alike reached (here.map change) there := by
  cases first with
  | returns holds => exact .returns (changes _ _ holds)
  | throws => exact .throws

theorem Alike.guard {holds also : Prop} [Decidable holds] [Decidable also] {thrown otherThrown : Error}
    (same : holds ↔ also) (alike : ¬holds → Alike related here there) :
    Alike related (if holds then .error thrown else here) (if also then .error otherThrown else there) := by
  by_cases refused : holds
  · rw [if_pos refused, if_pos (same.mp refused)]
    exact .throws
  · rw [if_neg refused, if_neg fun also => refused (same.mpr also)]
    exact alike refused

end Alike

abbrev Machine (State : Type u) (Input : Type v) (Answer : Type w) (Error : Type x) :=
  State → Input → Except Error (Answer × State)

namespace Machine

variable {State : Type u} {Input : Type v} {Answer : Type w} {Error : Type x}

/-- The answers to a sequence of inputs, with nothing for one that is refused. -/
def answers (machine : Machine State Input Answer Error) : State → List Input → List (Option Answer)
  | _, [] => []
  | state, input :: inputs =>
    match machine state input with
    | .ok (answer, next) => some answer :: answers machine next inputs
    | .error _ => none :: answers machine state inputs

/-- Whether each input meets a condition, in the state that it is given in. -/
def Meets (machine : Machine State Input Answer Error) (condition : State → Input → Prop) : State → List Input → Prop
  | _, [] => True
  | state, input :: inputs =>
    condition state input ∧
      match machine state input with
      | .ok (_, next) => Meets machine condition next inputs
      | .error _ => Meets machine condition state inputs

variable {Other : Type y} {related : State → Other → Prop} {condition : State → Input → Prop}
  {first : Machine State Input Answer Error} {second : Machine Other Input Answer Error} {state : State} {other : Other}

def Answers (related : State → Other → Prop) (here : Answer × State) (there : Answer × Other) : Prop :=
  here.1 = there.1 ∧ related here.2 there.2

theorem answers_eq
    (alike : ∀ state other input, related state other → condition state input →
      Alike (Answers related) (first state input) (second other input))
    (relates : related state other) {inputs : List Input} (meets : first.Meets condition state inputs) :
    first.answers state inputs = second.answers other inputs := by
  induction inputs generalizing state other with
  | nil => rfl
  | cons input inputs ih =>
    obtain ⟨holds, later⟩ := meets
    have steps := alike state other input relates holds
    unfold answers
    generalize first state input = here at steps later
    generalize second other input = there at steps
    cases steps with
    | @returns result reached after =>
      obtain ⟨answer, next⟩ := result
      obtain ⟨otherAnswer, otherNext⟩ := reached
      obtain ⟨rfl, relates⟩ : answer = otherAnswer ∧ related next otherNext := after
      exact congrArg _ (ih relates later)
    | throws => exact congrArg _ (ih relates later)

end Machine

end AiOffice.Data
