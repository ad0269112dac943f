import Mathlib.Tactic.Common

namespace AiOffice.Data

universe u

/-- A method of a mutable object. What it throws is returned beside the object it
leaves behind, so a mutation made before the throw is kept. -/
abbrev Method (Object Thrown : Type u) := ExceptT Thrown (StateM Object)

namespace Method

variable {Object Thrown Result Next : Type u}

def call (method : Method Object Thrown Result) (object : Object) : Except Thrown Result × Object :=
  method.run.run object

@[simp] theorem call_pure (result : Result) (object : Object) :
    call (pure result : Method Object Thrown Result) object = (.ok result, object) := rfl

@[simp] theorem call_throw (thrown : Thrown) (object : Object) :
    call (throw thrown : Method Object Thrown Result) object = (.error thrown, object) := rfl

@[simp] theorem call_get (object : Object) :
    call (get : Method Object Thrown Object) object = (.ok object, object) := rfl

@[simp] theorem call_modify (change : Object → Object) (object : Object) :
    call (modify change : Method Object Thrown PUnit) object = (.ok ⟨⟩, change object) := rfl

@[simp] theorem call_ite (condition : Prop) [Decidable condition]
    (yes no : Method Object Thrown Result) (object : Object) :
    call (if condition then yes else no) object =
      if condition then call yes object else call no object := by
  split <;> rfl

theorem call_bind (first : Method Object Thrown Result) (next : Result → Method Object Thrown Next)
    (object : Object) :
    call (first >>= next) object =
      match call first object with
      | (.ok result, after) => call (next result) after
      | (.error thrown, after) => (.error thrown, after) := by
  unfold call
  change StateT.bind first (ExceptT.bindCont next) object = _
  simp only [StateT.bind, bind]
  cases outcome : first object with
  | mk result after =>
    cases result with
    | ok result => simp [ExceptT.run, StateT.run, outcome, ExceptT.bindCont]
    | error thrown =>
      simp only [ExceptT.run, StateT.run, outcome, ExceptT.bindCont]
      rfl

@[simp] theorem call_map (change : Result → Next) (method : Method Object Thrown Result) (object : Object) :
    call (change <$> method) object =
      match call method object with
      | (.ok result, after) => (.ok (change result), after)
      | (.error thrown, after) => (.error thrown, after) := by
  rw [← bind_pure_comp, call_bind]
  rfl

def lift (computed : Except Thrown Result) : Method Object Thrown Result :=
  match computed with
  | .ok result => pure result
  | .error thrown => throw thrown

@[simp] theorem call_lift (computed : Except Thrown Result) (object : Object) :
    call (lift computed : Method Object Thrown Result) object = (computed, object) := by
  cases computed <;> rfl

theorem call_bind_ok {first : Method Object Thrown Result} {next : Result → Method Object Thrown Next}
    {object after : Object} {result : Result} (returned : call first object = (.ok result, after)) :
    call (first >>= next) object = call (next result) after := by
  rw [call_bind, returned]

theorem call_bind_error {first : Method Object Thrown Result} {next : Result → Method Object Thrown Next}
    {object after : Object} {thrown : Thrown} (threw : call first object = (.error thrown, after)) :
    call (first >>= next) object = (.error thrown, after) := by
  rw [call_bind, threw]

theorem call_bind_returns {first : Method Object Thrown Result} {next : Result → Method Object Thrown Next}
    {object after : Object} {result : Next} (returned : call (first >>= next) object = (.ok result, after)) :
    ∃ middle between, call first object = (.ok middle, between) ∧
      call (next middle) between = (.ok result, after) := by
  rw [call_bind] at returned
  cases outcome : call first object with
  | mk answer between =>
    rw [outcome] at returned
    cases answer with
    | ok middle => exact ⟨middle, between, rfl, returned⟩
    | error thrown => cases returned

def attempt (method : Method Object Thrown Result) (object : Object) : Except Thrown (Result × Object) :=
  match call method object with
  | (.ok result, after) => .ok (result, after)
  | (.error thrown, _) => .error thrown

theorem attempt_ok_iff {method : Method Object Thrown Result} {object after : Object} {result : Result} :
    attempt method object = .ok (result, after) ↔ call method object = (.ok result, after) := by
  unfold attempt
  cases outcome : call method object with
  | mk answer left => cases answer <;> simp

def adapt {Other : Type u} (change : Thrown → Other) (method : Method Object Thrown Result) : Method Object Other Result :=
  ExceptT.adapt change method

theorem call_adapt {Other : Type u} (change : Thrown → Other) (method : Method Object Thrown Result) (object : Object) :
    call (adapt change method) object = ((call method object).1.mapError change, (call method object).2) := rfl

theorem adapt_returned {Other : Type u} {change : Thrown → Other} {method : Method Object Thrown Result}
    {object after : Object} {result : Result} (returned : call (adapt change method) object = (.ok result, after)) :
    call method object = (.ok result, after) := by
  rw [call_adapt] at returned
  cases outcome : call method object with
  | mk answer left =>
    rw [outcome] at returned
    cases answer <;> cases returned
    rfl

def transaction (method : Method Object Thrown Result) : Method Object Thrown Result := do
  let before ← get
  match call method before with
  | (.ok result, after) => do
    set after
    return result
  | (.error thrown, _) => throw thrown

theorem call_transaction (method : Method Object Thrown Result) (object : Object) :
    call (transaction method) object =
      match call method object with
      | (.ok result, after) => (.ok result, after)
      | (.error thrown, _) => (.error thrown, object) := by
  unfold transaction
  rw [call_bind, call_get]
  dsimp only
  cases call method object with
  | mk answer after => cases answer <;> rfl

theorem transaction_threw {method : Method Object Thrown Result} {object after : Object} {thrown : Thrown}
    (threw : call (transaction method) object = (.error thrown, after)) : after = object := by
  rw [call_transaction] at threw
  split at threw <;> cases threw
  rfl

theorem transaction_returned {method : Method Object Thrown Result} {object after : Object} {result : Result}
    (returned : call (transaction method) object = (.ok result, after)) : call method object = (.ok result, after) := by
  rw [call_transaction] at returned
  split at returned
  · next outcome =>
    cases returned
    exact outcome
  · cases returned

/-- A call throws and leaves the object as it was, or returns with the effect. -/
def Ends (method : Method Object Thrown Result) (object : Object)
    (effect : Result → Object → Prop) : Prop :=
  (∃ thrown, call method object = (.error thrown, object)) ∨
    ∃ result after, call method object = (.ok result, after) ∧ effect result after

variable {method : Method Object Thrown Result} {object after : Object} {effect : Result → Object → Prop}

theorem Ends.throws {thrown : Thrown} (threw : call method object = (.error thrown, object)) :
    Ends method object effect := .inl ⟨thrown, threw⟩

theorem Ends.returns {result : Result} (returned : call method object = (.ok result, after))
    (holds : effect result after) : Ends method object effect := .inr ⟨result, after, returned, holds⟩

theorem Ends.throw (thrown : Thrown) :
    Ends (throw thrown : Method Object Thrown Result) object effect := .throws (call_throw thrown object)

theorem Ends.lift {computed : Except Thrown Result}
    (holds : ∀ result, computed = .ok result → effect result object) :
    Ends (Method.lift computed) object effect := by
  cases computed with
  | ok result => exact .returns (call_pure result object) (holds result rfl)
  | error thrown => exact .throw thrown

theorem Ends.ite {condition : Prop} [Decidable condition] {yes no : Method Object Thrown Result}
    (whenTrue : condition → Ends yes object effect) (whenFalse : ¬condition → Ends no object effect) :
    Ends (if condition then yes else no) object effect := by
  split
  · next holds => exact whenTrue holds
  · next fails => exact whenFalse fails

theorem Ends.bind {next : Result → Method Object Thrown Next} {established : Result → Prop}
    {effect : Next → Object → Prop}
    (first : Ends method object fun result after => after = object ∧ established result)
    (rest : ∀ result, established result → Ends (next result) object effect) :
    Ends (method >>= next) object effect := by
  obtain ⟨thrown, threw⟩ | ⟨result, after, returned, rfl, holds⟩ := first
  · exact .throws (call_bind_error threw)
  · obtain ⟨thrown, threw⟩ | ⟨answer, final, answered, achieved⟩ := rest result holds
    · exact .throws ((call_bind_ok returned).trans threw)
    · exact .returns ((call_bind_ok returned).trans answered) achieved

theorem Ends.get_bind {next : Object → Method Object Thrown Result}
    (rest : Ends (next object) object effect) : Ends (get >>= next) object effect := by
  have step : call (get >>= next) object = call (next object) object :=
    call_bind_ok (call_get object)
  obtain ⟨thrown, threw⟩ | ⟨result, after, returned, achieved⟩ := rest
  · exact .throws (step.trans threw)
  · exact .returns (step.trans returned) achieved

theorem Ends.then_pure {answer : Result → Next} {effect : Next → Object → Prop}
    (first : Ends method object fun result after => effect (answer result) after) :
    Ends (method >>= fun result => pure (answer result)) object effect := by
  obtain ⟨thrown, threw⟩ | ⟨result, after, returned, achieved⟩ := first
  · exact .throws (call_bind_error threw)
  · exact .returns ((call_bind_ok returned).trans (call_pure (answer result) after)) achieved

end Method
end AiOffice.Data
