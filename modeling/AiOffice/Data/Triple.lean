import AiOffice.Data.Method

namespace AiOffice.Data.Method

universe u

variable {Object Thrown Result Next : Type u}

/-- From an object with `before`, the method returns with `returns` or throws with `throws`. -/
def Triple (before : Object → Prop) (method : Method Object Thrown Result)
    (returns : Result → Object → Prop) (throws : Thrown → Object → Prop) : Prop :=
  ∀ object, before object →
    match call method object with
    | (.ok result, after) => returns result after
    | (.error thrown, after) => throws thrown after

variable {before stronger : Object → Prop} {method : Method Object Thrown Result}
  {returns weaker : Result → Object → Prop} {throws weakerThrows : Thrown → Object → Prop}

theorem Triple.pure {result : Result} (holds : ∀ object, before object → returns result object) :
    Triple before (pure result : Method Object Thrown Result) returns throws := holds

theorem Triple.throw {thrown : Thrown} (holds : ∀ object, before object → throws thrown object) :
    Triple before (throw thrown : Method Object Thrown Result) returns throws := holds

theorem Triple.modify {change : Object → Object} {returns : PUnit → Object → Prop}
    (holds : ∀ object, before object → returns ⟨⟩ (change object)) :
    Triple before (modify change : Method Object Thrown PUnit) returns throws := holds

theorem Triple.weaken (triple : Triple before method returns throws)
    (starts : ∀ object, stronger object → before object)
    (ends : ∀ result object, returns result object → weaker result object)
    (fails : ∀ thrown object, throws thrown object → weakerThrows thrown object) :
    Triple stronger method weaker weakerThrows := by
  intro object holds
  have after := triple object (starts object holds)
  cases outcome : call method object with
  | mk answer left =>
    rw [outcome] at after
    cases answer with
    | ok result => exact ends result left after
    | error thrown => exact fails thrown left after

theorem Triple.startingAt {object : Object} (triple : Triple before method returns throws) (holds : before object) :
    Triple (· = object) method returns throws := by
  rintro _ rfl
  exact triple _ holds

theorem Triple.total {object : Object} (triple : Triple before method returns fun _ _ => False) (holds : before object) :
    ∃ result after, call method object = (.ok result, after) ∧ returns result after := by
  have after := triple object holds
  cases outcome : call method object with
  | mk answer left =>
    rw [outcome] at after
    cases answer with
    | ok result => exact ⟨result, left, rfl, after⟩
    | error thrown => exact after.elim

theorem Triple.throwing (triple : Triple before method returns throws)
    (fails : ∀ thrown object, throws thrown object → weakerThrows thrown object) :
    Triple before method returns weakerThrows :=
  triple.weaken (fun _ holds => holds) (fun _ _ holds => holds) fails

theorem Triple.bind {between : Result → Object → Prop} {next : Result → Method Object Thrown Next}
    {returns : Next → Object → Prop} (first : Triple before method between throws)
    (rest : ∀ result, Triple (between result) (next result) returns throws) :
    Triple before (method >>= next) returns throws := by
  intro object holds
  have after := first object holds
  rw [call_bind]
  cases outcome : call method object with
  | mk answer left =>
    rw [outcome] at after
    cases answer with
    | ok result => exact rest result left after
    | error thrown => exact after

theorem Triple.seq (between : Result → Object → Prop) {next : Result → Method Object Thrown Next}
    {returns : Next → Object → Prop} (first : Triple before method between throws)
    (rest : ∀ result, Triple (between result) (next result) returns throws) :
    Triple before (method >>= next) returns throws :=
  first.bind rest

theorem Triple.get_bind {next : Object → Method Object Thrown Result}
    (rest : ∀ object, before object → Triple (· = object) (next object) returns throws) :
    Triple before (get >>= next) returns throws := by
  intro object holds
  rw [call_bind_ok (call_get object)]
  exact rest object holds object rfl

theorem Triple.ite {condition : Prop} [Decidable condition] {yes no : Method Object Thrown Result}
    (whenTrue : condition → Triple before yes returns throws)
    (whenFalse : ¬condition → Triple before no returns throws) :
    Triple before (if condition then yes else no) returns throws := by
  split
  · next holds => exact whenTrue holds
  · next fails => exact whenFalse fails

theorem call_tryCatch (method : Method Object Thrown Result) (handler : Thrown → Method Object Thrown Result)
    (object : Object) :
    call (tryCatch method handler) object =
      match call method object with
      | (.ok result, after) => (.ok result, after)
      | (.error thrown, after) => call (handler thrown) after := by
  unfold call
  change (ExceptT.tryCatch method handler) object = _
  cases outcome : method object with
  | mk answer after =>
    simp only [ExceptT.tryCatch, ExceptT.run, StateT.run, ExceptT.mk, bind, StateT.bind, outcome]
    cases answer <;> rfl

theorem Triple.tryCatch {caught : Thrown → Object → Prop} {handler : Thrown → Method Object Thrown Result}
    (tried : Triple before method returns caught)
    (handled : ∀ thrown, Triple (caught thrown) (handler thrown) returns throws) :
    Triple before (tryCatch method handler) returns throws := by
  intro object holds
  have after := tried object holds
  rw [call_tryCatch]
  cases outcome : call method object with
  | mk answer left =>
    rw [outcome] at after
    cases answer with
    | ok result => exact after
    | error thrown => exact handled thrown left after

/-- Run a body and then the clean-up, whose own error replaces what the body returned or threw. -/
def finallyDo (body : Method Object Thrown Result) (cleanUp : Method Object Thrown PUnit) :
    Method Object Thrown Result := do
  let outcome : Except Thrown Result ← tryCatch (Except.ok <$> body) fun thrown => pure (.error thrown)
  cleanUp
  lift outcome

theorem Triple.map {change : Result → Next} {returns : Next → Object → Prop}
    (triple : Triple before method (fun result => returns (change result)) throws) :
    Triple before (change <$> method) returns throws := by
  rw [← bind_pure_comp]
  exact triple.bind fun _ => .pure fun _ holds => holds

/-- What holds of how a method ended, and of the object then. -/
def Ended (returned : Result → Object → Prop) (threw : Thrown → Object → Prop) : Except Thrown Result → Object → Prop
  | .ok result => returned result
  | .error thrown => threw thrown

theorem Triple.finallyDo {body : Method Object Thrown Result} {cleanUp : Method Object Thrown PUnit}
    {returned : Result → Object → Prop} {threw : Thrown → Object → Prop}
    (tried : Triple before body returned threw)
    (afterReturn : ∀ result, Triple (returned result) cleanUp (fun _ => returns result) throws)
    (afterThrow : ∀ thrown, Triple (threw thrown) cleanUp (fun _ => throws thrown) throws) :
    Triple before (finallyDo body cleanUp) returns throws := by
  have mapped : Triple before (Except.ok <$> body) (Ended returned threw) threw := .map tried
  refine (mapped.tryCatch fun thrown => by exact .pure fun _ holds => holds).bind fun outcome => ?_
  cases outcome with
  | ok result => exact (afterReturn result).bind fun _ => .pure fun _ holds => holds
  | error thrown => exact (afterThrow thrown).bind fun _ => .throw fun _ holds => holds

end AiOffice.Data.Method

/-! Methods of a part of an object, and methods that follow one another. -/

namespace AiOffice.Data.Method

universe u

variable {Object Part Thrown Result : Type u}

def within (part : Object → Part) (replace : Object → Part → Object) (method : Method Part Thrown Result) :
    Method Object Thrown Result := do
  let object ← get
  match call method (part object) with
  | (.ok result, after) => do
    modify fun object => replace object after
    return result
  | (.error thrown, after) => do
    modify fun object => replace object after
    throw thrown

variable {part : Object → Part} {replace : Object → Part → Object} {method : Method Part Thrown Result} {object : Object}

theorem call_within : call (within part replace method) object =
    ((call method (part object)).1, replace object (call method (part object)).2) := by
  rw [within, call_bind_ok (call_get object)]
  cases outcome : call method (part object) with
  | mk answer after => cases answer <;> rfl

theorem Triple.within {before : Object → Prop} {returns : Result → Object → Prop} {throws : Thrown → Object → Prop}
    (triple : ∀ object, before object → Triple (· = part object) method
      (fun result after => returns result (replace object after)) (fun thrown after => throws thrown (replace object after))) :
    Triple before (within part replace method) returns throws := by
  intro object holds
  have after := triple object holds (part object) rfl
  rw [call_within]
  cases outcome : call method (part object) with
  | mk answer left =>
    rw [outcome] at after
    cases answer <;> exact after

theorem Triple.each {before : Object → Prop} {returns : Result → Object → Prop} {throws : Thrown → Object → Prop}
    {method : Method Object Thrown Result}
    (each : ∀ object, before object → Triple (· = object) method returns throws) : Triple before method returns throws :=
  fun object holds => each object holds object rfl

theorem modify_bind {Next : Type u} {change : Object → Object} {next : PUnit → Method Object Thrown Next}
    {returns : Next → Object → Prop} {throws : Thrown → Object → Prop}
    (rest : Triple (· = change object) (next ⟨⟩) returns throws) :
    Triple (· = object) (modify change >>= next) returns throws := by
  rintro _ rfl
  rw [call_bind_ok (call_modify change _)]
  exact rest _ rfl

def inOrder : List (Method Object Thrown PUnit) → Method Object Thrown PUnit
  | [] => pure ⟨⟩
  | step :: steps => do
    step
    inOrder steps

/-- If one of the steps throws, it does so as `throws` says of the object that this step began with. -/
def ThrowsOnly (throws : Object → Thrown → Object → Prop) : List (Method Object Thrown PUnit) → Object → Prop
  | [], _ => True
  | step :: steps, object =>
    match call step object with
    | (.ok _, after) => ThrowsOnly throws steps after
    | (.error thrown, after) => throws object thrown after

/-- What holds before each step makes it return with what holds before the next one, or throw as `fails`
says of the object that it began with. -/
inductive Chain (fails : Object → Thrown → Object → Prop) : (Object → Prop) → List (Method Object Thrown PUnit) → Prop
  | nil {before : Object → Prop} : Chain fails before []
  | cons {before between : Object → Prop} {step : Method Object Thrown PUnit} {steps : List (Method Object Thrown PUnit)}
      (first : ∀ object, before object → Triple (· = object) step (fun _ => between) (fails object))
      (rest : Chain fails between steps) : Chain fails before (step :: steps)

variable {steps : List (Method Object Thrown PUnit)} {fails : Object → Thrown → Object → Prop}
  {before : Object → Prop}

theorem Chain.all
    (keeps : ∀ step ∈ steps, ∀ object, before object → Triple (· = object) step (fun _ => before) (fails object)) :
    Chain fails before steps := by
  induction steps with
  | nil => exact .nil
  | cons step steps ih =>
    rw [List.forall_mem_cons] at keeps
    exact .cons keeps.1 (ih keeps.2)

theorem Chain.threw (throws : Object → Thrown → Object → Prop) (chain : Chain fails before steps) (holds : before object) {thrown : Thrown} {after : Object}
    (threw : call (inOrder steps) object = (.error thrown, after)) :
    ∃ began, fails began thrown after ∧ (ThrowsOnly throws steps object ↔ throws began thrown after) := by
  induction chain generalizing object with
  | nil => cases threw
  | cons first rest ih =>
    have ends := first _ holds object rfl
    rw [inOrder, call_bind] at threw
    rw [ThrowsOnly]
    split at ends
    · next outcome =>
      simp only [outcome] at threw ⊢
      exact ih ends threw
    · next outcome =>
      simp only [outcome] at threw ⊢
      cases threw
      exact ⟨object, ends, Iff.rfl⟩

end AiOffice.Data.Method
