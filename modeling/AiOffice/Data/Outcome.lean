import Mathlib.Tactic.Common

namespace AiOffice.Data.Outcome

universe u v

variable {Error : Type u} {Result Next : Type v}

theorem bind_ok {first : Except Error Result} {next : Result → Except Error Next} {final : Next}
    (succeeded : (first >>= next) = .ok final) :
    ∃ result, first = .ok result ∧ next result = .ok final := by
  cases first with
  | ok result => exact ⟨result, rfl, succeeded⟩
  | error thrown => cases succeeded

theorem map_ok {first : Except Error Result} {change : Result → Next} {final : Next}
    (succeeded : first.map change = .ok final) : ∃ result, first = .ok result ∧ change result = final := by
  cases first with
  | ok result => exact ⟨result, rfl, Except.ok.inj succeeded⟩
  | error thrown => cases succeeded

theorem guard_ok {condition : Prop} [Decidable condition] {thrown : Error}
    {next : Except Error Next} {final : Next}
    (succeeded : (if condition then .error thrown else next) = .ok final) :
    ¬condition ∧ next = .ok final := by
  split at succeeded
  · cases succeeded
  · next passed => exact ⟨passed, succeeded⟩

theorem bind_returns {first : Except Error Result} {next : Result → Except Error Next} {result : Result}
    (returned : first = .ok result) : (first >>= next) = next result := by
  rw [returned]
  rfl

theorem mapM_ok {Item : Type u} {read : Item → Except Error Result} {items : List Item} {results : List Result}
    (returned : items.mapM read = .ok results) : List.Forall₂ (fun item result => read item = .ok result) items results := by
  induction items generalizing results with
  | nil => cases returned; exact .nil
  | cons item items ih =>
    rw [List.mapM_cons] at returned
    obtain ⟨result, first, returned⟩ := bind_ok returned
    obtain ⟨others, later, returned⟩ := bind_ok returned
    cases returned
    exact .cons first (ih later)

theorem mapM_mem {Item : Type u} {read : Item → Except Error Result} {items : List Item} {results : List Result}
    (returned : items.mapM read = .ok results) {result : Result} (member : result ∈ results) :
    ∃ item ∈ items, read item = .ok result := by
  have each := mapM_ok returned
  clear returned
  induction each with
  | nil => cases member
  | cons first _ ih =>
    rcases List.mem_cons.mp member with rfl | later
    · exact ⟨_, List.mem_cons_self, first⟩
    · obtain ⟨item, inItems, computed⟩ := ih later
      exact ⟨item, List.mem_cons_of_mem _ inItems, computed⟩

theorem mapM_covers {Item : Type u} {read : Item → Except Error Result} {items : List Item} {results : List Result}
    (returned : items.mapM read = .ok results) {item : Item} (member : item ∈ items) :
    ∃ result ∈ results, read item = .ok result := by
  have each := mapM_ok returned
  clear returned
  induction each with
  | nil => cases member
  | cons first _ ih =>
    rcases List.mem_cons.mp member with rfl | later
    · exact ⟨_, List.mem_cons_self, first⟩
    · obtain ⟨result, inResults, computed⟩ := ih later
      exact ⟨result, List.mem_cons_of_mem _ inResults, computed⟩

theorem mapM_keys {Item : Type u} {Key : Type v} {read : Item → Except Error Result} {items : List Item}
    {results : List Result} {key : Item → Key} {resultKey : Result → Key}
    (returned : items.mapM read = .ok results)
    (kept : ∀ item result, read item = .ok result → resultKey result = key item) :
    results.map resultKey = items.map key := by
  have each := mapM_ok returned
  clear returned
  induction each with
  | nil => rfl
  | cons first _ ih => rw [List.map_cons, List.map_cons, ih, kept _ _ first]

theorem mapM_returns {Item : Type u} {read : Item → Except Error Result} {items : List Item} {results : List Result}
    (each : List.Forall₂ (fun item result => read item = .ok result) items results) : items.mapM read = .ok results := by
  induction each with
  | nil => rfl
  | cons first later ih => rw [List.mapM_cons, bind_returns first, bind_returns ih]; rfl

theorem mapM_total {Item : Type u} {read : Item → Except Error Result} {items : List Item}
    (each : ∀ item ∈ items, ∃ result, read item = .ok result) : ∃ results, items.mapM read = .ok results := by
  induction items with
  | nil => exact ⟨[], rfl⟩
  | cons item items ih =>
    obtain ⟨result, first⟩ := each item List.mem_cons_self
    obtain ⟨results, later⟩ := ih fun other member => each other (List.mem_cons_of_mem item member)
    exact ⟨result :: results, by rw [List.mapM_cons, bind_returns first, bind_returns later]; rfl⟩

theorem mapM_perm {Item : Type u} {read : Item → Except Error Result} {items others : List Item} {results : List Result}
    (reordered : items.Perm others) (returned : items.mapM read = .ok results) :
    ∃ again, others.mapM read = .ok again ∧ results.Perm again := by
  induction reordered generalizing results with
  | nil => exact ⟨results, returned, .refl results⟩
  | cons item _ ih =>
    rw [List.mapM_cons] at returned
    obtain ⟨result, first, returned⟩ := bind_ok returned
    obtain ⟨rest, later, returned⟩ := bind_ok returned
    cases returned
    obtain ⟨again, returnedAgain, same⟩ := ih later
    exact ⟨result :: again, by rw [List.mapM_cons, bind_returns first, bind_returns returnedAgain]; rfl, same.cons result⟩
  | swap first second items =>
    simp only [List.mapM_cons] at returned
    obtain ⟨secondResult, ofSecond, returned⟩ := bind_ok returned
    obtain ⟨inner, returned, last⟩ := bind_ok returned
    obtain ⟨firstResult, ofFirst, returned⟩ := bind_ok returned
    obtain ⟨rest, later, returned⟩ := bind_ok returned
    cases returned
    cases last
    refine ⟨firstResult :: secondResult :: rest, ?_, List.Perm.swap firstResult secondResult rest⟩
    simp only [List.mapM_cons]
    rw [bind_returns ofFirst, ofSecond]
    exact bind_returns (bind_returns later)
  | trans _ _ ihFirst ihSecond =>
    obtain ⟨middle, returnedMiddle, first⟩ := ihFirst returned
    obtain ⟨again, returnedAgain, second⟩ := ihSecond returnedMiddle
    exact ⟨again, returnedAgain, first.trans second⟩

theorem foldlM_ends {State Item : Type v} {update : State → Item → Except Error State} {items : List Item}
    {thrown : Error} {reason : Prop} (state : Nat → State)
    (step : ∀ (index : Nat) (item : Item), items[index]? = some item →
      update (state index) item = .ok (state (index + 1)) ∨ update (state index) item = .error thrown ∧ reason) :
    items.foldlM update (state 0) = .ok (state items.length) ∨
      items.foldlM update (state 0) = .error thrown ∧ reason := by
  induction items generalizing state with
  | nil => exact .inl rfl
  | cons item items ih =>
    rw [List.foldlM_cons]
    rcases step 0 item rfl with returned | ⟨threw, because⟩
    · rw [bind_returns returned]
      exact ih (fun index => state (index + 1)) fun index later found => step (index + 1) later found
    · rw [threw]
      exact .inr ⟨rfl, because⟩

theorem foldlM_returns {State Item : Type v} {update : State → Item → Except Error State} {items : List Item}
    {state : State} {known : State → Prop}
    (step : ∀ state, ∀ item ∈ items, known state → ∃ next, update state item = .ok next ∧ known next)
    (starts : known state) : ∃ last, items.foldlM update state = .ok last ∧ known last := by
  induction items generalizing state with
  | nil => exact ⟨state, rfl, starts⟩
  | cons item items ih =>
    obtain ⟨next, returned, holds⟩ := step state item List.mem_cons_self starts
    rw [List.foldlM_cons, bind_returns returned]
    exact ih (fun state item member => step state item (List.mem_cons_of_mem _ member)) holds

def Throws (allowed : Error → Prop) (computed : Except Error Result) : Prop :=
  ∀ thrown, computed = .error thrown → allowed thrown

variable {allowed : Error → Prop}

theorem Throws.ok (result : Result) : Throws allowed (.ok result : Except Error Result) := nofun

theorem Throws.error {thrown : Error} (holds : allowed thrown) :
    Throws allowed (.error thrown : Except Error Result) := fun _ same => Except.error.inj same ▸ holds

theorem Throws.bind {first : Except Error Result} {next : Result → Except Error Next}
    (starts : Throws allowed first) (rest : ∀ result, first = .ok result → Throws allowed (next result)) :
    Throws allowed (first >>= next) := by
  cases first with
  | ok result => exact rest result rfl
  | error thrown => exact .error (starts thrown rfl)

theorem Throws.ite {condition : Prop} [Decidable condition] {yes no : Except Error Result}
    (whenTrue : condition → Throws allowed yes) (whenFalse : ¬condition → Throws allowed no) :
    Throws allowed (if condition then yes else no) := by
  split
  · next holds => exact whenTrue holds
  · next fails => exact whenFalse fails

end AiOffice.Data.Outcome
