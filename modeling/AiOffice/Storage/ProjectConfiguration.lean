import AiOffice.Application.DomainPack.ResolveProjectConfiguration
import AiOffice.Data.Method

namespace AiOffice.Storage.ProjectConfiguration

open Data Domain Application.DomainPack DomainPackContracts

structure ConfigurationTables where
  projectId : String
  exists_ : Bool
  bindingHead : Option Int
  packs : List PackIdentity
  definitionHead : Option Int
  owned : List ProjectOwnedDefinition
  overrides : List ProjectDefinitionOverride

inductive StoreError
  | staleBinding (actualRevision : Int)
  | staleDefinitions (actualRevision : Int)
  | constraintViolated

abbrev StoreMethod (Result : Type) := Method ConfigurationTables StoreError Result

namespace ConfigurationTables

variable (tables : ConfigurationTables)

def binding : ProjectPackBinding :=
  ⟨tables.projectId, tables.bindingHead.getD 0, sortOn (fun pack => codeUnits pack.id) tables.packs⟩

def definitions : ProjectDefinitionState :=
  ⟨tables.projectId, tables.definitionHead.getD 0, sortOn ownedOrder tables.owned,
    sortOn (fun entry => sourceOrder entry.source) tables.overrides⟩

structure Keyed : Prop where
  packs : (tables.packs.map DomainPackDependency.id).Nodup
  owned : (tables.owned.map fun entry => (entry.kind, entry.id)).Nodup
  overrides : (tables.overrides.map ProjectDefinitionOverride.source).Nodup

end ConfigurationTables

def require (condition : Bool) (thrown : StoreError) : StoreMethod Unit := if condition then pure () else throw thrown

def ensured (tables : ConfigurationTables) (head : Option Int) : Option Int :=
  if tables.exists_ then some (head.getD 0) else head

section Binding

variable {Key : Type} [LinearOrder Key] (collation : String → Key)

/-- The packs in the order of `localeCompare` on this host. -/
def localeSorted (packs : List PackIdentity) : List PackIdentity := sortOn (fun pack => collation pack.id) packs

def replaceBinding (expectedRevision : Int) (packs : List PackIdentity) : StoreMethod (ProjectPackBinding × Bool) :=
  Method.transaction do
    modify fun tables => { tables with bindingHead := ensured tables tables.bindingHead }
    let tables ← get
    require (tables.binding.configurationRevision = expectedRevision) (.staleBinding tables.binding.configurationRevision)
    let desired := localeSorted collation packs
    if tables.binding.packs = desired then return (tables.binding, false)
    else do
      require (tables.bindingHead = some expectedRevision) (.staleBinding tables.binding.configurationRevision)
      require (desired.map DomainPackDependency.id).Nodup .constraintViolated
      modify fun tables => { tables with bindingHead := some (expectedRevision + 1), packs := desired }
      return (⟨tables.projectId, expectedRevision + 1, desired⟩, true)

end Binding

/-- Replace the definitions of a project. The other checks of the tables accept them or not. -/
def replaceDefinitions (checks : ProjectDefinitionState → Bool) (state : ProjectDefinitionState) (expectedRevision : Int) :
    StoreMethod ProjectDefinitionState :=
  Method.transaction do
    modify fun tables => { tables with definitionHead := ensured tables tables.definitionHead }
    let tables ← get
    require (tables.definitions.revision = expectedRevision) (.staleDefinitions tables.definitions.revision)
    require (tables.definitionHead = some expectedRevision) (.staleDefinitions tables.definitions.revision)
    require ((state.owned.map fun entry => (entry.kind, entry.id)).Nodup &&
      (state.overrides.map ProjectDefinitionOverride.source).Nodup && checks state) .constraintViolated
    modify fun tables =>
      { tables with definitionHead := some (expectedRevision + 1), owned := state.owned, overrides := state.overrides }
    return { state with
      revision := expectedRevision + 1
      owned := sortOn ownedOrder state.owned
      overrides := sortOn (fun entry => sourceOrder entry.source) state.overrides }

variable {tables after : ConfigurationTables} {expectedRevision : Int} {condition : Bool} {thrown : StoreError}

theorem require_returned {done : Unit} (passed : Method.call (require condition thrown) tables = (.ok done, after)) :
    condition = true ∧ after = tables := by
  cases condition with
  | true =>
    cases passed
    exact ⟨rfl, rfl⟩
  | false => cases passed

@[simp] theorem ensured_revision (tables : ConfigurationTables) (head : Option Int) :
    (ensured tables head).getD 0 = head.getD 0 := by
  unfold ensured
  split <;> rfl

/-- What a replacement of a selection does: nothing when the selection is the same, else a new revision. -/
theorem replaceBinding_returned {Key : Type} [LinearOrder Key] {collation : String → Key} {packs : List PackIdentity}
    {result : ProjectPackBinding × Bool}
    (replaced : Method.call (replaceBinding collation expectedRevision packs) tables = (.ok result, after)) :
    tables.binding.configurationRevision = expectedRevision ∧
      ((tables.binding.packs = localeSorted collation packs ∧ result = (tables.binding, false) ∧
          after = { tables with bindingHead := ensured tables tables.bindingHead }) ∨
        (tables.binding.packs ≠ localeSorted collation packs ∧
          result = (⟨tables.projectId, expectedRevision + 1, localeSorted collation packs⟩, true) ∧
          ((localeSorted collation packs).map DomainPackDependency.id).Nodup ∧
          after = { tables with bindingHead := some (expectedRevision + 1), packs := localeSorted collation packs })) := by
  have steps := Method.transaction_returned replaced
  obtain ⟨⟨⟩, first, ensures, steps⟩ := Method.call_bind_returns steps
  rw [Method.call_modify] at ensures
  cases ensures
  obtain ⟨current, second, read, steps⟩ := Method.call_bind_returns steps
  cases read
  obtain ⟨⟨⟩, third, checked, steps⟩ := Method.call_bind_returns steps
  obtain ⟨fresh, rfl⟩ := require_returned checked
  have revision : tables.binding.configurationRevision = expectedRevision := by
    simpa [ConfigurationTables.binding] using fresh
  refine ⟨revision, ?_⟩
  rw [Method.call_ite] at steps
  split at steps
  · next same =>
    cases steps
    refine .inl ⟨same, ?_, rfl⟩
    simp [ConfigurationTables.binding]
  · next different =>
    obtain ⟨⟨⟩, fourth, headed, steps⟩ := Method.call_bind_returns steps
    obtain ⟨-, rfl⟩ := require_returned headed
    obtain ⟨⟨⟩, fifth, inserted, steps⟩ := Method.call_bind_returns steps
    obtain ⟨keyed, rfl⟩ := require_returned inserted
    cases steps
    exact .inr ⟨different, rfl, of_decide_eq_true keyed, rfl⟩

theorem replaceDefinitions_returned {checks : ProjectDefinitionState → Bool} {state result : ProjectDefinitionState}
    (replaced : Method.call (replaceDefinitions checks state expectedRevision) tables = (.ok result, after)) :
    tables.definitions.revision = expectedRevision ∧
      (state.owned.map fun entry => (entry.kind, entry.id)).Nodup ∧
      (state.overrides.map ProjectDefinitionOverride.source).Nodup ∧
      result = { state with
        revision := expectedRevision + 1
        owned := sortOn ownedOrder state.owned
        overrides := sortOn (fun entry => sourceOrder entry.source) state.overrides } ∧
      after = { tables with
        definitionHead := some (expectedRevision + 1), owned := state.owned, overrides := state.overrides } := by
  have steps := Method.transaction_returned replaced
  obtain ⟨⟨⟩, first, ensures, steps⟩ := Method.call_bind_returns steps
  rw [Method.call_modify] at ensures
  cases ensures
  obtain ⟨current, second, read, steps⟩ := Method.call_bind_returns steps
  cases read
  obtain ⟨⟨⟩, third, checked, steps⟩ := Method.call_bind_returns steps
  obtain ⟨fresh, rfl⟩ := require_returned checked
  obtain ⟨⟨⟩, fourth, headed, steps⟩ := Method.call_bind_returns steps
  obtain ⟨-, rfl⟩ := require_returned headed
  obtain ⟨⟨⟩, fifth, inserted, steps⟩ := Method.call_bind_returns steps
  obtain ⟨accepted, rfl⟩ := require_returned inserted
  cases steps
  simp only [Bool.and_eq_true, decide_eq_true_eq] at accepted
  have revision : tables.definitions.revision = expectedRevision := by
    simpa [ConfigurationTables.definitions] using fresh
  exact ⟨revision, accepted.1.1, accepted.1.2, rfl, rfl⟩

end AiOffice.Storage.ProjectConfiguration
