import AiOffice.Data.Outcome
import AiOffice.Domain.CodeUnits
import AiOffice.Domain.Text

namespace AiOffice.Domain

open Data

/-- A value made of plain data. Minus zero is zero; `unsupported` is a function, a symbol or a bigint. -/
inductive Value
  | undefined
  | null
  | boolean (value : Bool)
  | number (value : Rat)
  | notFinite
  | string (value : String)
  | array (items : List Value)
  | object (entries : List (String × Value))
  | unsupported (kind : String)

abbrev Record := List (String × Value)

def Record.get (record : Record) (key : String) : Value := (record.lookup key).getD .undefined

namespace CanonicalJson

def forbiddenObjectKeys : List String := ["__proto__", "constructor", "prototype"]

def serialization (path message : String) : Thrown :=
  ⟨.canonicalSerializationError, s!"Cannot canonicalize {path}: {message}"⟩

def settle (entry : String × Except Thrown Value) : Except Thrown (String × Value) :=
  entry.2.map fun value => (entry.1, value)

mutual

def normalize (path : String) : Value → Except Thrown Value
  | .null => .ok .null
  | .boolean value => .ok (.boolean value)
  | .string value => .ok (.string value)
  | .number value => .ok (.number value)
  | .notFinite => .error (serialization path "non-finite numbers are forbidden")
  | .undefined => .error (serialization path "undefined is forbidden")
  | .unsupported kind => .error (serialization path s!"{kind} values are forbidden")
  | .array items => (normalizeItems path 0 items).map .array
  | .object entries =>
    -- The entries are visited in the order of their keys: the first that fails is thrown.
    ((sortOn (codeUnits ·.1) (normalizeEntries path entries)).mapM settle).map .object

def normalizeItems (path : String) (index : Nat) : List Value → Except Thrown (List Value)
  | [] => .ok []
  | item :: items => do
    let first ← normalize s!"{path}[{index}]" item
    let rest ← normalizeItems path (index + 1) items
    return first :: rest

def normalizeEntries (path : String) : List (String × Value) → List (String × Except Thrown Value)
  | [] => []
  | entry :: entries =>
    let outcome :=
      if entry.1 ∈ forbiddenObjectKeys then
        .error (serialization s!"{path}.{entry.1}" "prototype-sensitive keys are forbidden")
      else normalize s!"{path}.{entry.1}" entry.2
    (entry.1, outcome) :: normalizeEntries path entries

end

def Normalizes (value : Value) : Prop := ∀ path, ∃ normalized, normalize path value = .ok normalized

variable {items : List Value} {entries : List (String × Value)}

theorem normalizeItems_total (each : ∀ item ∈ items, Normalizes item) (path : String) (index : Nat) :
    ∃ normalized, normalizeItems path index items = .ok normalized := by
  induction items generalizing index with
  | nil => exact ⟨[], rfl⟩
  | cons item items ih =>
    obtain ⟨first, normalized⟩ := each item List.mem_cons_self s!"{path}[{index}]"
    obtain ⟨rest, later⟩ := ih (fun other member => each other (List.mem_cons_of_mem item member)) (index + 1)
    exact ⟨first :: rest, by rw [normalizeItems, Outcome.bind_returns normalized, Outcome.bind_returns later]; rfl⟩

theorem Normalizes.array (each : ∀ item ∈ items, Normalizes item) : Normalizes (.array items) := by
  intro path
  obtain ⟨normalized, returned⟩ := normalizeItems_total each path 0
  exact ⟨.array normalized, by rw [normalize, returned]; rfl⟩

theorem normalizeEntries_total (each : ∀ entry ∈ entries, entry.1 ∉ forbiddenObjectKeys ∧ Normalizes entry.2)
    (path : String) : ∀ entry ∈ normalizeEntries path entries, ∃ settled, settle entry = .ok settled := by
  induction entries with
  | nil => simp [normalizeEntries]
  | cons entry entries ih =>
    obtain ⟨allowed, normalizes⟩ := each entry List.mem_cons_self
    obtain ⟨normalized, returned⟩ := normalizes s!"{path}.{entry.1}"
    refine List.forall_mem_cons.mpr ⟨⟨(entry.1, normalized), ?_⟩, ?_⟩
    · simp only [settle, if_neg allowed, returned]
      rfl
    · exact ih fun other member => each other (List.mem_cons_of_mem entry member)

theorem Normalizes.object (each : ∀ entry ∈ entries, entry.1 ∉ forbiddenObjectKeys ∧ Normalizes entry.2) :
    Normalizes (.object entries) := by
  intro path
  obtain ⟨normalized, returned⟩ :=
    @Outcome.mapM_total _ _ _ settle (sortOn (codeUnits ·.1) (normalizeEntries path entries)) fun entry member =>
      normalizeEntries_total each path entry (mem_sortOn.mp member)
  exact ⟨.object normalized, by rw [normalize, returned]; rfl⟩

end CanonicalJson

def normalizeCanonicalJson (value : Value) : Except Thrown Value := CanonicalJson.normalize "$" value

end AiOffice.Domain
