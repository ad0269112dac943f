import AiOffice.Data.TextCodec
import AiOffice.Skills.CheckpointStore

namespace AiOffice.Skills

open Data Domain

def utf8 (name : String) : List Nat := name.toList.flatMap utf8Bytes

/-- The name of the directory of a task, or of a name such as that of a branch. -/
def encodeCheckpointDirectoryName (name : String) : Except Thrown String :=
  if name = "" then .error (storeError "checkpoint directory name must not be empty")
  else if idPattern name then .ok name
  else
    let encoded := String.ofList ('_' :: encodeHex (utf8 name))
    if encoded.length > 255 then
      .error (storeError s!"checkpoint directory name is too long to encode safely: {utf16Length name} code units")
    else .ok encoded

def decodeCheckpointDirectoryName (encoded : String) : Except Thrown String :=
  match encoded.toList with
  | '_' :: digits =>
    if digits = [] ∨ ¬digits.all isLowerHex ∨ encoded.length % 2 = 0 then
      .error (formatError s!"not an encoded checkpoint directory name: {encoded}")
    else do
      let decoded := String.ofList (decodeUtf8 none (decodeHex digits))
      let again ← encodeCheckpointDirectoryName decoded
      if again ≠ encoded then .error (formatError s!"not an encoded checkpoint directory name: {encoded}")
      else .ok decoded
  | _ => if idPattern encoded then .ok encoded else .error (formatError s!"not a checkpoint directory name: {encoded}")

/-- A name that a path takes as one of its segments, and that names neither this directory nor the one above it. -/
structure SafeSegment (name : String) : Prop where
  nonempty : name ≠ ""
  plain : ∀ char ∈ name.toList, char.isAlphanum ∨ char ∈ [' ', '.', '_', '-']
  notDots : name ≠ "." ∧ name ≠ ".."
  short : name.length ≤ 255

variable {name encoded : String}

theorem idPattern_first (matched : idPattern name = true) : ∃ first rest, name.toList = first :: rest ∧
    first.isAlphanum = true ∧ rest.length ≤ 63 ∧ ∀ char ∈ rest, char.isAlphanum = true ∨ char ∈ [' ', '.', '_', '-'] := by
  unfold idPattern at matched
  cases chars : name.toList with
  | nil => simp [chars] at matched
  | cons first rest =>
    simp only [chars, Bool.and_eq_true, List.all_eq_true, Bool.or_eq_true, decide_eq_true_eq, and_assoc] at matched
    exact ⟨first, rest, rfl, matched⟩

theorem idPattern_safe (matched : idPattern name = true) : SafeSegment name := by
  obtain ⟨first, rest, chars, starts, short, plain⟩ := idPattern_first matched
  have starting : ∀ other : String, other.toList.head? ≠ some first → name ≠ other := by
    rintro other apart rfl
    rw [chars] at apart
    exact apart rfl
  have notDot : first ≠ '.' := by
    rintro rfl
    exact absurd starts (by decide)
  refine ⟨starting _ (by simp), ?_, ⟨starting _ ?_, starting _ ?_⟩, ?_⟩
  · rw [chars, List.forall_mem_cons]
    exact ⟨.inl starts, plain⟩
  · simpa using notDot.symm
  · simpa using notDot.symm
  · rw [← String.length_toList, chars, List.length_cons]
    omega

theorem utf8_lt {byte : Nat} (member : byte ∈ utf8 name) : byte < 256 := by
  obtain ⟨char, -, inBytes⟩ := List.mem_flatMap.mp member
  exact utf8Bytes_lt inBytes

/-- What the encoding returns, and for which names. -/
theorem encode_ok_iff : encodeCheckpointDirectoryName name = .ok encoded ↔ name ≠ "" ∧
    (idPattern name = true ∧ encoded = name ∨ idPattern name = false ∧ (utf8 name).length ≤ 127 ∧
      encoded = String.ofList ('_' :: encodeHex (utf8 name))) := by
  have size : (String.ofList ('_' :: encodeHex (utf8 name))).length = 2 * (utf8 name).length + 1 := by
    rw [String.length_ofList, List.length_cons, length_encodeHex]
  unfold encodeCheckpointDirectoryName
  split
  · next empty => simp [empty]
  · next nonempty =>
    by_cases matched : idPattern name = true
    · simp [nonempty, matched, eq_comm]
    · rw [if_neg matched]
      dsimp only
      rw [size]
      split
      · next long => simp [matched, show ¬(utf8 name).length ≤ 127 by omega]
      · next short => simp [nonempty, matched, show (utf8 name).length ≤ 127 by omega, eq_comm]

theorem encode_safe (done : encodeCheckpointDirectoryName name = .ok encoded) : SafeSegment encoded := by
  obtain ⟨-, ⟨matched, rfl⟩ | ⟨-, short, rfl⟩⟩ := encode_ok_iff.mp done
  · exact idPattern_safe matched
  · have starting : ∀ other : String, other.toList.head? ≠ some '_' →
        String.ofList ('_' :: encodeHex (utf8 name)) ≠ other := by
      rintro other apart rfl
      rw [String.toList_ofList] at apart
      exact apart rfl
    refine ⟨starting _ (by decide), ?_, ⟨starting _ (by decide), starting _ (by decide)⟩, ?_⟩
    · rw [String.toList_ofList, List.forall_mem_cons]
      refine ⟨by decide, fun char member => .inl ?_⟩
      have digit := mem_encodeHex (fun byte inBytes => utf8_lt inBytes) member
      simp only [Bool.or_eq_true, Bool.and_eq_true, decide_eq_true_eq] at digit
      rcases digit with digit | ⟨low, high⟩
      · exact Bool.or_eq_true_iff.mpr (.inr digit)
      · have lower : char.isLower = true := Bool.and_eq_true_iff.mpr
          ⟨decide_eq_true low, decide_eq_true (UInt32.le_trans high (show 'f'.val ≤ 'z'.val by decide))⟩
        exact Bool.or_eq_true_iff.mpr (.inl (Bool.or_eq_true_iff.mpr (.inr lower)))
    · rw [String.length_ofList, List.length_cons, length_encodeHex]
      omega

theorem decode_encoded (nonempty : name ≠ "") (notPlain : idPattern name = false) (short : (utf8 name).length ≤ 127) :
    decodeCheckpointDirectoryName (String.ofList ('_' :: encodeHex (utf8 name))) = .ok name := by
  have bytes : utf8 name ≠ [] := by
    intro none
    have count := length_le_utf8 name.toList
    rw [show name.toList.flatMap utf8Bytes = [] from none] at count
    exact nonempty (String.toList_eq_nil_iff.mp (List.length_eq_zero_iff.mp (Nat.le_zero.mp count)))
  have digits : encodeHex (utf8 name) ≠ [] := by
    intro none
    have count := length_encodeHex (utf8 name)
    rw [none] at count
    exact bytes (List.length_eq_zero_iff.mp (by rw [List.length_nil] at count; omega))
  have lower : (encodeHex (utf8 name)).all isLowerHex = true :=
    List.all_eq_true.mpr fun char member => mem_encodeHex (fun byte inBytes => utf8_lt inBytes) member
  have back : String.ofList (decodeUtf8 none (decodeHex (encodeHex (utf8 name)))) = name := by
    rw [decodeHex_encode fun byte inBytes => utf8_lt inBytes, utf8, decodeUtf8_bytes, String.ofList_toList]
  have odd : ¬(String.ofList ('_' :: encodeHex (utf8 name))).length % 2 = 0 := by
    rw [String.length_ofList, List.length_cons, length_encodeHex]
    omega
  have again := encode_ok_iff.mpr ⟨nonempty, .inr ⟨notPlain, short, rfl⟩⟩
  have passed : ¬(encodeHex (utf8 name) = [] ∨ ¬(encodeHex (utf8 name)).all isLowerHex ∨
      (String.ofList ('_' :: encodeHex (utf8 name))).length % 2 = 0) :=
    fun failed => failed.elim digits fun failed => failed.elim (absurd lower) odd
  unfold decodeCheckpointDirectoryName
  rw [String.toList_ofList]
  split
  · next hex same =>
    obtain rfl := (List.cons.inj same).2
    rw [if_neg passed, back]
    dsimp only
    rw [again]
    exact if_neg (not_not.mpr rfl)
  · next other => exact absurd rfl (other _)

theorem decode_ok_iff : decodeCheckpointDirectoryName encoded = .ok name ↔
    encodeCheckpointDirectoryName name = .ok encoded := by
  constructor
  · intro decoded
    unfold decodeCheckpointDirectoryName at decoded
    split at decoded
    · next digits chars =>
      split at decoded
      · cases decoded
      · obtain ⟨again, encodes, decoded⟩ := Outcome.bind_ok decoded
        obtain ⟨same, decoded⟩ := Outcome.guard_ok decoded
        cases decoded
        rw [encodes, not_not.mp same]
    · split at decoded
      · next matched =>
        cases decoded
        obtain ⟨first, rest, chars, -⟩ := idPattern_first matched
        refine encode_ok_iff.mpr ⟨?_, .inl ⟨matched, rfl⟩⟩
        rintro rfl
        cases chars
      · cases decoded
  · intro encodes
    obtain ⟨nonempty, ⟨matched, rfl⟩ | ⟨notPlain, short, rfl⟩⟩ := encode_ok_iff.mp encodes
    · obtain ⟨first, rest, chars, starts, -⟩ := idPattern_first matched
      unfold decodeCheckpointDirectoryName
      rw [chars]
      split
      · next same =>
        rw [(List.cons.inj same).1] at starts
        exact absurd starts (by decide)
      · rw [if_pos matched]
    · exact decode_encoded nonempty notPlain short

/-- Every name within the limit is read back, no two names share a directory, each directory is one safe
segment, and the decoding accepts what the encoding returns and nothing else. -/
theorem checkpointDirectoryName_exact :
    (∀ name, name ≠ "" → (utf8 name).length ≤ 127 →
      ∃ encoded, encodeCheckpointDirectoryName name = .ok encoded ∧ decodeCheckpointDirectoryName encoded = .ok name) ∧
    (∀ name other encoded, encodeCheckpointDirectoryName name = .ok encoded →
      encodeCheckpointDirectoryName other = .ok encoded → name = other) ∧
    (∀ name encoded, encodeCheckpointDirectoryName name = .ok encoded → SafeSegment encoded) ∧
    ∀ name encoded, decodeCheckpointDirectoryName encoded = .ok name ↔ encodeCheckpointDirectoryName name = .ok encoded := by
  refine ⟨fun name nonempty short => ?_, fun name other encoded first second => ?_, fun name encoded => encode_safe,
    fun name encoded => decode_ok_iff⟩
  · have encodes : ∃ encoded, encodeCheckpointDirectoryName name = .ok encoded := by
      by_cases matched : idPattern name = true
      · exact ⟨name, encode_ok_iff.mpr ⟨nonempty, .inl ⟨matched, rfl⟩⟩⟩
      · exact ⟨_, encode_ok_iff.mpr ⟨nonempty, .inr ⟨by simpa using matched, short, rfl⟩⟩⟩
    obtain ⟨encoded, encodes⟩ := encodes
    exact ⟨encoded, encodes, decode_ok_iff.mpr encodes⟩
  · have here := decode_ok_iff.mpr first
    rw [decode_ok_iff.mpr second] at here
    exact (Except.ok.inj here).symm

end AiOffice.Skills
