import Mathlib.Data.List.TakeWhile

namespace AiOffice.Data

section Utf8

variable {char : Char} {chars : List Char} {rest : List Nat}

def utf8Bytes (char : Char) : List Nat :=
  let code := char.toNat
  if code < 0x80 then [code]
  else if code < 0x800 then [0xC0 + code / 0x40, 0x80 + code % 0x40]
  else if code < 0x10000 then [0xE0 + code / 0x1000, 0x80 + code / 0x40 % 0x40, 0x80 + code % 0x40]
  else [0xF0 + code / 0x40000, 0x80 + code / 0x1000 % 0x40, 0x80 + code / 0x40 % 0x40, 0x80 + code % 0x40]

/-- What a decoder waits for in a character: the bytes that are needed, the bounds of the next one, and the bits so far. -/
structure Pending where
  needed : Nat
  lower : Nat
  upper : Nat
  bits : Nat

def replacement : Char := Char.ofNat 0xFFFD

def startUtf8 (byte : Nat) : List Char × Option Pending :=
  if byte < 0x80 then ([Char.ofNat byte], none)
  else if 0xC2 ≤ byte ∧ byte ≤ 0xDF then ([], some ⟨1, 0x80, 0xBF, byte - 0xC0⟩)
  else if 0xE0 ≤ byte ∧ byte ≤ 0xEF then
    ([], some ⟨2, if byte = 0xE0 then 0xA0 else 0x80, if byte = 0xED then 0x9F else 0xBF, byte - 0xE0⟩)
  else if 0xF0 ≤ byte ∧ byte ≤ 0xF4 then
    ([], some ⟨3, if byte = 0xF0 then 0x90 else 0x80, if byte = 0xF4 then 0x8F else 0xBF, byte - 0xF0⟩)
  else ([replacement], none)

def decodeUtf8 : Option Pending → List Nat → List Char
  | none, [] => []
  | some _, [] => [replacement]
  | none, byte :: rest => (startUtf8 byte).1 ++ decodeUtf8 (startUtf8 byte).2 rest
  | some pending, byte :: rest =>
    if pending.lower ≤ byte ∧ byte ≤ pending.upper then
      let bits := pending.bits * 0x40 + (byte - 0x80)
      if pending.needed = 1 then Char.ofNat bits :: decodeUtf8 none rest
      else decodeUtf8 (some ⟨pending.needed - 1, 0x80, 0xBF, bits⟩) rest
    else replacement :: ((startUtf8 byte).1 ++ decodeUtf8 (startUtf8 byte).2 rest)

theorem decodeUtf8_last {bits byte : Nat} {lower upper : Nat} (inside : lower ≤ byte ∧ byte ≤ upper)
    (same : bits * 0x40 + (byte - 0x80) = char.toNat) :
    decodeUtf8 (some ⟨1, lower, upper, bits⟩) (byte :: rest) = char :: decodeUtf8 none rest := by
  rw [decodeUtf8, if_pos inside]
  simp only [same, Char.ofNat_toNat, if_true]

theorem decodeUtf8_next {needed bits byte lower upper : Nat} (inside : lower ≤ byte ∧ byte ≤ upper) :
    decodeUtf8 (some ⟨needed + 2, lower, upper, bits⟩) (byte :: rest) =
      decodeUtf8 (some ⟨needed + 1, 0x80, 0xBF, bits * 0x40 + (byte - 0x80)⟩) rest := by
  rw [decodeUtf8, if_pos inside]
  rfl

/-- Decoding reads a character back, whatever follows. -/
theorem decodeUtf8_char (char : Char) (rest : List Nat) :
    decodeUtf8 none (utf8Bytes char ++ rest) = char :: decodeUtf8 none rest := by
  have valid : char.toNat < 0xD800 ∨ 0xDFFF < char.toNat ∧ char.toNat < 0x110000 := char.valid
  unfold utf8Bytes
  dsimp only
  split
  · next ascii =>
      rw [List.singleton_append, decodeUtf8, startUtf8, if_pos ascii, Char.ofNat_toNat]
      rfl
  · split
    · next small =>
        have start : startUtf8 (0xC0 + char.toNat / 0x40) = ([], some ⟨1, 0x80, 0xBF, char.toNat / 0x40⟩) := by
          rw [startUtf8, if_neg (by omega), if_pos (by omega)]
          simp
        rw [List.cons_append, decodeUtf8, start]
        exact decodeUtf8_last (by omega) (by omega)
    · split
      · next medium =>
          have start : ∃ lower upper, startUtf8 (0xE0 + char.toNat / 0x1000) =
              ([], some ⟨2, lower, upper, char.toNat / 0x1000⟩) ∧
              lower ≤ 0x80 + char.toNat / 0x40 % 0x40 ∧ 0x80 + char.toNat / 0x40 % 0x40 ≤ upper := by
            rw [startUtf8, if_neg (by omega), if_neg (by omega), if_pos (by omega), Nat.add_sub_cancel_left]
            exact ⟨_, _, rfl, by split <;> omega, by split <;> omega⟩
          obtain ⟨lower, upper, start, inside⟩ := start
          rw [List.cons_append, decodeUtf8, start]
          simp only [List.cons_append, List.nil_append]
          rw [@decodeUtf8_next _ 0 _ _ _ _ inside]
          exact decodeUtf8_last (by omega) (by omega)
      · next large =>
          have start : ∃ lower upper, startUtf8 (0xF0 + char.toNat / 0x40000) =
              ([], some ⟨3, lower, upper, char.toNat / 0x40000⟩) ∧
              lower ≤ 0x80 + char.toNat / 0x1000 % 0x40 ∧ 0x80 + char.toNat / 0x1000 % 0x40 ≤ upper := by
            rw [startUtf8, if_neg (by omega), if_neg (by omega), if_neg (by omega), if_pos (by omega),
              Nat.add_sub_cancel_left]
            exact ⟨_, _, rfl, by split <;> omega, by split <;> omega⟩
          obtain ⟨lower, upper, start, inside⟩ := start
          rw [List.cons_append, decodeUtf8, start]
          simp only [List.cons_append, List.nil_append]
          rw [@decodeUtf8_next _ 1 _ _ _ _ inside, @decodeUtf8_next _ 0 _ _ _ _ (by omega)]
          exact decodeUtf8_last (by omega) (by omega)

theorem decodeUtf8_bytes (chars : List Char) : decodeUtf8 none (chars.flatMap utf8Bytes) = chars := by
  induction chars with
  | nil => rfl
  | cons char chars ih => rw [List.flatMap_cons, decodeUtf8_char, ih]

theorem utf8Bytes_lt {byte : Nat} (member : byte ∈ utf8Bytes char) : byte < 256 := by
  have valid : char.toNat < 0xD800 ∨ 0xDFFF < char.toNat ∧ char.toNat < 0x110000 := char.valid
  unfold utf8Bytes at member
  dsimp only at member
  split at member
  · simp only [List.mem_cons, List.not_mem_nil, or_false] at member
    omega
  · split at member
    · simp only [List.mem_cons, List.not_mem_nil, or_false] at member
      omega
    · split at member <;> simp only [List.mem_cons, List.not_mem_nil, or_false] at member <;> omega

theorem length_le_utf8 (chars : List Char) : chars.length ≤ (chars.flatMap utf8Bytes).length := by
  induction chars with
  | nil => exact Nat.le_refl _
  | cons char chars ih =>
    have one : 1 ≤ (utf8Bytes char).length := by
      unfold utf8Bytes
      dsimp only
      split
      · simp
      · split
        · simp
        · split <;> simp
    rw [List.flatMap_cons, List.length_append, List.length_cons]
    omega

end Utf8

section Base64

variable {bytes : List Nat} {value : Nat}

/-- The groups of six bits of bytes; the last one is filled up with zeros. -/
def sextets : List Nat → List Nat
  | [] => []
  | [first] => [first / 4, first % 4 * 16]
  | [first, second] => [first / 4, first % 4 * 16 + second / 16, second % 16 * 4]
  | first :: second :: third :: rest =>
    first / 4 :: (first % 4 * 16 + second / 16) :: (second % 16 * 4 + third / 64) :: third % 64 :: sextets rest

def ofSextets : List Nat → List Nat
  | first :: second :: third :: fourth :: rest =>
    (first * 4 + second / 16) :: (second % 16 * 16 + third / 4) :: (third % 4 * 64 + fourth) :: ofSextets rest
  | [first, second, third] => [first * 4 + second / 16, second % 16 * 16 + third / 4]
  | [first, second] => [first * 4 + second / 16]
  | [_] => []
  | [] => []

def sextetChar (value : Nat) : Char :=
  if value < 26 then Char.ofNat (65 + value)
  else if value < 52 then Char.ofNat (97 + (value - 26))
  else if value < 62 then Char.ofNat (48 + (value - 52))
  else if value = 62 then '-'
  else '_'

def sextetOf (char : Char) : Option Nat :=
  let code := char.toNat
  if 65 ≤ code ∧ code ≤ 90 then some (code - 65)
  else if 97 ≤ code ∧ code ≤ 122 then some (code - 97 + 26)
  else if 48 ≤ code ∧ code ≤ 57 then some (code - 48 + 52)
  else if char = '-' ∨ char = '+' then some 62
  else if char = '_' ∨ char = '/' then some 63
  else none

def encodeBase64Url (bytes : List Nat) : List Char := (sextets bytes).map sextetChar

/-- Characters of neither alphabet are ignored, and a padding ends the text. -/
def decodeBase64Url (chars : List Char) : List Nat := ofSextets ((chars.takeWhile (· ≠ '=')).filterMap sextetOf)

theorem ofSextets_sextets (small : ∀ byte ∈ bytes, byte < 256) : ofSextets (sextets bytes) = bytes := by
  induction bytes using sextets.induct with
  | case1 => rfl
  | case2 first => 
    have bound := small first (by simp)
    simp only [sextets, ofSextets, List.cons.injEq, and_true]
    omega
  | case3 first second =>
    have bound := small first (by simp)
    have other := small second (by simp)
    simp only [sextets, ofSextets, List.cons.injEq, and_true]
    omega
  | case4 first second third rest ih =>
    have bound := small first (by simp)
    have other := small second (by simp)
    have last := small third (by simp)
    rw [sextets, ofSextets, ih fun byte member => small byte (by simp [member])]
    simp only [List.cons.injEq, and_true]
    omega

theorem sextets_lt (small : ∀ byte ∈ bytes, byte < 256) : ∀ value ∈ sextets bytes, value < 64 := by
  induction bytes using sextets.induct with
  | case1 => simp [sextets]
  | case2 first =>
    have bound := small first (by simp)
    simp only [sextets, List.forall_mem_cons, List.not_mem_nil, false_implies, implies_true, and_true]
    omega
  | case3 first second =>
    have bound := small first (by simp)
    have other := small second (by simp)
    simp only [sextets, List.forall_mem_cons, List.not_mem_nil, false_implies, implies_true, and_true]
    omega
  | case4 first second third rest ih =>
    have bound := small first (by simp)
    have other := small second (by simp)
    have last := small third (by simp)
    have later := ih fun byte member => small byte (by simp [member])
    simp only [sextets, List.forall_mem_cons]
    exact ⟨by omega, by omega, by omega, by omega, later⟩

theorem sextetOf_char : ∀ value < 64, sextetOf (sextetChar value) = some value ∧ sextetChar value ≠ '=' := by decide

theorem filterMap_sextetOf {values : List Nat} (small : ∀ value ∈ values, value < 64) :
    (values.map sextetChar).filterMap sextetOf = values := by
  induction values with
  | nil => rfl
  | cons value values ih =>
    obtain ⟨here, later⟩ := List.forall_mem_cons.mp small
    rw [List.map_cons, List.filterMap_cons, (sextetOf_char value here).1, ih later]

theorem decodeBase64Url_encode (small : ∀ byte ∈ bytes, byte < 256) : decodeBase64Url (encodeBase64Url bytes) = bytes := by
  have each := sextets_lt small
  have unpadded : ∀ char ∈ encodeBase64Url bytes, char ≠ '=' := by
    intro char member
    obtain ⟨value, inSextets, rfl⟩ := List.mem_map.mp member
    exact (sextetOf_char value (each value inSextets)).2
  rw [decodeBase64Url, List.takeWhile_eq_self_iff.mpr (by simpa using unpadded), encodeBase64Url,
    filterMap_sextetOf each, ofSextets_sextets small]

theorem length_le_encode (bytes : List Nat) : bytes.length ≤ (encodeBase64Url bytes).length := by
  rw [encodeBase64Url, List.length_map]
  induction bytes using sextets.induct with
  | case1 => simp
  | case2 first => simp [sextets]
  | case3 first second => simp [sextets]
  | case4 first second third rest ih =>
    simp only [sextets, List.length_cons]
    omega

end Base64

section Hex

variable {bytes : List Nat}

def hexChar (value : Nat) : Char := if value < 10 then Char.ofNat (48 + value) else Char.ofNat (87 + value)

def hexValue (char : Char) : Option Nat :=
  let code := char.toNat
  if 48 ≤ code ∧ code ≤ 57 then some (code - 48)
  else if 97 ≤ code ∧ code ≤ 102 then some (code - 87)
  else if 65 ≤ code ∧ code ≤ 70 then some (code - 55)
  else none

def encodeHex (bytes : List Nat) : List Char := bytes.flatMap fun byte => [hexChar (byte / 16), hexChar (byte % 16)]

/-- The bytes of the pairs of digits before the first pair that is not one. -/
def decodeHex : List Char → List Nat
  | high :: low :: rest =>
    match hexValue high, hexValue low with
    | some first, some second => (first * 16 + second) :: decodeHex rest
    | _, _ => []
  | _ => []

theorem hexChar_digit : ∀ value < 16, hexValue (hexChar value) = some value ∧
    ((hexChar value).isDigit || 'a' ≤ hexChar value && hexChar value ≤ 'f') = true := by decide

theorem decodeHex_encode (small : ∀ byte ∈ bytes, byte < 256) : decodeHex (encodeHex bytes) = bytes := by
  induction bytes with
  | nil => rfl
  | cons byte bytes ih =>
    obtain ⟨here, later⟩ := List.forall_mem_cons.mp small
    have high := (hexChar_digit (byte / 16) (by omega)).1
    have low := (hexChar_digit (byte % 16) (by omega)).1
    rw [encodeHex, List.flatMap_cons, ← encodeHex]
    simp only [List.cons_append, List.nil_append, decodeHex, high, low, ih later, List.cons.injEq, and_true]
    omega

@[simp] theorem length_encodeHex (bytes : List Nat) : (encodeHex bytes).length = 2 * bytes.length := by
  induction bytes with
  | nil => rfl
  | cons byte bytes ih =>
    rw [encodeHex, List.flatMap_cons, ← encodeHex, List.length_append, ih]
    simp only [List.length_cons, List.length_nil]
    omega

theorem mem_encodeHex (small : ∀ byte ∈ bytes, byte < 256) {char : Char} (member : char ∈ encodeHex bytes) :
    (char.isDigit || 'a' ≤ char && char ≤ 'f') = true := by
  obtain ⟨byte, inBytes, digits⟩ := List.mem_flatMap.mp member
  have bound := small byte inBytes
  simp only [List.mem_cons, List.not_mem_nil, or_false] at digits
  rcases digits with rfl | rfl
  · exact (hexChar_digit (byte / 16) (by omega)).2
  · exact (hexChar_digit (byte % 16) (by omega)).2

end Hex

end AiOffice.Data
