import AiOffice.Connector.FilesystemPath
import AiOffice.Domain.CodeUnits

namespace AiOffice.Connector.FilesystemReads

open Domain Connector.Filesystem

/-- The letter that a pattern without regard to case takes a character for. -/
def foldedLetter (char : Char) : Char :=
  if char.toNat = 0x017F then 's' else if char.toNat = 0x212A then 'k' else char.toLower

def isWordChar (char : Char) : Bool := (foldedLetter char).isAlphanum || char = '_'

def secretWords : List String := ["password", "secret", "token", "api_key", "api-key", "apikey"]

/-- The length of the word of a secret that stands at the start, if there is one. -/
def secretWord (chars : List Char) : Option Nat :=
  (secretWords.find? fun word => word.toList.isPrefixOf (chars.map foldedLetter)).map String.length

/-- The lengths of the word of a secret and of all that names and gives the secret, where one starts. -/
def secretAt (chars : List Char) : Option (Nat × Nat) :=
  match secretWord chars with
  | none => none
  | some word =>
    let rest := chars.drop word
    match rest.dropWhile isWhiteSpace with
    | [] => none
    | sign :: after =>
      let value := (after.dropWhile isWhiteSpace).takeWhile fun char =>
        !isWhiteSpace char && char ≠ ',' && char ≠ ';'
      if (sign = ':' ∨ sign = '=') ∧ value ≠ [] then
        some (word, word + (rest.takeWhile isWhiteSpace).length + 1 + (after.takeWhile isWhiteSpace).length +
          value.length)
      else none

/-- Replace the secrets of a line. `inWord` tells whether the character before is part of a word. -/
def redact (inWord : Bool) : Nat → List Char → List Char
  | _, [] => []
  | skipped + 1, char :: rest => redact (isWordChar char) skipped rest
  | 0, char :: rest =>
    match if inWord then none else secretAt (char :: rest) with
    | some (word, total) =>
      (char :: rest).take word ++ "=[REDACTED]".toList ++ redact (isWordChar char) (total - 1) rest
    | none => char :: redact (isWordChar char) 0 rest

def spaceControls (line : List Char) : List Char := line.map fun char => if unsafeControl char then ' ' else char

/-- The part of a line around a column that a match shows, by its code units. -/
def safeSnippet (line : String) (column : Nat) : List Nat :=
  let normalized := codeUnits (String.ofList (redact false 0 (spaceControls line.toList)))
  (normalized.drop (column - 60)).take 160

section Clear

variable {inWord : Bool} {chars : List Char} {stop : Nat}

def endsInWord (inWord : Bool) (before : List Char) : Bool := before.foldl (fun _ char => isWordChar char) inWord

def Clear (inWord : Bool) (chars : List Char) (stop : Nat) : Prop :=
  ∀ before rest, chars = before ++ rest → (before.flatMap charUnits).length < stop →
    endsInWord inWord before = true ∨ secretAt rest = none

theorem redact_keeps (clear : Clear inWord chars stop) :
    ((redact inWord 0 chars).flatMap charUnits).take stop = (chars.flatMap charUnits).take stop := by
  induction chars generalizing inWord stop with
  | nil => rw [redact]
  | cons char rest ih =>
    by_cases ended : stop = 0
    · rw [ended, List.take_zero, List.take_zero]
    have here : (if inWord then none else secretAt (char :: rest)) = none := by
      rcases clear [] (char :: rest) rfl (Nat.pos_of_ne_zero ended) with word | none
      · exact if_pos word
      · rw [none, ite_self]
    have later : Clear (isWordChar char) rest (stop - (charUnits char).length) := by
      intro before after same early
      refine clear (char :: before) after (by rw [same]; rfl) ?_
      rw [List.flatMap_cons, List.length_append]
      omega
    rw [redact, here]
    dsimp only
    rw [List.flatMap_cons, List.flatMap_cons, List.take_append, List.take_append, ih later]

end Clear

def shownUnit (unit : Nat) : Nat := if unit ≤ 0x1F ∨ unit = 0x7F then 0x20 else unit

theorem spaceControls_units (line : List Char) :
    (spaceControls line).flatMap charUnits = (line.flatMap charUnits).map shownUnit := by
  induction line with
  | nil => rfl
  | cons char line ih =>
    have one : charUnits (if unsafeControl char then ' ' else char) = (charUnits char).map shownUnit := by
      simp only [charUnits, unsafeControl, Bool.or_eq_true, decide_eq_true_eq]
      by_cases control : char.toNat ≤ 0x1F ∨ char.toNat = 0x7F
      · rw [if_pos control, if_pos (by omega : char.toNat ≤ 0xFFFF)]
        simp only [List.map_cons, List.map_nil, shownUnit, if_pos control]
        rfl
      · rw [if_neg control]
        split
        · simp only [List.map_cons, List.map_nil, shownUnit, if_neg control]
        · simp only [List.map_cons, List.map_nil, shownUnit]
          rw [if_neg (by omega), if_neg (by omega)]
    have rest : (spaceControls (char :: line)).flatMap charUnits =
        charUnits (if unsafeControl char then ' ' else char) ++ (spaceControls line).flatMap charUnits := rfl
    rw [rest, one, ih, List.flatMap_cons, List.map_append]

theorem window_infix {units : List Nat} {column length : Nat} :
    ((units.drop column).take length).take 100 <:+: (units.drop (column - 60)).take 160 := by
  have place : column - 60 + min column 60 = column := by omega
  have inner : (((units.drop (column - 60)).take 160).drop (min column 60)).take (min 100 length) =
      ((units.drop column).take length).take 100 := by
    rw [List.drop_take, List.drop_drop, place, List.take_take, List.take_take]
    congr 1
    omega
  rw [← inner]
  exact (List.take_prefix _ _).isInfix.trans (List.drop_suffix _ _).isInfix

theorem safeSnippet_shows {line : String} {column length : Nat}
    (clear : Clear false (spaceControls line.toList) (column + length)) :
    ((((codeUnits line).drop column).take length).map shownUnit).take 100 <:+: safeSnippet line column := by
  have kept := redact_keeps clear
  rw [spaceControls_units] at kept
  have slice : (((redact false 0 (spaceControls line.toList)).flatMap charUnits).drop column).take length =
      (((codeUnits line).drop column).take length).map shownUnit := by
    have cut := congrArg (List.drop column) kept
    rw [List.drop_take, List.drop_take, Nat.add_sub_cancel_left, ← List.map_drop, ← List.map_take] at cut
    exact cut
  rw [← slice, safeSnippet, codeUnits, String.toList_ofList]
  exact window_infix

end AiOffice.Connector.FilesystemReads
