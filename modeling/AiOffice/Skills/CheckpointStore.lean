import AiOffice.Data.Outcome
import AiOffice.Domain.Text

namespace AiOffice.Skills

open Data Domain

def checkpointSchemaVersion : Nat := 1

def reservationGraceMs : Int := 60000

def defaultCheckpointRetentionCap : Int := 20

def maximumPublishAttempts : Nat := 3

def maxKnowledgeReferences : Nat := 10

def storeError (message : String) : Thrown := ⟨.checkpointStoreError, message⟩

def formatError (message : String) : Thrown := ⟨.checkpointFormatError, message⟩

def idPattern (value : String) : Bool :=
  match value.toList with
  | [] => false
  | first :: rest =>
    first.isAlphanum && rest.length ≤ 63 && rest.all fun char => char.isAlphanum || char ∈ [' ', '.', '_', '-']

def isLowerHex (char : Char) : Bool := char.isDigit || ('a' ≤ char && char ≤ 'f')

def shaPattern (value : String) : Bool :=
  40 ≤ value.length && value.length ≤ 64 && value.toList.all isLowerHex

def gatePattern (value : String) : Bool :=
  match value.toList with
  | [] => false
  | first :: rest =>
    (first.isLower || first.isDigit) &&
      rest.all fun char => char.isLower || char.isDigit || char = '_' || char = '-'

def isLineTerminator (char : Char) : Bool :=
  char.val ∈ ([0x0A, 0x0D, 0x2028, 0x2029] : List UInt32)

/-- A text that does not start with a null character, and has no line terminator after its first character. -/
def linePattern (value : String) : Bool :=
  match value.toList with
  | [] => false
  | first :: rest => first.val ≠ 0 && rest.all fun char => !isLineTerminator char

def knowledgeReferencePattern (entry : String) : Bool :=
  ["ak:memory:", "ak:decision:", "plan:"].any fun start =>
    start.toList.isPrefixOf entry.toList &&
      (let rest := entry.toList.drop start.length
      rest ≠ [] && rest.all fun char => char.isAlphanum || char ∈ ['.', '_', '-'])

inductive EvidenceKind
  | command
  | link
  | file
  deriving DecidableEq

structure CheckpointEvidence where
  claim : String
  kind : EvidenceKind
  value : String
  sha256 : Option String
  deriving DecidableEq

structure CheckpointFinding where
  id : String
  severity : String
  status : String
  deriving DecidableEq

structure CheckpointDecision where
  what : String
  authorizedBy : String
  deriving DecidableEq

structure CheckpointRun where
  task : Option String
  milestone : Option String
  branch : String
  base : String
  deriving DecidableEq

structure CheckpointHead where
  sha : String
  dirty : Bool
  dirtyPaths : List String
  capturedAt : Date
  deriving DecidableEq

structure CheckpointStage where
  gate : String
  seq : Nat
  deriving DecidableEq

structure Checkpoint where
  id : String
  run : CheckpointRun
  head : CheckpointHead
  stage : CheckpointStage
  profile : String
  evidence : List CheckpointEvidence
  openFindings : List CheckpointFinding
  decisions : List CheckpointDecision
  unresolvedDependencies : List String
  knownLimitations : List String
  nextAction : String
  knowledgeReferences : List String
  supersedes : Option String
  publishedAt : Date
  deriving DecidableEq

structure CheckpointIndexEntry where
  seq : Nat
  file : String
  id : String
  sha256 : String
  deriving DecidableEq

structure CheckpointIndex where
  latest : Option CheckpointIndexEntry
  updatedAt : Date
  deriving DecidableEq

/-- What a file of the store holds: nothing, or the text of one of its documents. -/
inductive Bytes
  | empty
  | checkpoint (document : Checkpoint)
  | index (document : CheckpointIndex)
  deriving DecidableEq

section

variable (path : String)

def requireString (value : String) (pattern : String → Bool) : Except Thrown Unit :=
  if value = "" then .error (formatError s!"{path} must be a non-empty string")
  else if !pattern value then .error (formatError s!"{path} has an invalid value: {value}")
  else .ok ⟨⟩

def anyText (_ : String) : Bool := true

def requireOptionalString : Option String → Except Thrown Unit
  | none => .ok ⟨⟩
  | some value => requireString path value idPattern

def requireTimestamp (time : Date) : Except Thrown Unit :=
  if time < 946684800000 ∨ 253402300800000 ≤ time then
    .error (formatError s!"{path} is not a valid ISO-8601 UTC timestamp: {time}")
  else .ok ⟨⟩

def requireEach {Item : Type} (items : List Item) (check : String → Item → Except Thrown Unit) : Except Thrown Unit :=
  items.zipIdx.forM fun item => check s!"{path}[{item.2}]" item.1

def requireStringArray (values : List String) : Except Thrown Unit :=
  requireEach path values fun item value => requireString item value linePattern

def parseEvidence (evidence : List CheckpointEvidence) : Except Thrown Unit :=
  requireEach path evidence fun item entry => do
    entry.sha256.forM fun digest => requireString s!"{item}.ref.sha256" digest validHash
    if entry.kind = .file ∧ entry.sha256 = none then
      .error (formatError s!"{item}.ref.sha256 is required for a file reference")
    else
      requireString s!"{item}.claim" entry.claim anyText
      requireString s!"{item}.ref.value" entry.value anyText

def parseTypedArray {Item : Type} (items : List Item) (fields : Item → List (String × String)) : Except Thrown Unit :=
  requireEach path items fun item entry =>
    (fields entry).forM fun field => requireString s!"{item}.{field.1}" field.2 anyText

end

def pathSegments (path : String) : List (List Char) := path.toList.splitOn '/'

def isAbsolute (path : String) : Bool := path.toList.head? = some '/'

def validateDirtyPaths (head : CheckpointHead) : Except Thrown Unit := do
  requireStringArray "checkpoint.head.dirtyPaths" head.dirtyPaths
  head.dirtyPaths.forM fun dirtyPath =>
    if isAbsolute dirtyPath || ['.', '.'] ∈ pathSegments dirtyPath then
      .error (formatError s!"checkpoint.head.dirtyPaths entry is not a relative in-repository path: {dirtyPath}")
    else .ok ⟨⟩
  if head.dirty ≠ decide (0 < head.dirtyPaths.length) then
    .error (formatError "checkpoint.head.dirty must be a boolean consistent with dirtyPaths")
  else .ok ⟨⟩

def validateCheckpoint (document : Checkpoint) : Except Thrown Unit := do
  validateDirtyPaths document.head
  if document.stage.seq < 1 then .error (formatError "checkpoint.stage.seq must be an integer >= 1") else
  requireString "checkpoint.id" document.id idPattern
  requireOptionalString "checkpoint.run.task" document.run.task
  requireOptionalString "checkpoint.run.milestone" document.run.milestone
  requireString "checkpoint.run.branch" document.run.branch anyText
  requireString "checkpoint.run.base" document.run.base anyText
  requireString "checkpoint.head.sha" document.head.sha shaPattern
  requireTimestamp "checkpoint.head.capturedAt" document.head.capturedAt
  requireString "checkpoint.stage.gate" document.stage.gate gatePattern
  requireString "checkpoint.profile" document.profile anyText
  parseEvidence "checkpoint.evidence" document.evidence
  parseTypedArray "checkpoint.openFindings" document.openFindings fun finding =>
    [("id", finding.id), ("severity", finding.severity), ("status", finding.status)]
  parseTypedArray "checkpoint.decisions" document.decisions fun decision =>
    [("what", decision.what), ("authorizedBy", decision.authorizedBy)]
  requireStringArray "checkpoint.unresolvedDependencies" document.unresolvedDependencies
  requireStringArray "checkpoint.knownLimitations" document.knownLimitations
  requireString "checkpoint.nextAction" document.nextAction anyText
  requireStringArray "checkpoint.knowledgeReferences" document.knowledgeReferences
  requireOptionalString "checkpoint.supersedes" document.supersedes
  requireTimestamp "checkpoint.publishedAt" document.publishedAt

def unknownKey (path key : String) (allowed : List String) : Thrown :=
  formatError (s!"{path} has unknown key \"{key}\" (schema version {checkpointSchemaVersion} accepts: " ++
    ", ".intercalate allowed ++ ")")

def checkpointKeys : List String :=
  ["schemaVersion", "id", "run", "head", "stage", "profile", "evidence", "openFindings", "decisions",
    "unresolvedDependencies", "knownLimitations", "nextAction", "knowledgeReferences", "supersedes", "publishedAt"]

def parseCheckpoint : Bytes → Except Thrown Checkpoint
  | .empty => .error (formatError "checkpoint is not valid JSON: Unexpected end of JSON input")
  | .index _ => .error (unknownKey "checkpoint" "latest" checkpointKeys)
  | .checkpoint document => (validateCheckpoint document).map fun _ => document

def checkpointFileName (seq : Nat) : String :=
  String.ofList ((Nat.toDigits 10 seq).leftpad 6 '0' ++ ['.', 'j', 's', 'o', 'n'])

def seqFromFileName (file : String) : Option Nat :=
  let digits := file.toList.take 6
  if digits.length = 6 ∧ digits.all Char.isDigit ∧ file.toList.drop 6 = ['.', 'j', 's', 'o', 'n'] then
    some (Nat.ofDigitChars 10 digits 0)
  else none

def isTempFile (file : String) : Bool := ['.', 't', 'm', 'p', '-'].isPrefixOf file.toList

def tempFileName (uuid : String) : String := String.ofList (['.', 't', 'm', 'p', '-'] ++ uuid.toList)

def indexFileName : String := "index.json"

def validateIndexEntry (entry : CheckpointIndexEntry) : Except Thrown Unit :=
  if entry.seq < 1 then .error (formatError "index.latest.seq must be an integer >= 1")
  else do
    requireString "index.latest.file" entry.file fun file => (seqFromFileName file).isSome
    if seqFromFileName entry.file ≠ some entry.seq then
      .error (formatError s!"index.latest.seq {entry.seq} does not match its file name {entry.file}")
    else
      requireString "index.latest.id" entry.id idPattern
      requireString "index.latest.sha256" entry.sha256 validHash

def validateIndex (document : CheckpointIndex) : Except Thrown Unit := do
  document.latest.forM validateIndexEntry
  requireTimestamp "index.updatedAt" document.updatedAt

def parseIndex : Bytes → Except Thrown CheckpointIndex
  | .empty => .error (formatError "checkpoint index is not valid JSON: Unexpected end of JSON input")
  | .checkpoint _ => .error (unknownKey "index" "id" ["schemaVersion", "latest", "updatedAt"])
  | .index document => (validateIndex document).map fun _ => document

private theorem padded_digits (seq : Nat) :
    ((Nat.toDigits 10 seq).leftpad 6 '0').all Char.isDigit = true := by
  rw [List.all_eq_true]
  intro char member
  rw [List.leftpad, List.mem_append, List.mem_replicate] at member
  rcases member with ⟨-, rfl⟩ | digit
  · rfl
  · exact Nat.isDigit_of_mem_toDigits (by decide) (by decide) digit

private theorem ofDigitChars_padded (seq : Nat) :
    Nat.ofDigitChars 10 ((Nat.toDigits 10 seq).leftpad 6 '0') 0 = seq := by
  rw [List.leftpad, Nat.ofDigitChars_append, Nat.ofDigitChars_replicate_zero, Nat.mul_zero,
    Nat.ofDigitChars_ten_toDigits]

theorem seqFromFileName_checkpointFileName (seq : Nat) :
    seqFromFileName (checkpointFileName seq) = if seq < 10 ^ 6 then some seq else none := by
  have digits : (Nat.toDigits 10 seq).length ≤ 6 ↔ seq < 10 ^ 6 := Nat.length_toDigits_le_iff (by decide) (by decide)
  have length : ((Nat.toDigits 10 seq).leftpad 6 '0').length = max 6 (Nat.toDigits 10 seq).length :=
    List.length_leftpad ..
  rw [seqFromFileName, checkpointFileName, String.toList_ofList]
  by_cases small : seq < 10 ^ 6
  · have six : ((Nat.toDigits 10 seq).leftpad 6 '0').length = 6 := by rw [length, max_eq_left (digits.mpr small)]
    rw [List.take_left' six, List.drop_left' six, if_pos small]
    simp only [six, padded_digits, ofDigitChars_padded, and_self, if_true]
  · have more : 6 < (Nat.toDigits 10 seq).length := Nat.lt_of_not_le fun short => small (digits.mp short)
    rw [if_neg small, if_neg]
    rintro ⟨-, -, rest⟩
    have size := congrArg List.length rest
    simp only [List.length_drop, List.length_append, length, List.length_cons, List.length_nil] at size
    omega

theorem seqFromFileName_temp {file : String} (temp : isTempFile file = true) : seqFromFileName file = none := by
  rw [isTempFile, List.isPrefixOf_iff_prefix] at temp
  obtain ⟨rest, same⟩ := temp
  rw [seqFromFileName, ← same]
  exact if_neg fun holds => by simp at holds

theorem checkpointFileName_permanent (seq : Nat) : isTempFile (checkpointFileName seq) = false := by
  rw [isTempFile, checkpointFileName, String.toList_ofList]
  have digits := padded_digits seq
  have length : ((Nat.toDigits 10 seq).leftpad 6 '0').length = max 6 (Nat.toDigits 10 seq).length :=
    List.length_leftpad ..
  cases padded : (Nat.toDigits 10 seq).leftpad 6 '0' with
  | nil =>
    rw [padded, List.length_nil] at length
    omega
  | cons first rest =>
    rw [padded, List.all_cons, Bool.and_eq_true] at digits
    have different : ('.' == first) = false := by
      rw [beq_eq_false_iff_ne]
      rintro rfl
      exact absurd digits.1 (by decide)
    rw [List.cons_append, List.isPrefixOf, different, Bool.false_and]

theorem seqFromFileName_index : seqFromFileName indexFileName = none := by decide

theorem tempFileName_temp (uuid : String) : isTempFile (tempFileName uuid) = true := by
  rw [isTempFile, tempFileName, String.toList_ofList, List.isPrefixOf_iff_prefix]
  exact List.prefix_append ..

theorem parseCheckpoint_ok {bytes : Bytes} {value : Checkpoint} (parsed : parseCheckpoint bytes = .ok value) :
    bytes = .checkpoint value := by
  cases bytes with
  | empty | index => cases parsed
  | checkpoint document =>
    obtain ⟨-, -, same⟩ := Outcome.map_ok parsed
    rw [same]

theorem parseIndex_ok {bytes : Bytes} {value : CheckpointIndex} (parsed : parseIndex bytes = .ok value) :
    bytes = .index value := by
  cases bytes with
  | empty | checkpoint => cases parsed
  | index document =>
    obtain ⟨-, -, same⟩ := Outcome.map_ok parsed
    rw [same]

end AiOffice.Skills
