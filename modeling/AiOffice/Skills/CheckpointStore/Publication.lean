import AiOffice.Data.Sorting
import AiOffice.Skills.CheckpointStore
import AiOffice.Transition.Run
import Mathlib.Data.List.AList
import Mathlib.Data.String.Basic

namespace AiOffice.Skills

open Data Domain

structure File where
  bytes : Bytes
  mtime : Date

abbrev Directory := AList fun _ : String => File

structure PublishCheckpointInput where
  task : Option String
  milestone : Option String
  branch : String
  base : String
  profile : String
  gate : String
  evidence : List CheckpointEvidence
  openFindings : List CheckpointFinding
  decisions : List CheckpointDecision
  unresolvedDependencies : List String
  knownLimitations : List String
  nextAction : String
  knowledgeReferences : List String
  deriving DecidableEq

/-- A call to publish, with what it asks Git, the clock and the generator of ids for. -/
structure PublishRequest where
  input : PublishCheckpointInput
  headSha : String
  dirtyPaths : List String
  timestamp : Date
  id : String
  retentionCap : Option Int
  deriving DecidableEq

inductive CallKind
  | publishCheckpoint (request : PublishRequest)
  | loadLatestCheckpoint
  deriving DecidableEq

structure Found where
  file : String
  checkpoint : Checkpoint
  bytes : Bytes

structure Loaded where
  entry : CheckpointIndexEntry
  bytes : Bytes

inductive Scan
  | recover (entry : CheckpointIndexEntry)
  | latest (indexed : Option Loaded)
  | retain (checkpoint : Checkpoint)
  | cite (checkpoint : Checkpoint) (published : List Checkpoint) (handoff : String)

inductive CallResult
  | published (checkpoint : Checkpoint) (pruned : List String) (pruneError : Option String)
  | loaded (loaded : Option Loaded)

/-- What a call does next. Each phase but the last two stands for one access to the directory or the clock. -/
inductive Phase
  | entering
  | tidying (now : Date)
  | inspecting (now : Date) (files : List String)
  | removing (now : Date) (file : String) (files : List String)
  | loading
  | findingIndexed (entry : CheckpointIndexEntry)
  | readingIndexed (entry : CheckpointIndexEntry)
  | listing (scan : Scan)
  | checking (scan : Scan) (entries files : List String)
  | reading (scan : Scan) (files : List String) (found : List Found)
  | writing (checkpoint : Checkpoint)
  | reserving (checkpoint : Checkpoint) (temp : String)
  | discarding (checkpoint : Checkpoint) (temp : String)
  | moving (checkpoint : Checkpoint) (temp : String)
  | colliding (file : String)
  | examining (file : String) (now : Date)
  | rereading (file : String)
  | clearing (file : String)
  | writingIndex (checkpoint : Checkpoint)
  | renamingIndex (checkpoint : Checkpoint) (temp : String)
  | pruning (checkpoint : Checkpoint) (victims : List Checkpoint) (deleted : List String)
  | returned (result : CallResult)
  | threw (thrown : Thrown)

/-- What a call was asked for, and the numbers that calls to publish had returned when it began. -/
structure Origin where
  kind : CallKind
  earlier : List Nat

structure Call extends Origin where
  attempt : Nat
  phase : Phase

/-- What a step learns from outside: the order of a listing, a fresh name, and the packet of the task. -/
structure Outside where
  names : List String
  uuid : String
  handoff : Option String

def noEntry (operation file : String) : Thrown :=
  ⟨.fileSystemError, s!"ENOENT: no such file or directory, {operation} '{file}'"⟩

def fileExists (file : String) : Thrown := ⟨.fileSystemError, s!"EEXIST: file already exists, open '{file}'"⟩

def checkpointExists (file : String) : Thrown :=
  ⟨.checkpointExistsError, s!"checkpoint {file} already exists; a concurrent publisher won the sequence"⟩

def validateKnowledgeReferences (entries : List String) : Except Thrown Unit := do
  entries.zipIdx.forM fun entry =>
    if !knowledgeReferencePattern entry.1 then
      .error (storeError (s!"knowledgeReferences entry has an invalid format: {entry.1} " ++
        "(expected ak:<memory|decision>:<id> or plan:<hash>)"))
    else if entry.1 ∈ entries.take entry.2 then
      .error (storeError s!"knowledgeReferences contains a duplicate entry: {entry.1}")
    else .ok ⟨⟩
  if maxKnowledgeReferences < entries.length then
    .error (storeError
      s!"knowledgeReferences accepts at most {maxKnowledgeReferences} entries, got {entries.length}")
  else .ok ⟨⟩

def validateInput (input : PublishCheckpointInput) : Except Thrown Unit :=
  if !gatePattern input.gate then
    .error (storeError s!"gate must be lowercase letters, digits, _ or -, got: {input.gate}")
  else if trim input.nextAction = "" then .error (storeError "nextAction must not be empty")
  else validateKnowledgeReferences input.knowledgeReferences

def newCheckpoint (request : PublishRequest) (previous : Option Checkpoint) : Checkpoint where
  id := request.id
  run := ⟨request.input.task, request.input.milestone, request.input.branch, request.input.base⟩
  head := ⟨request.headSha, 0 < request.dirtyPaths.length, request.dirtyPaths, request.timestamp⟩
  stage := ⟨request.input.gate, match previous with
    | none => 1
    | some checkpoint => checkpoint.stage.seq + 1⟩
  profile := request.input.profile
  evidence := request.input.evidence
  openFindings := request.input.openFindings
  decisions := request.input.decisions
  unresolvedDependencies := request.input.unresolvedDependencies
  knownLimitations := request.input.knownLimitations
  nextAction := request.input.nextAction
  knowledgeReferences := request.input.knowledgeReferences
  supersedes := previous.map Checkpoint.id
  publishedAt := request.timestamp

/-- The checkpoint that is published after the latest one; it must be one that can be read again. -/
def nextCheckpoint (request : PublishRequest) (current : Option Loaded) : Except Thrown Checkpoint := do
  let previous ← current.mapM fun loaded => parseCheckpoint loaded.bytes
  match validateCheckpoint (newCheckpoint request previous) with
  | .error thrown =>
    .error (storeError s!"refusing to publish a checkpoint its own reader would reject: {thrown.message}")
  | .ok _ => .ok (newCheckpoint request previous)

/-- A published file as a scan reads it; one that does not validate is skipped. -/
def readFound (directory : Directory) (file : String) : Option Found := do
  let stored ← directory.lookup file
  let checkpoint ← (parseCheckpoint stored.bytes).toOption
  if seqFromFileName file = some checkpoint.stage.seq then some ⟨file, checkpoint, stored.bytes⟩ else none

def newerFound (best : Option Found) (next : Found) : Option Found :=
  match best with
  | none => some next
  | some earlier => if earlier.checkpoint.stage.seq < next.checkpoint.stage.seq then some next else some earlier

def latestFound (found : List Found) : Option Found := found.foldl newerFound none

def newestOf (first : Checkpoint) (others : List Checkpoint) : Checkpoint :=
  others.foldl (fun newest next => if next.stage.seq < newest.stage.seq then newest else next) first

/-- The checkpoints that a pruning deletes: the oldest ones beyond the cap, but not the latest and no cited one. -/
def deletable (cap : Int) (cited : List String) : List Checkpoint → List Checkpoint
  | [] => []
  | first :: others =>
    let latestId := (newestOf first others).id
    (sortOn (fun checkpoint => checkpoint.stage.seq)
      ((first :: others).filter fun checkpoint => checkpoint.id ≠ latestId ∧ checkpoint.id ∉ cited)).take
        (((first :: others).length : Int) - cap).toNat

section

variable (sha256Hex : Bytes → String)

def Found.loaded (found : Found) : Loaded :=
  ⟨⟨found.checkpoint.stage.seq, found.file, found.checkpoint.id, sha256Hex found.bytes⟩, found.bytes⟩

def newIndex (checkpoint : Checkpoint) (timestamp : Date) : CheckpointIndex where
  latest := some ⟨checkpoint.stage.seq, checkpointFileName checkpoint.stage.seq, checkpoint.id,
    sha256Hex (.checkpoint checkpoint)⟩
  updatedAt := timestamp

/-- The newer of the checkpoint in the index and the one that a scan found. -/
def chooseLatest (indexed scanned : Option Loaded) : Option Loaded :=
  match indexed, scanned with
  | some first, some second => if first.entry.seq < second.entry.seq then some second else some first
  | some first, none => some first
  | none, scanned => scanned

def afterLoad (kind : CallKind) (loaded : Option Loaded) : Phase :=
  match kind with
  | .loadLatestCheckpoint => .returned (.loaded loaded)
  | .publishCheckpoint request =>
    match nextCheckpoint request loaded with
    | .error thrown => .threw thrown
    | .ok checkpoint => .writing checkpoint

def retentionCap (kind : CallKind) : Int :=
  match kind with
  | .publishCheckpoint request => request.retentionCap.getD defaultCheckpointRetentionCap
  | .loadLatestCheckpoint => defaultCheckpointRetentionCap

def afterScan (kind : CallKind) (handoff : Option String) (found : List Found) : Scan → Phase
  | .recover entry =>
    if found = [] then
      .threw (formatError s!"checkpoint index points at {entry.file}, which is missing")
    else .listing (.latest none)
  | .latest indexed => afterLoad kind (chooseLatest indexed ((latestFound found).map (Found.loaded sha256Hex)))
  | .retain checkpoint =>
    let published := found.map Found.checkpoint
    if (published.length : Int) ≤ retentionCap kind then .returned (.published checkpoint [] none)
    else
      match handoff with
      | none => .pruning checkpoint (deletable (retentionCap kind) [] published) []
      | some text => .listing (.cite checkpoint published text)
  | .cite checkpoint published text =>
    let cited := (found.map fun item => item.checkpoint.id).filter (includes text)
    .pruning checkpoint (deletable (retentionCap kind) cited published) []

/-- A scan threw; where it was part of a pruning, the call reports this and returns. -/
def scanThrew (thrown : Thrown) : Scan → Phase
  | .recover _ | .latest _ => .threw thrown
  | .retain checkpoint | .cite checkpoint _ _ => .returned (.published checkpoint [] (some thrown.message))

def isCrashed (file : File) (now : Date) : Bool :=
  file.bytes = .empty && reservationGraceMs ≤ now - file.mtime

/-- The clean-up is over; the state of the repository is checked before the first load. -/
def afterTidying (kind : CallKind) : Phase :=
  match kind with
  | .loadLatestCheckpoint => .loading
  | .publishCheckpoint request =>
    if shaPattern request.headSha then .loading
    else .threw (storeError s!"git provider returned something that is not a full commit sha: {request.headSha}")

def retry (call : Call) (file : String) : Call :=
  if call.attempt + 1 < maximumPublishAttempts then { call with attempt := call.attempt + 1, phase := .loading }
  else { call with phase := .threw (checkpointExists file) }

def collisionFile (file : String) : String := checkpointFileName ((seqFromFileName file).getD 0)

def rename (directory : Directory) (temp file : String) : Option Directory :=
  (directory.lookup temp).map fun stored => (directory.erase temp).insert file stored

def Call.at (call : Call) (phase : Phase) : Call := { call with phase }

def writeTemp (call : Call) (uuid : String) (content : File) (next : String → Phase) (directory : Directory) :
    Call × Directory :=
  if (directory.lookup (tempFileName uuid)).isSome then
    (call.at (.threw (fileExists (tempFileName uuid))), directory)
  else (call.at (next (tempFileName uuid)), directory.insert (tempFileName uuid) content)

/-- The index of a published checkpoint is in place: what is left is to prune. -/
def afterIndex (kind : CallKind) (checkpoint : Checkpoint) : Phase :=
  if retentionCap kind < 1 then
    .returned (.published checkpoint [] (some s!"retention cap must be an integer >= 1, got: {retentionCap kind}"))
  else .listing (.retain checkpoint)

def resume (call : Call) (outside : Outside) (clock : Date) (directory : Directory) : Option (Call × Directory) :=
  match call.phase with
  | .entering =>
    match call.kind with
    | .loadLatestCheckpoint => some (call.at .loading, directory)
    | .publishCheckpoint request =>
      match validateInput request.input with
      | .error thrown => some (call.at (.threw thrown), directory)
      | .ok _ => some (call.at (.tidying clock), directory)
  | .tidying now =>
    if outside.names.Perm directory.keys then some (call.at (.inspecting now outside.names), directory) else none
  | .inspecting _ [] => some (call.at (afterTidying call.kind), directory)
  | .inspecting now (file :: files) =>
    if (seqFromFileName file).isSome ∧ (directory.lookup file).any (fun stored => isCrashed stored now) then
      some (call.at (.removing now file files), directory)
    else some (call.at (.inspecting now files), directory)
  | .removing now file files => some (call.at (.inspecting now files), directory.erase file)
  | .loading =>
    let latest := do
      let stored ← directory.lookup indexFileName
      let index ← (parseIndex stored.bytes).toOption
      index.latest
    match latest with
    | none => some (call.at (.listing (.latest none)), directory)
    | some entry => some (call.at (.findingIndexed entry), directory)
  | .findingIndexed entry =>
    if (directory.lookup entry.file).isSome then some (call.at (.readingIndexed entry), directory)
    else some (call.at (.listing (.recover entry)), directory)
  | .readingIndexed entry =>
    match directory.lookup entry.file with
    | none => some (call.at (.threw (noEntry "open" entry.file)), directory)
    | some stored =>
      if sha256Hex stored.bytes ≠ entry.sha256 then
        some (call.at (.threw (formatError (s!"checkpoint {entry.file} does not match the hash recorded in " ++
          "index.json; resume from live state without it, or restore the file from a trusted copy"))), directory)
      else some (call.at (.listing (.latest (some ⟨entry, stored.bytes⟩))), directory)
  | .listing scan =>
    if outside.names.Perm directory.keys then some (call.at (.checking scan outside.names []), directory) else none
  | .checking scan [] files => some (call.at (.reading scan (sortOn id files) []), directory)
  | .checking scan (entry :: entries) files =>
    if isTempFile entry then some (call.at (.checking scan entries files), directory)
    else if (directory.lookup entry).isNone then
      some (call.at (scanThrew (noEntry "lstat" entry) scan), directory)
    else if (seqFromFileName entry).isSome then
      some (call.at (.checking scan entries (files ++ [entry])), directory)
    else some (call.at (.checking scan entries files), directory)
  | .reading scan [] found => some (call.at (afterScan sha256Hex call.kind outside.handoff found scan), directory)
  | .reading scan (file :: files) found =>
    some (call.at (.reading scan files (found ++ (readFound directory file).toList)), directory)
  | .writing checkpoint =>
    some (writeTemp call outside.uuid ⟨.checkpoint checkpoint, clock⟩ (.reserving checkpoint) directory)
  | .reserving checkpoint temp =>
    let file := checkpointFileName checkpoint.stage.seq
    if (directory.lookup file).isSome then some (call.at (.discarding checkpoint temp), directory)
    else some (call.at (.moving checkpoint temp), directory.insert file ⟨.empty, clock⟩)
  | .discarding checkpoint temp =>
    some (call.at (.colliding (checkpointFileName checkpoint.stage.seq)), directory.erase temp)
  | .moving checkpoint temp =>
    match rename directory temp (checkpointFileName checkpoint.stage.seq) with
    | none => some (call.at (.threw (noEntry "rename" temp)), directory)
    | some after => some (call.at (.writingIndex checkpoint), after)
  | .colliding file => some (call.at (.examining file clock), directory)
  | .examining file now =>
    match directory.lookup (collisionFile file) with
    | none => some (retry call file, directory)
    | some stored =>
      if reservationGraceMs ≤ now - stored.mtime then some (call.at (.rereading file), directory)
      else some (retry call file, directory)
  | .rereading file =>
    if (readFound directory (collisionFile file)).isSome then some (retry call file, directory)
    else some (call.at (.clearing file), directory)
  | .clearing file => some (retry call file, directory.erase (collisionFile file))
  | .writingIndex checkpoint =>
    let content := newIndex sha256Hex checkpoint checkpoint.publishedAt
    some (writeTemp call outside.uuid ⟨.index content, clock⟩ (.renamingIndex checkpoint) directory)
  | .renamingIndex checkpoint temp =>
    match rename directory temp indexFileName with
    | none => some (call.at (.threw (noEntry "rename" temp)), directory)
    | some after => some (call.at (afterIndex call.kind checkpoint), after)
  | .pruning checkpoint [] deleted => some (call.at (.returned (.published checkpoint deleted none)), directory)
  | .pruning checkpoint (victim :: victims) deleted =>
    let file := checkpointFileName victim.stage.seq
    if (directory.lookup file).isSome then
      some (call.at (.pruning checkpoint victims (deleted ++ [file])), directory.erase file)
    else
      let thrown := noEntry "unlink" file
      some (call.at (.returned (.published checkpoint []
        (some s!"failed to prune {file}: {thrown.message}"))), directory)
  | .returned _ | .threw _ => none

end

/-- A checkpoint directory under calls. The published checkpoints are those that were ever given their number. -/
structure CheckpointStore where
  clock : Date
  directory : Directory
  calls : AList fun _ : Nat => Call
  published : List Checkpoint

inductive StoreLabel
  | begin (caller : Nat) (kind : CallKind)
  | resume (caller : Nat) (outside : Outside)
  | crash (caller : Nat)
  | wait (clock : Date)

def Call.published (call : Call) : Option Nat :=
  match call.phase with
  | .returned (.published checkpoint _ _) => some checkpoint.stage.seq
  | _ => none

def Call.isFinished (call : Call) : Bool :=
  match call.phase with
  | .returned _ | .threw _ => true
  | _ => false

def Call.publishes (call next : Call) : List Checkpoint :=
  match call.phase, next.phase with
  | .moving checkpoint _, .writingIndex _ => [checkpoint]
  | _, _ => []

namespace CheckpointStore

def returnedNumbers (store : CheckpointStore) : List Nat :=
  store.calls.entries.filterMap fun entry => entry.2.published

def beginning (kind : CallKind) : Phase :=
  match kind with
  | .publishCheckpoint _ => .entering
  | .loadLatestCheckpoint => .loading

/-- One step of one call, the end of a call that has not finished, or a change of the clock. -/
def step (sha256Hex : Bytes → String) (store : CheckpointStore) : StoreLabel → Option CheckpointStore
  | .begin caller kind =>
    if (store.calls.lookup caller).isSome then none
    else some { store with
      calls := store.calls.insert caller ⟨⟨kind, store.returnedNumbers⟩, 0, beginning kind⟩ }
  | .resume caller outside => do
    let call ← store.calls.lookup caller
    let (next, directory) ← AiOffice.Skills.resume sha256Hex call outside store.clock store.directory
    return { store with
      directory
      calls := store.calls.insert caller next
      published := store.published ++ call.publishes next }
  | .crash caller => do
    let call ← store.calls.lookup caller
    if call.isFinished then none else some { store with calls := store.calls.erase caller }
  | .wait clock => some { store with clock }

def initial (clock : Date) : CheckpointStore := ⟨clock, ∅, ∅, []⟩

end CheckpointStore

end AiOffice.Skills
