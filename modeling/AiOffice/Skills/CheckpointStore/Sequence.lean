import AiOffice.Skills.CheckpointStore.Publication
import Mathlib.Data.List.MinMax

namespace AiOffice.Skills

open Data Outcome Domain

variable {directory after : Directory} {published : List Checkpoint} {checkpoint : Checkpoint} {file temp : String}
  {files : List String} {found : List Found} {call next : Call} {origin : Origin} {seq : Nat}

theorem toOption_ok {Result : Type} {outcome : Except Thrown Result} {value : Result}
    (present : outcome.toOption = some value) : outcome = .ok value := by
  cases outcome with
  | ok result => rw [Option.some.inj present]
  | error thrown => cases present

private theorem foldr_max_mem {numbers : List Nat} (positive : 0 < numbers.foldr max 0) :
    numbers.foldr max 0 ∈ numbers := by
  induction numbers with
  | nil => exact absurd positive (Nat.lt_irrefl 0)
  | cons number numbers ih =>
    rw [List.foldr_cons] at positive ⊢
    rcases le_total (numbers.foldr max 0) number with below | above
    · rw [max_eq_left below]
      exact List.mem_cons_self
    · rw [max_eq_right above] at positive ⊢
      exact List.mem_cons_of_mem _ (ih positive)

def Holds (directory : Directory) (file : String) (checkpoint : Checkpoint) : Prop :=
  ∃ stored, directory.lookup file = some stored ∧ stored.bytes = .checkpoint checkpoint

theorem permanent_of_number (number : seqFromFileName file = some seq) : isTempFile file = false := by
  rw [← Bool.not_eq_true]
  intro name
  rw [seqFromFileName_temp name] at number
  cases number

theorem readFound_iff {item : Found} :
    readFound directory file = some item ↔ Holds directory file item.checkpoint ∧
      validateCheckpoint item.checkpoint = .ok ⟨⟩ ∧ seqFromFileName file = some item.checkpoint.stage.seq ∧
        item = ⟨file, item.checkpoint, .checkpoint item.checkpoint⟩ := by
  constructor
  · intro read
    obtain ⟨stored, lookup, read⟩ := Option.bind_eq_some_iff.mp read
    obtain ⟨document, parsed, read⟩ := Option.bind_eq_some_iff.mp read
    have parsed := toOption_ok parsed
    have content := parseCheckpoint_ok parsed
    split at read
    · next number =>
      obtain rfl := Option.some.inj read
      rw [content] at parsed
      obtain ⟨⟨⟩, validated, -⟩ := map_ok parsed
      exact ⟨⟨stored, lookup, content⟩, validated, number, by rw [content]⟩
    · cases read
  · rintro ⟨⟨stored, lookup, content⟩, validated, number, same⟩
    have parsed : parseCheckpoint stored.bytes = .ok item.checkpoint := by
      rw [content, parseCheckpoint, validated]
      rfl
    refine Option.bind_eq_some_iff.mpr ⟨stored, lookup, Option.bind_eq_some_iff.mpr ⟨item.checkpoint, ?_, ?_⟩⟩
    · rw [parsed]
      rfl
    · rw [if_pos number, content, ← same]

def Known (published : List Checkpoint) (entry : CheckpointIndexEntry) : Prop :=
  entry.file = checkpointFileName entry.seq ∧ entry.seq ≤ published.length

/-- What a file of the directory holds, once the numbers up to that of the last publication are given. -/
inductive Stored (published : List Checkpoint) (file : String) : Bytes → Prop
  | temp {bytes} (name : isTempFile file = true) : Stored published file bytes
  | index {document} (name : file = indexFileName)
      (known : ∀ entry ∈ document.latest, Known published entry) :
      Stored published file (.index document)
  | reservation (name : file = checkpointFileName (published.length + 1)) : Stored published file .empty
  | checkpoint {document} (known : document ∈ published) (name : file = checkpointFileName document.stage.seq) :
      Stored published file (.checkpoint document)

/-- The state of the files: the numbers were given in order, and the file of the last one stands. -/
structure Filed (directory : Directory) (published : List Checkpoint) : Prop where
  numbered : published.map (fun checkpoint => checkpoint.stage.seq) = List.range' 1 published.length
  valid : ∀ checkpoint ∈ published, validateCheckpoint checkpoint = .ok ⟨⟩
  small : published.length < 10 ^ 6
  stored : ∀ file stored, directory.lookup file = some stored → Stored published file stored.bytes
  stands : 0 < published.length → ∃ checkpoint, Holds directory (checkpointFileName published.length) checkpoint

namespace Filed

variable (filed : Filed directory published)
include filed

theorem seq_mem (known : checkpoint ∈ published) :
    1 ≤ checkpoint.stage.seq ∧ checkpoint.stage.seq ≤ published.length := by
  have member : checkpoint.stage.seq ∈ published.map fun checkpoint => checkpoint.stage.seq :=
    List.mem_map.mpr ⟨checkpoint, known, rfl⟩
  rw [filed.numbered, List.mem_range'_1] at member
  omega

theorem unique {other : Checkpoint} (known : checkpoint ∈ published) (also : other ∈ published)
    (same : checkpoint.stage.seq = other.stage.seq) : checkpoint = other := by
  have distinct : (published.map fun checkpoint => checkpoint.stage.seq).Nodup := by
    rw [filed.numbered]
    exact List.nodup_range'
  exact List.inj_on_of_nodup_map distinct known also same

theorem named (known : checkpoint ∈ published) :
    seqFromFileName (checkpointFileName checkpoint.stage.seq) = some checkpoint.stage.seq := by
  have bound := (filed.seq_mem known).2
  rw [seqFromFileName_checkpointFileName, if_pos (bound.trans_lt filed.small)]

theorem holds_known (permanent : isTempFile file = false) (holds : Holds directory file checkpoint) :
    checkpoint ∈ published ∧ file = checkpointFileName checkpoint.stage.seq := by
  obtain ⟨stored, found, content⟩ := holds
  have kind := filed.stored file stored found
  rw [content] at kind
  cases kind with
  | temp name => rw [name] at permanent; cases permanent
  | checkpoint known name => exact ⟨known, name⟩

theorem readFound_known {item : Found} (read : readFound directory file = some item) :
    item.checkpoint ∈ published ∧ file = checkpointFileName item.checkpoint.stage.seq ∧
      item.bytes = .checkpoint item.checkpoint := by
  obtain ⟨holds, -, number, same⟩ := readFound_iff.mp read
  obtain ⟨known, name⟩ := filed.holds_known (permanent_of_number number) holds
  exact ⟨known, name, congrArg Found.bytes same⟩

theorem readFound_of_holds (known : checkpoint ∈ published)
    (holds : Holds directory (checkpointFileName checkpoint.stage.seq) checkpoint) :
    readFound directory (checkpointFileName checkpoint.stage.seq) =
      some ⟨checkpointFileName checkpoint.stage.seq, checkpoint, .checkpoint checkpoint⟩ :=
  readFound_iff.mpr ⟨holds, filed.valid checkpoint known, filed.named known, rfl⟩

end Filed

/-- The number that a scan ends with, if it reads the rest of its files now. -/
def newest (directory : Directory) (files : List String) (found : List Found) : Nat :=
  ((found ++ files.filterMap (readFound directory)).map fun item => item.checkpoint.stage.seq).foldr max 0

theorem le_newest {item : Found} (member : item ∈ found ++ files.filterMap (readFound directory)) :
    item.checkpoint.stage.seq ≤ newest directory files found :=
  List.le_max_of_le' 0 (List.mem_map.mpr ⟨item, member, rfl⟩) le_rfl

theorem newest_mem (positive : 0 < newest directory files found) :
    ∃ item ∈ found ++ files.filterMap (readFound directory), item.checkpoint.stage.seq = newest directory files found :=
  List.mem_map.mp (foldr_max_mem positive)

theorem newest_le {bound : Nat}
    (each : ∀ item ∈ found ++ files.filterMap (readFound directory), item.checkpoint.stage.seq ≤ bound) :
    newest directory files found ≤ bound := by
  rcases Nat.eq_zero_or_pos (newest directory files found) with zero | positive
  · rw [zero]
    exact Nat.zero_le _
  · obtain ⟨item, member, same⟩ := newest_mem positive
    rw [← same]
    exact each item member

theorem newest_congr (same : ∀ file ∈ files, readFound after file = readFound directory file) :
    newest after files found = newest directory files found := by
  rw [newest, newest, List.filterMap_congr same]

theorem newest_mono {others : List String} {also : List Found}
    (each : ∀ item ∈ found ++ files.filterMap (readFound directory),
      item ∈ also ++ others.filterMap (readFound directory)) :
    newest directory files found ≤ newest directory others also :=
  newest_le fun item member => le_newest (each item member)

def SameCheckpoints (directory after : Directory) : Prop :=
  ∀ file, isTempFile file = false → ∀ checkpoint, Holds after file checkpoint ↔ Holds directory file checkpoint

theorem SameCheckpoints.readFound (same : SameCheckpoints directory after) (file : String) :
    readFound after file = readFound directory file := by
  refine Option.ext fun item => ?_
  rw [readFound_iff, readFound_iff]
  refine ⟨fun ⟨holds, rest⟩ => ⟨?_, rest⟩, fun ⟨holds, rest⟩ => ⟨?_, rest⟩⟩
  · exact (same file (permanent_of_number rest.2.1) _).mp holds
  · exact (same file (permanent_of_number rest.2.1) _).mpr holds

theorem SameCheckpoints.newest (same : SameCheckpoints directory after) (files : List String) (found : List Found) :
    newest after files found = newest directory files found :=
  newest_congr fun file _ => same.readFound file

def Temp (directory : Directory) (temp : String) (bytes : Bytes) : Prop :=
  isTempFile temp = true ∧ ∃ stored, directory.lookup temp = some stored ∧ stored.bytes = bytes

/-- A load on its way: it will end at a number that is as late as it must be, and the next number, if it was given,
is still taken. -/
structure Searching (directory : Directory) (published : List Checkpoint) (origin : Origin) (indexed : Option Loaded)
    (files : List String) (found : List Found) : Prop where
  floor : ∀ number ∈ origin.earlier, number ≤ newest directory files found
  indexed : ∀ loaded ∈ indexed, loaded.entry.seq ≤ newest directory files found
  ahead : origin.kind ≠ .loadLatestCheckpoint → newest directory files found < published.length →
    ∃ checkpoint, Holds directory (checkpointFileName (newest directory files found + 1)) checkpoint

/-- A call that has chosen its number; if the number was given meanwhile, it is still taken. -/
structure Chosen (directory : Directory) (published : List Checkpoint) (origin : Origin) (checkpoint : Checkpoint) :
    Prop where
  valid : validateCheckpoint checkpoint = .ok ⟨⟩
  positive : 1 ≤ checkpoint.stage.seq
  bound : checkpoint.stage.seq ≤ published.length + 1
  later : ∀ number ∈ origin.earlier, number < checkpoint.stage.seq
  taken : checkpoint.stage.seq ≤ published.length →
    ∃ other, Holds directory (checkpointFileName checkpoint.stage.seq) other

structure Reserved (directory : Directory) (published : List Checkpoint) (checkpoint : Checkpoint) (temp : String) :
    Prop where
  valid : validateCheckpoint checkpoint = .ok ⟨⟩
  next : checkpoint.stage.seq = published.length + 1
  small : checkpoint.stage.seq < 10 ^ 6
  file : ∃ stored, directory.lookup (checkpointFileName checkpoint.stage.seq) = some stored ∧ stored.bytes = .empty
  temp : Temp directory temp (.checkpoint checkpoint)

def Given (published : List Checkpoint) (origin : Origin) (checkpoint : Checkpoint) : Prop :=
  checkpoint ∈ published ∧ ∀ number ∈ origin.earlier, number < checkpoint.stage.seq

def KnownLoaded (published : List Checkpoint) (loaded : Loaded) : Prop :=
  ∃ checkpoint ∈ published, loaded.bytes = .checkpoint checkpoint ∧ checkpoint.stage.seq = loaded.entry.seq

def ScanSound (published : List Checkpoint) (origin : Origin) : Scan → Prop
  | .recover _ => True
  | .latest indexed => ∀ loaded ∈ indexed, KnownLoaded published loaded
  | .retain checkpoint => Given published origin checkpoint
  | .cite checkpoint retained _ => Given published origin checkpoint ∧ ∀ item ∈ retained, item ∈ published

def SearchSound (directory : Directory) (published : List Checkpoint) (origin : Origin) (files : List String)
    (found : List Found) : Scan → Prop
  | .latest indexed => Searching directory published origin indexed files found
  | _ => True

def KnownFound (published : List Checkpoint) (found : List Found) : Prop :=
  ∀ item ∈ found, item.checkpoint ∈ published ∧ item.bytes = .checkpoint item.checkpoint

def PhaseSound (directory : Directory) (published : List Checkpoint) (origin : Origin) : Phase → Prop
  | .removing _ file _ => isTempFile file = false
  | .findingIndexed entry | .readingIndexed entry => Known published entry
  | .listing scan => ScanSound published origin scan
  | .checking scan entries files =>
    ScanSound published origin scan ∧ SearchSound directory published origin (entries ++ files) [] scan
  | .reading scan files found =>
    ScanSound published origin scan ∧ KnownFound published found ∧
      SearchSound directory published origin files found scan
  | .writing checkpoint => Chosen directory published origin checkpoint
  | .reserving checkpoint temp =>
    Chosen directory published origin checkpoint ∧ Temp directory temp (.checkpoint checkpoint)
  | .discarding _ temp => ∃ bytes, Temp directory temp bytes
  | .moving checkpoint temp => Reserved directory published checkpoint temp
  | .writingIndex checkpoint => Given published origin checkpoint
  | .renamingIndex checkpoint temp =>
    Given published origin checkpoint ∧
      ∃ document, Temp directory temp (.index document) ∧ ∀ entry ∈ document.latest, Known published entry
  | .pruning checkpoint victims _ =>
    Given published origin checkpoint ∧
      ∀ victim ∈ victims, victim ∈ published ∧ victim.stage.seq < published.length
  | .returned (.published checkpoint _ _) => Given published origin checkpoint
  | .returned (.loaded loaded) => ∀ number ∈ origin.earlier, ∃ value ∈ loaded, number ≤ value.entry.seq
  | _ => True

/-- What holds of every call: the numbers that it must pass were given, and its phase is in order. -/
def Sound (directory : Directory) (published : List Checkpoint) (call : Call) : Prop :=
  (∀ number ∈ call.earlier, 1 ≤ number ∧ number ≤ published.length) ∧ PhaseSound directory published call.toOrigin call.phase

theorem Filed.newest_le (filed : Filed directory published) (files : List String) (known : KnownFound published found) :
    newest directory files found ≤ published.length := by
  refine Skills.newest_le fun item member => ?_
  rcases List.mem_append.mp member with earlier | later
  · exact (filed.seq_mem (known item earlier).1).2
  · obtain ⟨file, -, read⟩ := List.mem_filterMap.mp later
    exact (filed.seq_mem (filed.readFound_known read).1).2

theorem foldl_newerFound (first : Found) (found : List Found) :
    ∃ best ∈ first :: found, found.foldl newerFound (some first) = some best ∧
      ∀ item ∈ first :: found, item.checkpoint.stage.seq ≤ best.checkpoint.stage.seq := by
  induction found generalizing first with
  | nil => exact ⟨first, List.mem_cons_self, rfl, by simp⟩
  | cons second found ih =>
    rw [List.foldl_cons, newerFound]
    split
    · next newer =>
      obtain ⟨best, member, same, greatest⟩ := ih second
      refine ⟨best, List.mem_cons_of_mem _ member, same, ?_⟩
      rintro item (_ | ⟨_, member⟩)
      · exact newer.le.trans (greatest second List.mem_cons_self)
      · exact greatest item member
    · next older =>
      obtain ⟨best, member, same, greatest⟩ := ih first
      refine ⟨best, ?_, same, ?_⟩
      · rcases List.mem_cons.mp member with rfl | later
        · exact List.mem_cons_self
        · exact List.mem_cons_of_mem _ (List.mem_cons_of_mem _ later)
      · intro item member
        rcases List.mem_cons.mp member with rfl | member
        · exact greatest item List.mem_cons_self
        · rcases List.mem_cons.mp member with rfl | later
          · exact (Nat.le_of_not_lt older).trans (greatest first List.mem_cons_self)
          · exact greatest item (List.mem_cons_of_mem _ later)

theorem latestFound_cases (directory : Directory) (found : List Found) :
    latestFound found = none ∧ newest directory [] found = 0 ∨
      ∃ best ∈ found, latestFound found = some best ∧ best.checkpoint.stage.seq = newest directory [] found := by
  cases found with
  | nil => exact .inl ⟨rfl, rfl⟩
  | cons first found =>
    obtain ⟨best, member, same, greatest⟩ := foldl_newerFound first found
    refine .inr ⟨best, member, same, le_antisymm (le_newest (by simpa using member)) (Skills.newest_le ?_)⟩
    intro item listed
    exact greatest item (by simpa using listed)

variable {sha256Hex : Bytes → String} {indexed : Option Loaded}

theorem chooseLatest_known (sha256Hex : Bytes → String) (filed : Filed directory published) (known : KnownFound published found)
    (sound : ∀ loaded ∈ indexed, KnownLoaded published loaded)
    (searching : Searching directory published origin indexed [] found) :
    (chooseLatest indexed ((latestFound found).map (Found.loaded sha256Hex)) = none ∧ newest directory [] found = 0) ∨
      ∃ loaded, chooseLatest indexed ((latestFound found).map (Found.loaded sha256Hex)) = some loaded ∧
        KnownLoaded published loaded ∧ loaded.entry.seq = newest directory [] found := by
  have scanned {best : Found} (member : best ∈ found) : KnownLoaded published (best.loaded sha256Hex) :=
    ⟨best.checkpoint, (known best member).1, (known best member).2, rfl⟩
  rcases latestFound_cases directory found with ⟨nothing, zero⟩ | ⟨best, member, same, number⟩
  · cases indexed with
    | none => exact .inl ⟨by rw [nothing]; rfl, zero⟩
    | some loaded =>
      obtain ⟨checkpoint, given, -, number⟩ := sound loaded rfl
      have below := searching.indexed loaded rfl
      have positive := (filed.seq_mem given).1
      omega
  · rw [same]
    cases indexed with
    | none => exact .inr ⟨best.loaded sha256Hex, rfl, scanned member, number⟩
    | some loaded =>
      have below := searching.indexed loaded rfl
      refine .inr ?_
      rw [Option.map_some, chooseLatest]
      split
      · exact ⟨_, rfl, scanned member, number⟩
      · next newer =>
        refine ⟨loaded, rfl, sound loaded rfl, le_antisymm below ?_⟩
        rw [← number]
        exact Nat.le_of_not_lt newer

theorem nextCheckpoint_ok {request : PublishRequest} {loaded : Option Loaded}
    (composed : nextCheckpoint request loaded = .ok checkpoint) :
    validateCheckpoint checkpoint = .ok ⟨⟩ ∧
      (loaded = none ∧ checkpoint.stage.seq = 1 ∨
        ∃ value previous, loaded = some value ∧ value.bytes = .checkpoint previous ∧
          checkpoint.stage.seq = previous.stage.seq + 1) := by
  obtain ⟨previous, parsed, composed⟩ := bind_ok composed
  split at composed
  · cases composed
  · next validated =>
    cases composed
    refine ⟨validated, ?_⟩
    cases loaded with
    | none =>
      cases parsed
      exact .inl ⟨rfl, rfl⟩
    | some value =>
      obtain ⟨document, read, same⟩ := map_ok parsed
      cases same
      exact .inr ⟨value, document, rfl, parseCheckpoint_ok read, rfl⟩

/-- The end of a load: it returns, or its call has chosen the next number. -/
theorem afterLoad_sound (filed : Filed directory published) (known : KnownFound published found)
    (counted : ∀ number ∈ origin.earlier, 1 ≤ number ∧ number ≤ published.length)
    (sound : ∀ loaded ∈ indexed, KnownLoaded published loaded)
    (searching : Searching directory published origin indexed [] found) :
    PhaseSound directory published origin
      (afterLoad origin.kind (chooseLatest indexed ((latestFound found).map (Found.loaded sha256Hex)))) := by
  have chosen := chooseLatest_known sha256Hex filed known sound searching
  have within := filed.newest_le [] known
  cases kind : origin.kind with
  | loadLatestCheckpoint =>
    intro number member
    have floor := searching.floor number member
    rcases chosen with ⟨-, zero⟩ | ⟨loaded, same, -, number'⟩
    · have positive := (counted number member).1
      omega
    · exact ⟨loaded, same, floor.trans number'.ge⟩
  | publishCheckpoint request =>
    rw [afterLoad]
    split
    · trivial
    · next checkpoint composed =>
      obtain ⟨valid, choice⟩ := nextCheckpoint_ok composed
      have number : checkpoint.stage.seq = newest directory [] found + 1 := by
        rcases choice with ⟨nothing, first⟩ | ⟨value, previous, same, bytes, follows⟩
        · rcases chosen with ⟨-, zero⟩ | ⟨loaded, some, -⟩
          · rw [first, zero]
          · rw [nothing] at some
            cases some
        · rcases chosen with ⟨none, -⟩ | ⟨loaded, some, ⟨document, -, content, equal⟩, number⟩
          · rw [same] at none
            cases none
          · rw [same] at some
            cases some
            rw [bytes] at content
            cases content
            rw [follows, equal, number]
      refine ⟨valid, by omega, by omega, fun earlier member => ?_, fun given => ?_⟩
      · have floor := searching.floor earlier member
        omega
      · rw [number] at given ⊢
        exact searching.ahead (by rw [kind]; nofun) given

section

variable (same : SameCheckpoints directory after)
include same

theorem SameCheckpoints.taken {number : Nat} (stands : ∃ other, Holds directory (checkpointFileName number) other) :
    ∃ other, Holds after (checkpointFileName number) other := by
  obtain ⟨other, holds⟩ := stands
  exact ⟨other, (same _ (checkpointFileName_permanent number) other).mpr holds⟩

theorem Searching.quiet (searching : Searching directory published origin indexed files found) :
    Searching after published origin indexed files found where
  floor := by rw [same.newest]; exact searching.floor
  indexed := by rw [same.newest]; exact searching.indexed
  ahead := by
    rw [same.newest]
    exact fun kind behind => same.taken (searching.ahead kind behind)

theorem Chosen.quiet (chosen : Chosen directory published origin checkpoint) : Chosen after published origin checkpoint where
  valid := chosen.valid
  positive := chosen.positive
  bound := chosen.bound
  later := chosen.later
  taken := fun given => same.taken (chosen.taken given)

theorem SearchSound.quiet {scan : Scan} (sound : SearchSound directory published origin files found scan) :
    SearchSound after published origin files found scan := by
  cases scan with
  | latest indexed => exact Searching.quiet same sound
  | recover | retain | cite => trivial

end

def Call.tempFile (call : Call) : Option String :=
  match call.phase with
  | .reserving _ temp | .discarding _ temp | .moving _ temp | .renamingIndex _ temp => some temp
  | _ => none

def Call.reservation (call : Call) : Option String :=
  match call.phase with
  | .moving checkpoint _ => some (checkpointFileName checkpoint.stage.seq)
  | _ => none

theorem Temp.congr {bytes : Bytes} (temporary : Temp directory temp bytes)
    (kept : after.lookup temp = directory.lookup temp) : Temp after temp bytes := by
  obtain ⟨name, stored, lookup, content⟩ := temporary
  exact ⟨name, stored, kept.trans lookup, content⟩

theorem Sound.quiet (sound : Sound directory published call) (same : SameCheckpoints directory after)
    (temp : ∀ file ∈ call.tempFile, after.lookup file = directory.lookup file)
    (reservation : ∀ file ∈ call.reservation, after.lookup file = directory.lookup file) :
    Sound after published call := by
  refine ⟨sound.1, ?_⟩
  have placed := sound.2
  obtain ⟨origin, attempt, phase⟩ := call
  cases phase with
  | checking scan entries files => exact ⟨placed.1, placed.2.quiet same⟩
  | reading scan files found => exact ⟨placed.1, placed.2.1, placed.2.2.quiet same⟩
  | writing checkpoint => exact Chosen.quiet same placed
  | reserving checkpoint file => exact ⟨placed.1.quiet same, placed.2.congr (temp file rfl)⟩
  | discarding checkpoint file => exact placed.imp fun bytes temporary => temporary.congr (temp file rfl)
  | moving checkpoint file =>
    obtain ⟨stored, lookup, content⟩ := placed.file
    exact { placed with
      file := ⟨stored, (reservation _ rfl).trans lookup, content⟩
      temp := placed.temp.congr (temp file rfl) }
  | renamingIndex checkpoint file =>
    obtain ⟨given, document, temporary, known⟩ := placed
    exact ⟨given, document, temporary.congr (temp file rfl), known⟩
  | returned result =>
    cases result with
    | published | loaded => exact placed
  | entering | tidying | inspecting | removing | loading | findingIndexed | readingIndexed | listing | colliding
  | examining | rereading | clearing | writingIndex | pruning | threw => exact placed

end AiOffice.Skills
