import AiOffice.Skills.CheckpointStore.Sequence

namespace AiOffice.Skills

open Data Domain

variable {directory after : Directory} {published : List Checkpoint} {checkpoint victim : Checkpoint} {file temp : String}
  {files : List String} {found : List Found} {call next : Call} {origin : Origin} {seq number : Nat} {indexed : Option Loaded}

theorem checkpointFileName_inj {other : Nat} (small : seq < 10 ^ 6)
    (same : checkpointFileName seq = checkpointFileName other) : seq = other := by
  have numbers := congrArg seqFromFileName same
  rw [seqFromFileName_checkpointFileName, seqFromFileName_checkpointFileName, if_pos small] at numbers
  split at numbers
  · exact Option.some.inj numbers
  · cases numbers

/-- A publication: its number is the next one, and its checkpoint is the only one that the directory gains. -/
structure Publication (directory after : Directory) (published : List Checkpoint) (checkpoint : Checkpoint) : Prop where
  next : checkpoint.stage.seq = published.length + 1
  holds : Holds after (checkpointFileName checkpoint.stage.seq) checkpoint
  kept : ∀ file document, isTempFile file = false → Holds directory file document → Holds after file document
  gained : ∀ file document, isTempFile file = false → Holds after file document →
    Holds directory file document ∨ document = checkpoint

namespace Publication

variable (publication : Publication directory after published checkpoint)
include publication

theorem readFound_kept {item : Found} (read : readFound directory file = some item) :
    readFound after file = some item := by
  obtain ⟨holds, rest⟩ := readFound_iff.mp read
  exact readFound_iff.mpr ⟨publication.kept file _ (permanent_of_number rest.2.1) holds, rest⟩

theorem newest_grows (files : List String) (found : List Found) :
    newest directory files found ≤ newest after files found := by
  refine newest_le fun item member => le_newest ?_
  rcases List.mem_append.mp member with earlier | later
  · exact List.mem_append_left _ earlier
  · obtain ⟨file, listed, read⟩ := List.mem_filterMap.mp later
    exact List.mem_append_right _ (List.mem_filterMap.mpr ⟨file, listed, publication.readFound_kept read⟩)

theorem newest_cases (files : List String) (found : List Found) :
    newest after files found = newest directory files found ∨
      newest after files found = checkpoint.stage.seq := by
  have grows := publication.newest_grows files found
  by_contra neither
  rw [not_or] at neither
  have positive : 0 < newest after files found := by omega
  obtain ⟨item, member, same⟩ := newest_mem positive
  have old : item ∉ found ++ files.filterMap (readFound directory) := by
    intro stood
    have below := le_newest stood
    omega
  rcases List.mem_append.mp member with earlier | later
  · exact old (List.mem_append_left _ earlier)
  · obtain ⟨file, listed, read⟩ := List.mem_filterMap.mp later
    obtain ⟨holds, rest⟩ := readFound_iff.mp read
    rcases publication.gained file _ (permanent_of_number rest.2.1) holds with stood | new
    · have readBefore : readFound directory file = some item := readFound_iff.mpr ⟨stood, rest⟩
      exact old (List.mem_append_right _ (List.mem_filterMap.mpr ⟨file, listed, readBefore⟩))
    · rw [new] at same
      exact neither.2 same.symm

theorem taken (stands : number ≤ published.length → ∃ other, Holds directory (checkpointFileName number) other)
    (given : number ≤ published.length + 1) : ∃ other, Holds after (checkpointFileName number) other := by
  rcases Nat.lt_or_ge published.length number with last | earlier
  · have same : number = checkpoint.stage.seq := by rw [publication.next]; omega
    rw [same]
    exact ⟨checkpoint, publication.holds⟩
  · obtain ⟨other, holds⟩ := stands earlier
    exact ⟨other, publication.kept _ other (checkpointFileName_permanent number) holds⟩

theorem searching (searching : Searching directory published origin indexed files found) :
    Searching after (published ++ [checkpoint]) origin indexed files found where
  floor := fun number member => (searching.floor number member).trans (publication.newest_grows files found)
  indexed := fun loaded here => (searching.indexed loaded here).trans (publication.newest_grows files found)
  ahead := by
    intro kind behind
    rw [List.length_append, List.length_singleton] at behind
    have number := publication.next
    rcases publication.newest_cases files found with same | new
    · rw [same] at behind ⊢
      exact publication.taken (searching.ahead kind) (by omega)
    · omega

theorem chosen {own : Checkpoint} (chosen : Chosen directory published origin own) :
    Chosen after (published ++ [checkpoint]) origin own where
  valid := chosen.valid
  positive := chosen.positive
  bound := by
    rw [List.length_append, List.length_singleton]
    exact chosen.bound.trans (Nat.le_succ _)
  later := chosen.later
  taken := by
    rw [List.length_append, List.length_singleton]
    exact publication.taken chosen.taken

end Publication

theorem Given.snoc (given : Given published origin victim) : Given (published ++ [checkpoint]) origin victim :=
  ⟨List.mem_append_left _ given.1, given.2⟩

theorem Known.snoc {entry : CheckpointIndexEntry} (known : Known published entry) :
    Known (published ++ [checkpoint]) entry := by
  refine ⟨known.1, known.2.trans ?_⟩
  rw [List.length_append]
  exact Nat.le_add_right _ _

theorem KnownLoaded.snoc {loaded : Loaded} (known : KnownLoaded published loaded) :
    KnownLoaded (published ++ [checkpoint]) loaded :=
  known.imp fun _ holds => ⟨List.mem_append_left _ holds.1, holds.2⟩

theorem KnownFound.snoc (known : KnownFound published found) : KnownFound (published ++ [checkpoint]) found :=
  fun item member => ⟨List.mem_append_left _ (known item member).1, (known item member).2⟩

theorem ScanSound.snoc {scan : Scan} (sound : ScanSound published origin scan) :
    ScanSound (published ++ [checkpoint]) origin scan := by
  cases scan with
  | recover entry => trivial
  | latest indexed => exact fun loaded here => (sound loaded here).snoc
  | retain own => exact Given.snoc sound
  | cite own retained handoff => exact ⟨sound.1.snoc, fun item member => List.mem_append_left _ (sound.2 item member)⟩

theorem SearchSound.publication {scan : Scan} (publication : Publication directory after published checkpoint)
    (sound : SearchSound directory published origin files found scan) :
    SearchSound after (published ++ [checkpoint]) origin files found scan := by
  cases scan with
  | latest indexed => exact publication.searching sound
  | recover | retain | cite => trivial

/-- A publication by another call. -/
theorem Sound.publication (sound : Sound directory published call)
    (publication : Publication directory after published checkpoint)
    (temp : ∀ file ∈ call.tempFile, after.lookup file = directory.lookup file) (unreserved : call.reservation = none) :
    Sound after (published ++ [checkpoint]) call := by
  have placed := sound.2
  refine ⟨fun number member => ⟨(sound.1 number member).1, (sound.1 number member).2.trans ?_⟩, ?_⟩
  · rw [List.length_append]
    exact Nat.le_add_right _ _
  obtain ⟨origin, attempt, phase⟩ := call
  cases phase with
  | removing now file files => exact placed
  | findingIndexed entry => exact Known.snoc placed
  | readingIndexed entry => exact Known.snoc placed
  | listing scan => exact ScanSound.snoc placed
  | checking scan entries files => exact ⟨placed.1.snoc, placed.2.publication publication⟩
  | reading scan files found => exact ⟨placed.1.snoc, placed.2.1.snoc, placed.2.2.publication publication⟩
  | writing own => exact publication.chosen placed
  | reserving own file => exact ⟨publication.chosen placed.1, placed.2.congr (temp file rfl)⟩
  | discarding own file => exact placed.imp fun bytes temporary => temporary.congr (temp file rfl)
  | moving own file => cases unreserved
  | writingIndex own => exact Given.snoc placed
  | renamingIndex own file =>
    obtain ⟨given, document, temporary, known⟩ := placed
    exact ⟨given.snoc, document, temporary.congr (temp file rfl), fun entry member => (known entry member).snoc⟩
  | pruning own victims deleted =>
    refine ⟨placed.1.snoc, fun item member => ⟨List.mem_append_left _ (placed.2 item member).1, ?_⟩⟩
    rw [List.length_append]
    exact (placed.2 item member).2.trans_le (Nat.le_add_right _ _)
  | returned result =>
    cases result with
    | published own pruned pruneError => exact Given.snoc placed
    | loaded loaded => exact placed
  | entering | tidying | inspecting | loading | colliding | examining | rereading | clearing | threw => trivial

/-- A pruning takes nothing from a scan in progress: it ends where it would have ended, and the number that comes next
is not freed. -/
def spares (directory : Directory) (number : Nat) (kind : CallKind) (files : List String) (found : List Found) : Bool :=
  newest (directory.erase (checkpointFileName number)) files found = newest directory files found &&
    (kind = .loadLatestCheckpoint || number ≠ newest directory files found + 1)

def Call.spared (directory : Directory) (number : Nat) (call : Call) : Bool :=
  match call.phase with
  | .checking (.latest _) entries files => spares directory number call.kind (entries ++ files) []
  | .reading (.latest _) files found => spares directory number call.kind files found
  | .writing checkpoint | .reserving checkpoint _ => number ≠ checkpoint.stage.seq
  | _ => true

theorem Holds.erase (holds : Holds directory file checkpoint) (different : file ≠ temp) :
    Holds (directory.erase temp) file checkpoint := by
  obtain ⟨stored, lookup, content⟩ := holds
  exact ⟨stored, (AList.lookup_erase_ne different).trans lookup, content⟩

theorem taken_erase (small : number < 10 ^ 6) (different : seq ≠ number)
    (stands : ∃ other, Holds directory (checkpointFileName number) other) :
    ∃ other, Holds (directory.erase (checkpointFileName seq)) (checkpointFileName number) other :=
  stands.imp fun _ holds => holds.erase fun same => different (checkpointFileName_inj small same).symm

theorem Searching.pruned (searching : Searching directory published origin indexed files found)
    (filed : Filed directory published) (spared : spares directory seq origin.kind files found = true) :
    Searching (directory.erase (checkpointFileName seq)) published origin indexed files found := by
  rw [spares, Bool.and_eq_true, decide_eq_true_eq, Bool.or_eq_true, decide_eq_true_eq, decide_eq_true_eq] at spared
  obtain ⟨same, different⟩ := spared
  refine ⟨same ▸ searching.floor, same ▸ searching.indexed, ?_⟩
  rw [same]
  intro kind behind
  exact taken_erase (Nat.lt_of_le_of_lt behind filed.small) (different.resolve_left kind) (searching.ahead kind behind)

theorem Chosen.pruned (chosen : Chosen directory published origin checkpoint) (filed : Filed directory published)
    (different : seq ≠ checkpoint.stage.seq) :
    Chosen (directory.erase (checkpointFileName seq)) published origin checkpoint :=
  { chosen with
    taken := fun given => taken_erase (given.trans_lt filed.small) different (chosen.taken given) }

theorem lookup_erase_temp (temporary : isTempFile file = true) :
    (directory.erase (checkpointFileName seq)).lookup file = directory.lookup file := by
  refine AList.lookup_erase_ne ?_
  rintro rfl
  rw [checkpointFileName_permanent] at temporary
  cases temporary

/-- A pruning by another call that spares this one. -/
theorem Sound.pruned (sound : Sound directory published call) (filed : Filed directory published)
    (older : seq < published.length) (spared : call.spared directory seq = true) :
    Sound (directory.erase (checkpointFileName seq)) published call := by
  refine ⟨sound.1, ?_⟩
  have placed := sound.2
  obtain ⟨origin, attempt, phase⟩ := call
  cases phase with
  | checking scan entries files =>
    refine ⟨placed.1, ?_⟩
    cases scan with
    | latest indexed => exact Searching.pruned placed.2 filed spared
    | recover | retain | cite => trivial
  | reading scan files found =>
    refine ⟨placed.1, placed.2.1, ?_⟩
    cases scan with
    | latest indexed => exact Searching.pruned placed.2.2 filed spared
    | recover | retain | cite => trivial
  | writing own => exact Chosen.pruned placed filed (of_decide_eq_true spared)
  | reserving own file =>
    exact ⟨placed.1.pruned filed (of_decide_eq_true spared), placed.2.congr (lookup_erase_temp placed.2.1)⟩
  | discarding own file =>
    exact placed.imp fun bytes temporary => temporary.congr (lookup_erase_temp temporary.1)
  | moving own file =>
    obtain ⟨stored, lookup, content⟩ := placed.file
    refine { placed with
      file := ⟨stored, (AList.lookup_erase_ne fun same => ?_).trans lookup, content⟩
      temp := placed.temp.congr (lookup_erase_temp placed.temp.1) }
    have number := checkpointFileName_inj placed.small same
    have last := placed.next
    omega
  | renamingIndex own file =>
    obtain ⟨given, document, temporary, known⟩ := placed
    exact ⟨given, document, temporary.congr (lookup_erase_temp temporary.1), known⟩
  | returned result =>
    cases result with
    | published | loaded => exact placed
  | entering | tidying | inspecting | removing | loading | findingIndexed | readingIndexed | listing | colliding
  | examining | rereading | clearing | writingIndex | pruning | threw => exact placed

end AiOffice.Skills
