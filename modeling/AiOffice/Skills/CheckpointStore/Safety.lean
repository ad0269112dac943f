import AiOffice.Skills.CheckpointStore.Uniqueness

namespace AiOffice.Skills

open Data Domain

variable {directory after : Directory} {published : List Checkpoint} {checkpoint victim : Checkpoint} {file temp : String}
  {files : List String} {found : List Found} {call next : Call} {origin : Origin} {seq : Nat} {content : File}
  {indexed : Option Loaded}

theorem SameCheckpoints.refl (directory : Directory) : SameCheckpoints directory directory :=
  fun _ _ _ => Iff.rfl

theorem SameCheckpoints.trans {middle : Directory} (first : SameCheckpoints directory middle)
    (second : SameCheckpoints middle after) : SameCheckpoints directory after :=
  fun file permanent checkpoint => (second file permanent checkpoint).trans (first file permanent checkpoint)

theorem SameCheckpoints.of_lookup (only : ∀ other, other ≠ file → after.lookup other = directory.lookup other)
    (neither : isTempFile file = false → ∀ checkpoint, ¬Holds directory file checkpoint ∧ ¬Holds after file checkpoint) :
    SameCheckpoints directory after := by
  intro other permanent checkpoint
  by_cases same : other = file
  · subst same
    exact iff_of_false (neither permanent checkpoint).2 (neither permanent checkpoint).1
  · rw [Holds, Holds, only other same]

theorem not_holds_erase : ¬Holds (directory.erase file) file checkpoint := by
  rintro ⟨stored, lookup, -⟩
  rw [AList.lookup_erase] at lookup
  cases lookup

theorem not_holds_insert (different : content.bytes ≠ .checkpoint checkpoint) :
    ¬Holds (directory.insert file content) file checkpoint := by
  rintro ⟨stored, lookup, same⟩
  rw [AList.lookup_insert] at lookup
  cases lookup
  exact different same

theorem sameCheckpoints_insert_temp (temporary : isTempFile temp = true) :
    SameCheckpoints directory (directory.insert temp content) :=
  .of_lookup (fun _ different => AList.lookup_insert_ne different)
    fun permanent => absurd (temporary.symm.trans permanent) Bool.noConfusion

theorem sameCheckpoints_erase_temp (temporary : isTempFile temp = true) :
    SameCheckpoints directory (directory.erase temp) :=
  .of_lookup (fun _ different => AList.lookup_erase_ne different)
    fun permanent => absurd (temporary.symm.trans permanent) Bool.noConfusion

theorem sameCheckpoints_erase_empty
    (empty : ∀ stored, directory.lookup file = some stored → stored.bytes = .empty) :
    SameCheckpoints directory (directory.erase file) := by
  refine .of_lookup (fun _ different => AList.lookup_erase_ne different) fun _ checkpoint => ⟨?_, not_holds_erase⟩
  rintro ⟨stored, lookup, content⟩
  rw [empty stored lookup] at content
  cases content

theorem sameCheckpoints_reserve {mtime : Date} (free : directory.lookup file = none) :
    SameCheckpoints directory (directory.insert file ⟨.empty, mtime⟩) := by
  refine .of_lookup (fun _ different => AList.lookup_insert_ne different) fun _ checkpoint =>
    ⟨?_, not_holds_insert nofun⟩
  rintro ⟨stored, lookup, -⟩
  rw [free] at lookup
  cases lookup

theorem Filed.sameCheckpoints_index (filed : Filed directory published) {document : CheckpointIndex}
    (index : content.bytes = .index document) : SameCheckpoints directory (directory.insert indexFileName content) := by
  refine .of_lookup (fun _ different => AList.lookup_insert_ne different) fun permanent checkpoint =>
    ⟨fun holds => ?_, not_holds_insert (by rw [index]; nofun)⟩
  obtain ⟨known, name⟩ := filed.holds_known permanent holds
  have number := filed.named known
  rw [← name, seqFromFileName_index] at number
  cases number

theorem Filed.erase (filed : Filed directory published)
    (other : 0 < published.length → file ≠ checkpointFileName published.length) :
    Filed (directory.erase file) published :=
  { filed with
    stored := by
      intro name stored lookup
      by_cases same : name = file
      · rw [same, AList.lookup_erase] at lookup
        cases lookup
      · rw [AList.lookup_erase_ne same] at lookup
        exact filed.stored name stored lookup
    stands := fun given => (filed.stands given).imp fun _ holds => holds.erase (other given).symm }

theorem Filed.insert (filed : Filed directory published) (fits : Stored published file content.bytes)
    (other : 0 < published.length → file ≠ checkpointFileName published.length) :
    Filed (directory.insert file content) published :=
  { filed with
    stored := by
      intro name stored lookup
      by_cases same : name = file
      · rw [same, AList.lookup_insert] at lookup
        cases lookup
        rw [same]
        exact fits
      · rw [AList.lookup_insert_ne same] at lookup
        exact filed.stored name stored lookup
    stands := by
      intro given
      obtain ⟨checkpoint, stored, lookup, holds⟩ := filed.stands given
      exact ⟨checkpoint, stored, (AList.lookup_insert_ne (other given).symm).trans lookup, holds⟩ }

theorem temp_ne_checkpoint (temporary : isTempFile temp = true) : temp ≠ checkpointFileName seq := by
  rintro rfl
  rw [checkpointFileName_permanent] at temporary
  cases temporary

theorem index_ne_checkpoint (small : seq < 10 ^ 6) : indexFileName ≠ checkpointFileName seq := by
  intro same
  have number := seqFromFileName_checkpointFileName seq
  rw [← same, if_pos small, seqFromFileName_index] at number
  cases number

/-- A checkpoint is renamed over its reservation. -/
theorem Reserved.publication (reserved : Reserved directory published checkpoint temp)
    (filed : Filed directory published)
    (moved : rename directory temp (checkpointFileName checkpoint.stage.seq) = some after) :
    Publication directory after published checkpoint ∧ Filed after (published ++ [checkpoint]) := by
  obtain ⟨temporary, stored, lookup, content⟩ := reserved.temp
  rw [rename, lookup] at moved
  obtain rfl := Option.some.inj moved
  obtain ⟨reservation, place, empty⟩ := reserved.file
  have number := reserved.next
  have small := reserved.small
  have elsewhere {other : String} (different : other ≠ checkpointFileName checkpoint.stage.seq) (away : other ≠ temp) :
      ((directory.erase temp).insert (checkpointFileName checkpoint.stage.seq) stored).lookup other =
        directory.lookup other :=
    (AList.lookup_insert_ne different).trans (AList.lookup_erase_ne away)
  have away {other : String} (permanent : isTempFile other = false) : other ≠ temp := by
    rintro rfl
    rw [temporary] at permanent
    cases permanent
  refine ⟨⟨number, ⟨stored, AList.lookup_insert _, content⟩, ?_, ?_⟩, ?_⟩
  · rintro other document permanent ⟨before, found, holds⟩
    refine ⟨before, (elsewhere ?_ (away permanent)).trans found, holds⟩
    rintro rfl
    rw [place] at found
    cases found
    rw [empty] at holds
    cases holds
  · rintro other document permanent ⟨later, found, holds⟩
    by_cases same : other = checkpointFileName checkpoint.stage.seq
    · rw [same, AList.lookup_insert] at found
      cases found
      rw [content] at holds
      cases holds
      exact .inr rfl
    · exact .inl ⟨later, (elsewhere same (away permanent)).symm.trans found, holds⟩
  · refine ⟨?_, ?_, ?_, ?_, fun _ => ?_⟩
    · rw [List.map_append, filed.numbered, List.map_singleton, number, List.length_append, List.length_singleton,
        List.range'_concat, Nat.one_mul, Nat.add_comm 1]
    · intro document member
      rcases List.mem_append.mp member with earlier | new
      · exact filed.valid document earlier
      · rw [List.mem_singleton.mp new]
        exact reserved.valid
    · rw [List.length_append, List.length_singleton, ← number]
      exact small
    · intro other later found
      by_cases same : other = checkpointFileName checkpoint.stage.seq
      · rw [same, AList.lookup_insert] at found
        cases found
        rw [content, same]
        exact .checkpoint (List.mem_append_right _ (List.mem_singleton_self _)) rfl
      · by_cases erased : other = temp
        · rw [AList.lookup_insert_ne same, erased, AList.lookup_erase] at found
          cases found
        · rw [elsewhere same erased] at found
          have fits := filed.stored other later found
          generalize later.bytes = bytes at fits
          cases fits with
          | temp name => exact .temp name
          | index name known => exact .index name fun entry member => (known entry member).snoc
          | reservation name => exact absurd (number ▸ name) same
          | checkpoint known name => exact .checkpoint (List.mem_append_left _ known) name
    · refine ⟨checkpoint, stored, ?_, content⟩
      rw [List.length_append, List.length_singleton, ← number]
      exact AList.lookup_insert _

/-- A file that is no other call's: there is none, or it is the index, or an old reservation. -/
def Unclaimed (clock : Date) (directory : Directory) (file : String) : Prop :=
  directory.lookup file = none ∨ file = indexFileName ∨
    isTempFile file = false ∧ ∃ stored, directory.lookup file = some stored ∧ stored.bytes = .empty ∧
      reservationGraceMs < clock - stored.mtime

/-- A step that leaves the checkpoints and the files of the other calls. -/
structure Quiet (clock : Date) (directory : Directory) (published : List Checkpoint) (call next : Call)
    (after : Directory) : Prop where
  same : SameCheckpoints directory after
  filed : Filed after published
  own : Sound after published next
  files : ∀ file, after.lookup file = directory.lookup file ∨ call.tempFile = some file ∨ Unclaimed clock directory file
  unreserved : next.reservation = none
  temp : ∀ file ∈ next.tempFile, call.tempFile = some file ∨ directory.lookup file = none

variable {clock : Date} {phase : Phase}

theorem Quiet.stay (filed : Filed directory published) (own : Sound directory published next)
    (unreserved : next.reservation = none) (temp : ∀ file ∈ next.tempFile, call.tempFile = some file) :
    Quiet clock directory published call next directory where
  same := .refl directory
  filed := filed
  own := own
  files := fun _ => .inl rfl
  unreserved := unreserved
  temp := fun file here => .inl (temp file here)

def Phase.isBare : Phase → Bool
  | .reserving .. | .discarding .. | .moving .. | .renamingIndex .. => false
  | _ => true

theorem Phase.isBare_reservation (bare : phase.isBare = true) : (call.at phase).reservation = none := by
  cases phase <;> first | rfl | cases bare

theorem Phase.isBare_temp (bare : phase.isBare = true) : (call.at phase).tempFile = none := by
  cases phase <;> first | rfl | cases bare

theorem Sound.stay (sound : Sound directory published call) (filed : Filed directory published)
    (own : PhaseSound directory published call.toOrigin phase) (bare : phase.isBare = true) :
    Quiet clock directory published call (call.at phase) directory := by
  refine .stay filed ⟨sound.1, own⟩ (Phase.isBare_reservation bare) ?_
  rw [Phase.isBare_temp bare]
  exact fun file here => nomatch here

theorem retry_unreserved (call : Call) (file : String) : (retry call file).reservation = none := by
  unfold retry
  split <;> rfl

theorem retry_bare (call : Call) (file : String) : (retry call file).tempFile = none := by
  unfold retry
  split <;> rfl

theorem Sound.retried (sound : Sound directory published call) (file : String) :
    Sound directory published (retry call file) := by
  unfold Skills.retry
  split
  · exact ⟨sound.1, trivial⟩
  · exact ⟨sound.1, trivial⟩

theorem Sound.retry (sound : Sound directory published call) (filed : Filed directory published) (file : String) :
    Quiet clock directory published call (retry call file) directory := by
  refine .stay filed (sound.retried file) (retry_unreserved ..) ?_
  rw [retry_bare]
  exact fun _ here => nomatch here

theorem Filed.newest_ge (filed : Filed directory published) (listed : files.Perm directory.keys) :
    published.length ≤ newest directory files [] := by
  rcases Nat.eq_zero_or_pos published.length with zero | positive
  · rw [zero]
    exact Nat.zero_le _
  · obtain ⟨checkpoint, holds⟩ := filed.stands positive
    obtain ⟨known, name⟩ := filed.holds_known (checkpointFileName_permanent _) holds
    have number := checkpointFileName_inj filed.small name
    rw [number] at holds ⊢
    have read := filed.readFound_of_holds known holds
    obtain ⟨stored, lookup, -⟩ := holds
    have member : checkpointFileName checkpoint.stage.seq ∈ files := by
      rw [listed.mem_iff, ← AList.mem_keys, ← AList.lookup_isSome, lookup]
      rfl
    have found := List.mem_filterMap.mpr ⟨_, member, read⟩
    exact le_newest (List.mem_append_right [] found)

theorem Searching.advance {others : List String} {also : List Found}
    (searching : Searching directory published origin indexed files found)
    (same : newest directory others also = newest directory files found) :
    Searching directory published origin indexed others also :=
  ⟨same ▸ searching.floor, same ▸ searching.indexed, same ▸ searching.ahead⟩

theorem SearchSound.advance {scan : Scan} {others : List String} {also : List Found}
    (sound : SearchSound directory published origin files found scan)
    (same : newest directory others also = newest directory files found) :
    SearchSound directory published origin others also scan := by
  cases scan with
  | latest indexed => exact Searching.advance sound same
  | recover | retain | cite => trivial

theorem newest_perm {others : List String} (reordered : others.Perm files) :
    newest directory others found = newest directory files found := by
  have same : ∀ item, item ∈ others.filterMap (readFound directory) ↔ item ∈ files.filterMap (readFound directory) :=
    fun item => (reordered.filterMap _).mem_iff
  refine le_antisymm (newest_mono fun item member => ?_) (newest_mono fun item member => ?_)
  · rwa [List.mem_append, ← same, ← List.mem_append]
  · rwa [List.mem_append, same, ← List.mem_append]

theorem newest_read (first : String) :
    newest directory files (found ++ (readFound directory first).toList) = newest directory (first :: files) found := by
  rw [newest, newest, List.filterMap_cons]
  cases readFound directory first with
  | none => rw [Option.toList_none, List.append_nil]
  | some item => rw [Option.toList_some, List.append_assoc, List.singleton_append]

theorem newest_skip {first : String} (unnumbered : seqFromFileName first = none) :
    newest directory (first :: files) found = newest directory files found := by
  have skipped : readFound directory first = none := by
    rw [Option.eq_none_iff_forall_ne_some]
    intro item read
    have number := (readFound_iff.mp read).2.2.1
    rw [unnumbered] at number
    cases number
  rw [newest, newest, List.filterMap_cons, skipped]

theorem newestOf_greatest (first : Checkpoint) (others : List Checkpoint) :
    newestOf first others ∈ first :: others ∧
      ∀ item ∈ first :: others, item.stage.seq ≤ (newestOf first others).stage.seq := by
  induction others generalizing first with
  | nil => exact ⟨List.mem_cons_self, by simp [newestOf]⟩
  | cons second others ih =>
    rw [newestOf, List.foldl_cons]
    split
    · next older =>
      obtain ⟨member, greatest⟩ := ih first
      refine ⟨?_, fun item listed => ?_⟩
      · rcases List.mem_cons.mp member with same | later
        · exact List.mem_cons.mpr (.inl same)
        · exact List.mem_cons_of_mem _ (List.mem_cons_of_mem _ later)
      · rcases List.mem_cons.mp listed with rfl | listed
        · exact greatest item List.mem_cons_self
        · rcases List.mem_cons.mp listed with rfl | later
          · exact older.le.trans (greatest first List.mem_cons_self)
          · exact greatest item (List.mem_cons_of_mem _ later)
    · next newer =>
      obtain ⟨member, greatest⟩ := ih second
      refine ⟨List.mem_cons_of_mem _ member, fun item listed => ?_⟩
      rcases List.mem_cons.mp listed with rfl | listed
      · exact (Nat.le_of_not_lt newer).trans (greatest second List.mem_cons_self)
      · exact greatest item listed

theorem deletable_known {cap : Int} {cited : List String} {retained : List Checkpoint}
    (filed : Filed directory published) (known : ∀ item ∈ retained, item ∈ published) :
    ∀ victim ∈ deletable cap cited retained, victim ∈ published ∧ victim.stage.seq < published.length := by
  cases retained with
  | nil => exact fun victim member => absurd member List.not_mem_nil
  | cons first others =>
    intro victim member
    have chosen := (mem_sortOn.mp (List.mem_of_mem_take member))
    rw [List.mem_filter, decide_eq_true_eq] at chosen
    obtain ⟨listed, different, -⟩ := chosen
    obtain ⟨newestListed, greatest⟩ := newestOf_greatest first others
    have below := greatest victim listed
    have bound := (filed.seq_mem (known _ newestListed)).2
    refine ⟨known victim listed, lt_of_lt_of_le (lt_of_le_of_ne below fun same => different ?_) bound⟩
    rw [filed.unique (known victim listed) (known _ newestListed) same]

/-- A clean-up that unlinks what it has inspected: a file without bytes that is older than the grace period. -/
def isStale (clock : Date) (directory : Directory) (file : String) : Bool :=
  (directory.lookup file).all fun stored => stored.bytes = .empty && reservationGraceMs < clock - stored.mtime

/-- What a step must not meet: a number of more than six digits, a file that was replaced after its inspection, and a
call that a pruning disturbs. -/
def Call.careful (clock : Date) (directory : Directory) (others : List Call) (call : Call) : Bool :=
  match call.phase with
  | .removing _ file _ => isStale clock directory file
  | .clearing file => isStale clock directory (collisionFile file)
  | .reserving checkpoint _ => checkpoint.stage.seq < 10 ^ 6
  | .pruning _ (victim :: _) _ => others.all (Call.spared directory victim.stage.seq)
  | _ => true

theorem afterLoad_bare (kind : CallKind) (loaded : Option Loaded) : (afterLoad kind loaded).isBare = true := by
  cases kind with
  | loadLatestCheckpoint => rfl
  | publishCheckpoint request =>
    rw [afterLoad]
    split <;> rfl

theorem Sound.afterScan {sha256Hex : Bytes → String} {handoff : Option String} {scan : Scan}
    (sound : Sound directory published call) (filed : Filed directory published)
    (scanned : ScanSound published call.toOrigin scan) (known : KnownFound published found)
    (searched : SearchSound directory published call.toOrigin [] found scan) :
    PhaseSound directory published call.toOrigin (afterScan sha256Hex call.kind handoff found scan) ∧
      (afterScan sha256Hex call.kind handoff found scan).isBare = true := by
  have retained : ∀ item ∈ found.map Found.checkpoint, item ∈ published := by
    intro item member
    obtain ⟨entry, listed, rfl⟩ := List.mem_map.mp member
    exact (known entry listed).1
  cases scan with
  | recover entry =>
    simp only [Skills.afterScan]
    split
    · exact ⟨trivial, rfl⟩
    · exact ⟨fun _ here => (by cases here), rfl⟩
  | latest indexed =>
    exact ⟨afterLoad_sound filed known sound.1 scanned searched, afterLoad_bare ..⟩
  | retain checkpoint =>
    simp only [Skills.afterScan]
    split
    · exact ⟨scanned, rfl⟩
    · split
      · exact ⟨⟨scanned, deletable_known filed retained⟩, rfl⟩
      · exact ⟨⟨scanned, retained⟩, rfl⟩
  | cite checkpoint listed handoff =>
    exact ⟨⟨scanned.1, deletable_known filed scanned.2⟩, rfl⟩

end AiOffice.Skills
