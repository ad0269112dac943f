import AiOffice.Skills.CheckpointStore.Safety

namespace AiOffice.Skills

open Data Domain

variable {directory after : Directory} {published : List Checkpoint} {checkpoint victim : Checkpoint} {file temp : String}
  {files entries : List String} {found : List Found} {call next : Call} {origin : Origin} {clock : Date}
  {sha256Hex : Bytes → String} {outside : Outside} {scan : Scan}

/-- What a step of a call does: it is quiet, or it takes or keeps a number, or it prunes one. -/
inductive Resumed (clock : Date) (directory : Directory) (published : List Checkpoint) (call next : Call)
    (after : Directory) : Prop
  | quiet (effect : Quiet clock directory published call next after) (silent : call.publishes next = [])
  | reserves {checkpoint : Checkpoint} {temp : String} (phase : call.phase = .reserving checkpoint temp)
      (free : directory.lookup (checkpointFileName checkpoint.stage.seq) = none)
      (moved : next = call.at (.moving checkpoint temp))
      (stored : after = directory.insert (checkpointFileName checkpoint.stage.seq) ⟨.empty, clock⟩)
  | publishes {checkpoint : Checkpoint} {temp : String} (phase : call.phase = .moving checkpoint temp)
      (moved : next = call.at (.writingIndex checkpoint))
      (stored : rename directory temp (checkpointFileName checkpoint.stage.seq) = some after)
  | prunes {checkpoint victim : Checkpoint} {victims : List Checkpoint} {deleted later : List String}
      (phase : call.phase = .pruning checkpoint (victim :: victims) deleted)
      (moved : next = call.at (.pruning checkpoint victims later))
      (stored : after = directory.erase (checkpointFileName victim.stage.seq))

theorem SearchSound.listed (filed : Filed directory published)
    (counted : ∀ number ∈ origin.earlier, 1 ≤ number ∧ number ≤ published.length)
    (sound : ScanSound published origin scan) (listed : files.Perm directory.keys) :
    SearchSound directory published origin (files ++ []) [] scan := by
  rw [List.append_nil]
  have latest := filed.newest_ge listed
  cases scan with
  | latest indexed =>
    refine ⟨fun number member => (counted number member).2.trans latest, fun loaded here => ?_, fun _ behind => ?_⟩
    · obtain ⟨document, known, -, number⟩ := sound loaded here
      rw [← number]
      exact (filed.seq_mem known).2.trans latest
    · exact absurd behind (Nat.not_lt.mpr latest)
  | recover | retain | cite => trivial

theorem Sound.writeTemp (content : File) (phase : String → Phase) (sound : Sound directory published call)
    (filed : Filed directory published)
    (own : ∀ temp, isTempFile temp = true → directory.lookup temp = none →
      PhaseSound (directory.insert temp content) published call.toOrigin (phase temp))
    (unreserved : ∀ temp, (call.at (phase temp)).reservation = none)
    (temp : ∀ temp, (call.at (phase temp)).tempFile = some temp) (uuid : String) :
    Quiet clock directory published call (writeTemp call uuid content phase directory).1
      (writeTemp call uuid content phase directory).2 := by
  have name := tempFileName_temp uuid
  unfold Skills.writeTemp
  split
  · exact sound.stay filed trivial rfl
  · next absent =>
    have free : directory.lookup (tempFileName uuid) = none := Option.not_isSome_iff_eq_none.mp absent
    refine ⟨sameCheckpoints_insert_temp name, filed.insert (.temp name) fun _ => temp_ne_checkpoint name,
      ⟨sound.1, own _ name free⟩, fun file => ?_, unreserved _, fun file here => ?_⟩
    · by_cases same : file = tempFileName uuid
      · exact .inr (.inr (.inl (same ▸ free)))
      · exact .inl (AList.lookup_insert_ne same)
    · rw [temp] at here
      exact .inr (Option.some.inj here ▸ free)

theorem Quiet.unlink (filed : Filed directory published) (own : Sound directory published next)
    (unreserved : next.reservation = none) (bare : next.tempFile = none) (permanent : isTempFile file = false)
    (stale : isStale clock directory file = true) :
    Quiet clock directory published call next (directory.erase file) := by
  have empty : ∀ stored, directory.lookup file = some stored →
      stored.bytes = .empty ∧ reservationGraceMs < clock - stored.mtime := by
    intro stored lookup
    rw [isStale, lookup, Option.all_some, Bool.and_eq_true, decide_eq_true_eq, decide_eq_true_eq] at stale
    exact stale
  have same := sameCheckpoints_erase_empty fun stored lookup => (empty stored lookup).1
  refine ⟨same, filed.erase fun given name => ?_, own.quiet same ?_ ?_, fun other => ?_, unreserved, ?_⟩
  · obtain ⟨newest, stored, lookup, holds⟩ := filed.stands given
    rw [← name] at lookup
    rw [(empty stored lookup).1] at holds
    cases holds
  · rw [bare]
    exact fun _ here => nomatch here
  · rw [unreserved]
    exact fun _ here => nomatch here
  · by_cases same : other = file
    · subst same
      cases lookup : directory.lookup other with
      | none => exact .inr (.inr (.inl lookup))
      | some stored =>
        exact .inr (.inr (.inr (.inr ⟨permanent, stored, lookup, empty stored lookup⟩)))
    · exact .inl (AList.lookup_erase_ne same)
  · rw [bare]
    exact fun _ here => nomatch here

theorem Filed.index_known (filed : Filed directory published) {entry : CheckpointIndexEntry}
    (read : (do
      let stored ← directory.lookup indexFileName
      let index ← (parseIndex stored.bytes).toOption
      index.latest) = some entry) : Known published entry := by
  obtain ⟨stored, lookup, read⟩ := Option.bind_eq_some_iff.mp read
  obtain ⟨index, parsed, latest⟩ := Option.bind_eq_some_iff.mp read
  have fits := filed.stored _ stored lookup
  rw [parseIndex_ok (toOption_ok parsed)] at fits
  cases fits with
  | temp name => exact absurd name (by decide)
  | index name known => exact known entry latest

theorem Filed.loaded_known (filed : Filed directory published) {entry : CheckpointIndexEntry} {stored : File}
    (known : Known published entry) (lookup : directory.lookup entry.file = some stored) :
    KnownLoaded published ⟨entry, stored.bytes⟩ := by
  obtain ⟨name, bound⟩ := known
  have small : entry.seq < 10 ^ 6 := bound.trans_lt filed.small
  have fits := filed.stored _ stored lookup
  rw [name] at fits
  rw [KnownLoaded]
  generalize stored.bytes = bytes at fits ⊢
  cases fits with
  | temp temporary => exact absurd rfl (temp_ne_checkpoint temporary)
  | index same => exact absurd same.symm (index_ne_checkpoint small)
  | reservation same =>
    have number := checkpointFileName_inj small same
    omega
  | checkpoint given same => exact ⟨_, given, rfl, (checkpointFileName_inj small same).symm⟩

theorem afterTidying_bare (kind : CallKind) : (afterTidying kind).isBare = true := by
  cases kind with
  | loadLatestCheckpoint => rfl
  | publishCheckpoint request =>
    rw [afterTidying]
    split <;> rfl

theorem afterTidying_sound (directory : Directory) (published : List Checkpoint) (origin : Origin) (kind : CallKind) :
    PhaseSound directory published origin (afterTidying kind) := by
  cases kind with
  | loadLatestCheckpoint => trivial
  | publishCheckpoint request =>
    rw [afterTidying]
    split <;> trivial

theorem Quiet.index {checkpoint : Checkpoint} (sound : Sound directory published call)
    (filed : Filed directory published) (phase : call.phase = .renamingIndex checkpoint temp)
    (stored : rename directory temp indexFileName = some after) :
    Quiet clock directory published call (call.at (afterIndex call.kind checkpoint)) after := by
  have placed := sound.2
  rw [phase] at placed
  obtain ⟨given, document, ⟨temporary, content, lookup, index⟩, known⟩ := placed
  rw [rename, lookup] at stored
  obtain rfl := Option.some.inj stored
  have different {seq : Nat} (small : seq < 10 ^ 6) := index_ne_checkpoint small
  have filedAway : Filed (directory.erase temp) published := filed.erase fun _ => temp_ne_checkpoint temporary
  have bare : (afterIndex call.kind checkpoint).isBare = true := by
    rw [afterIndex]
    split <;> rfl
  refine ⟨(sameCheckpoints_erase_temp temporary).trans (filedAway.sameCheckpoints_index index),
    filedAway.insert (index ▸ .index rfl known) fun _ => different filed.small, ⟨sound.1, ?_⟩, fun file => ?_,
    Phase.isBare_reservation bare, ?_⟩
  · change PhaseSound _ _ _ (afterIndex call.kind checkpoint)
    rw [afterIndex]
    split
    · exact given
    · exact given
  · by_cases same : file = indexFileName
    · exact .inr (.inr (.inr (.inl same)))
    · by_cases own : file = temp
      · exact .inr (.inl (by rw [Call.tempFile, phase, own]))
      · exact .inl ((AList.lookup_insert_ne same).trans (AList.lookup_erase_ne own))
  · rw [Phase.isBare_temp bare]
    exact fun _ here => by cases here

theorem SearchSound.passed {first : String} (unnumbered : seqFromFileName first = none)
    (searched : SearchSound directory published origin (first :: entries ++ files) [] scan) :
    SearchSound directory published origin (entries ++ files) [] scan :=
  searched.advance (newest_skip unnumbered).symm

theorem SearchSound.kept {first : String}
    (searched : SearchSound directory published origin (first :: entries ++ files) [] scan) :
    SearchSound directory published origin (entries ++ (files ++ [first])) [] scan := by
  refine searched.advance (newest_perm ?_)
  rw [← List.append_assoc]
  exact List.perm_append_singleton first (entries ++ files)

theorem scanThrew_sound {thrown : Thrown} (sound : ScanSound published origin scan) :
    PhaseSound directory published origin (scanThrew thrown scan) := by
  cases scan with
  | recover | latest => trivial
  | retain => exact sound
  | cite => exact sound.1

theorem scanThrew_bare (thrown : Thrown) (scan : Scan) : (scanThrew thrown scan).isBare = true := by
  cases scan <;> rfl

theorem resume_cases (filed : Filed directory published) (sound : Sound directory published call)
    {others : List Call} (careful : call.careful clock directory others = true)
    (resumed : resume sha256Hex call outside clock directory = some (next, after)) :
    Resumed clock directory published call next after := by
  have placed := sound.2
  obtain ⟨origin, attempt, phase⟩ := call
  cases phase with
  | entering =>
    simp only [resume] at resumed
    split at resumed
    · cases resumed
      exact .quiet (sound.stay filed trivial rfl) rfl
    · split at resumed
      · cases resumed
        exact .quiet (sound.stay filed trivial rfl) rfl
      · cases resumed
        exact .quiet (sound.stay filed trivial rfl) rfl
  | tidying now =>
    simp only [resume] at resumed
    split at resumed
    · cases resumed
      exact .quiet (sound.stay filed trivial rfl) rfl
    · cases resumed
  | inspecting now files =>
    cases files with
    | nil =>
      cases resumed
      exact .quiet (sound.stay filed (afterTidying_sound ..) (afterTidying_bare _)) rfl
    | cons file files =>
      simp only [resume] at resumed
      split at resumed
      · next inspected =>
        cases resumed
        obtain ⟨number, pattern⟩ := Option.isSome_iff_exists.mp inspected.1
        exact .quiet (sound.stay filed (permanent_of_number pattern) rfl) rfl
      · cases resumed
        exact .quiet (sound.stay filed trivial rfl) rfl
  | removing now file files =>
    cases resumed
    exact .quiet (.unlink filed ⟨sound.1, trivial⟩ rfl rfl placed careful) rfl
  | loading =>
    simp only [resume] at resumed
    split at resumed
    · cases resumed
      exact .quiet (sound.stay filed (fun _ here => nomatch here) rfl) rfl
    · next entry read =>
      cases resumed
      exact .quiet (sound.stay filed (filed.index_known read) rfl) rfl
  | findingIndexed entry =>
    simp only [resume] at resumed
    split at resumed
    · cases resumed
      exact .quiet (sound.stay filed placed rfl) rfl
    · cases resumed
      exact .quiet (sound.stay filed trivial rfl) rfl
  | readingIndexed entry =>
    simp only [resume] at resumed
    split at resumed
    · cases resumed
      exact .quiet (sound.stay filed trivial rfl) rfl
    · next stored lookup =>
      split at resumed
      · cases resumed
        exact .quiet (sound.stay filed trivial rfl) rfl
      · cases resumed
        refine .quiet (sound.stay filed (fun loaded here => ?_) rfl) rfl
        cases here
        exact filed.loaded_known placed lookup
  | listing scan =>
    simp only [resume] at resumed
    split at resumed
    · next listed =>
      cases resumed
      exact .quiet (sound.stay filed ⟨placed, .listed filed sound.1 placed listed⟩ rfl) rfl
    · cases resumed
  | checking scan entries files =>
    cases entries with
    | nil =>
      cases resumed
      refine .quiet (sound.stay filed ⟨placed.1, fun item member => absurd member List.not_mem_nil, ?_⟩ rfl) rfl
      exact placed.2.advance (newest_perm (sortOn_perm id files))
    | cons entry entries =>
      simp only [resume] at resumed
      split at resumed
      · next temporary =>
        cases resumed
        exact .quiet (sound.stay filed ⟨placed.1, placed.2.passed (seqFromFileName_temp temporary)⟩ rfl) rfl
      · split at resumed
        · cases resumed
          exact .quiet (sound.stay filed (scanThrew_sound placed.1) (scanThrew_bare ..)) rfl
        · split at resumed
          · cases resumed
            exact .quiet (sound.stay filed ⟨placed.1, placed.2.kept⟩ rfl) rfl
          · next unnumbered =>
            cases resumed
            exact .quiet (sound.stay filed
              ⟨placed.1, placed.2.passed (Option.not_isSome_iff_eq_none.mp unnumbered)⟩ rfl) rfl
  | reading scan files found =>
    obtain ⟨scanned, known, searched⟩ := placed
    cases files with
    | nil =>
      cases resumed
      obtain ⟨after, bare⟩ := sound.afterScan filed scanned known searched
      exact .quiet (sound.stay filed after bare) rfl
    | cons file files =>
      cases resumed
      refine .quiet (sound.stay filed ⟨scanned, fun item member => ?_, searched.advance (newest_read file)⟩ rfl) rfl
      rcases List.mem_append.mp member with earlier | new
      · exact known item earlier
      · obtain ⟨given, -, bytes⟩ := filed.readFound_known (Option.mem_toList.mp new)
        exact ⟨given, bytes⟩
  | writing checkpoint =>
    have effect : Quiet clock _ published _ _ _ :=
      sound.writeTemp ⟨.checkpoint checkpoint, clock⟩ (.reserving checkpoint) filed (fun temp name free =>
        ⟨Chosen.quiet (sameCheckpoints_insert_temp name) placed, name, _, AList.lookup_insert _, rfl⟩) (fun _ => rfl)
        (fun _ => rfl) outside.uuid
    rw [Option.some.inj resumed] at effect
    exact .quiet effect rfl
  | reserving checkpoint temp =>
    simp only [resume] at resumed
    split at resumed
    · cases resumed
      exact .quiet (.stay filed ⟨sound.1, _, placed.2⟩ rfl fun file here => here) rfl
    · next absent =>
      cases resumed
      exact .reserves rfl (Option.not_isSome_iff_eq_none.mp absent) rfl rfl
  | discarding checkpoint temp =>
    cases resumed
    obtain ⟨bytes, temporary, -⟩ := placed
    refine .quiet ⟨sameCheckpoints_erase_temp temporary, filed.erase fun _ => temp_ne_checkpoint temporary,
      ⟨sound.1, trivial⟩, fun file => ?_, rfl, fun _ here => nomatch here⟩ rfl
    by_cases same : file = temp
    · exact .inr (.inl (same ▸ rfl))
    · exact .inl (AList.lookup_erase_ne same)
  | moving checkpoint temp =>
    simp only [resume] at resumed
    split at resumed
    · cases resumed
      exact .quiet (sound.stay filed trivial rfl) rfl
    · next moved =>
      cases resumed
      exact .publishes rfl rfl moved
  | colliding file =>
    cases resumed
    exact .quiet (sound.stay filed trivial rfl) rfl
  | examining file now =>
    simp only [resume] at resumed
    split at resumed
    · cases resumed
      exact .quiet (sound.retry filed file) rfl
    · split at resumed
      · cases resumed
        exact .quiet (sound.stay filed trivial rfl) rfl
      · cases resumed
        exact .quiet (sound.retry filed file) rfl
  | rereading file =>
    simp only [resume] at resumed
    split at resumed
    · cases resumed
      exact .quiet (sound.retry filed file) rfl
    · cases resumed
      exact .quiet (sound.stay filed trivial rfl) rfl
  | clearing file =>
    cases resumed
    exact .quiet (.unlink filed (sound.retried file) (retry_unreserved ..) (retry_bare ..)
      (checkpointFileName_permanent _) careful) rfl
  | writingIndex checkpoint =>
    have known : ∀ entry ∈ (newIndex sha256Hex checkpoint checkpoint.publishedAt).latest, Known published entry := by
      rintro entry ⟨⟩
      exact ⟨rfl, (filed.seq_mem placed.1).2⟩
    have effect : Quiet clock _ published _ _ _ :=
      sound.writeTemp ⟨.index (newIndex sha256Hex checkpoint checkpoint.publishedAt), clock⟩
        (.renamingIndex checkpoint) filed (fun temp name free =>
        ⟨placed, _, ⟨name, _, AList.lookup_insert _, rfl⟩, known⟩) (fun _ => rfl) (fun _ => rfl) outside.uuid
    rw [Option.some.inj resumed] at effect
    exact .quiet effect rfl
  | renamingIndex checkpoint temp =>
    simp only [resume] at resumed
    split at resumed
    · cases resumed
      exact .quiet (sound.stay filed trivial rfl) rfl
    · next moved =>
      cases resumed
      exact .quiet (.index sound filed rfl moved) rfl
  | pruning checkpoint victims deleted =>
    cases victims with
    | nil =>
      cases resumed
      exact .quiet (sound.stay filed placed.1 rfl) rfl
    | cons victim victims =>
      simp only [resume] at resumed
      split at resumed
      · cases resumed
        exact .prunes rfl rfl rfl
      · cases resumed
        exact .quiet (sound.stay filed placed.1 rfl) rfl
  | returned result => cases resumed
  | threw thrown => cases resumed

end AiOffice.Skills
