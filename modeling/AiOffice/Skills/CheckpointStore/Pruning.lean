import AiOffice.Skills.CheckpointStore.Safety
import Mathlib.Data.Set.Card

namespace AiOffice.Skills

open Data Domain

def listPublishedFiles (directory : Directory) : List String :=
  sortOn id (directory.keys.filter fun file => !isTempFile file && (seqFromFileName file).isSome)

def publishedCheckpoints (directory : Directory) : List Checkpoint :=
  (listPublishedFiles directory).filterMap fun file => (readFound directory file).map Found.checkpoint

def handoffCitedCheckpointIds (directory : Directory) : Option String → List String
  | none => []
  | some text => ((publishedCheckpoints directory).map Checkpoint.id).filter (includes text)

def unlink (refuses : String → Option Thrown) (file : String) (directory : Directory) : Except Thrown Directory :=
  match refuses file with
  | some thrown => .error thrown
  | none => if (directory.lookup file).isNone then .error (noEntry "unlink" file) else .ok (directory.erase file)

def unlinkAll (refuses : String → Option Thrown) :
    List Checkpoint → List String → Directory → Except Thrown (List String) × Directory
  | [], deleted, directory => (.ok deleted, directory)
  | victim :: victims, deleted, directory =>
    let file := checkpointFileName victim.stage.seq
    match unlink refuses file directory with
    | .error thrown => (.error (storeError s!"failed to prune {file}: {thrown.message}"), directory)
    | .ok after => unlinkAll refuses victims (deleted ++ [file]) after

def pruneCheckpoints (cap : Int) (handoff : Option String) (refuses : String → Option Thrown) (directory : Directory) :
    Except Thrown (List String) × Directory :=
  if cap < 1 then (.error (storeError s!"retention cap must be an integer >= 1, got: {cap}"), directory)
  else if ((publishedCheckpoints directory).length : Int) ≤ cap then (.ok [], directory)
  else unlinkAll refuses
    (deletable cap (handoffCitedCheckpointIds directory handoff) (publishedCheckpoints directory)) [] directory

/-- A file that holds a checkpoint that validates, under the checkpoint's own name. -/
def ValidFile (directory : Directory) (file : String) (checkpoint : Checkpoint) : Prop :=
  Holds directory file checkpoint ∧ validateCheckpoint checkpoint = .ok ⟨⟩ ∧
    seqFromFileName file = some checkpoint.stage.seq

def LatestCheckpoint (directory : Directory) (checkpoint : Checkpoint) : Prop :=
  (∃ file, ValidFile directory file checkpoint) ∧
    ∀ file other, ValidFile directory file other → other.stage.seq ≤ checkpoint.stage.seq

def Cited (handoff : Option String) (checkpoint : Checkpoint) : Prop :=
  ∃ text, handoff = some text ∧ includes text checkpoint.id = true

/-- A checkpoint that may go: it is not the latest one, and it is not cited. -/
def Deletable (directory : Directory) (handoff : Option String) (checkpoint : Checkpoint) : Prop :=
  (∀ latest, LatestCheckpoint directory latest → checkpoint.id ≠ latest.id) ∧ ¬Cited handoff checkpoint

def validFiles (directory : Directory) : Set String := {file | ∃ checkpoint, ValidFile directory file checkpoint}

def deletableFiles (directory : Directory) (handoff : Option String) : Set String :=
  {file | ∃ checkpoint, ValidFile directory file checkpoint ∧ Deletable directory handoff checkpoint}

variable {directory after : Directory} {checkpoint other : Checkpoint} {file name : String} {files : List String}
  {handoff : Option String} {refuses : String → Option Thrown} {cap : Int} {seq : Nat}

section Names

private theorem digit_injective {first second : Char} {number others : Nat} (digit : first.isDigit = true)
    (otherDigit : second.isDigit = true)
    (same : 10 * number + (first.toNat - 48) = 10 * others + (second.toNat - 48)) :
    number = others ∧ first = second := by
  have lower : ('0'.toNat ≤ first.toNat ∧ first.toNat ≤ '9'.toNat) ∧
      '0'.toNat ≤ second.toNat ∧ second.toNat ≤ '9'.toNat := by
    simp only [Char.isDigit, Bool.and_eq_true, decide_eq_true_eq] at digit otherDigit
    exact ⟨⟨digit.1, digit.2⟩, otherDigit.1, otherDigit.2⟩
  have zero : '0'.toNat = 48 := rfl
  have nine : '9'.toNat = 57 := rfl
  have codes : first.toNat = second.toNat := by omega
  exact ⟨by omega, Char.ext (UInt32.toNat_inj.mp codes)⟩

private theorem ofDigitChars_injective {first second : List Char} {number others : Nat}
    (digits : first.all Char.isDigit = true) (otherDigits : second.all Char.isDigit = true)
    (width : first.length = second.length)
    (same : Nat.ofDigitChars 10 first number = Nat.ofDigitChars 10 second others) : number = others ∧ first = second := by
  induction first generalizing second number others with
  | nil =>
    obtain rfl := List.length_eq_zero_iff.mp width.symm
    exact ⟨same, rfl⟩
  | cons char first ih =>
    cases second with
    | nil => cases width
    | cons next second =>
      rw [List.all_cons, Bool.and_eq_true] at digits otherDigits
      rw [Nat.ofDigitChars_cons, Nat.ofDigitChars_cons] at same
      obtain ⟨numbers, rest⟩ := ih digits.2 otherDigits.2 (by simpa using width) same
      obtain ⟨same, chars⟩ := digit_injective digits.1 otherDigits.1 numbers
      exact ⟨same, by rw [chars, rest]⟩

private theorem ofDigitChars_lt {digits : List Char} {number : Nat} (valid : digits.all Char.isDigit = true) :
    Nat.ofDigitChars 10 digits number < (number + 1) * 10 ^ digits.length := by
  induction digits generalizing number with
  | nil => simp
  | cons char digits ih =>
    rw [List.all_cons, Bool.and_eq_true] at valid
    have small : char.toNat - '0'.toNat < 10 := by
      have digit := valid.1
      simp only [Char.isDigit, Bool.and_eq_true, decide_eq_true_eq] at digit
      have code : char.toNat ≤ '9'.toNat := digit.2
      have zero : '0'.toNat = 48 := rfl
      have nine : '9'.toNat = 57 := rfl
      omega
    rw [Nat.ofDigitChars_cons, List.length_cons, Nat.pow_succ, Nat.mul_comm (10 ^ digits.length), ← Nat.mul_assoc]
    exact (ih valid.2).trans_le (Nat.mul_le_mul_right _ (by omega))

theorem seqFromFileName_some (number : seqFromFileName file = some seq) : ∃ digits : List Char,
    file.toList = digits ++ ['.', 'j', 's', 'o', 'n'] ∧ digits.length = 6 ∧ digits.all Char.isDigit = true ∧
      Nat.ofDigitChars 10 digits 0 = seq := by
  unfold seqFromFileName at number
  dsimp only at number
  split at number
  · next named =>
      obtain ⟨length, digits, extension⟩ := named
      refine ⟨file.toList.take 6, ?_, length, digits, Option.some.inj number⟩
      rw [← extension, List.take_append_drop]
  · cases number

theorem checkpointFileName_seq (number : seqFromFileName file = some seq) : checkpointFileName seq = file := by
  obtain ⟨digits, text, length, valid, value⟩ := seqFromFileName_some number
  have small : seq < 10 ^ 6 := by
    have bound := @ofDigitChars_lt digits 0 valid
    rw [length, value] at bound
    omega
  have again := seqFromFileName_checkpointFileName seq
  rw [if_pos small] at again
  obtain ⟨others, otherText, otherLength, otherValid, otherValue⟩ := seqFromFileName_some again
  have same := (ofDigitChars_injective otherValid valid (otherLength.trans length.symm) (otherValue.trans value.symm)).2
  exact String.toList_injective (by rw [otherText, text, same])

end Names

section Published

theorem mem_listPublishedFiles : file ∈ listPublishedFiles directory ↔
    (directory.lookup file).isSome ∧ (seqFromFileName file).isSome := by
  have stored : file ∈ directory.keys ↔ (directory.lookup file).isSome := by
    rw [AList.lookup_isSome, AList.mem_keys]
  rw [listPublishedFiles, mem_sortOn, List.mem_filter, stored, Bool.and_eq_true]
  refine and_congr_right fun _ => ⟨And.right, fun number => ⟨?_, number⟩⟩
  obtain ⟨seq, isNumber⟩ := Option.isSome_iff_exists.mp number
  rw [permanent_of_number isNumber]
  rfl

theorem listPublishedFiles_nodup : (listPublishedFiles directory).Nodup :=
  (sortOn_perm id _).nodup_iff.mpr (directory.keys_nodup.filter _)

theorem validFile_iff : ValidFile directory file checkpoint ↔
    (readFound directory file).map Found.checkpoint = some checkpoint := by
  rw [Option.map_eq_some_iff]
  constructor
  · rintro ⟨holds, validated, number⟩
    exact ⟨⟨file, checkpoint, .checkpoint checkpoint⟩, readFound_iff.mpr ⟨holds, validated, number, rfl⟩, rfl⟩
  · rintro ⟨item, read, rfl⟩
    obtain ⟨holds, validated, number, _⟩ := readFound_iff.mp read
    exact ⟨holds, validated, number⟩

theorem ValidFile.listed (valid : ValidFile directory file checkpoint) : file ∈ listPublishedFiles directory := by
  obtain ⟨⟨stored, lookup, _⟩, _, number⟩ := valid
  exact mem_listPublishedFiles.mpr ⟨by rw [lookup]; rfl, by rw [number]; rfl⟩

theorem ValidFile.named (valid : ValidFile directory file checkpoint) :
    checkpointFileName checkpoint.stage.seq = file :=
  checkpointFileName_seq valid.2.2

theorem ValidFile.unique (valid : ValidFile directory file checkpoint) (also : ValidFile directory name other)
    (same : checkpoint.stage.seq = other.stage.seq) : checkpoint = other := by
  have names : file = name := by rw [← valid.named, ← also.named, same]
  subst names
  exact Option.some.inj ((validFile_iff.mp valid).symm.trans (validFile_iff.mp also))

theorem mem_publishedCheckpoints : checkpoint ∈ publishedCheckpoints directory ↔
    ∃ file, ValidFile directory file checkpoint := by
  rw [publishedCheckpoints, List.mem_filterMap]
  constructor
  · rintro ⟨file, _, read⟩
    exact ⟨file, validFile_iff.mpr read⟩
  · rintro ⟨file, valid⟩
    exact ⟨file, valid.listed, validFile_iff.mp valid⟩

theorem publishedCheckpoints_nodup : (publishedCheckpoints directory).Nodup := by
  refine listPublishedFiles_nodup.filterMap fun file name checkpoint read also => ?_
  rw [← (validFile_iff.mpr read).named, ← (validFile_iff.mpr also).named]

theorem mem_cited : checkpoint ∈ publishedCheckpoints directory →
    (checkpoint.id ∈ handoffCitedCheckpointIds directory handoff ↔ Cited handoff checkpoint) := by
  intro published
  cases handoff with
  | none => simp [handoffCitedCheckpointIds, Cited]
  | some text =>
    simp only [handoffCitedCheckpointIds, Cited, List.mem_filter, List.mem_map, Option.some.injEq, exists_eq_left']
    exact ⟨And.right, fun cited => ⟨⟨checkpoint, published, rfl⟩, cited⟩⟩

theorem latest_iff {first : Checkpoint} {others : List Checkpoint}
    (listed : publishedCheckpoints directory = first :: others) :
    LatestCheckpoint directory checkpoint ↔ checkpoint = newestOf first others := by
  obtain ⟨member, greatest⟩ := newestOf_greatest first others
  rw [← listed, mem_publishedCheckpoints] at member
  obtain ⟨file, valid⟩ := member
  have newest : LatestCheckpoint directory (newestOf first others) :=
    ⟨⟨file, valid⟩, fun name other also => greatest other (listed ▸ mem_publishedCheckpoints.mpr ⟨name, also⟩)⟩
  constructor
  · rintro ⟨⟨name, also⟩, most⟩
    exact also.unique valid (le_antisymm (newest.2 name _ also) (most file _ valid))
  · rintro rfl
    exact newest

theorem deletable_chooses (directory : Directory) (handoff : Option String) (cap : Int) : ∃ candidates : List Checkpoint,
    deletable cap (handoffCitedCheckpointIds directory handoff) (publishedCheckpoints directory) =
        candidates.take (((publishedCheckpoints directory).length : Int) - cap).toNat ∧
      candidates.Nodup ∧ (candidates.Pairwise fun older newer => older.stage.seq ≤ newer.stage.seq) ∧
      ∀ checkpoint, checkpoint ∈ candidates ↔
        checkpoint ∈ publishedCheckpoints directory ∧ Deletable directory handoff checkpoint := by
  have distinct := @publishedCheckpoints_nodup directory
  have cited := fun checkpoint => @mem_cited directory checkpoint handoff
  cases listed : publishedCheckpoints directory with
  | nil => exact ⟨[], by simp [deletable], List.nodup_nil, .nil, by simp⟩
  | cons first others =>
    have newest := fun checkpoint => @latest_iff directory checkpoint first others listed
    rw [listed] at distinct cited
    refine ⟨_, rfl, (sortOn_perm _ _).nodup_iff.mpr (distinct.filter _), sortOn_sorted _ _, fun checkpoint => ?_⟩
    rw [mem_sortOn, List.mem_filter, decide_eq_true_eq]
    refine and_congr_right fun member => ?_
    rw [Deletable, cited checkpoint member]
    simp only [newest, forall_eq]

end Published

section Removals

variable {victims : List Checkpoint} {deleted : List String}

theorem unlink_ok (removed : unlink refuses file directory = .ok after) : after = directory.erase file := by
  unfold unlink at removed
  split at removed
  · cases removed
  · obtain ⟨_, same⟩ := Outcome.guard_ok removed
    exact (Except.ok.inj same).symm

theorem unlinkAll_removes (refuses : String → Option Thrown) (victims : List Checkpoint) (deleted : List String)
    (directory : Directory) : ∃ first rest, victims = first ++ rest ∧
      (∀ file, (unlinkAll refuses victims deleted directory).2.lookup file =
        if file ∈ first.map (fun victim => checkpointFileName victim.stage.seq) then none else directory.lookup file) ∧
      ∀ result, (unlinkAll refuses victims deleted directory).1 = .ok result →
        rest = [] ∧ result = deleted ++ victims.map fun victim => checkpointFileName victim.stage.seq := by
  induction victims generalizing deleted directory with
  | nil => exact ⟨[], [], rfl, by simp [unlinkAll], fun result same => ⟨rfl, by simpa [unlinkAll] using same.symm⟩⟩
  | cons victim victims ih =>
    unfold unlinkAll
    dsimp only
    cases removed : unlink refuses (checkpointFileName victim.stage.seq) directory with
    | error thrown => exact ⟨[], victim :: victims, rfl, by simp, nofun⟩
    | ok after =>
      obtain ⟨first, rest, split, lookups, returns⟩ :=
        ih (deleted ++ [checkpointFileName victim.stage.seq]) after
      refine ⟨victim :: first, rest, by rw [split, List.cons_append], fun file => ?_, fun result same => ?_⟩
      · dsimp only
        rw [lookups, unlink_ok removed]
        by_cases here : file = checkpointFileName victim.stage.seq
        · have gone : (directory.erase file).lookup file = none := AList.lookup_erase file directory
          simp [← here, gone]
        · simp [here, AList.lookup_erase_ne here]
      · obtain ⟨nothing, whole⟩ := returns result same
        exact ⟨nothing, by simp [whole]⟩

theorem unlinkAll_returns (permitted : ∀ file, refuses file = none)
    (present : ∀ victim ∈ victims, (directory.lookup (checkpointFileName victim.stage.seq)).isSome)
    (distinct : (victims.map fun victim => checkpointFileName victim.stage.seq).Nodup) :
    ∃ result, (unlinkAll refuses victims deleted directory).1 = .ok result := by
  induction victims generalizing deleted directory with
  | nil => exact ⟨deleted, rfl⟩
  | cons victim victims ih =>
    have removed : unlink refuses (checkpointFileName victim.stage.seq) directory =
        .ok (directory.erase (checkpointFileName victim.stage.seq)) := by
      have stands := present victim List.mem_cons_self
      rw [← Option.not_isNone, Bool.not_eq_true'] at stands
      simp [unlink, permitted, stands]
    unfold unlinkAll
    dsimp only
    rw [removed]
    rw [List.map_cons, List.nodup_cons] at distinct
    refine ih (fun other member => ?_) distinct.2
    have different : checkpointFileName other.stage.seq ≠ checkpointFileName victim.stage.seq := by
      intro same
      exact distinct.1 (List.mem_map.mpr ⟨other, member, same⟩)
    rw [AList.lookup_erase_ne different]
    exact present other (List.mem_cons_of_mem _ member)

end Removals

theorem ncard_list {Item : Type} [DecidableEq Item] {members : Set Item} {items : List Item} (distinct : items.Nodup)
    (same : ∀ item, item ∈ items ↔ item ∈ members) : members.ncard = items.length := by
  have cover : members = (items.toFinset : Set Item) := by
    ext item
    simp [← same]
  rw [cover, Set.ncard_coe_finset, List.toFinset_card_of_nodup distinct]

/-- What a pruning that removed some files has done to a directory. -/
structure PrunesExactly (directory after : Directory) (handoff : Option String) (cap : Int) (deleted : List String) :
    Prop where
  distinct : deleted.Nodup
  deletable : ∀ file ∈ deleted, file ∈ deletableFiles directory handoff
  number : deleted.length =
    min (((validFiles directory).ncard : Int) - cap).toNat (deletableFiles directory handoff).ncard
  oldest : ∀ file ∈ deleted, ∀ spared ∈ deletableFiles directory handoff, spared ∉ deleted →
    ∀ checkpoint other, ValidFile directory file checkpoint → ValidFile directory spared other →
      checkpoint.stage.seq < other.stage.seq
  others : ∀ file, after.lookup file = if file ∈ deleted then none else directory.lookup file

private theorem names_nodup {checkpoints : List Checkpoint} (distinct : checkpoints.Nodup)
    (published : ∀ checkpoint ∈ checkpoints, checkpoint ∈ publishedCheckpoints directory) :
    (checkpoints.map fun checkpoint => checkpointFileName checkpoint.stage.seq).Nodup := by
  refine List.Nodup.map_on (fun checkpoint member other also same => ?_) distinct
  obtain ⟨file, valid⟩ := mem_publishedCheckpoints.mp (published checkpoint member)
  obtain ⟨name, otherValid⟩ := mem_publishedCheckpoints.mp (published other also)
  have sameFile : file = name := by rw [← valid.named, ← otherValid.named, same]
  subst sameFile
  exact Option.some.inj ((validFile_iff.mp valid).symm.trans (validFile_iff.mp otherValid))

theorem validFiles_ncard (directory : Directory) :
    (validFiles directory).ncard = (publishedCheckpoints directory).length := by
  rw [ncard_list (names_nodup publishedCheckpoints_nodup fun _ => id), List.length_map]
  intro file
  rw [List.mem_map]
  constructor
  · intro ⟨checkpoint, member, named⟩
    obtain ⟨name, valid⟩ := mem_publishedCheckpoints.mp member
    exact ⟨checkpoint, named ▸ valid.named ▸ valid⟩
  · intro ⟨checkpoint, valid⟩
    exact ⟨checkpoint, mem_publishedCheckpoints.mpr ⟨file, valid⟩, valid.named⟩

section Candidates

variable {candidates : List Checkpoint}

theorem mem_candidateFiles
    (chosen : ∀ checkpoint, checkpoint ∈ candidates ↔
      checkpoint ∈ publishedCheckpoints directory ∧ Deletable directory handoff checkpoint) :
    file ∈ candidates.map (fun checkpoint => checkpointFileName checkpoint.stage.seq) ↔
      file ∈ deletableFiles directory handoff := by
  rw [List.mem_map]
  constructor
  · intro ⟨checkpoint, member, named⟩
    obtain ⟨published, may⟩ := (chosen checkpoint).mp member
    obtain ⟨name, valid⟩ := mem_publishedCheckpoints.mp published
    exact ⟨checkpoint, named ▸ valid.named ▸ valid, may⟩
  · intro ⟨checkpoint, valid, may⟩
    exact ⟨checkpoint, (chosen checkpoint).mpr ⟨mem_publishedCheckpoints.mpr ⟨file, valid⟩, may⟩, valid.named⟩

theorem taken_older {count : Nat}
    (sorted : candidates.Pairwise fun older newer => older.stage.seq ≤ newer.stage.seq)
    (published : ∀ checkpoint ∈ candidates, checkpoint ∈ publishedCheckpoints directory)
    (taken : checkpoint ∈ candidates.take count) (stands : other ∈ candidates) (left : other ∉ candidates.take count) :
    checkpoint.stage.seq < other.stage.seq := by
  rw [← List.take_append_drop count candidates] at sorted stands
  have later : other ∈ candidates.drop count := (List.mem_append.mp stands).resolve_left left
  have ordered := (List.pairwise_append.mp sorted).2.2 checkpoint taken other later
  refine lt_of_le_of_ne ordered fun same => left ?_
  obtain ⟨file, valid⟩ := mem_publishedCheckpoints.mp (published checkpoint (List.mem_of_mem_take taken))
  obtain ⟨name, also⟩ := mem_publishedCheckpoints.mp (published other (List.mem_of_mem_drop later))
  exact valid.unique also same ▸ taken

end Candidates

/-- A pruning removes only valid files of checkpoints that may go, also when it fails on the way. One that returns has
removed the oldest of them, as many as are beyond the cap or as there are; and it returns unless the cap is below one or
the file system refuses a removal. -/
theorem pruneCheckpoints_exact (cap : Int) (handoff : Option String) (refuses : String → Option Thrown)
    (directory : Directory) :
    (∀ file, (pruneCheckpoints cap handoff refuses directory).2.lookup file = directory.lookup file ∨
      (pruneCheckpoints cap handoff refuses directory).2.lookup file = none ∧ file ∈ deletableFiles directory handoff) ∧
    (∀ deleted, (pruneCheckpoints cap handoff refuses directory).1 = .ok deleted →
      PrunesExactly directory (pruneCheckpoints cap handoff refuses directory).2 handoff cap deleted) ∧
    (1 ≤ cap → (∀ file, refuses file = none) →
      ∃ deleted, (pruneCheckpoints cap handoff refuses directory).1 = .ok deleted) := by
  obtain ⟨candidates, chosen, distinct, sorted, members⟩ := deletable_chooses directory handoff cap
  have published : ∀ checkpoint ∈ candidates, checkpoint ∈ publishedCheckpoints directory :=
    fun checkpoint member => ((members checkpoint).mp member).1
  have names := names_nodup distinct published
  have may : ∀ file, file ∈ candidates.map (fun checkpoint => checkpointFileName checkpoint.stage.seq) ↔
      file ∈ deletableFiles directory handoff := fun file => mem_candidateFiles members
  have total := validFiles_ncard directory
  have candidatesCount := ncard_list names may
  rw [List.length_map] at candidatesCount
  unfold pruneCheckpoints
  split
  · exact ⟨fun file => .inl rfl, nofun, fun positive => by omega⟩
  split
  · next within =>
      refine ⟨fun file => .inl rfl, fun deleted same => ?_, fun _ _ => ⟨[], rfl⟩⟩
      obtain rfl : [] = deleted := Except.ok.inj same
      have none : (((validFiles directory).ncard : Int) - cap).toNat = 0 := by omega
      exact ⟨List.nodup_nil, by simp, by simp [none], by simp, by simp⟩
  rw [chosen]
  generalize count : (((publishedCheckpoints directory).length : Int) - cap).toNat = excess
  have taken : (candidates.take excess).map (fun checkpoint => checkpointFileName checkpoint.stage.seq) =
      (candidates.map fun checkpoint => checkpointFileName checkpoint.stage.seq).take excess := List.map_take
  obtain ⟨first, rest, parts, lookups, returns⟩ := unlinkAll_removes refuses (candidates.take excess) [] directory
  refine ⟨fun file => ?_, fun deleted same => ?_, fun _ permitted => ?_⟩
  · rw [lookups]
    split
    · next removed =>
        refine .inr ⟨rfl, (may file).mp (List.mem_of_mem_take (i := excess) ?_)⟩
        rw [← taken, parts, List.map_append]
        exact List.mem_append_left _ removed
    · exact .inl rfl
  · obtain ⟨rfl, rfl⟩ := returns deleted same
    rw [List.append_nil] at parts
    rw [List.nil_append]
    refine ⟨taken ▸ names.sublist (List.take_sublist _ _), fun file member => ?_, ?_, ?_, fun file => ?_⟩
    · exact (may file).mp (List.mem_of_mem_take (taken ▸ member))
    · rw [List.length_map, List.length_take, candidatesCount, total, count]
    · intro file removed name spared kept checkpoint other valid also
      obtain ⟨victim, victimTaken, named⟩ := List.mem_map.mp removed
      obtain ⟨left, leftMember, leftNamed⟩ := List.mem_map.mp ((may name).mpr spared)
      obtain ⟨place, victimValid⟩ :=
        mem_publishedCheckpoints.mp (published victim (List.mem_of_mem_take victimTaken))
      obtain ⟨leftPlace, leftValid⟩ := mem_publishedCheckpoints.mp (published left leftMember)
      have older := taken_older sorted published victimTaken leftMember fun also =>
        kept (List.mem_map.mpr ⟨left, also, leftNamed⟩)
      have sameVictim : victim.stage.seq = checkpoint.stage.seq := by
        have number := valid.2.2
        rw [← named, victimValid.named] at number
        exact Option.some.inj (victimValid.2.2.symm.trans number)
      have sameLeft : left.stage.seq = other.stage.seq := by
        have number := also.2.2
        rw [← leftNamed, leftValid.named] at number
        exact Option.some.inj (leftValid.2.2.symm.trans number)
      rwa [sameVictim, sameLeft] at older
    · rw [lookups, parts]
  · refine unlinkAll_returns permitted (fun victim member => ?_) (taken ▸ names.sublist (List.take_sublist _ _))
    obtain ⟨file, valid⟩ := mem_publishedCheckpoints.mp (published victim (List.mem_of_mem_take member))
    rw [valid.named]
    exact (mem_listPublishedFiles.mp valid.listed).1

end AiOffice.Skills
