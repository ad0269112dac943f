import AiOffice.Skills.CheckpointStore.Steps

namespace AiOffice.Skills

open Data Domain

variable {sha256Hex : Bytes → String} {store later : CheckpointStore} {label : StoreLabel} {caller : Nat}
  {call next another : Call} {after : Directory}

/-- A finished call did not fall behind the numbers that had been returned when it began. -/
def Call.Ordered (call : Call) : Prop :=
  match call.phase with
  | .returned (.loaded loaded) => ∀ number ∈ call.earlier, ∃ value ∈ loaded, number ≤ value.entry.seq
  | .returned (.published checkpoint _ _) => ∀ number ∈ call.earlier, number < checkpoint.stage.seq
  | _ => True

/-- No number was given twice, and no call that returned fell behind. -/
structure NeverForked (store : CheckpointStore) : Prop where
  unique : ∀ first ∈ store.published, ∀ second ∈ store.published,
    first.stage.seq = second.stage.seq → first = second
  ordered : ∀ caller call, store.calls.lookup caller = some call → call.Ordered

namespace CheckpointStore

def allCalls (store : CheckpointStore) : List Call := store.calls.entries.map fun entry => entry.2

/-- No call that still goes on has held its reservation for longer than the grace period. -/
def prompt (store : CheckpointStore) : Bool :=
  store.allCalls.all fun call => call.reservation.all fun file =>
    (store.directory.lookup file).all fun stored => store.clock - stored.mtime ≤ reservationGraceMs

def careful (store : CheckpointStore) : StoreLabel → Bool
  | .resume caller _ =>
    (store.calls.lookup caller).all fun call => call.careful store.clock store.directory store.allCalls
  | _ => true

def PromptStep (sha256Hex : Bytes → String) (store : CheckpointStore) (label : StoreLabel) (later : CheckpointStore) :
    Prop :=
  store.prompt = true ∧ store.step sha256Hex label = some later

def CarefulStep (sha256Hex : Bytes → String) (store : CheckpointStore) (label : StoreLabel) (later : CheckpointStore) :
    Prop :=
  store.careful label = true ∧ store.PromptStep sha256Hex label later

end CheckpointStore

structure Sequenced (store : CheckpointStore) : Prop where
  filed : Filed store.directory store.published
  sound : ∀ caller call, store.calls.lookup caller = some call → Sound store.directory store.published call
  alone : ∀ caller other call another, store.calls.lookup caller = some call →
    store.calls.lookup other = some another → call.reservation ≠ none → another.reservation ≠ none → caller = other
  temps : ∀ caller other call another file, store.calls.lookup caller = some call →
    store.calls.lookup other = some another → call.tempFile = some file → another.tempFile = some file → caller = other

theorem mem_allCalls (here : store.calls.lookup caller = some call) : call ∈ store.allCalls :=
  List.mem_map.mpr ⟨⟨caller, call⟩, AList.mem_lookup_iff.mp here, rfl⟩

theorem Sound.tempFile {directory : Directory} {published : List Checkpoint} {file : String}
    (sound : Sound directory published call) (own : call.tempFile = some file) :
    isTempFile file = true ∧ (directory.lookup file).isSome = true := by
  have placed := sound.2
  obtain ⟨origin, attempt, phase⟩ := call
  have stands {bytes : Bytes} (temporary : Temp directory file bytes) :
      isTempFile file = true ∧ (directory.lookup file).isSome = true := by
    obtain ⟨name, stored, lookup, -⟩ := temporary
    exact ⟨name, by rw [lookup]; rfl⟩
  cases phase <;> cases own
  · exact stands placed.2
  · exact placed.elim fun bytes temporary => stands temporary
  · exact stands placed.temp
  · obtain ⟨-, document, temporary, -⟩ := placed
    exact stands temporary

theorem Sound.reservation {directory : Directory} {published : List Checkpoint} {file : String}
    (sound : Sound directory published call) (own : call.reservation = some file) :
    file = checkpointFileName (published.length + 1) ∧ published.length + 1 < 10 ^ 6 ∧
      ∃ stored, directory.lookup file = some stored ∧ stored.bytes = .empty := by
  have placed := sound.2
  obtain ⟨origin, attempt, phase⟩ := call
  cases phase <;> cases own
  have number := placed.next
  exact ⟨number ▸ rfl, number ▸ placed.small, placed.file⟩

/-- A step of one call keeps the invariant, if it keeps it for this call and for all others. -/
theorem Sequenced.moved {published : List Checkpoint} (sequenced : Sequenced store) (filed : Filed after published)
    (own : Sound after published next)
    (others : ∀ other another, other ≠ caller → store.calls.lookup other = some another →
      Sound after published another)
    (alone : next.reservation ≠ none → ∀ other another, other ≠ caller → store.calls.lookup other = some another →
      another.reservation = none)
    (temp : ∀ file ∈ next.tempFile, (∃ call, store.calls.lookup caller = some call ∧ call.tempFile = some file) ∨
      store.directory.lookup file = none) :
    Sequenced { store with directory := after, calls := store.calls.insert caller next, published } where
  filed := filed
  sound := by
    intro other another found
    by_cases same : other = caller
    · subst same
      rw [AList.lookup_insert] at found
      cases found
      exact own
    · rw [AList.lookup_insert_ne same] at found
      exact others other another same found
  alone := by
    intro first second one two found also reserved reservedToo
    by_cases isFirst : first = caller
    · by_cases isSecond : second = caller
      · rw [isFirst, isSecond]
      · rw [isFirst, AList.lookup_insert] at found
        cases found
        rw [AList.lookup_insert_ne isSecond] at also
        exact absurd (alone reserved second two isSecond also) reservedToo
    · rw [AList.lookup_insert_ne isFirst] at found
      by_cases isSecond : second = caller
      · rw [isSecond, AList.lookup_insert] at also
        cases also
        exact absurd (alone reservedToo first one isFirst found) reserved
      · rw [AList.lookup_insert_ne isSecond] at also
        exact sequenced.alone first second one two found also reserved reservedToo
  temps := by
    have apart : ∀ other another file, other ≠ caller → store.calls.lookup other = some another →
        next.tempFile = some file → another.tempFile ≠ some file := by
      intro other another file different found own same
      rcases temp file own with ⟨call, here, before⟩ | free
      · exact different (sequenced.temps other caller another call file found here same before)
      · have stands := ((sequenced.sound other another found).tempFile same).2
        rw [free] at stands
        cases stands
    intro first second one two file found also own ownToo
    by_cases isFirst : first = caller
    · by_cases isSecond : second = caller
      · rw [isFirst, isSecond]
      · rw [isFirst, AList.lookup_insert] at found
        cases found
        rw [AList.lookup_insert_ne isSecond] at also
        exact absurd ownToo (apart second two file isSecond also own)
    · rw [AList.lookup_insert_ne isFirst] at found
      by_cases isSecond : second = caller
      · rw [isSecond, AList.lookup_insert] at also
        cases also
        exact absurd own (apart first one file isFirst found ownToo)
      · rw [AList.lookup_insert_ne isSecond] at also
        exact sequenced.temps first second one two file found also own ownToo

/-- A quiet step leaves the files of another call. -/
theorem Sequenced.untouched (sequenced : Sequenced store) (prompt : store.prompt = true)
    (here : store.calls.lookup caller = some call) {other : Nat} (different : other ≠ caller)
    (found : store.calls.lookup other = some another)
    (effect : Quiet store.clock store.directory store.published call next after) :
    (∀ file ∈ another.tempFile, after.lookup file = store.directory.lookup file) ∧
      ∀ file ∈ another.reservation, after.lookup file = store.directory.lookup file := by
  have sound := sequenced.sound other another found
  refine ⟨fun file own => ?_, fun file own => ?_⟩
  · obtain ⟨name, stands⟩ := sound.tempFile own
    rcases effect.files file with same | mine | free | index | ⟨permanent, -⟩
    · exact same
    · exact absurd (sequenced.temps other caller another call file found here own mine) different
    · rw [free] at stands
      cases stands
    · rw [index] at name
      exact absurd name (by decide)
    · rw [name] at permanent
      cases permanent
  · obtain ⟨next, small, stored, lookup, -⟩ := sound.reservation own
    rcases effect.files file with same | mine | free | index | ⟨-, stale, place, -, old⟩
    · exact same
    · have name := ((sequenced.sound caller call here).tempFile mine).1
      rw [next, checkpointFileName_permanent] at name
      cases name
    · rw [lookup] at free
      cases free
    · exact absurd (index.symm.trans next) (index_ne_checkpoint small)
    · have young := List.all_eq_true.mp prompt another (mem_allCalls found)
      rw [own, Option.all_some, place, Option.all_some, decide_eq_true_eq] at young
      exact absurd old (not_lt.mpr young)

/-- Every careful step of a call keeps the invariant. -/
theorem Sequenced.resumed (sequenced : Sequenced store) (prompt : store.prompt = true)
    (here : store.calls.lookup caller = some call)
    (careful : call.careful store.clock store.directory store.allCalls = true)
    (resumed : Resumed store.clock store.directory store.published call next after) :
    Sequenced { store with
      directory := after
      calls := store.calls.insert caller next
      published := store.published ++ call.publishes next } := by
  have sound := sequenced.sound caller call here
  have filed := sequenced.filed
  cases resumed with
  | quiet effect silent =>
    rw [silent, List.append_nil]
    refine sequenced.moved effect.filed effect.own (fun other another different found => ?_)
      (fun reserved => absurd effect.unreserved reserved)
      (fun file own => (effect.temp file own).imp_left fun before => ⟨call, here, before⟩)
    obtain ⟨temp, reservation⟩ := sequenced.untouched prompt here different found effect
    exact (sequenced.sound other another found).quiet effect.same temp reservation
  | @reserves checkpoint temp phase free moved stored =>
    have placed := sound.2
    rw [phase] at placed
    obtain ⟨chosen, temporary⟩ := placed
    rw [Call.careful, phase] at careful
    have small : checkpoint.stage.seq < 10 ^ 6 := of_decide_eq_true careful
    have number : checkpoint.stage.seq = store.published.length + 1 := by
      have bound := chosen.bound
      by_contra other
      obtain ⟨document, file, lookup, -⟩ := chosen.taken (by omega)
      rw [free] at lookup
      cases lookup
    have unreserved : ∀ other another, other ≠ caller → store.calls.lookup other = some another →
        another.reservation = none := by
      intro other another _ found
      rw [Option.eq_none_iff_forall_ne_some]
      intro file own
      obtain ⟨name, -, held, lookup, -⟩ := (sequenced.sound other another found).reservation own
      rw [name, ← number, free] at lookup
      cases lookup
    have silent : call.publishes next = [] := by rw [Call.publishes, phase]
    rw [silent, List.append_nil, stored]
    refine sequenced.moved (filed.insert (.reservation (by rw [number])) fun _ same => ?_) ?_
      (fun other another different found => ?_) (fun _ => unreserved) (fun file own => .inl ⟨call, here, ?_⟩)
    · have equal := checkpointFileName_inj small same
      omega
    · rw [moved]
      exact ⟨sound.1, chosen.valid, number, small, ⟨_, AList.lookup_insert _, rfl⟩,
        temporary.congr (AList.lookup_insert_ne (temp_ne_checkpoint temporary.1))⟩
    · have other' := sequenced.sound other another found
      refine other'.quiet (sameCheckpoints_reserve free) (fun file own => ?_) (fun file own => ?_)
      · exact AList.lookup_insert_ne (temp_ne_checkpoint (other'.tempFile own).1)
      · rw [unreserved other another different found] at own
        cases own
    · rw [moved] at own
      rw [Call.tempFile, phase]
      exact own
  | @publishes checkpoint temp phase moved stored =>
    have reserved := sound.2
    rw [phase] at reserved
    have reserved : Reserved store.directory store.published checkpoint temp := reserved
    have mine : call.reservation ≠ none := by rw [Call.reservation, phase]; exact Option.some_ne_none _
    have given : call.publishes next = [checkpoint] := by rw [Call.publishes, phase, moved]; rfl
    obtain ⟨publication, filedAfter⟩ := reserved.publication filed stored
    have number := reserved.next
    rw [given]
    refine sequenced.moved filedAfter ?_ (fun other another different found => ?_)
      (fun held => absurd (moved ▸ rfl) held) (fun file own => by rw [moved] at own; cases own)
    · rw [moved]
      refine ⟨fun earlier member => ⟨(sound.1 earlier member).1, ?_⟩,
        List.mem_append_right _ (List.mem_singleton_self _), fun earlier member => ?_⟩
      · rw [List.length_append]
        exact (sound.1 earlier member).2.trans (Nat.le_add_right _ _)
      · rw [number]
        exact Nat.lt_succ_of_le (sound.1 earlier member).2
    · have other' := sequenced.sound other another found
      refine other'.publication publication (fun file own => ?_) ?_
      · obtain ⟨temporary, content, lookup, -⟩ := reserved.temp
        rw [rename, lookup] at stored
        obtain rfl := Option.some.inj stored
        refine (AList.lookup_insert_ne (temp_ne_checkpoint (other'.tempFile own).1)).trans
          (AList.lookup_erase_ne fun same => different ?_)
        exact sequenced.temps other caller another call file found here own (by rw [Call.tempFile, phase, same])
      · by_contra held
        exact different (sequenced.alone other caller another call found here held mine)
  | @prunes checkpoint victim victims deleted later phase moved stored =>
    have placed := sound.2
    rw [phase] at placed
    obtain ⟨given, known⟩ := placed
    rw [Call.careful, phase] at careful
    have older := (known victim List.mem_cons_self).2
    have silent : call.publishes next = [] := by rw [Call.publishes, phase]
    rw [silent, List.append_nil, stored]
    have small := filed.small
    refine sequenced.moved (filed.erase fun _ same => ?_) ?_ (fun other another different found => ?_)
      (fun held => absurd (moved ▸ rfl) held) (fun file own => by rw [moved] at own; cases own)
    · have equal := checkpointFileName_inj (older.trans small) same
      omega
    · rw [moved]
      exact ⟨sound.1, given, fun item member => known item (List.mem_cons_of_mem _ member)⟩
    · exact (sequenced.sound other another found).pruned filed older
        (List.all_eq_true.mp careful another (mem_allCalls found))

theorem Sequenced.returned (sequenced : Sequenced store) :
    ∀ number ∈ store.returnedNumbers, 1 ≤ number ∧ number ≤ store.published.length := by
  intro number member
  obtain ⟨⟨caller, call⟩, listed, own⟩ := List.mem_filterMap.mp member
  have placed := (sequenced.sound caller call (AList.mem_lookup_iff.mpr listed)).2
  dsimp only [Call.published] at own
  split at own
  · next checkpoint pruned pruneError phase =>
    rw [phase] at placed
    cases own
    exact sequenced.filed.seq_mem placed.1
  · cases own

theorem Sequenced.step (sequenced : Sequenced store) (careful : store.CarefulStep sha256Hex label later) :
    Sequenced later := by
  obtain ⟨careful, prompt, stepped⟩ := careful
  cases label with
  | begin caller kind =>
    rw [CheckpointStore.step] at stepped
    split at stepped
    · cases stepped
    · obtain rfl := Option.some.inj stepped
      refine sequenced.moved sequenced.filed ⟨sequenced.returned, ?_⟩
        (fun other another _ found => sequenced.sound other another found) (fun held => absurd ?_ held)
        (fun file own => ?_)
      · cases kind <;> trivial
      · cases kind <;> rfl
      · cases kind <;> cases own
  | resume caller outside =>
    obtain ⟨call, here, stepped⟩ := Option.bind_eq_some_iff.mp stepped
    obtain ⟨⟨next, after⟩, resumed, stepped⟩ := Option.bind_eq_some_iff.mp stepped
    obtain rfl := Option.some.inj stepped
    rw [CheckpointStore.careful, here, Option.all_some] at careful
    exact sequenced.resumed prompt here careful
      (resume_cases sequenced.filed (sequenced.sound caller call here) careful resumed)
  | crash caller =>
    obtain ⟨call, here, stepped⟩ := Option.bind_eq_some_iff.mp stepped
    split at stepped
    · cases stepped
    · obtain rfl := Option.some.inj stepped
      have stood {other : Nat} {another : Call}
          (found : (store.calls.erase caller).lookup other = some another) :
          store.calls.lookup other = some another := by
        by_cases same : other = caller
        · rw [same, AList.lookup_erase] at found
          cases found
        · rwa [AList.lookup_erase_ne same] at found
      exact ⟨sequenced.filed, fun other another found => sequenced.sound other another (stood found),
        fun first second one two found also => sequenced.alone first second one two (stood found) (stood also),
        fun first second one two file found also => sequenced.temps first second one two file (stood found) (stood also)⟩
  | wait clock =>
    obtain rfl := Option.some.inj stepped
    exact ⟨sequenced.filed, sequenced.sound, sequenced.alone, sequenced.temps⟩

theorem Sequenced.initial (clock : Date) : Sequenced (.initial clock) where
  filed := {
    numbered := rfl
    valid := fun _ member => absurd member List.not_mem_nil
    small := Nat.pow_pos (by decide)
    stored := fun _ _ found => nomatch found
    stands := fun given => absurd given (Nat.lt_irrefl 0) }
  sound := fun _ _ found => nomatch found
  alone := fun _ _ _ _ found => nomatch found
  temps := fun _ _ _ _ _ found => nomatch found

theorem Sequenced.neverForked (sequenced : Sequenced store) : NeverForked store where
  unique := fun _ known _ also same => sequenced.filed.unique known also same
  ordered := by
    intro caller call found
    have placed := (sequenced.sound caller call found).2
    rw [Call.Ordered]
    split
    · next loaded phase =>
      rw [phase] at placed
      exact placed
    · next checkpoint pruned pruneError phase =>
      rw [phase] at placed
      exact placed.2
    · trivial

/-- No run of careful steps loses or forks a published checkpoint. -/
theorem careful_runs_never_fork {clock : Date}
    (reached : Transition.Reachable (CheckpointStore.CarefulStep sha256Hex) (.initial clock) store) :
    NeverForked store :=
  (reached.invariant Sequenced (.initial clock) fun _ _ _ holds step => holds.step step).neverForked

def CheckpointStore.takeSteps (guard : CheckpointStore → StoreLabel → Bool) (sha256Hex : Bytes → String)
    (store : CheckpointStore) : List StoreLabel → Option CheckpointStore
  | [] => some store
  | label :: labels =>
    if guard store label then
      (store.step sha256Hex label).bind fun later => CheckpointStore.takeSteps guard sha256Hex later labels
    else none

theorem takeSteps_run {guard : CheckpointStore → StoreLabel → Bool} {labels : List StoreLabel}
    (taken : store.takeSteps guard sha256Hex labels = some later) :
    Transition.Run (fun before label after => guard before label = true ∧ before.step sha256Hex label = some after)
      store labels later := by
  induction labels generalizing store with
  | nil => cases taken; exact .nil
  | cons label labels ih =>
    rw [CheckpointStore.takeSteps] at taken
    split at taken
    · next guarded =>
      obtain ⟨middle, stepped, rest⟩ := Option.bind_eq_some_iff.mp taken
      exact .cons ⟨guarded, stepped⟩ (ih rest)
    · cases taken

def gateInput (nextAction : String) : PublishCheckpointInput where
  task := some "M19-T2"
  milestone := none
  branch := "feat/checkpoints"
  base := "main"
  profile := "codex"
  gate := "implemented"
  evidence := []
  openFindings := []
  decisions := []
  unresolvedDependencies := []
  knownLimitations := []
  nextAction
  knowledgeReferences := []

def gateRequest (id nextAction : String) (retentionCap : Option Int) : CallKind :=
  .publishCheckpoint {
    input := gateInput nextAction
    headSha := "0123456789abcdef0123456789abcdef01234567"
    dirtyPaths := []
    timestamp := 1735689600000
    id
    retentionCap }

def resumes (caller count : Nat) (names : List String) : List StoreLabel :=
  List.replicate count (.resume caller ⟨names, "5b0c7c1e", none⟩)

def publishFirst : List StoreLabel :=
  .begin 1 (gateRequest "second" "review" none) :: resumes 1 12 [] ++ resumes 1 6 ["index.json", "000001.json"]

/-- One call has chosen the number 1; a second one publishes it, and a third one publishes 2 and prunes 1. -/
def overtakenPublish : List StoreLabel :=
  .begin 0 (gateRequest "first" "implement" none) :: resumes 0 7 [] ++ publishFirst ++
    .begin 2 (gateRequest "third" "merge" (some 1)) :: resumes 2 19 ["index.json", "000001.json"] ++
      resumes 2 10 ["index.json", "000001.json", "000002.json"] ++ resumes 0 3 []

def plainSha256Hex (_ : Bytes) : String := "0123456789abcdef0123456789abcdef0123456789abcdef0123456789abcdef"

theorem careful_runs_never_fork_published :
    ∃ store : CheckpointStore, store.published.length = 1 ∧ NeverForked store := by
  have published : ((CheckpointStore.initial 1735689600000).takeSteps
      (fun store label => store.careful label && store.prompt) plainSha256Hex publishFirst).any
        (fun store => store.published.length = 1) = true := by
    decide
  obtain ⟨store, taken, one⟩ := (Option.any_eq_true _ _).mp published
  have run := (takeSteps_run taken).weaken fun before label after ⟨guarded, stepped⟩ =>
    have guards := Bool.and_eq_true_iff.mp guarded
    (⟨guards.1, guards.2, stepped⟩ : before.CarefulStep plainSha256Hex label after)
  exact ⟨store, of_decide_eq_true one, careful_runs_never_fork ⟨_, run⟩⟩

/-- Two checkpoints were given the number 1. -/
theorem published_number_forked :
    ∃ store, Transition.Reachable (CheckpointStore.PromptStep plainSha256Hex) (.initial 1735689600000) store ∧
      ∃ first ∈ store.published, ∃ second ∈ store.published,
        first.stage.seq = second.stage.seq ∧ first ≠ second := by
  have forked : ((CheckpointStore.initial 1735689600000).takeSteps (fun store _ => store.prompt) plainSha256Hex
      overtakenPublish).any (fun store => store.published.any fun first => store.published.any fun second =>
        first.stage.seq = second.stage.seq && first ≠ second) = true := by
    decide
  obtain ⟨store, taken, twice⟩ := (Option.any_eq_true _ _).mp forked
  obtain ⟨first, given, twice⟩ := List.any_eq_true.mp twice
  obtain ⟨second, also, twice⟩ := List.any_eq_true.mp twice
  rw [Bool.and_eq_true, decide_eq_true_eq, decide_eq_true_eq] at twice
  exact ⟨store, ⟨_, takeSteps_run taken⟩, first, given, second, also, twice⟩

end AiOffice.Skills
