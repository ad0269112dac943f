import AiOffice.Connector.FilesystemSandbox

namespace AiOffice.Connector.FilesystemSandbox

open Data Data.Method Domain.Capability

def Quiet (device : Device) : Prop := ∀ call ∈ device.performed, call.mutates = false

def Pristine (device : Device) : Prop := Quiet device ∧ device.committed = false

def Committed (device : Device) : Prop := device.committed = true ∧ device.descriptorOpen = false

/-- What neither an answer nor a system call on a staging entry disturbs. -/
structure Stable (holds : Device → Prop) : Prop where
  answer : ∀ device, holds device → holds { device with asked := device.asked + 1 }
  silent : ∀ device call, call.mutates = false → holds device →
    holds { device with performed := device.performed ++ [call] }

theorem quiet_snoc {device : Device} {call : SystemCall} (silent : call.mutates = false)
    (quiet : Quiet device) : Quiet { device with performed := device.performed ++ [call] } := by
  intro performed member
  rcases List.mem_append.mp member with earlier | last
  · exact quiet performed earlier
  · rw [List.mem_singleton.mp last]
    exact silent

theorem Stable.pristine : Stable Pristine where
  answer _ holds := holds
  silent _ _ silent holds := ⟨quiet_snoc silent holds.1, holds.2⟩

theorem Stable.committed : Stable Committed where
  answer _ holds := holds
  silent _ _ _ holds := holds

theorem Stable.staged : Stable fun device => Pristine device ∧ device.descriptorOpen = false where
  answer _ holds := holds
  silent _ _ silent holds := ⟨⟨quiet_snoc silent holds.1.1, holds.1.2⟩, holds.2⟩

def Unclassified (error : ConnectorError) : Prop := ∃ code name, error = .other code name

def Fails (holds : Device → Prop) (error : ConnectorError) (device : Device) : Prop :=
  Unclassified error ∧ holds device

variable {holds : Device → Prop} {Result : Type}

theorem fail_fails (name : String) {device : Device} (kept : holds device) :
    Fails holds (fail name) device := ⟨⟨none, name, rfl⟩, kept⟩

theorem ask_keeps (stable : Stable holds) :
    Triple holds ask (fun _ => holds) (Fails holds) := by
  refine .get_bind fun object kept => Triple.seq (fun _ => holds) ?_ fun _ => ?_
  · exact .modify fun device same => stable.answer device (same ▸ kept)
  · cases object.replies object.asked with
    | done count stats => exact .pure fun _ still => still
    | failed code name => exact .throw fun _ still => ⟨⟨code, name, rfl⟩, still⟩

theorem check_keeps (stable : Stable holds) :
    Triple holds check (fun _ => holds) (Fails holds) :=
  (ask_keeps stable).bind fun _ => .pure fun _ kept => kept

theorem perform_leads {call : SystemCall} (stable : Stable holds) (after : Device → Prop)
    (recorded : ∀ device, holds device → after { device with performed := device.performed ++ [call] }) :
    Triple holds (perform call) (fun _ => after) (Fails holds) := by
  refine (ask_keeps stable).bind fun _ => ?_
  exact Triple.seq (fun _ => after) (.modify recorded) fun _ => .pure fun _ kept => kept

theorem perform_keeps {call : SystemCall} (stable : Stable holds) (silent : call.mutates = false) :
    Triple holds (perform call) (fun _ => holds) (Fails holds) :=
  perform_leads stable holds fun device kept => stable.silent device call silent kept

theorem performAll_keeps (stable : Stable holds) (calls : List SystemCall)
    (silent : ∀ call ∈ calls, call.mutates = false) :
    Triple holds (performAll calls) (fun _ => holds) (Fails holds) := by
  induction calls with
  | nil => exact .pure fun _ kept => kept
  | cons call calls ih =>
    obtain ⟨first, later⟩ := List.forall_mem_cons.mp silent
    exact (perform_keeps stable first).bind fun _ => ih later

theorem requireFile_keeps (stats : Stats) :
    Triple holds (requireFile stats) (fun _ => holds) (Fails holds) := by
  refine .ite (fun _ => .throw fun _ kept => fail_fails _ kept) fun _ => ?_
  exact .ite (fun _ => .throw fun _ kept => fail_fails _ kept) fun _ => .pure fun _ kept => kept

theorem requireDirectory_keeps (stats : Stats) :
    Triple holds (requireDirectory stats) (fun _ => holds) (Fails holds) :=
  .ite (fun _ => .throw fun _ kept => fail_fails _ kept) fun _ => .pure fun _ kept => kept

theorem fsyncParent_keeps (stable : Stable holds) (path : String) :
    Triple holds (fsyncParent path) (fun _ => holds) (Fails holds) := by
  refine (check_keeps stable).bind fun _ => (check_keeps stable).bind fun _ =>
    (check_keeps stable).bind fun _ => ?_
  have synced := performAll_keeps stable [.fsync (.visible path)] (by simp [SystemCall.mutates])
  have closed := performAll_keeps stable [.close (.visible path)] (by simp [SystemCall.mutates])
  refine synced.finallyDo (fun _ => closed) fun error => ?_
  intro device ⟨unclassified, kept⟩
  exact closed.weaken (fun _ still => still) (fun _ _ still => ⟨unclassified, still⟩)
    (fun _ _ failed => failed) device kept

theorem performCommit_commits (call : SystemCall) :
    Triple (fun device => Pristine device ∧ device.descriptorOpen = false) (performCommit call)
      (fun _ => Committed) (Fails Pristine) := by
  have performed := @perform_leads _ call Stable.staged (fun device => device.descriptorOpen = false)
    fun _ kept => kept.2
  refine (performed.throwing fun _ _ failed => ⟨failed.1, failed.2.1⟩).bind fun _ => ?_
  exact .modify fun _ closed => ⟨rfl, closed⟩

theorem openStaged_keeps (attempts : Nat) :
    Triple Pristine (openStaged attempts) (fun _ => Pristine) (Fails Pristine) := by
  induction attempts with
  | zero => exact .throw fun _ kept => fail_fails _ kept
  | succ attempts ih =>
    refine Triple.seq (fun _ => Pristine) (.modify fun _ kept => kept) fun _ => ?_
    have opened : Triple Pristine (do
        performAll [.create (.staged attempts)]
        modify fun device => { device with descriptorOpen := true }
        return attempts) (fun _ => Pristine) (Fails Pristine) := by
      refine (performAll_keeps Stable.pristine [.create (.staged attempts)]
        (by simp [SystemCall.mutates, Entry.isVisible])).bind fun _ => ?_
      exact Triple.seq (fun _ => Pristine) (.modify fun _ kept => kept) fun _ => .pure fun _ kept => kept
    refine opened.tryCatch fun error => ?_
    · have rethrown : Triple (Fails Pristine error) (throw error : Sandbox Nat) (fun _ => Pristine)
          (Fails Pristine) := .throw fun _ failed => failed
      split
      · refine .ite (fun _ => rethrown) fun _ => ?_
        exact ih.weaken (fun _ failed => failed.2) (fun _ _ kept => kept) fun _ _ failed => failed
      · exact rethrown

theorem writeStaged_keeps (temp remaining : Nat) :
    Triple Pristine (writeStaged temp remaining) (fun _ => Pristine) (Fails Pristine) := by
  induction remaining using Nat.strong_induction_on with
  | _ remaining ih =>
    rw [writeStaged]
    refine .ite (fun _ => .pure fun _ kept => kept) fun _ => ?_
    refine (check_keeps Stable.pristine).bind fun _ => ?_
    have silent : (SystemCall.write (.staged temp) remaining).mutates = false := rfl
    refine (perform_keeps Stable.pristine silent).bind fun written => ?_
    split
    · exact .throw fun _ kept => fail_fails _ kept
    · exact ih _ (by omega)

/-- An error whose handlers will say, or have said, that there was definitely no mutation. -/
def ConnectorError.ClaimsNoMutation : ConnectorError → Prop
  | .mutationExecution _ certainty => certainty = .definiteNoMutation
  | .other _ _ => True

def Truthful (error : ConnectorError) (device : Device) : Prop := error.ClaimsNoMutation → Quiet device

def Interrupted : ConnectorError → Device → Prop := Fails fun device => Pristine device ∨ Committed device

theorem Fails.interrupted {error : ConnectorError} {device : Device} (failed : Fails holds error device)
    (phase : holds device → Pristine device ∨ Committed device) : Interrupted error device :=
  ⟨failed.1, phase failed.2⟩

/-- An error after the classification: once the change is committed it no longer claims otherwise. -/
def Classified (error : ConnectorError) (device : Device) : Prop :=
  Pristine device ∨ Committed device ∧ ¬error.ClaimsNoMutation

theorem Classified.truthful {error : ConnectorError} {device : Device} (classified : Classified error device) :
    Truthful error device := by
  intro claims
  rcases classified with pristine | ⟨-, silent⟩
  · exact pristine.1
  · exact (silent claims).elim

theorem classified_keeps {before : Device → Prop} {body : Sandbox Result}
    (triple : Triple before body (fun _ => Committed) Interrupted) :
    Triple before (classified body) (fun _ => Committed) Classified := by
  refine triple.tryCatch fun error => .get_bind fun device interrupted => .throw ?_
  rintro _ rfl
  obtain ⟨⟨code, name, rfl⟩, pristine | committed⟩ := interrupted
  · exact .inl pristine
  · refine .inr ⟨committed, ?_⟩
    simp [mutationError, committed.1, ConnectorError.ClaimsNoMutation]

theorem unlinkStaged_keeps (stable : Stable holds) (temp : Option Nat) :
    Triple holds
      (tryCatch (performAll (temp.toList.map fun temp => .unlink (.staged temp))) fun _ => pure ⟨⟩)
      (fun _ => holds) (fun _ _ => False) := by
  have performed := performAll_keeps stable (temp.toList.map fun temp => .unlink (.staged temp))
    (by simp [SystemCall.mutates, Entry.isVisible])
  exact performed.tryCatch fun _ => .pure fun _ failed => failed.2

theorem closeStaged_keeps (stable : Stable holds) (device : Device) :
    Triple holds (closeStaged device) (fun _ => holds) (Fails holds) :=
  .ite (fun _ => performAll_keeps stable _ (by simp [SystemCall.mutates])) fun _ => .pure fun _ kept => kept

theorem cleanUp_pristine : Triple Pristine cleanUp (fun _ => Pristine) (Fails Pristine) := by
  refine .get_bind fun device pristine => ?_
  have closed := closeStaged_keeps Stable.pristine device
  refine (closed.weaken (fun _ same => by rwa [same]) (fun _ _ kept => kept) fun _ _ failed => failed).bind
    fun _ => ?_
  exact (unlinkStaged_keeps Stable.pristine device.temp).weaken (fun _ kept => kept) (fun _ _ kept => kept)
    fun _ _ never => never.elim

theorem cleanUp_committed : Triple Committed cleanUp (fun _ => Committed) (fun _ _ => False) := by
  refine .get_bind fun device committed => ?_
  have nothing : closeStaged device = pure ⟨⟩ := by simp [closeStaged, committed.2]
  rw [nothing]
  refine Triple.seq (fun _ => Committed) (.pure fun _ same => by rwa [same]) fun _ => ?_
  exact unlinkStaged_keeps Stable.committed device.temp

theorem cleanUp_classified (error : ConnectorError) :
    Triple (Classified error) cleanUp (fun _ => Classified error) Classified := by
  rintro device (pristine | ⟨committed, silent⟩)
  · have cleaned : Triple Pristine cleanUp (fun _ => Classified error) Classified :=
      cleanUp_pristine.weaken (fun _ kept => kept) (fun _ _ kept => .inl kept) fun _ _ failed => .inl failed.2
    exact cleaned device pristine
  · have cleaned : Triple Committed cleanUp (fun _ => Classified error) Classified :=
      cleanUp_committed.weaken (fun _ kept => kept) (fun _ _ kept => .inr ⟨kept, silent⟩)
        fun _ _ never => never.elim
    exact cleaned device committed

theorem withStagedFile_classified {target : Entry} {size mode : Nat}
    {commit : (temp target : Entry) → Sandbox Result}
    (commits : ∀ temp, Triple (fun device => Pristine device ∧ device.descriptorOpen = false)
      (commit (.staged temp) target) (fun _ => Committed) Interrupted) :
    Triple Pristine (withStagedFile target size mode commit) (fun _ => Committed) Classified := by
  have unchanged : ∀ error device, Fails Pristine error device → Classified error device :=
    fun _ _ failed => .inl failed.2
  have interrupted : ∀ error device, Fails Pristine error device → Interrupted error device :=
    fun _ _ failed => failed.interrupted .inl
  have checked := (check_keeps Stable.pristine).throwing unchanged
  have directory := fun stats => (requireDirectory_keeps stats).throwing unchanged
  refine checked.bind fun _ => (directory _).bind fun _ => checked.bind fun _ => (directory _).bind fun _ => ?_
  have cleaned : Triple Committed cleanUp (fun _ => Committed) Classified :=
    cleanUp_committed.throwing fun _ _ never => never.elim
  refine Triple.finallyDo (classified_keeps ?_) (fun _ => cleaned) cleanUp_classified
  refine ((openStaged_keeps 3).throwing interrupted).bind fun temp => ?_
  refine ((writeStaged_keeps temp size).throwing interrupted).bind fun _ => ?_
  refine ((performAll_keeps Stable.pristine _ (by simp [SystemCall.mutates, Entry.isVisible])).throwing
    interrupted).bind fun _ => ?_
  exact Triple.bind (.modify fun _ kept => ⟨kept, rfl⟩) fun _ => commits temp

theorem check_interrupted {phase : Device → Prop} (stable : Stable phase)
    (known : ∀ device, phase device → Pristine device ∨ Committed device) :
    Triple phase check (fun _ => phase) Interrupted :=
  (check_keeps stable).throwing fun _ device failed => failed.interrupted (known device)

theorem fsyncParent_interrupted (path : String) :
    Triple Committed (fsyncParent path) (fun _ => Committed) Interrupted :=
  (fsyncParent_keeps Stable.committed path).throwing fun _ _ failed => failed.interrupted .inr

theorem executeCreate_classified (path : String) (arguments_ : Arguments) :
    Triple Pristine (executeCreate path arguments_) (fun _ => Committed) Classified := by
  refine ((check_keeps Stable.pristine).throwing fun _ _ failed => .inl failed.2).bind fun _ => ?_
  refine withStagedFile_classified fun temp => ?_
  refine (check_interrupted Stable.staged fun _ kept => .inl kept.1).bind fun _ => ?_
  refine ((performCommit_commits _).throwing fun _ _ failed => failed.interrupted .inl).bind fun _ => ?_
  refine (check_interrupted Stable.committed fun _ kept => .inr kept).bind fun _ => ?_
  have unlinked := performAll_keeps Stable.committed [.unlink (.staged temp)]
    (by simp [SystemCall.mutates, Entry.isVisible])
  refine (unlinked.throwing fun _ _ failed => failed.interrupted .inr).bind fun _ => ?_
  exact (fsyncParent_interrupted path).bind fun _ => .pure fun _ kept => kept

theorem executeWrite_classified (path : String) (arguments_ : Arguments) :
    Triple Pristine (executeWrite path arguments_) (fun _ => Committed) Classified := by
  have checked : Triple Pristine check (fun _ => Pristine) Classified :=
    (check_keeps Stable.pristine).throwing fun _ _ failed => .inl failed.2
  refine checked.bind fun _ => checked.bind fun source => ?_
  refine ((requireFile_keeps source).throwing fun _ _ failed => .inl failed.2).bind fun _ => ?_
  refine withStagedFile_classified fun temp => ?_
  refine (check_interrupted Stable.staged fun _ kept => .inl kept.1).bind fun _ => ?_
  refine ((performCommit_commits _).throwing fun _ _ failed => failed.interrupted .inl).bind fun _ => ?_
  refine (check_interrupted Stable.committed fun _ kept => .inr kept).bind fun _ => ?_
  exact (fsyncParent_interrupted path).bind fun _ => .pure fun _ kept => kept

abbrev Unstaged (device : Device) : Prop := Pristine device ∧ device.descriptorOpen = false

theorem executeMove_classified (sourcePath destinationPath : String) (sameParent : Bool)
    (preconditions : List FilePrecondition) :
    Triple Unstaged (executeMove sourcePath destinationPath sameParent preconditions)
      (fun _ => Committed) Classified := by
  refine ((check_keeps Stable.staged).throwing fun _ _ failed => .inl failed.2.1).bind fun _ => ?_
  have checked := check_interrupted Stable.staged fun _ kept => .inl kept.1
  refine classified_keeps (checked.bind fun _ => checked.bind fun source => checked.bind fun parent => ?_)
  refine ((requireFile_keeps source).throwing fun _ _ failed => failed.interrupted fun kept =>
    .inl kept.1).bind fun _ => ?_
  refine ((requireDirectory_keeps parent).throwing fun _ _ failed => failed.interrupted fun kept =>
    .inl kept.1).bind fun _ => checked.bind fun _ => ?_
  refine ((performCommit_commits _).throwing fun _ _ failed => failed.interrupted .inl).bind fun _ => ?_
  refine (check_interrupted Stable.committed fun _ kept => .inr kept).bind fun _ => ?_
  refine (fsyncParent_interrupted sourcePath).bind fun _ => ?_
  cases sameParent with
  | true => exact .pure fun _ kept => kept
  | false => exact (fsyncParent_interrupted destinationPath).bind fun _ => .pure fun _ kept => kept

theorem executeDelete_classified (path : String) (preconditions : List FilePrecondition) :
    Triple Unstaged (executeDelete path preconditions) (fun _ => Committed) Classified := by
  refine ((check_keeps Stable.staged).throwing fun _ _ failed => .inl failed.2.1).bind fun _ => ?_
  have checked := check_interrupted Stable.staged fun _ kept => .inl kept.1
  refine classified_keeps (checked.bind fun _ => checked.bind fun source => ?_)
  refine ((requireFile_keeps source).throwing fun _ _ failed => failed.interrupted fun kept =>
    .inl kept.1).bind fun _ => checked.bind fun _ => ?_
  refine ((performCommit_commits _).throwing fun _ _ failed => failed.interrupted .inl).bind fun _ => ?_
  refine (check_interrupted Stable.committed fun _ kept => .inr kept).bind fun _ => ?_
  exact (fsyncParent_interrupted path).bind fun _ => .pure fun _ kept => kept

theorem mutationError_truthful {error : ConnectorError} {device : Device}
    (classified : Classified error device) : Truthful (mutationError error false) device := by
  intro claims
  apply classified.truthful
  cases error with
  | mutationExecution code certainty => exact claims
  | other code name => trivial

/-- What `executeMutation` throws always says how certain it is, and says so truthfully: an error
that reports definitely no mutation leaves every entry that the project can see as it was. -/
theorem executeMutation_truthful (operation : String) (arguments_ : Arguments) (sameParent : Bool)
    (preconditions : List FilePrecondition) :
    Triple Unstaged (executeMutation operation arguments_ sameParent preconditions)
      (fun _ => Committed)
      (fun error device => (∃ code certainty, error = .mutationExecution code certainty) ∧
        Truthful error device) := by
  have rethrown : ∀ error, Triple (Classified error) (throw (mutationError error false) : Sandbox MutationResult)
      (fun _ => Committed) fun error device =>
        (∃ code certainty, error = .mutationExecution code certainty) ∧ Truthful error device := by
    refine fun error => .throw fun device classified => ⟨?_, mutationError_truthful classified⟩
    cases error with
    | mutationExecution code certainty => exact ⟨code, certainty, rfl⟩
    | other code name => exact ⟨_, _, rfl⟩
  refine Triple.tryCatch ?_ rethrown
  · have refused : ∀ name, Triple Unstaged (throw (fail name) : Sandbox MutationResult)
        (fun _ => Committed) Classified := fun name => .throw fun _ unstaged => .inl unstaged.1
    have checked : Triple Unstaged check (fun _ => Unstaged) Classified :=
      (check_keeps Stable.staged).throwing fun _ _ failed => .inl failed.2.1
    refine checked.bind fun _ => checked.bind fun _ => .ite (fun _ => refused _) fun _ =>
      checked.bind fun _ => ?_
    split
    · exact (executeCreate_classified _ _).weaken (fun _ unstaged => unstaged.1) (fun _ _ kept => kept)
        fun _ _ kept => kept
    · exact (executeWrite_classified _ _).weaken (fun _ unstaged => unstaged.1) (fun _ _ kept => kept)
        fun _ _ kept => kept
    · exact executeMove_classified _ _ _ _
    · exact executeDelete_classified _ _
    · exact refused _

end AiOffice.Connector.FilesystemSandbox
