import AiOffice.Application.Pipeline.ManagePipelineRuns

namespace AiOffice.Application.Pipeline

open Data Domain Storage.Office ManagePipelineRuns

inductive StartPhase
  | reading
  | admitting (task : TaskProps)
  | excluding (task : TaskProps)
  | locating (task : TaskProps)
  | choosing (task : TaskProps) (revision : OfficeManifestRevision)
  | committing (task : TaskProps) (revision : OfficeManifestRevision)
  | committed
  | refused (thrown : Thrown)

structure Office where
  tables : OfficeTables
  start : StartPhase

/-- A command on a task that commits or throws, or the next part of the start, between two awaits. -/
inductive OfficeLabel
  | task (command : TaskCommand)
  | start (selectsPacks : Bool) (supply : StartSupply)

def advance (input : StartPipelineRun) (selectsPacks : Bool) (supply : StartSupply) (phase : StartPhase)
    (tables : OfficeTables) : Except Thrown Office :=
  match phase with
  | .reading => (readTask input tables).map fun task => ⟨tables, .admitting task⟩
  | .admitting task =>
    (assertTaskPrerequisitesComplete input.projectId input.taskId .start tables).map fun _ =>
      ⟨tables, .excluding task⟩
  | .excluding task => (requireNoActiveRun input tables).map fun _ => ⟨tables, .locating task⟩
  | .locating task => (readManifest input tables).map fun revision => ⟨tables, .choosing task revision⟩
  | .choosing task revision =>
    (requireStartable input revision selectsPacks).map fun _ => ⟨tables, .committing task revision⟩
  | .committing task revision =>
    (commitStart input task revision supply tables).map fun started => ⟨started.2, .committed⟩
  | .committed => .ok ⟨tables, .committed⟩
  | .refused thrown => .error thrown

def step (input : StartPipelineRun) (office : Office) : OfficeLabel → Office
  | .task command =>
    match command.perform office.tables with
    | .ok tables => { office with tables }
    | .error _ => office
  | .start selectsPacks supply =>
    match advance input selectsPacks supply office.start office.tables with
    | .ok after => after
    | .error thrown => { office with start := .refused thrown }

def runFrom (input : StartPipelineRun) (office : Office) (labels : List OfficeLabel) : Office :=
  labels.foldl (step input) office

theorem runFrom_snoc (input : StartPipelineRun) (office : Office) (labels : List OfficeLabel) (label : OfficeLabel) :
    runFrom input office (labels ++ [label]) = step input (runFrom input office labels) label := by
  simp [runFrom]

section Alone

variable {input : StartPipelineRun} {tables : OfficeTables} {phase : StartPhase} {selectsPacks : Bool}
  {supply : StartSupply} {count : Nat}

theorem runFrom_advance {next : Office} (advanced : advance input selectsPacks supply phase tables = .ok next) :
    runFrom input ⟨tables, phase⟩ (List.replicate (count + 1) (.start selectsPacks supply)) =
      runFrom input next (List.replicate count (.start selectsPacks supply)) := by
  simp only [runFrom, List.replicate_succ, List.foldl_cons, step, advanced]

theorem runFrom_throws {thrown : Thrown} (threw : advance input selectsPacks supply phase tables = .error thrown) :
    runFrom input ⟨tables, phase⟩ (List.replicate (count + 1) (.start selectsPacks supply)) =
      ⟨tables, .refused thrown⟩ := by
  simp only [runFrom, List.replicate_succ, List.foldl_cons, step, threw]
  clear threw
  induction count with
  | zero => rfl
  | succ count ih => exact ih

/-- With nothing in between, the parts of a start are the start. -/
theorem runFrom_start :
    runFrom input ⟨tables, .reading⟩ (List.replicate 6 (.start selectsPacks supply)) =
      match start input selectsPacks supply tables with
      | .ok started => ⟨started.2, .committed⟩
      | .error thrown => ⟨tables, .refused thrown⟩ := by
  unfold start
  simp only [bind, Except.bind]
  cases read : readTask input tables with
  | error thrown => exact runFrom_throws (by rw [advance, read]; rfl)
  | ok task =>
  rw [runFrom_advance (by rw [advance, read]; rfl)]
  cases admitted : assertTaskPrerequisitesComplete input.projectId input.taskId .start tables with
  | error thrown => exact runFrom_throws (by rw [advance, admitted]; rfl)
  | ok _ =>
  rw [runFrom_advance (by rw [advance, admitted]; rfl)]
  cases excluded : requireNoActiveRun input tables with
  | error thrown => exact runFrom_throws (by rw [advance, excluded]; rfl)
  | ok _ =>
  rw [runFrom_advance (by rw [advance, excluded]; rfl)]
  cases located : readManifest input tables with
  | error thrown => exact runFrom_throws (by rw [advance, located]; rfl)
  | ok revision =>
  rw [runFrom_advance (by rw [advance, located]; rfl)]
  dsimp only
  cases chosen : requireStartable input revision selectsPacks with
  | error thrown => exact runFrom_throws (by rw [advance, chosen]; rfl)
  | ok _ =>
  rw [runFrom_advance (by rw [advance, chosen]; rfl)]
  cases committed : commitStart input task revision supply tables with
  | error thrown => exact runFrom_throws (by rw [advance, committed]; rfl)
  | ok started =>
    rw [runFrom_advance (by rw [advance, committed]; rfl)]
    rfl

end Alone

def TerminalKept (before after : OfficeTables) : Prop :=
  ∀ id row, before.findTask id = some row → isTerminalTaskStatus row.status = true →
    ∃ later, after.findTask id = some later ∧ later.status = row.status

theorem TerminalKept.refl (tables : OfficeTables) : TerminalKept tables tables :=
  fun _ row found _ => ⟨row, found, rfl⟩

theorem TerminalKept.trans {before middle after : OfficeTables} (first : TerminalKept before middle)
    (second : TerminalKept middle after) : TerminalKept before after := by
  intro id row found terminal
  obtain ⟨between, foundBetween, sameBetween⟩ := first id row found terminal
  obtain ⟨later, foundLater, sameLater⟩ := second id between foundBetween (by rw [sameBetween]; exact terminal)
  exact ⟨later, foundLater, sameLater.trans sameBetween⟩

def CommitsOver (input : StartPipelineRun) (before : Office) (label : OfficeLabel) (read row : TaskProps) : Prop :=
  ∃ revision selectsPacks supply started, before.start = .committing read revision ∧
    label = .start selectsPacks supply ∧ commitStart input read revision supply before.tables = .ok started ∧
    before.tables.findTask read.id = some row

/-- Whatever the row has that differs from what was read is still there after the save. -/
structure ChangesKept (read row saved : TaskProps) : Prop where
  title : row.title ≠ read.title → saved.title = row.title
  description : row.description ≠ read.description → saved.description = row.description
  priority : row.priority ≠ read.priority → saved.priority = row.priority
  status : row.status ≠ read.status → saved.status = row.status

/-- In a run from these tables, no task leaves a terminal status and the save of the start overwrites no change. -/
structure UpdatesKept (input : StartPipelineRun) (tables : OfficeTables) (labels : List OfficeLabel) : Prop where
  terminal : ∀ earlier later, labels = earlier ++ later →
    TerminalKept (runFrom input ⟨tables, .reading⟩ earlier).tables (runFrom input ⟨tables, .reading⟩ labels).tables
  changes : ∀ earlier label later, labels = earlier ++ label :: later → ∀ read row saved,
    CommitsOver input (runFrom input ⟨tables, .reading⟩ earlier) label read row →
    (step input (runFrom input ⟨tables, .reading⟩ earlier) label).tables.findTask read.id = some saved →
    ChangesKept read row saved

/-- The row still has what was read, save that its task may have been started. -/
structure Agrees (read row : TaskProps) : Prop where
  title : row.title = read.title
  description : row.description = read.description
  priority : row.priority = read.priority
  status : row.status = read.status ∨ row.status = .running

theorem TaskCommand.terminalKept {command : TaskCommand} {before after : OfficeTables}
    (performed : command.perform before = .ok after) : TerminalKept before after := by
  obtain ⟨row, value, found, sameId, moves, saved⟩ := command.perform_ok performed
  intro id other stored terminal
  refine ⟨_, saveTask_findTask saved stored, ?_⟩
  split
  · next overwritten =>
      have sameKey : id = command.taskId := by
        rw [← (findTask_found stored).2, overwritten, sameId, (findTask_found found).2]
      rw [sameKey, found, Option.some.injEq] at stored
      subst stored
      exact moves.terminal terminal
  · rfl

variable {input : StartPipelineRun} {read row : TaskProps} {revision : OfficeManifestRevision} {supply : StartSupply}
  {tables after : OfficeTables} {run : PipelineRunProps}

theorem commitStart_findTask (committed : commitStart input read revision supply tables = .ok (run, after))
    {id : String} (found : tables.findTask id = some row) :
    TaskStatus.running ∈ taskTransitions read.status ∧
      after.findTask id = some (if row.id = read.id
        then overwriteTask row { read with status := .running, updatedAt := supply.now } else row) := by
  obtain ⟨-, started, saved, inserted, -, -, -, -, start, save, insert, rest⟩ := commitStart_ok committed
  obtain ⟨allowed, rfl⟩ := Task.transition_ok start
  obtain ⟨rfl, -⟩ := insertPipelineRun_ok insert
  rw [rest]
  exact ⟨allowed, saveTask_findTask save found⟩

theorem commitStart_terminalKept (committed : commitStart input read revision supply tables = .ok (run, after))
    (agrees : ∀ row, tables.findTask read.id = some row → Agrees read row) : TerminalKept tables after := by
  intro id row found terminal
  obtain ⟨allowed, stored⟩ := commitStart_findTask committed found
  refine ⟨_, stored, ?_⟩
  split
  · next overwritten =>
      rw [← (findTask_found found).2, overwritten] at found
      have blocked := (isTerminalTaskStatus_iff row.status).mp terminal
      rcases (agrees row found).status with same | running
      · rw [same] at blocked
        rw [blocked] at allowed
        exact absurd allowed List.not_mem_nil
      · rw [running] at terminal
        cases terminal
  · rfl

/-- A step keeps every terminal status, if the start only commits over what it read. -/
theorem step_terminalKept {office : Office} {label : OfficeLabel}
    (agrees : ∀ read row, CommitsOver input office label read row → Agrees read row) :
    TerminalKept office.tables (step input office label).tables := by
  cases label with
  | task command =>
    simp only [step]
    split
    · next performed => exact TaskCommand.terminalKept performed
    · exact .refl _
  | start selectsPacks supply =>
    cases phase : office.start with
    | committing read revision =>
      simp only [step, phase, advance]
      cases committed : commitStart input read revision supply office.tables with
      | error thrown => exact .refl _
      | ok started =>
        exact commitStart_terminalKept committed fun row found =>
          agrees read row ⟨revision, selectsPacks, supply, started, phase, rfl, committed, found⟩
    | reading =>
      simp only [step, phase, advance]
      cases readTask input office.tables <;> exact .refl _
    | admitting task =>
      simp only [step, phase, advance]
      cases assertTaskPrerequisitesComplete input.projectId input.taskId .start office.tables <;> exact .refl _
    | excluding task =>
      simp only [step, phase, advance]
      cases requireNoActiveRun input office.tables <;> exact .refl _
    | locating task =>
      simp only [step, phase, advance]
      cases readManifest input office.tables <;> exact .refl _
    | choosing task revision =>
      simp only [step, phase, advance]
      cases requireStartable input revision selectsPacks <;> exact .refl _
    | committed | refused =>
      simp only [step, phase, advance]
      exact .refl _

/-- A start keeps every update exactly when it only commits over rows that agree with what it read. -/
theorem start_keeps_updates (input : StartPipelineRun) (tables : OfficeTables) (labels : List OfficeLabel) :
    UpdatesKept input tables labels ↔
      ∀ earlier label later, labels = earlier ++ label :: later → ∀ read row,
        CommitsOver input (runFrom input ⟨tables, .reading⟩ earlier) label read row → Agrees read row := by
  constructor
  · intro kept earlier label later split read row commits
    obtain ⟨revision, selectsPacks, supply, started, phase, rfl, committed, found⟩ := id commits
    obtain ⟨-, stored⟩ := commitStart_findTask committed found
    rw [if_pos (findTask_found found).2] at stored
    have saved : (step input (runFrom input ⟨tables, .reading⟩ earlier) (.start selectsPacks supply)).tables.findTask
        read.id = some (overwriteTask row { read with status := .running, updatedAt := supply.now }) := by
      simp only [step, phase, advance, committed]
      exact stored
    obtain ⟨title, description, priority, status⟩ := kept.changes _ _ _ split read row _ commits saved
    refine ⟨?_, ?_, ?_, ?_⟩
    · by_contra differs
      exact differs (title differs).symm
    · by_contra differs
      exact differs (description differs).symm
    · by_contra differs
      exact differs (priority differs).symm
    · by_cases same : row.status = read.status
      · exact .inl same
      · exact .inr (status same).symm
  · intro agrees
    constructor
    · intro earlier later split
      induction later generalizing earlier with
      | nil =>
        rw [split, List.append_nil]
        exact .refl _
      | cons label later ih =>
        have first := step_terminalKept (agrees earlier label later split)
        rw [← runFrom_snoc] at first
        exact first.trans (ih (earlier ++ [label]) (by rw [split, List.append_assoc]; rfl))
    · intro earlier label later split read row saved commits stored
      obtain ⟨title, description, priority, status⟩ := agrees earlier label later split read row commits
      refine ⟨fun differs => absurd title differs, fun differs => absurd description differs,
        fun differs => absurd priority differs, fun differs => ?_⟩
      obtain ⟨revision, selectsPacks, supply, started, phase, rfl, committed, found⟩ := commits
      simp only [step, phase, advance, committed, Except.map] at stored
      rw [(commitStart_findTask committed found).2, if_pos (findTask_found found).2, Option.some.injEq] at stored
      rw [← stored]
      exact (status.resolve_left differs).symm

def cancelledMeanwhile : List OfficeLabel :=
  .start false buildSupply :: .task (.lifecycle ⟨"project", "task", .cancel, none⟩ 1) ::
    List.replicate 5 (.start false buildSupply)

/-- A start takes a cancelled task back to running. -/
theorem start_reopens_cancelled_task : ¬∀ input tables labels, UpdatesKept input tables labels := by
  intro kept
  have lasting := (kept startBuild buildOffice cancelledMeanwhile).terminal (cancelledMeanwhile.take 2)
    (cancelledMeanwhile.drop 2) rfl
  obtain ⟨later, found, same⟩ := lasting "task" ⟨"task", "project", "Task", none, .cancelled, 0, 0, 1⟩
    (by decide) (by decide)
  have running : ((runFrom startBuild ⟨buildOffice, .reading⟩ cancelledMeanwhile).tables.findTask "task").map
      TaskProps.status = some .running := by decide
  rw [found, Option.map_some, same] at running
  cases running

end AiOffice.Application.Pipeline
