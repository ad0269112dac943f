import AiOffice.Application.ExecuteAgentRun
import AiOffice.Application.ScheduleAgentRun

namespace AiOffice.Application.ScheduleAgentRun

open Data Domain Storage.AgentRuntime Storage.Office

/-- What a call to schedule a run does next. From its check of the runs of its task on, it has listed those. -/
inductive SchedulingPhase
  | project
  | task
  | prerequisites
  | runs
  | agent (listed : List String)
  | admission (listed : List String) (id : String) (now : Date)
  | scheduled (id : String)
  | refused (thrown : Thrown)
  deriving DecidableEq

structure Scheduling (Json : Type) where
  input : ScheduleInput Json
  phase : SchedulingPhase

/-- A run on its way to its execution: it was listed as queued, it is reserved for this host, or it is executed. -/
inductive Dispatch (Json : Type)
  | listed (run : AgentRunProps Json)
  | reserved (run : AgentRunProps Json)
  | executing (execution : Execution Json)

/-- A run that lost the lock of its task to another run, which was scheduled by a call that had listed some runs. -/
structure Takeover where
  taskId : String
  lost : String
  expiresAt : Date
  runId : String
  acquiredAt : Date
  listed : List String

/-- A runtime under any number of concurrent calls, with the takeovers that happened. -/
structure Runtime (Json : Type) where
  clock : Date
  office : OfficeTables
  host : RuntimeHost Json
  jobs : List AgentRunJob
  scheduling : Nat → Option (Scheduling Json)
  dispatches : Nat → Option (Dispatch Json)
  takeovers : List Takeover

variable {Json : Type}

namespace Runtime

def setScheduling (runtime : Runtime Json) (caller : Nat) (call : Scheduling Json) : Runtime Json :=
  { runtime with scheduling := Function.update runtime.scheduling caller (some call) }

def setDispatch (runtime : Runtime Json) (caller : Nat) (dispatch : Option (Dispatch Json)) : Runtime Json :=
  { runtime with dispatches := Function.update runtime.dispatches caller dispatch }

def setTables (runtime : Runtime Json) (tables : RuntimeTables Json) : Runtime Json :=
  { runtime with host := { runtime.host with tables } }

def reserve (runtime : Runtime Json) (runId : String) : Runtime Json :=
  { runtime with host := { runtime.host with live := runtime.host.live ++ [⟨runId, false⟩] } }

def release (runtime : Runtime Json) (runId : String) : Runtime Json :=
  { runtime with
    host := { runtime.host with live := runtime.host.live.filter fun handle => handle.runId ≠ runId } }

theorem scheduling_self (runtime : Runtime Json) (caller : Nat) (call : Scheduling Json) :
    (runtime.setScheduling caller call).scheduling caller = some call := Function.update_self ..

theorem scheduling_other (runtime : Runtime Json) {caller other : Nat} (call : Scheduling Json)
    (different : other ≠ caller) :
    (runtime.setScheduling caller call).scheduling other = runtime.scheduling other := Function.update_of_ne different ..

theorem setScheduling_again (runtime : Runtime Json) (caller : Nat) (call next : Scheduling Json) :
    (runtime.setScheduling caller call).setScheduling caller next = runtime.setScheduling caller next := by
  simp [setScheduling]

theorem dispatch_self (runtime : Runtime Json) (caller : Nat) (dispatch : Option (Dispatch Json)) :
    (runtime.setDispatch caller dispatch).dispatches caller = dispatch := Function.update_self ..

theorem dispatch_other (runtime : Runtime Json) {caller other : Nat} (dispatch : Option (Dispatch Json))
    (different : other ≠ caller) :
    (runtime.setDispatch caller dispatch).dispatches other = runtime.dispatches other :=
  Function.update_of_ne different ..

def authorities (runtime : Runtime Json) : AuthorityTables :=
  ⟨runtime.office.tasks, runtime.office.agents, runtime.office.roles, runtime.host.tables.locks,
    runtime.office.pipelines⟩

end Runtime

def checked {Result : Type} (outcome : Except Thrown Result) (next : Result → SchedulingPhase) : SchedulingPhase :=
  match outcome with
  | .ok result => next result
  | .error thrown => .refused thrown

def check (services : ScheduleServices Json) (input : ScheduleInput Json) (office : OfficeTables)
    (tables : RuntimeTables Json) : SchedulingPhase → Option SchedulingPhase
  | .project => some (checked (readProject input office) fun _ => .task)
  | .task => some (checked (readTask input office) fun _ => .prerequisites)
  | .prerequisites => some (checked (readPrerequisites input office) fun _ => .runs)
  | .runs => some (checked (readRuns services input tables) .agent)
  | _ => none

/-- The takeover that an admission makes, when the lock of its task has expired. -/
def takeover (input : ScheduleInput Json) (listed : List String) (id : String) (now : Date)
    (tables : RuntimeTables Json) : Option Takeover :=
  (tables.findTaskLock input.taskId).map fun lock => ⟨input.taskId, lock.runId, lock.expiresAt, id, now, listed⟩

def Fresh (runtime : Runtime Json) (id : String) : Prop :=
  (∀ row ∈ runtime.host.tables.runs, row.id ≠ id) ∧
    ∀ caller input listed now, runtime.scheduling caller ≠ some ⟨input, .admission listed id now⟩

inductive Label (Json : Type)
  | call (caller : Nat) (input : ScheduleInput Json)
  | check (caller : Nat)
  | findAgent (caller : Nat) (id : String)
  | commit (caller : Nat)
  | list (caller : Nat) (runId : String)
  | reserve (caller : Nat)
  | claim (caller : Nat) (authority : Option RunAuthority) (ownerId : Option String)
  | execute (caller : Nat) (event : ExecutionEvent Json)
  | leave (caller : Nat)
  | cancel (projectId runId : String)
  | stop (runId : String)
  | reconcile (input : RunCommand) (approve : String)
  | renew (runId : String)
  | advance
  | change
  | crash

variable [DecidableEq Json]

open ManageAgentRuns in
/-- One step of one call. A transaction that throws changes nothing; where a call only reads before its transaction,
the transaction is the step. What else happens to the office and to the actions is arbitrary. -/
inductive Step (services : ScheduleServices Json) (recovery : RunRecovery Json) (errors : AdmissionErrors Json) :
    Runtime Json → Label Json → Runtime Json → Prop
  | called {runtime caller input} (absent : runtime.scheduling caller = none) :
      Step services recovery errors runtime (.call caller input) (runtime.setScheduling caller ⟨input, .project⟩)
  | checked {runtime caller input phase next} (here : runtime.scheduling caller = some ⟨input, phase⟩)
      (read : check services input runtime.office runtime.host.tables phase = some next) :
      Step services recovery errors runtime (.check caller) (runtime.setScheduling caller ⟨input, next⟩)
  | named {runtime caller input listed id agent} (here : runtime.scheduling caller = some ⟨input, .agent listed⟩)
      (found : readAgent input runtime.office = .ok agent) (fresh : Fresh runtime id) :
      Step services recovery errors runtime (.findAgent caller id)
        (runtime.setScheduling caller ⟨input, .admission listed id runtime.clock⟩)
  | unknown {runtime caller input listed id thrown} (here : runtime.scheduling caller = some ⟨input, .agent listed⟩)
      (missing : readAgent input runtime.office = .error thrown) :
      Step services recovery errors runtime (.findAgent caller id)
        (runtime.setScheduling caller ⟨input, .refused thrown⟩)
  | admitted {runtime caller input listed id now tables jobs}
      (here : runtime.scheduling caller = some ⟨input, .admission listed id now⟩)
      (committed : commitAdmission services input id now runtime.office runtime.host.tables runtime.jobs = .ok (tables, jobs)) :
      Step services recovery errors runtime (.commit caller)
        { (runtime.setTables tables).setScheduling caller ⟨input, .scheduled id⟩ with
          jobs
          takeovers := (takeover input listed id now runtime.host.tables).toList ++ runtime.takeovers }
  | rejected {runtime caller input listed id now thrown}
      (here : runtime.scheduling caller = some ⟨input, .admission listed id now⟩)
      (threw : commitAdmission services input id now runtime.office runtime.host.tables runtime.jobs = .error thrown) :
      Step services recovery errors runtime (.commit caller)
        (runtime.setScheduling caller ⟨input, .refused thrown⟩)
  | listed {runtime caller row run} (absent : runtime.dispatches caller = none)
      (found : runtime.host.tables.findRow row.id = some row) (queued : row.status = .queued)
      (loaded : load services.codec row = .ok run) :
      Step services recovery errors runtime (.list caller row.id) (runtime.setDispatch caller (some (.listed run)))
  | reserved {runtime caller run} (here : runtime.dispatches caller = some (.listed run))
      (free : runtime.host.has run.id = false) :
      Step services recovery errors runtime (.reserve caller)
        ((runtime.reserve run.id).setDispatch caller (some (.reserved run)))
  | taken {runtime caller run} (here : runtime.dispatches caller = some (.listed run))
      (live : runtime.host.has run.id = true) :
      Step services recovery errors runtime (.reserve caller) (runtime.setDispatch caller none)
  | claimed {runtime caller run authority ownerId claim tables}
      (here : runtime.dispatches caller = some (.reserved run))
      (committed : runtime.host.tables.admitQueuedRun services.codec errors runtime.authorities
        ⟨run.id, ownerId, runtime.clock, authority⟩ = .ok (some claim, tables))
      (kept : claim.status ≠ .cancelled) :
      Step services recovery errors runtime (.claim caller authority ownerId)
        ((runtime.setTables tables).setDispatch caller (some (.executing ⟨claim, .claimed⟩)))
  | dropped {runtime caller run authority ownerId claim tables}
      (here : runtime.dispatches caller = some (.reserved run))
      (committed : runtime.host.tables.admitQueuedRun services.codec errors runtime.authorities
        ⟨run.id, ownerId, runtime.clock, authority⟩ = .ok (claim, tables))
      (refused : ∀ run, claim = some run → run.status = .cancelled) :
      Step services recovery errors runtime (.claim caller authority ownerId)
        (((runtime.setTables tables).release run.id).setDispatch caller none)
  | unclaimed {runtime caller run authority ownerId} (here : runtime.dispatches caller = some (.reserved run)) :
      Step services recovery errors runtime (.claim caller authority ownerId)
        ((runtime.release run.id).setDispatch caller none)
  | executed {runtime caller execution event}
      (here : runtime.dispatches caller = some (.executing execution)) :
      Step services recovery errors runtime (.execute caller event)
        ((runtime.setTables (ExecuteAgentRun.step services.codec execution event runtime.clock runtime.authorities
            runtime.host.tables).2).setDispatch caller
          (some (.executing (ExecuteAgentRun.step services.codec execution event runtime.clock runtime.authorities
            runtime.host.tables).1)))
  | left {runtime caller run} (here : runtime.dispatches caller = some (.executing ⟨run, .ended⟩)) :
      Step services recovery errors runtime (.leave caller) ((runtime.release run.id).setDispatch caller none)
  | cancelled {runtime projectId runId tables}
      (committed : cancelQueued recovery projectId runId runtime.clock runtime.host = .ok tables) :
      Step services recovery errors runtime (.cancel projectId runId) (runtime.setTables tables)
  | stopped {runtime runId} :
      Step services recovery errors runtime (.stop runId) { runtime with host := runtime.host.stop runId }
  | reconciled {runtime input approve tables}
      (committed : reconcile recovery input approve runtime.clock runtime.host = .ok tables) :
      Step services recovery errors runtime (.reconcile input approve) (runtime.setTables tables)
  | renewed {runtime runId} :
      Step services recovery errors runtime (.renew runId) (runtime.setTables
        (runtime.host.tables.renewTaskLock runId runtime.clock (runtime.clock + taskRunLeaseDurationMs)).2)
  | advanced {runtime clock} (later : runtime.clock ≤ clock) :
      Step services recovery errors runtime .advance { runtime with clock }
  | changed {runtime office actions} :
      Step services recovery errors runtime .change
        { runtime with office, host := { runtime.host with actions } }
  | crashed {runtime} :
      Step services recovery errors runtime .crash
        { runtime with
          host := { runtime.host with live := [] }
          scheduling := fun _ => none
          dispatches := fun _ => none }

end AiOffice.Application.ScheduleAgentRun
