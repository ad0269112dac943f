import AiOffice.Application.WorkerAgentExecutor
import Mathlib

namespace AiOffice.Application.WorkerAgentExecutor

open Data Outcome Domain Domain.PipelineRun Storage.AgentRuntime Storage.Office

/-- What a renewal of the lease reads next, with what it has read. -/
inductive Renewal
  | task
  | agent (task : Option TaskProps)
  | role (task : Option TaskProps) (agent : Option Agent)
  | pipeline (task : Option TaskProps) (agent : Option Agent) (role : Option Role)
  | lock

/-- What a worker execution waits for. A renewal runs before the worker is started, and again while it works. -/
inductive WorkerPhase (Json : Type)
  | readTask
  | readAgent (task : Option TaskProps)
  | readRole (task : TaskProps) (agent : Agent)
  | readPipeline (task : TaskProps) (agent : Agent) (role : Role)
  | assembling (reads : AuthorityReads)
  | inspecting (reads : AuthorityReads) (memory : Json) (projectMemory : Option Json)
  | ready (prepared : PreparedExecution Json)
  | renewing (prepared : PreparedExecution Json) (started : Bool) (renewal : Renewal)
  | working (prepared : PreparedExecution Json)
  | stopping (prepared : PreparedExecution Json)
  | accepting (prepared : PreparedExecution Json)
  | accepted
  | refused (thrown : Thrown)

/-- The tables of a host, and when the last change of its authorities was committed. -/
structure World (Json : Type) where
  office : OfficeTables
  tables : RuntimeTables Json
  last : Date

variable {Json : Type}

def World.authorities (world : World Json) : AuthorityTables :=
  ⟨world.office.tasks, world.office.agents, world.office.roles, world.tables.locks, world.office.pipelines⟩

/-- What the keys and indexes hold of the rows, and that none is newer than the last change. -/
structure World.Valid (world : World Json) : Prop where
  runIds : (world.tables.runs.map (·.id)).Nodup
  taskIds : (world.office.tasks.map TaskProps.id).Nodup
  agentIds : (world.office.agents.map Agent.id).Nodup
  roleIds : (world.office.roles.map Role.id).Nodup
  pipelineIds : (world.office.pipelines.map PipelineRunProps.id).Nodup
  oneActive : ∀ pipeline ∈ world.office.pipelines, ∀ other ∈ world.office.pipelines,
    pipeline.status = .active → other.status = .active → other.taskId = pipeline.taskId →
    other.projectId = pipeline.projectId → other.id = pipeline.id
  tasksStamped : ∀ row ∈ world.office.tasks, row.updatedAt ≤ world.last
  agentsStamped : ∀ row ∈ world.office.agents, row.updatedAt ≤ world.last
  rolesStamped : ∀ row ∈ world.office.roles, row.updatedAt ≤ world.last

/-- A committed change of the tables. It stamps the tasks, agents and roles that it changes with a time later than all
before; it changes a pipeline by an operation of it; runs and locks may change in any way. -/
structure Committed (before after : World Json) : Prop where
  later : before.last < after.last
  valid : after.Valid
  tasks : ∀ row ∈ after.office.tasks, row ∈ before.office.tasks ∨ row.updatedAt = after.last
  agents : ∀ row ∈ after.office.agents, row ∈ before.office.agents ∨ row.updatedAt = after.last
  roles : ∀ row ∈ after.office.roles, row ∈ before.office.roles ∨ row.updatedAt = after.last
  pipelines : ∀ row ∈ after.office.pipelines, row ∈ before.office.pipelines ∨
    (∃ earlier ∈ before.office.pipelines, ∃ command record, Effect earlier command record row) ∨
    ∀ earlier ∈ before.office.pipelines, earlier.id ≠ row.id
  kept : ∀ row ∈ before.office.pipelines, ∃ later ∈ after.office.pipelines, later.id = row.id

def proceed {Result : Type} (checked : Except Thrown Result) (next : Result → WorkerPhase Json) : WorkerPhase Json :=
  match checked with
  | .ok result => next result
  | .error thrown => .refused thrown

/-- The phase after the lease was lost: a worker that was started is told to stop. -/
def lost (prepared : PreparedExecution Json) (started : Bool) : WorkerPhase Json :=
  if started then .stopping prepared else .refused leaseLost

section Steps

variable [DecidableEq Json] (services : WorkerServices Json) (run : AgentRunProps Json)

/-- One step of a worker execution, between two points where it waits. -/
inductive WorkerStep (world : World Json) : WorkerPhase Json → World Json → WorkerPhase Json → Prop
  | readTask : WorkerStep world .readTask world (.readAgent (world.office.findTask run.taskId))
  | readAgent (task : Option TaskProps) : WorkerStep world (.readAgent task) world
      (proceed (checkAgent run task (world.office.findAgent run.agentId)) fun read => .readRole read.1 read.2)
  | readRole (task : TaskProps) (agent : Agent) : WorkerStep world (.readRole task agent) world
      (proceed (checkRole services run (world.office.findRole agent.roleId run.projectId)) (.readPipeline task agent))
  | readPipeline (task : TaskProps) (agent : Agent) (role : Role) : WorkerStep world (.readPipeline task agent role) world
      (proceed (do
          let bound ← checkPipeline run agent role (world.office.findActiveByTask run.taskId run.projectId)
          checkModel services run
          return bound)
        fun bound => .assembling ⟨task, agent, role, bound⟩)
  | assembled (reads : AuthorityReads) (memory : Json) (projectMemory : Option Json) :
      WorkerStep world (.assembling reads) world
        (proceed (checkContext services run reads memory projectMemory) fun _ => .inspecting reads memory projectMemory)
  | inspected (reads : AuthorityReads) (memory : Json) (projectMemory : Option Json) (version : String) :
      WorkerStep world (.inspecting reads memory projectMemory) world
        (proceed (checkLimits reads.role) fun _ => .ready ⟨reads, memory, projectMemory, version⟩)
  | executes (prepared : PreparedExecution Json) :
      WorkerStep world (.ready prepared) world (.renewing prepared false .task)
  | renewTask (prepared : PreparedExecution Json) (started : Bool) :
      WorkerStep world (.renewing prepared started .task) world
        (.renewing prepared started (.agent (world.office.findTask run.taskId)))
  | renewAgent (prepared : PreparedExecution Json) (started : Bool) (task : Option TaskProps) :
      WorkerStep world (.renewing prepared started (.agent task)) world
        (.renewing prepared started (.role task (world.office.findAgent run.agentId)))
  | renewRole (prepared : PreparedExecution Json) (started : Bool) (task : Option TaskProps) (agent : Option Agent) :
      WorkerStep world (.renewing prepared started (.role task agent)) world (.renewing prepared started
        (.pipeline task agent (world.office.findRole prepared.reads.agent.roleId run.projectId)))
  | renewPipeline (prepared : PreparedExecution Json) (started : Bool) (task : Option TaskProps) (agent : Option Agent)
      (role : Option Role) : WorkerStep world (.renewing prepared started (.pipeline task agent role)) world
        (if renewable prepared.reads task agent role (world.office.findActiveByTask run.taskId run.projectId) then
          .renewing prepared started .lock else lost prepared started)
  | renewLock (prepared : PreparedExecution Json) (started : Bool) (now : Date) :
      WorkerStep world (.renewing prepared started .lock)
        { world with tables := (world.tables.renewTaskLock run.id now (now + taskRunLeaseDurationMs)).2 }
        (if (world.tables.renewTaskLock run.id now (now + taskRunLeaseDurationMs)).1 then .working prepared
          else lost prepared started)
  | renewFails (prepared : PreparedExecution Json) (started : Bool) (renewal : Renewal) :
      WorkerStep world (.renewing prepared started renewal) world (lost prepared started)
  | renews (prepared : PreparedExecution Json) : WorkerStep world (.working prepared) world (.renewing prepared true .task)
  | returns (prepared : PreparedExecution Json) : WorkerStep world (.working prepared) world (.accepting prepared)
  -- A worker may still return its output when it is told to stop.
  | returnsLate (prepared : PreparedExecution Json) :
      WorkerStep world (.stopping prepared) world (.accepting prepared)
  | accepts (prepared : PreparedExecution Json) (current : AgentRunProps Json) (result : Json) (acceptedAt : Date)
      (accepted : Bool) (after : RuntimeTables Json) (same : current.id = run.id)
      (returned : world.tables.acceptWorkerResult world.authorities (prepared.fence services run) current result
        acceptedAt = .ok (accepted, after)) :
      WorkerStep world (.accepting prepared) { world with tables := after }
        (if accepted then .accepted else .refused leaseLost)
  | throws (phase : WorkerPhase Json) (thrown : Thrown) : WorkerStep world phase world (.refused thrown)

/-- The worlds and phases that a worker execution gets to, with any changes committed between its steps. -/
inductive Reachable : World Json → WorkerPhase Json → Prop
  | starts {world : World Json} (valid : world.Valid) : Reachable world .readTask
  | commits {before after : World Json} {phase : WorkerPhase Json} (reachable : Reachable before phase)
      (committed : Committed before after) : Reachable after phase
  | works {before after : World Json} {phase next : WorkerPhase Json} (reachable : Reachable before phase)
      (step : WorkerStep services run before phase after next) : Reachable after next

end Steps

section Known

variable {Row : Type} {key : Row → String} {stamp : Row → Date} {rows later : List Row} {last now : Date} {read : Row}

/-- What is known of a row that was read: it is no newer than the last change, and changes are newer than it. -/
structure Known (key : Row → String) (stamp : Row → Date) (rows : List Row) (last : Date) (read : Row) : Prop where
  stamped : stamp read ≤ last
  remembered : Remembered key stamp rows read

theorem Known.of_find {selected : Row → Bool} (unique : (rows.map key).Nodup) (stamped : ∀ row ∈ rows, stamp row ≤ last)
    (found : rows.find? selected = some read) : Known key stamp rows last read where
  stamped := stamped read (List.mem_of_find?_eq_some found)
  remembered := .of_only fun _ member same => keyed_eq unique (List.mem_of_find?_eq_some found) member same

theorem Known.committed (known : Known key stamp rows last read) (passes : last < now)
    (changed : ∀ row ∈ later, row ∈ rows ∨ stamp row = now) : Known key stamp later now read where
  stamped := (known.stamped.trans_lt passes).le
  remembered := known.remembered.revised fun row member _ =>
    (changed row member).imp_right fun same => by rw [same]; exact known.stamped.trans_lt passes

end Known

variable {services : WorkerServices Json} {run : AgentRunProps Json} {world before after : World Json}
  {phase next : WorkerPhase Json}

theorem effect_version {pipeline changed : PipelineRunProps} {command : Command} {record : Option PipelineOverrideRecord}
    (effect : Effect pipeline command record changed) :
    changed.id = pipeline.id ∧ pipeline.version < changed.version := by
  have finishes (before : PipelineRunProps) (stage : PipelineStageRunProps) (now : Date) :
      (finished before stage now).id = before.id ∧ before.version < (finished before stage now).version := by
    refine ⟨?_, by rw [finished_version]; exact Nat.lt_succ_self _⟩
    rw [finished]
    split <;> rfl
  cases effect with
  | assigned => exact ⟨rfl, Nat.lt_succ_self _⟩
  | submitted => exact ⟨rfl, Nat.lt_succ_self _⟩
  | completed => exact finishes ..
  | approved => exact finishes ..
  | rejected => exact ⟨rfl, Nat.lt_succ_self _⟩
  | overridden => exact finishes ..
  | cancelled => exact ⟨rfl, Nat.lt_succ_self _⟩

structure PipelineKnown (world : World Json) (read : PipelineRunProps) : Prop where
  present : ∃ row ∈ world.office.pipelines, row.id = read.id
  remembered : Remembered PipelineRunProps.id PipelineRunProps.version world.office.pipelines read

theorem PipelineKnown.committed {read : PipelineRunProps} (known : PipelineKnown before read)
    (committed : Committed before after) : PipelineKnown after read where
  present := by
    obtain ⟨row, member, same⟩ := known.present
    obtain ⟨later, stands, about⟩ := committed.kept row member
    exact ⟨later, stands, about.trans same⟩
  remembered := by
    intro later member about
    rcases committed.pipelines later member with kept | ⟨earlier, stood, command, record, effect⟩ | fresh
    · exact known.remembered later kept about
    · obtain ⟨same, newer⟩ := effect_version effect
      rcases known.remembered earlier stood (same.symm.trans about) with rfl | passed
      · exact .inr newer
      · exact .inr (passed.trans newer)
    · obtain ⟨row, stood, same⟩ := known.present
      exact absurd (same.trans about.symm) (fresh row stood)

def TaskKnown (run : AgentRunProps Json) (world : World Json) (task : TaskProps) : Prop :=
  task.id = run.taskId ∧ Known TaskProps.id TaskProps.updatedAt world.office.tasks world.last task

def AgentKnown (run : AgentRunProps Json) (world : World Json) (agent : Agent) : Prop :=
  agent.id = run.agentId ∧ Known Agent.id Agent.updatedAt world.office.agents world.last agent

def RoleKnown (world : World Json) (role : Role) : Prop :=
  Known Role.id Role.updatedAt world.office.roles world.last role

/-- A stage that its pipeline is at, active and assigned to the agent in the role. -/
def Assigned (agent : Agent) (role : Role) (pipeline : PipelineRunProps) (stage : PipelineStageRunProps) : Prop :=
  Current pipeline stage ∧ stage.status = .active ∧ stage.assignedAgentId = some agent.id ∧ stage.roleId = role.key

structure ReadsKnown (run : AgentRunProps Json) (world : World Json) (reads : AuthorityReads) : Prop where
  task : TaskKnown run world reads.task
  agent : AgentKnown run world reads.agent
  role : RoleKnown world reads.role
  pipeline : ∀ pipeline stage, reads.pipeline = some (pipeline, stage) → PipelineKnown world pipeline
  stage : ∀ pipeline stage, reads.pipeline = some (pipeline, stage) → Assigned reads.agent reads.role pipeline stage

def Knows (run : AgentRunProps Json) (world : World Json) : WorkerPhase Json → Prop
  | .readTask | .accepted | .refused _ => True
  | .readAgent task => ∀ read, task = some read → TaskKnown run world read
  | .readRole task agent => TaskKnown run world task ∧ AgentKnown run world agent
  | .readPipeline task agent role => TaskKnown run world task ∧ AgentKnown run world agent ∧ RoleKnown world role
  | .assembling reads | .inspecting reads _ _ => ReadsKnown run world reads
  | .ready prepared | .renewing prepared _ _ | .working prepared | .stopping prepared | .accepting prepared =>
    ReadsKnown run world prepared.reads

theorem TaskKnown.committed {task : TaskProps} (known : TaskKnown run before task) (committed : Committed before after) :
    TaskKnown run after task := ⟨known.1, known.2.committed committed.later committed.tasks⟩

theorem AgentKnown.committed {agent : Agent} (known : AgentKnown run before agent) (committed : Committed before after) :
    AgentKnown run after agent := ⟨known.1, known.2.committed committed.later committed.agents⟩

theorem RoleKnown.committed {role : Role} (known : RoleKnown before role) (committed : Committed before after) :
    RoleKnown after role := Known.committed known committed.later committed.roles

theorem ReadsKnown.committed {reads : AuthorityReads} (known : ReadsKnown run before reads)
    (committed : Committed before after) : ReadsKnown run after reads where
  task := known.task.committed committed
  agent := known.agent.committed committed
  role := known.role.committed committed
  pipeline pipeline stage bound := (known.pipeline pipeline stage bound).committed committed
  stage := known.stage

theorem Knows.committed (knows : Knows run before phase) (committed : Committed before after) : Knows run after phase := by
  cases phase with
  | readTask | accepted | refused => trivial
  | readAgent task => exact fun read same => (knows read same).committed committed
  | readRole task agent => exact ⟨knows.1.committed committed, knows.2.committed committed⟩
  | readPipeline task agent role =>
    exact ⟨knows.1.committed committed, knows.2.1.committed committed, knows.2.2.committed committed⟩
  | assembling | inspecting | ready | renewing | working | stopping | accepting =>
    exact ReadsKnown.committed knows committed

theorem proceed_knows {Result : Type} {checked : Except Thrown Result} {continues : Result → WorkerPhase Json}
    (holds : ∀ result, checked = .ok result → Knows run world (continues result)) :
    Knows run world (proceed checked continues) := by
  cases checked with
  | ok result => exact holds result rfl
  | error thrown => trivial

theorem checkAgent_ok {task : Option TaskProps} {agent : Option Agent} {read : TaskProps × Agent}
    (passed : checkAgent run task agent = .ok read) : task = some read.1 ∧ agent = some read.2 := by
  unfold checkAgent at passed
  split at passed
  · obtain ⟨-, passed⟩ := guard_ok passed
    cases passed
    exact ⟨rfl, rfl⟩
  · cases passed

theorem checkRole_ok {role : Option Role} {read : Role} (passed : checkRole services run role = .ok read) :
    role = some read := by
  unfold checkRole at passed
  split at passed
  · cases passed
  · obtain ⟨-, passed⟩ := guard_ok passed
    obtain ⟨-, passed⟩ := guard_ok passed
    cases passed
    rfl

theorem currentStage_ok {pipeline : PipelineRunProps} {stage : PipelineStageRunProps}
    (asked : (Method.call currentStage pipeline).1 = .ok (some stage)) : Current pipeline stage := by
  rw [call_currentStage] at asked
  by_cases active : pipeline.status = .active
  · rw [if_neg (not_not.mpr active)] at asked
    cases lookup : pipeline.stages[pipeline.currentStageIndex]? with
    | none => rw [lookup] at asked; cases asked
    | some found =>
      rw [lookup] at asked
      cases asked
      exact ⟨active, lookup⟩
  · rw [if_pos active] at asked
    cases asked

theorem checkPipeline_some {agent : Agent} {role : Role} {pipeline : PipelineRunProps}
    {bound : Option (PipelineRunProps × PipelineStageRunProps)}
    (passed : checkPipeline run agent role (some pipeline) = .ok bound) :
    ∃ stage, bound = some (pipeline, stage) ∧ Assigned agent role pipeline stage := by
  rw [checkPipeline] at passed
  obtain ⟨answer, asked, passed⟩ := bind_ok passed
  cases answer with
  | none => cases passed
  | some stage =>
    dsimp only at passed
    split at passed
    · cases passed
    · next binds =>
      simp only [not_or, not_not] at binds
      exact ⟨stage, (Except.ok.inj passed).symm, currentStage_ok asked, binds.2.2⟩

theorem checkPipeline_ok {agent : Agent} {role : Role} {pipeline : Option PipelineRunProps}
    {bound : Option (PipelineRunProps × PipelineStageRunProps)}
    (passed : checkPipeline run agent role pipeline = .ok bound) :
    bound.map Prod.fst = pipeline ∧
      ∀ pipeline stage, bound = some (pipeline, stage) → Assigned agent role pipeline stage := by
  cases pipeline with
  | none =>
    rw [checkPipeline] at passed
    split at passed
    · cases passed
    · cases passed
      exact ⟨rfl, fun _ _ same => absurd same.symm (Option.some_ne_none _)⟩
  | some pipeline =>
    obtain ⟨stage, binds, assigned⟩ := checkPipeline_some passed
    rw [binds]
    refine ⟨rfl, fun other current same => ?_⟩
    have parts := Prod.mk.inj (Option.some.inj same)
    rw [← parts.1, ← parts.2]
    exact assigned

structure AuthorityRows (tables : AuthorityTables) (row : AgentRunState Json) (authority : AgentAuthority) (now : Date)
    (task : TaskProps) (agent : Agent) (role : Role) : Prop where
  ofTask : task ∈ tables.tasks ∧ task.id = row.taskId ∧ task.updatedAt = authority.taskUpdatedAt
  ofAgent : agent ∈ tables.agents ∧ agent.id = row.agentId ∧ agent.updatedAt = authority.agentUpdatedAt
  agentProject : agent.projectId = row.projectId
  enabled : agent.enabled = true
  ofRole : role ∈ tables.roles ∧ role.id = authority.roleId ∧ role.updatedAt = authority.roleUpdatedAt
  roleId : role.id = agent.roleId
  roleProject : role.projectId = agent.projectId
  locked : ∃ lock ∈ tables.locks, lock.runId = row.id ∧ lock.taskId = row.taskId ∧ now < lock.expiresAt

theorem agentAuthorized_rows {tables : AuthorityTables} {row : AgentRunState Json} {authority : AgentAuthority}
    {now : Date} {stageAllows : Role → Bool} (authorized : agentAuthorized tables row authority now stageAllows = true) :
    ∃ task agent role, AuthorityRows tables row authority now task agent role ∧ stageAllows role = true := by
  simp only [agentAuthorized, List.any_eq_true, Bool.and_eq_true, decide_eq_true_eq] at authorized
  obtain ⟨task, taskStands, ⟨⟨⟨taskId, -⟩, -⟩, taskUpdated⟩, agent, agentStands, agentSame, authorized⟩ := authorized
  obtain ⟨⟨⟨⟨agentId, agentProject⟩, enabled⟩, -⟩, agentUpdated⟩ := agentSame
  obtain ⟨role, roleStands, ⟨⟨⟨⟨⟨⟨⟨⟨roleId, roleProject⟩, fencedRole⟩, -⟩, -⟩, -⟩, roleUpdated⟩, locked⟩, allows⟩⟩ := authorized
  obtain ⟨lock, lockStands, ⟨lockRun, lockTask⟩, lasts⟩ := locked
  refine ⟨task, agent, role, ?_, allows⟩
  exact {
    ofTask := ⟨taskStands, taskId, taskUpdated⟩
    ofAgent := ⟨agentStands, agentId, agentUpdated⟩
    agentProject := agentProject
    enabled := enabled
    ofRole := ⟨roleStands, fencedRole, roleUpdated⟩
    roleId := roleId
    roleProject := roleProject
    locked := ⟨lock, lockStands, lockRun, lockTask, lasts⟩ }

theorem ReadsKnown.withTables {reads : AuthorityReads} (known : ReadsKnown run world reads)
    (tables : RuntimeTables Json) : ReadsKnown run { world with tables } reads where
  task := known.task
  agent := known.agent
  role := known.role
  pipeline pipeline stage bound :=
    ⟨(known.pipeline pipeline stage bound).present, (known.pipeline pipeline stage bound).remembered⟩
  stage := known.stage

theorem lost_knows (prepared : PreparedExecution Json) (started : Bool) (known : ReadsKnown run world prepared.reads) :
    Knows run world (lost prepared started) := by
  cases started
  · trivial
  · exact known

theorem TaskKnown.of_read (valid : world.Valid) {task : TaskProps} (found : world.office.findTask run.taskId = some task) :
    TaskKnown run world task := by
  have selected := List.find?_some found
  exact ⟨of_decide_eq_true selected, .of_find valid.taskIds valid.tasksStamped found⟩

theorem AgentKnown.of_read (valid : world.Valid) {agent : Agent}
    (found : world.office.findAgent run.agentId = some agent) : AgentKnown run world agent := by
  have selected := List.find?_some found
  exact ⟨of_decide_eq_true selected, .of_find valid.agentIds valid.agentsStamped found⟩

theorem PipelineKnown.of_read (valid : world.Valid) {pipeline : PipelineRunProps}
    (found : world.office.findActiveByTask run.taskId run.projectId = some pipeline) : PipelineKnown world pipeline where
  present := ⟨pipeline, List.mem_of_find?_eq_some found, rfl⟩
  remembered := .of_only fun _ member same => keyed_eq valid.pipelineIds (List.mem_of_find?_eq_some found) member same

theorem fenced_pipeline {prepared : PreparedExecution Json} {row : AgentRunState Json} {acceptedAt : Date}
    (valid : world.Valid) (known : ReadsKnown run world prepared.reads) (task : row.taskId = run.taskId)
    (project : row.projectId = run.projectId)
    (allowed : fenced world.authorities row (prepared.fence services run) acceptedAt = true) :
    world.office.findActiveByTask run.taskId run.projectId = prepared.reads.pipeline.map Prod.fst := by
  obtain ⟨-, -, -, -, allowed⟩ := agentAuthorized_rows allowed
  have expected : (prepared.fence services run).pipeline =
      prepared.reads.pipeline.map fun bound => pipelineFence bound.1 bound.2 := rfl
  unfold OfficeTables.findActiveByTask
  rw [expected] at allowed
  cases bound : prepared.reads.pipeline with
  | none =>
    rw [bound] at allowed
    simpa [World.authorities, task, project] using allowed
  | some binding =>
    obtain ⟨read, stage⟩ := binding
    rw [bound] at allowed
    simp only [Option.map_some, World.authorities, List.any_eq_true, Bool.and_eq_true, decide_eq_true_eq] at allowed
    obtain ⟨pipeline, stands, ⟨⟨⟨⟨⟨same, ofProject⟩, ofTask⟩, active⟩, version⟩, -⟩, -⟩ := allowed
    have unchanged : pipeline = read := (known.pipeline read stage bound).remembered.same stands same version
    subst unchanged
    have selected : (decide (pipeline.taskId = run.taskId) && decide (pipeline.projectId = run.projectId) &&
        decide (pipeline.status = .active)) = true := by
      simp [ofTask, ofProject, active, task, project]
    refine find_keyed valid.pipelineIds stands selected fun other member also => ?_
    simp only [Bool.and_eq_true, decide_eq_true_eq] at also
    exact valid.oneActive pipeline stands other member active also.2 (by rw [also.1.1, ofTask, task])
      (by rw [also.1.2, ofProject, project])

theorem World.Valid.withTables (valid : world.Valid) {tables : RuntimeTables Json}
    (same : tables.runs.map (·.id) = world.tables.runs.map (·.id)) : World.Valid { world with tables } :=
  { valid with runIds := by rw [same]; exact valid.runIds }

section Runs

variable [DecidableEq Json]

/-- A step of the execution takes nothing away that it knows. -/
theorem WorkerStep.knows (step : WorkerStep services run world phase after next) (valid : world.Valid)
    (knows : Knows run world phase) : Knows run after next := by
  cases step with
  | readTask => exact fun read found => .of_read valid found
  | readAgent task =>
    refine proceed_knows fun read passed => ?_
    obtain ⟨found, answered⟩ := checkAgent_ok passed
    exact ⟨knows read.1 found, .of_read valid answered⟩
  | readRole task agent =>
    refine proceed_knows fun read passed => ⟨knows.1, knows.2, ?_⟩
    exact .of_find valid.roleIds valid.rolesStamped (checkRole_ok passed)
  | readPipeline task agent role =>
    refine proceed_knows fun bound passed => ?_
    obtain ⟨binding, checked, passed⟩ := bind_ok passed
    obtain ⟨-, -, passed⟩ := bind_ok passed
    obtain rfl := Except.ok.inj passed
    obtain ⟨found, assigned⟩ := checkPipeline_ok checked
    refine ⟨knows.1, knows.2.1, knows.2.2, fun pipeline stage same => ?_, assigned⟩
    change binding = some (pipeline, stage) at same
    exact .of_read valid (by rw [← found, same]; rfl)
  | assembled | inspected => exact proceed_knows fun _ _ => knows
  | executes | renewTask | renewAgent | renewRole | renews | returns | returnsLate => exact knows
  | renewPipeline prepared started =>
    split
    · exact knows
    · exact lost_knows prepared started knows
  | renewLock prepared started =>
    split
    · exact ReadsKnown.withTables knows _
    · exact lost_knows prepared started (ReadsKnown.withTables knows _)
  | renewFails prepared started => exact lost_knows prepared started knows
  | accepts => split <;> trivial
  | throws => trivial

theorem WorkerStep.valid (step : WorkerStep services run world phase after next) (valid : world.Valid) : after.Valid := by
  cases step with
  | renewLock prepared started now => exact valid.withTables (RuntimeTables.follows_ids (RuntimeTables.renewTaskLock_ok _ _ _ _).rows)
  | accepts prepared current result acceptedAt accepted tables same returned =>
    exact valid.withTables (RuntimeTables.acceptWorkerResult_ids valid.runIds returned)
  | _ => exact valid

theorem reachable_knows (reachable : Reachable services run world phase) : world.Valid ∧ Knows run world phase := by
  induction reachable with
  | starts valid => exact ⟨valid, trivial⟩
  | commits _ committed ih => exact ⟨committed.valid, ih.2.committed committed⟩
  | works _ step ih => exact ⟨step.valid ih.1, step.knows ih.1 ih.2⟩

/-- What a context was built from stands as it was read, and its run works under a lock that has not expired. -/
structure Authorized (services : WorkerServices Json) (run : AgentRunProps Json) (world : World Json)
    (prepared : PreparedExecution Json) (acceptedAt : Date) : Prop where
  running : ∃ row, world.tables.findRow run.id = some row ∧ row.taskId = run.taskId ∧ row.agentId = run.agentId ∧
    row.status = .running ∧ row.execution = some (prepared.fence services run).execution
  locked : ∃ lock ∈ world.tables.locks, lock.runId = run.id ∧ lock.taskId = run.taskId ∧ acceptedAt < lock.expiresAt
  task : world.office.findTask run.taskId = some prepared.reads.task
  agent : world.office.findAgent run.agentId = some prepared.reads.agent
  enabled : prepared.reads.agent.enabled = true
  role : world.office.findRole prepared.reads.agent.roleId run.projectId = some prepared.reads.role
  pipeline : world.office.findActiveByTask run.taskId run.projectId = prepared.reads.pipeline.map Prod.fst
  stage : ∀ pipeline stage, prepared.reads.pipeline = some (pipeline, stage) →
    Assigned prepared.reads.agent prepared.reads.role pipeline stage

/-- A result is accepted under the authority that its context was built from, or nothing is changed. -/
theorem accepted_under_authority {prepared : PreparedExecution Json} {current : AgentRunProps Json} {result : Json}
    {acceptedAt : Date} {accepted : Bool} {tables : RuntimeTables Json}
    (reachable : Reachable services run world (.accepting prepared))
    (returned : world.tables.acceptWorkerResult world.authorities (prepared.fence services run) current result
      acceptedAt = .ok (accepted, tables)) :
    (accepted = true → Authorized services run world prepared acceptedAt) ∧
      (accepted = false → tables.runs = world.tables.runs ∧ tables.events.Perm world.tables.events ∧
        tables.locks = world.tables.locks) := by
  obtain ⟨valid, known⟩ := reachable_knows reachable
  have known : ReadsKnown run world prepared.reads := known
  refine ⟨?_, ?_⟩
  · rintro rfl
    obtain ⟨row, found, fenceRow, fence⟩ := RuntimeTables.acceptWorkerResult_accepted returned
    simp only [fencedRow, Bool.and_eq_true, decide_eq_true_eq] at fenceRow
    obtain ⟨⟨⟨⟨⟨⟨sameRun, sameProject⟩, sameTask⟩, sameAgent⟩, running⟩, -⟩, pinned⟩ := fenceRow
    obtain ⟨task, agent, role, rows, -⟩ := agentAuthorized_rows fence
    have taskSame : task = prepared.reads.task := known.task.2.remembered.same rows.ofTask.1
      (rows.ofTask.2.1.trans (sameTask.trans known.task.1.symm)) rows.ofTask.2.2
    have agentSame : agent = prepared.reads.agent := known.agent.2.remembered.same rows.ofAgent.1
      (rows.ofAgent.2.1.trans (sameAgent.trans known.agent.1.symm)) rows.ofAgent.2.2
    have roleSame : role = prepared.reads.role :=
      known.role.remembered.same rows.ofRole.1 rows.ofRole.2.1 rows.ofRole.2.2
    subst taskSame agentSame roleSame
    obtain ⟨lock, lockStands, lockRun, lockTask, lasts⟩ := rows.locked
    have roleProject : prepared.reads.role.projectId = run.projectId :=
      rows.roleProject.trans (rows.agentProject.trans sameProject)
    exact {
      running := ⟨row, found, sameTask, sameAgent, running, pinned⟩
      locked := ⟨lock, lockStands, lockRun.trans sameRun, lockTask.trans sameTask, lasts⟩
      task := find_keyed valid.taskIds rows.ofTask.1 (decide_eq_true known.task.1)
        fun _ _ selected => (of_decide_eq_true selected).trans known.task.1.symm
      agent := find_keyed valid.agentIds rows.ofAgent.1 (decide_eq_true known.agent.1)
        fun _ _ selected => (of_decide_eq_true selected).trans known.agent.1.symm
      enabled := rows.enabled
      role := find_keyed valid.roleIds rows.ofRole.1
        (by rw [decide_eq_true rows.roleId, decide_eq_true roleProject]; rfl)
        fun _ _ selected => (of_decide_eq_true (Bool.and_eq_true _ _ ▸ selected).1).trans rows.roleId.symm
      pipeline := fenced_pipeline valid known sameTask sameProject fence
      stage := known.stage }
  · rintro rfl
    exact RuntimeTables.acceptWorkerResult_refused valid.runIds returned

end Runs

section Example

private def adapter : WorkerServices String where
  guidance _ := (0, "")
  selection _ := none
  supportsModel _ := .ok ⟨⟩
  requiresModelSelection := false
  contextBytes _ := 0
  provenance version _ := version

private def agent : Agent := ⟨"agent", "office", "Ada", "role", true, 0, 1⟩

private def role : Role := ⟨"role", "office", "developer", "Developer", 1, ⟨4, 1000000, 60⟩, none, none, 0, 1⟩

private def task : TaskProps := ⟨"task", "office", "Write", none, .running, 0, 0, 1⟩

private def other : TaskProps := ⟨"other", "office", "Review", none, .pending, 0, 0, 5⟩

private def preparing : AgentRunState String :=
  ⟨"run", "office", "task", "agent", none, none, none, none, none, none, .preparing, none, none, none, 1, none, none, 2⟩

private def running : AgentRunState String := { preparing with status := .running, execution := some "2.0", updatedAt := 5 }

private def office (tasks : List TaskProps) : OfficeTables :=
  ⟨["office"], tasks, [], [], [], [], [agent], [role], [], []⟩

private def locked (row : AgentRunState String) (expiresAt : Date) : RuntimeTables String :=
  ⟨[row], [⟨"run", .preparing, false, false, none, none, none, 2⟩], [⟨"task", "run", expiresAt⟩]⟩

private def prepared : PreparedExecution String := ⟨⟨task, agent, role, none⟩, "memory", none, "2.0"⟩

private def current : AgentRunProps String := { running with persistenceToken := none }

private def waiting : World String := ⟨office [task], locked preparing 900, 2⟩

private def busy : World String := ⟨office [task, other], locked running 900, 5⟩

private theorem waiting_valid : waiting.Valid where
  runIds := by decide
  taskIds := by decide
  agentIds := by decide
  roleIds := by decide
  pipelineIds := by decide
  oneActive := fun _ member => absurd member List.not_mem_nil
  tasksStamped := by decide
  agentsStamped := by decide
  rolesStamped := by decide

private theorem starts_work : Committed waiting busy where
  later := by decide
  valid := {
    runIds := by decide
    taskIds := by decide
    agentIds := by decide
    roleIds := by decide
    pipelineIds := by decide
    oneActive := fun _ member => absurd member List.not_mem_nil
    tasksStamped := by decide
    agentsStamped := by decide
    rolesStamped := by decide }
  tasks := by decide
  agents := by decide
  roles := by decide
  pipelines := fun _ member => absurd member List.not_mem_nil
  kept := fun _ member => absurd member List.not_mem_nil

private theorem prepares : Reachable adapter current waiting (.ready prepared) := by
  have reads : Reachable adapter current waiting (.readAgent (some task)) := (Reachable.starts waiting_valid).works .readTask
  have answers : Reachable adapter current waiting (.readRole task agent) := reads.works (.readAgent (some task))
  have binds : Reachable adapter current waiting (.readPipeline task agent role) := answers.works (.readRole task agent)
  have bound : Reachable adapter current waiting (.assembling ⟨task, agent, role, none⟩) :=
    binds.works (.readPipeline task agent role)
  have assembled : Reachable adapter current waiting (.inspecting ⟨task, agent, role, none⟩ "memory" none) :=
    bound.works (.assembled _ "memory" none)
  exact assembled.works (.inspected _ "memory" none "2.0")

private theorem works : Reachable adapter current { busy with tables := locked running 1800006 } (.accepting prepared) := by
  have started : Reachable adapter current busy (.renewing prepared false .task) :=
    (prepares.commits starts_work).works (.executes prepared)
  have reads : Reachable adapter current busy (.renewing prepared false (.agent (some task))) :=
    started.works (.renewTask prepared false)
  have answers : Reachable adapter current busy (.renewing prepared false (.role (some task) (some agent))) :=
    reads.works (.renewAgent prepared false (some task))
  have binds : Reachable adapter current busy
      (.renewing prepared false (.pipeline (some task) (some agent) (some role))) :=
    answers.works (.renewRole prepared false (some task) (some agent))
  have renews : Reachable adapter current busy (.renewing prepared false .lock) :=
    binds.works (.renewPipeline prepared false (some task) (some agent) (some role))
  have working : Reachable adapter current { busy with tables := locked running 1800006 } (.working prepared) :=
    renews.works (.renewLock prepared false 6)
  exact working.works (.returns prepared)

theorem accepted_under_authority_unbound :
    (locked running 1800006).acceptWorkerResult (World.authorities { busy with tables := locked running 1800006 })
      (prepared.fence adapter current) current "result" 7 =
        .ok (true, ((locked running 1800006).withRun "run"
          ⟨some { running with status := .reviewing, result := some "result", updatedAt := 7 },
            [⟨"run", .preparing, false, false, none, none, none, 2⟩,
              ⟨"run", .reviewing, true, false, none, none, none, 7⟩]⟩)) ∧
      Authorized adapter current { busy with tables := locked running 1800006 } prepared 7 := by
  have returned : (locked running 1800006).acceptWorkerResult
      (World.authorities { busy with tables := locked running 1800006 }) (prepared.fence adapter current) current
        "result" 7 = .ok (true, ((locked running 1800006).withRun "run"
          ⟨some { running with status := .reviewing, result := some "result", updatedAt := 7 },
            [⟨"run", .preparing, false, false, none, none, none, 2⟩,
              ⟨"run", .reviewing, true, false, none, none, none, 7⟩]⟩)) := by decide
  exact ⟨returned, (accepted_under_authority works returned).1 rfl⟩

end Example

end AiOffice.Application.WorkerAgentExecutor
