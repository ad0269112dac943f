import AiOffice.Application.DomainPack.DomainPackManifest

namespace AiOffice.Application.DomainPack

open Data Domain DomainPackContracts

structure PolicyStageClauses where
  stage : String
  requiresApproval : Bool
  requiresIndependentApproval : Bool
  requiresDifferentAgentFrom : List String
  operations : List String
  deriving DecidableEq

structure PolicyClauses where
  enforcement : PolicyEnforcement
  stages : List PolicyStageClauses
  deriving DecidableEq

def PolicyStageClause.stated (clause : PolicyStageClause) : PolicyStageClauses where
  stage := clause.stage
  requiresApproval := clause.requiresApproval
  requiresIndependentApproval := clause.requiresIndependentApproval
  requiresDifferentAgentFrom := clause.requiresDifferentAgentFrom.getD []
  operations := clause.operations.getD []

def policyClauses (policy : Definition) : PolicyClauses where
  enforcement := policy.enforcement.getD .guidance
  stages := (policy.clauses.getD []).map PolicyStageClause.stated

inductive PolicyTargetViolation
  | stageMissing (stage : String)
  | separationOrder (stage predecessor : String)
  deriving DecidableEq

def lackStage (stageIds : List String) (violations : List PolicyTargetViolation) (stage : String) :
    List PolicyTargetViolation :=
  if stageIds.contains stage || violations.contains (.stageMissing stage) then violations
  else violations ++ [.stageMissing stage]

def separationViolations (stageIds : List String) (stage : String) (violations : List PolicyTargetViolation)
    (predecessor : String) : List PolicyTargetViolation :=
  if !stageIds.contains predecessor then lackStage stageIds violations predecessor
  else if !stageIds.contains stage then violations
  else if stageIds.idxOf stage ≤ stageIds.idxOf predecessor then violations ++ [.separationOrder stage predecessor]
  else violations

def clauseViolations (stageIds : List String) (violations : List PolicyTargetViolation) (clause : PolicyStageClause) :
    List PolicyTargetViolation :=
  (clause.requiresDifferentAgentFrom.getD []).foldl (separationViolations stageIds clause.stage)
    (lackStage stageIds violations clause.stage)

/-- A workflow must keep every stage that its policy names, each after the stages that it is separated from. -/
def policyTargetViolations (policy : Definition) (stageIds : List String) : List PolicyTargetViolation :=
  (policy.clauses.getD []).foldl (clauseViolations stageIds) []

variable {stageIds predecessors : List String} {violations : List PolicyTargetViolation} {stage predecessor : String}
  {clause : PolicyStageClause} {clauses : List PolicyStageClause} {policy : Definition}

theorem lackStage_nil : lackStage stageIds violations stage = [] ↔ violations = [] ∧ stage ∈ stageIds := by
  unfold lackStage
  split
  · next known =>
    rw [Bool.or_eq_true, List.contains_iff_mem, List.contains_iff_mem] at known
    constructor
    · rintro rfl
      simpa using known
    · exact And.left
  · next unknown =>
    simp only [Bool.or_eq_true, List.contains_iff_mem, not_or] at unknown
    simp [unknown.1]

theorem separationViolations_nil (present : stage ∈ stageIds) :
    separationViolations stageIds stage violations predecessor = [] ↔
      violations = [] ∧ predecessor ∈ stageIds ∧ stageIds.idxOf predecessor < stageIds.idxOf stage := by
  have here : stageIds.contains stage = true := List.contains_iff_mem.mpr present
  unfold separationViolations
  by_cases known : predecessor ∈ stageIds
  · simp only [List.contains_iff_mem.mpr known, here, Bool.not_true, Bool.false_eq_true, if_false]
    split
    · simp [known]
      omega
    · next earlier => simp [known, not_le.mp earlier]
  · have absent : stageIds.contains predecessor = false := by simpa using known
    rw [absent, Bool.not_false, if_pos rfl, lackStage_nil]
    tauto

theorem separations_nil (present : stage ∈ stageIds) :
    predecessors.foldl (separationViolations stageIds stage) violations = [] ↔ violations = [] ∧
      ∀ predecessor ∈ predecessors, predecessor ∈ stageIds ∧ stageIds.idxOf predecessor < stageIds.idxOf stage := by
  induction predecessors generalizing violations with
  | nil => simp
  | cons predecessor predecessors ih =>
    rw [List.foldl_cons, ih, separationViolations_nil present, List.forall_mem_cons]
    tauto

theorem separations_more : predecessors.foldl (separationViolations stageIds stage) violations = [] → violations = [] := by
  induction predecessors generalizing violations with
  | nil => exact id
  | cons predecessor predecessors ih =>
    intro none
    have first := ih none
    unfold separationViolations at first
    split at first
    · exact (lackStage_nil.mp first).1
    · split at first
      · exact first
      · split at first
        · simp at first
        · exact first

theorem clauseViolations_nil : clauseViolations stageIds violations clause = [] ↔ violations = [] ∧
    clause.stage ∈ stageIds ∧ ∀ predecessor ∈ clause.requiresDifferentAgentFrom.getD [],
      predecessor ∈ stageIds ∧ stageIds.idxOf predecessor < stageIds.idxOf clause.stage := by
  unfold clauseViolations
  by_cases present : clause.stage ∈ stageIds
  · rw [separations_nil present, lackStage_nil]
    tauto
  · constructor
    · intro none
      exact absurd (lackStage_nil.mp (separations_more none)).2 present
    · intro holds
      exact absurd holds.2.1 present

/-- A workflow has no violation exactly when it has every stage that its policy names, with each stage after those
that it is separated from. -/
theorem policyTargetViolations_nil : policyTargetViolations policy stageIds = [] ↔
    ∀ clause ∈ policy.clauses.getD [], clause.stage ∈ stageIds ∧
      ∀ predecessor ∈ clause.requiresDifferentAgentFrom.getD [],
        predecessor ∈ stageIds ∧ stageIds.idxOf predecessor < stageIds.idxOf clause.stage := by
  have each (clauses : List PolicyStageClause) (violations : List PolicyTargetViolation) :
      clauses.foldl (clauseViolations stageIds) violations = [] ↔ violations = [] ∧ ∀ clause ∈ clauses,
        clause.stage ∈ stageIds ∧ ∀ predecessor ∈ clause.requiresDifferentAgentFrom.getD [],
          predecessor ∈ stageIds ∧ stageIds.idxOf predecessor < stageIds.idxOf clause.stage := by
    induction clauses generalizing violations with
    | nil => simp
    | cons clause clauses ih =>
      rw [List.foldl_cons, ih, clauseViolations_nil, List.forall_mem_cons]
      tauto
  rw [policyTargetViolations, each]
  simp

/-- The stages that a policy names, as governed stages and as predecessors. -/
def namedStages (policy : Definition) : List String :=
  (policy.clauses.getD []).flatMap fun clause => clause.stage :: clause.requiresDifferentAgentFrom.getD []

def separations (policy : Definition) : List (String × String) :=
  (policy.clauses.getD []).flatMap fun clause =>
    (clause.requiresDifferentAgentFrom.getD []).map fun predecessor => (clause.stage, predecessor)

def Precedes (stageIds : List String) (predecessor stage : String) : Prop :=
  ∃ before after, stageIds = before ++ stage :: after ∧ stage ∉ before ∧ predecessor ∈ before

/-- Both stages are there, but not in the order that the separation requires. -/
def Misordered (stageIds : List String) (stage predecessor : String) : Prop :=
  stage ∈ stageIds ∧ predecessor ∈ stageIds ∧ ¬Precedes stageIds predecessor stage

structure ListsAreSets (policy : Definition) : Prop where
  stages : ((policy.clauses.getD []).map PolicyStageClause.stage).Nodup
  predecessors : ∀ clause ∈ policy.clauses.getD [], (clause.requiresDifferentAgentFrom.getD []).Nodup

theorem precedes_iff : Precedes stageIds predecessor stage ↔
    stage ∈ stageIds ∧ stageIds.idxOf predecessor < stageIds.idxOf stage := by
  constructor
  · rintro ⟨before, after, rfl, first, earlier⟩
    rw [List.idxOf_append_of_notMem first, List.idxOf_append_of_mem earlier, List.idxOf_cons_self]
    exact ⟨List.mem_append_right _ List.mem_cons_self, List.idxOf_lt_length_of_mem earlier⟩
  · rintro ⟨member, earlier⟩
    obtain ⟨before, after, rfl, first⟩ := List.eq_append_cons_of_mem member
    refine ⟨before, after, rfl, first, ?_⟩
    by_contra absent
    rw [List.idxOf_append_of_notMem first, List.idxOf_append_of_notMem absent, List.idxOf_cons_self] at earlier
    omega

instance : Decidable (Precedes stageIds predecessor stage) := decidable_of_iff' _ precedes_iff

instance : Decidable (Misordered stageIds stage predecessor) := by
  unfold Misordered
  infer_instance

section Counts

variable {named : List String} {missing other : String}

/-- The stages named so far that are missing are reported once each, and no other. -/
def ReportsMissing (stageIds named : List String) (violations : List PolicyTargetViolation) : Prop :=
  ∀ stage, violations.count (.stageMissing stage) = if stage ∈ named ∧ stage ∉ stageIds then 1 else 0

theorem lackStage_reports (reports : ReportsMissing stageIds named violations) :
    ReportsMissing stageIds (named ++ [stage]) (lackStage stageIds violations stage) := by
  intro missing
  have counted := reports missing
  unfold lackStage
  split
  · next known =>
      rw [Bool.or_eq_true, List.contains_iff_mem, List.contains_iff_mem] at known
      rw [counted]
      by_cases same : missing = stage
      · subst same
        rcases known with present | reported
        · simp [present]
        · have positive := List.count_pos_iff.mpr reported
          rw [counted] at positive
          split at positive
          · next both => simp [both]
          · omega
      · simp [same]
  · next unknown =>
      simp only [Bool.or_eq_true, List.contains_iff_mem, not_or] at unknown
      rw [List.count_append, List.count_singleton]
      by_cases same : missing = stage
      · subst same
        rw [List.count_eq_zero.mpr unknown.2]
        simp [unknown.1]
      · rw [counted]
        simp [same, Ne.symm same]

theorem separationViolations_reports (reports : ReportsMissing stageIds named violations) :
    ReportsMissing stageIds (named ++ [predecessor]) (separationViolations stageIds stage violations predecessor) := by
  have known (present : ¬(!stageIds.contains predecessor) = true) : ReportsMissing stageIds (named ++ [predecessor]) violations := by
    intro missing
    rw [reports missing]
    by_cases same : missing = predecessor
    · subst same
      have here : missing ∈ stageIds := by simpa using present
      simp [here]
    · simp [same]
  unfold separationViolations
  split
  · exact lackStage_reports reports
  · next present =>
      split
      · exact known present
      · split
        · intro missing
          rw [List.count_append, known present missing]
          simp
        · exact known present

theorem separations_reports (reports : ReportsMissing stageIds named violations) :
    ReportsMissing stageIds (named ++ predecessors)
      (predecessors.foldl (separationViolations stageIds stage) violations) := by
  induction predecessors generalizing named violations with
  | nil => simpa using reports
  | cons predecessor predecessors ih => simpa using ih (separationViolations_reports reports)

theorem clauses_reports (reports : ReportsMissing stageIds named violations) :
    ReportsMissing stageIds
      (named ++ clauses.flatMap fun clause => clause.stage :: clause.requiresDifferentAgentFrom.getD [])
      (clauses.foldl (clauseViolations stageIds) violations) := by
  induction clauses generalizing named violations with
  | nil => simpa using reports
  | cons clause clauses ih =>
    have first : ReportsMissing stageIds (named ++ [clause.stage] ++ clause.requiresDifferentAgentFrom.getD [])
        (clauseViolations stageIds violations clause) := separations_reports (lackStage_reports reports)
    simpa using ih first

theorem lackStage_order : (lackStage stageIds violations stage).count (.separationOrder other predecessor) =
    violations.count (.separationOrder other predecessor) := by
  unfold lackStage
  split
  · rfl
  · simp

/-- A separation reports its own pair when it is misordered, and no other. -/
theorem separationViolations_order {first second : String} :
    (separationViolations stageIds first violations second).count (.separationOrder stage predecessor) =
      violations.count (.separationOrder stage predecessor) +
        if Misordered stageIds stage predecessor then [(first, second)].count (stage, predecessor) else 0 := by
  rw [List.count_singleton]
  have ordered (kept : ¬Misordered stageIds first second) : (if Misordered stageIds stage predecessor then
      if ((first, second) == (stage, predecessor)) = true then 1 else 0 else 0) = 0 := by
    by_cases same : (first, second) = (stage, predecessor)
    · cases same
      rw [if_neg kept]
    · simp [same]
  unfold separationViolations
  split
  · next absent =>
      rw [lackStage_order, ordered fun wrong => by simp [wrong.2.1] at absent, Nat.add_zero]
  · next present =>
      split
      · next absent => rw [ordered fun wrong => by simp [wrong.1] at absent, Nat.add_zero]
      · next here =>
          split
          · next reversed =>
              have wrong : Misordered stageIds first second := by
                refine ⟨by simpa using here, by simpa using present, fun precedes => ?_⟩
                have earlier := (precedes_iff.mp precedes).2
                omega
              rw [List.count_append, List.count_singleton]
              by_cases same : (first, second) = (stage, predecessor)
              · cases same
                simp [wrong]
              · have other : (PolicyTargetViolation.separationOrder first second ==
                    .separationOrder stage predecessor) = false := by simpa using same
                simp [same, other]
          · next earlier =>
              rw [ordered fun wrong => wrong.2.2 (precedes_iff.mpr ⟨wrong.1, by omega⟩), Nat.add_zero]

theorem separations_order {first : String} :
    (predecessors.foldl (separationViolations stageIds first) violations).count (.separationOrder stage predecessor) =
      violations.count (.separationOrder stage predecessor) + if Misordered stageIds stage predecessor then
        (predecessors.map fun second => (first, second)).count (stage, predecessor) else 0 := by
  induction predecessors generalizing violations with
  | nil => simp
  | cons second predecessors ih =>
    have whole : ((first, second) :: predecessors.map fun second => (first, second)).count (stage, predecessor) =
        [(first, second)].count (stage, predecessor) +
          (predecessors.map fun second => (first, second)).count (stage, predecessor) := by
      rw [List.count_cons, List.count_singleton, Nat.add_comm]
    rw [List.foldl_cons, ih, separationViolations_order, List.map_cons, whole]
    split <;> omega

theorem clauses_order : (clauses.foldl (clauseViolations stageIds) violations).count (.separationOrder stage predecessor) =
    violations.count (.separationOrder stage predecessor) + if Misordered stageIds stage predecessor then
      (clauses.flatMap fun clause => (clause.requiresDifferentAgentFrom.getD []).map fun second =>
        (clause.stage, second)).count (stage, predecessor) else 0 := by
  induction clauses generalizing violations with
  | nil => simp
  | cons clause clauses ih =>
    rw [List.foldl_cons, ih, clauseViolations, separations_order, lackStage_order, List.flatMap_cons,
      List.count_append]
    split <;> omega

theorem separations_nodup (sets : ListsAreSets policy) : (separations policy).Nodup := by
  refine List.nodup_flatMap.mpr ⟨fun clause member => ?_, ?_⟩
  · exact (sets.predecessors clause member).map fun _ _ same => (Prod.mk.inj same).2
  · refine (List.pairwise_map.mp sets.stages).imp fun {clause other} distinct => ?_
    simp only [Function.onFun, List.disjoint_left, List.mem_map, not_exists, not_and]
    rintro _ ⟨first, _, rfl⟩ second _ same
    exact distinct (Prod.mk.inj same).1.symm

end Counts

/-- No violation is found exactly when every stage that the policy names is there and every predecessor stands before
its stage. Each missing stage is found once, and each misordered pair as often as the policy states it: once where its
lists are sets. -/
theorem policyTargetViolations_exact (policy : Definition) (stageIds : List String) :
    (policyTargetViolations policy stageIds = [] ↔ (∀ stage ∈ namedStages policy, stage ∈ stageIds) ∧
      ∀ pair ∈ separations policy, Precedes stageIds pair.2 pair.1) ∧
    (∀ stage, (policyTargetViolations policy stageIds).count (.stageMissing stage) =
      if stage ∈ namedStages policy ∧ stage ∉ stageIds then 1 else 0) ∧
    (∀ stage predecessor, (policyTargetViolations policy stageIds).count (.separationOrder stage predecessor) =
      if Misordered stageIds stage predecessor then (separations policy).count (stage, predecessor) else 0) ∧
    (ListsAreSets policy → ∀ pair ∈ separations policy, Misordered stageIds pair.1 pair.2 →
      (policyTargetViolations policy stageIds).count (.separationOrder pair.1 pair.2) = 1) := by
  have ordered : ∀ stage predecessor,
      (policyTargetViolations policy stageIds).count (.separationOrder stage predecessor) =
        if Misordered stageIds stage predecessor then (separations policy).count (stage, predecessor) else 0 := by
    intro stage predecessor
    rw [policyTargetViolations, clauses_order, List.count_nil, Nat.zero_add]
    rfl
  refine ⟨?_, ?_, ordered, fun sets pair member wrong => ?_⟩
  · rw [policyTargetViolations_nil]
    constructor
    · intro kept
      constructor
      · intro stage member
        obtain ⟨clause, stated, named⟩ := List.mem_flatMap.mp member
        rcases List.mem_cons.mp named with rfl | predecessor
        · exact (kept clause stated).1
        · exact ((kept clause stated).2 stage predecessor).1
      · intro pair member
        obtain ⟨clause, stated, paired⟩ := List.mem_flatMap.mp member
        obtain ⟨predecessor, listed, rfl⟩ := List.mem_map.mp paired
        exact precedes_iff.mpr ⟨(kept clause stated).1, ((kept clause stated).2 predecessor listed).2⟩
    · rintro ⟨present, before⟩ clause stated
      have named {stage : String} (listed : stage ∈ clause.stage :: clause.requiresDifferentAgentFrom.getD []) :
          stage ∈ stageIds := present stage (List.mem_flatMap.mpr ⟨clause, stated, listed⟩)
      refine ⟨named List.mem_cons_self, fun predecessor listed => ⟨named (List.mem_cons_of_mem _ listed), ?_⟩⟩
      exact (precedes_iff.mp (before (clause.stage, predecessor)
        (List.mem_flatMap.mpr ⟨clause, stated, List.mem_map_of_mem listed⟩))).2
  · have none : ReportsMissing stageIds [] [] := by
      intro stage
      simp
    exact clauses_reports none
  · rw [ordered, if_pos wrong]
    exact List.count_eq_one_of_mem (separations_nodup sets) member

end AiOffice.Application.DomainPack
