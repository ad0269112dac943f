import AiOffice.Application.ReadModels.TaskGraphProjection
import AiOffice.Data.Topological

namespace AiOffice.Application.ReadModels

open Data Domain Relation

/-- The ids of the tasks that are not terminal, each once, in the order of their first node. -/
def unfinished (nodes : List TaskGraphNode) : List String :=
  ((nodes.filter fun node => !node.terminal).map TaskGraphNode.taskId).reverse.dedup.reverse

def unfinishedEdges (nodes : List TaskGraphNode) (edges : List TaskGraphEdge) : List TaskGraphEdge :=
  edges.filter fun edge => edge.taskId ∈ unfinished nodes && edge.dependsOnTaskId ∈ unfinished nodes

def dependents (edges : List TaskGraphEdge) (id : String) : List String :=
  (edges.filter fun edge => edge.dependsOnTaskId = id).map TaskGraphEdge.taskId

def waitingOn (edges : List TaskGraphEdge) (id : String) : Int :=
  edges.countP fun edge => edge.taskId = id

/-- A task that waits for one task less joins the queue when it waits for no other. -/
def release (state : (String → Int) × List String) (next : String) : (String → Int) × List String :=
  let remaining := state.1 next - 1
  (Function.update state.1 next remaining, if remaining = 0 then state.2 ++ [next] else state.2)

/-- Kahn's algorithm: the order so far, and what is left in the queue when the fuel is spent. -/
def kahn (edges : List TaskGraphEdge) : Nat → (String → Int) → List String → List String → List String × List String
  | 0, _, queue, order => (order, queue)
  | _ + 1, _, [], order => (order, [])
  | fuel + 1, waiting, id :: queue, order =>
    let released := (dependents edges id).foldl release (waiting, queue)
    kahn edges fuel released.1 released.2 (order ++ [id])

def dependencyOrder (nodes : List TaskGraphNode) (edges : List TaskGraphEdge) : List String × List String :=
  let live := unfinishedEdges nodes edges
  kahn live (unfinished nodes).length (waitingOn live) ((unfinished nodes).filter fun id => waitingOn live id = 0) []

/-- For each task the length of the longest chain from it, and the dependent that continues it. -/
abbrev ChainTable := List (String × Nat × Option String)

def ChainTable.lengthOf (table : ChainTable) (id : String) : Nat := (table.lookup id).elim 0 Prod.fst

def ChainTable.successor (table : ChainTable) (id : String) : Option String := (table.lookup id).bind Prod.snd

def chainEntry (edges : List TaskGraphEdge) (table : ChainTable) (id : String) : String × Nat × Option String :=
  let best := (dependents edges id).foldl (choose codeUnits table.lengthOf) (0, none)
  (id, best.1 + 1, best.2)

def chainTable (edges : List TaskGraphEdge) (order : List String) : ChainTable :=
  order.foldr (fun id table => chainEntry edges table id :: table) []

def chooseStart (table : ChainTable) (start : Option String) (id : String) : Option String :=
  let known := start.elim 0 table.lengthOf
  if known < table.lengthOf id ∨ table.lengthOf id = known ∧ start.any (fun kept => codeUnits id < codeUnits kept) then
    some id
  else start

def followChain (table : ChainTable) : Nat → Option String → List String
  | 0, _ => []
  | _, none => []
  | fuel + 1, some id => id :: followChain table fuel (table.successor id)

def projectLongestDependencyChain (nodes : List TaskGraphNode) (edges : List TaskGraphEdge) : List String :=
  let order := (dependencyOrder nodes edges).1
  let table := chainTable (unfinishedEdges nodes edges) order
  let path := followChain table order.length (order.foldl (chooseStart table) none)
  if path.length < 2 then [] else path

section Order

variable {nodes : List TaskGraphNode} {edges : List TaskGraphEdge} {waiting : String → Int} {queue order nexts ids : List String}
  {id : String} {fuel : Nat}

/-- What a loop over dependents leaves: each waits for one less, and those that wait for no other are queued. -/
theorem release_spec (enough : ∀ id, (nexts.count id : Int) ≤ waiting id) :
    (∀ id, (nexts.foldl release (waiting, queue)).1 id = waiting id - nexts.count id) ∧
      ∃ added : List String, (nexts.foldl release (waiting, queue)).2 = queue ++ added ∧ added.Nodup ∧
        ∀ id, id ∈ added ↔ id ∈ nexts ∧ waiting id = nexts.count id := by
  induction nexts generalizing waiting queue with
  | nil => exact ⟨by simp, [], by simp, .nil, by simp⟩
  | cons next nexts ih =>
    have here := enough next
    rw [List.count_cons_self] at here
    have left : ∀ id, (nexts.count id : Int) ≤ Function.update waiting next (waiting next - 1) id := by
      intro id
      by_cases same : id = next
      · subst same
        rw [Function.update_self]
        omega
      · have before := enough id
        rw [List.count_cons_of_ne (Ne.symm same)] at before
        rwa [Function.update_of_ne same]
    obtain ⟨counts, added, queued, distinct, members⟩ :=
      @ih _ (if waiting next - 1 = 0 then queue ++ [next] else queue) left
    rw [List.foldl_cons]
    refine ⟨fun id => ?_, ?_⟩
    · rw [release, counts id]
      by_cases same : id = next
      · subst same
        rw [Function.update_self, List.count_cons_self]
        omega
      · rw [Function.update_of_ne same, List.count_cons_of_ne (Ne.symm same)]
    · by_cases last : waiting next - 1 = 0
      · have gone : next ∉ nexts := by
          rw [← List.count_eq_zero]
          omega
        rw [if_pos last] at queued
        refine ⟨next :: added, ?_, ?_, fun id => ?_⟩
        · rw [release, if_pos last, queued, List.append_assoc, List.singleton_append]
        · exact List.nodup_cons.mpr ⟨fun again => gone ((members next).mp again).1, distinct⟩
        · rw [List.mem_cons, members, List.mem_cons]
          by_cases same : id = next
          · subst same
            simp only [true_or, true_and, true_iff, List.count_cons_self, List.count_eq_zero.mpr gone]
            omega
          · rw [Function.update_of_ne same, List.count_cons_of_ne (Ne.symm same)]
            simp [same]
      · rw [if_neg last] at queued
        refine ⟨added, ?_, distinct, fun id => ?_⟩
        · rw [release, if_neg last, queued]
        · rw [members, List.mem_cons]
          by_cases same : id = next
          · subst same
            rw [Function.update_self, List.count_cons_self]
            have occurs : (id ∈ nexts) ↔ 0 < nexts.count id := List.count_pos_iff.symm
            rw [occurs]
            have bound := left id
            rw [Function.update_self] at bound
            constructor
            · rintro ⟨-, equal⟩
              exact ⟨.inl rfl, by omega⟩
            · rintro ⟨-, equal⟩
              exact ⟨by omega, by omega⟩
          · rw [Function.update_of_ne same, List.count_cons_of_ne (Ne.symm same)]
            simp [same]

theorem mem_unfinished : id ∈ unfinished nodes ↔ ∃ node ∈ nodes, node.taskId = id ∧ node.terminal = false := by
  simp only [unfinished, List.mem_reverse, List.mem_dedup, List.mem_map, List.mem_filter, Bool.not_eq_true']
  exact exists_congr fun node => by tauto

theorem unfinished_nodup (nodes : List TaskGraphNode) : (unfinished nodes).Nodup :=
  List.nodup_reverse.mpr (List.nodup_dedup _)

theorem mem_unfinishedEdges {edge : TaskGraphEdge} : edge ∈ unfinishedEdges nodes edges ↔
    edge ∈ edges ∧ edge.taskId ∈ unfinished nodes ∧ edge.dependsOnTaskId ∈ unfinished nodes := by
  simp [unfinishedEdges]

theorem mem_dependents {dependent : String} : dependent ∈ dependents edges id ↔ ⟨dependent, id⟩ ∈ edges := by
  simp only [dependents, List.mem_map, List.mem_filter, decide_eq_true_eq]
  constructor
  · rintro ⟨edge, ⟨member, rfl⟩, rfl⟩
    exact member
  · intro member
    exact ⟨_, ⟨member, rfl⟩, rfl⟩

abbrev DependsOn (edges : List TaskGraphEdge) (id other : String) : Prop := ⟨id, other⟩ ∈ edges

def openEdges (edges : List TaskGraphEdge) (order : List String) (id : String) : Nat :=
  edges.countP fun edge => edge.taskId = id && edge.dependsOnTaskId ∉ order

theorem openEdges_eq_zero : openEdges edges order id = 0 ↔ ∀ other, DependsOn edges id other → other ∈ order := by
  rw [openEdges, List.countP_eq_zero]
  constructor
  · intro none other edge
    simpa using none _ edge
  · rintro all ⟨task, other⟩ member
    simp only [Bool.and_eq_true, decide_eq_true_eq, not_and, not_not]
    rintro rfl
    exact all other member

theorem openEdges_snoc (apart : id ∉ order) (other : String) :
    openEdges edges order other = openEdges edges (order ++ [id]) other + (dependents edges id).count other := by
  rw [dependents, List.count_eq_countP, List.countP_map, List.countP_filter, openEdges, openEdges]
  induction edges with
  | nil => rfl
  | cons edge edges ih =>
    rw [List.countP_cons, List.countP_cons, List.countP_cons, ih]
    by_cases target : edge.taskId = other <;> by_cases source : edge.dependsOnTaskId = id <;>
      by_cases known : edge.dependsOnTaskId ∈ order <;> simp_all <;> omega

/-- The state of Kahn's algorithm: what was ordered, what is queued, and what the others wait for. -/
structure KahnState (edges : List TaskGraphEdge) (ids : List String) (waiting : String → Int) (queue order : List String) :
    Prop where
  distinct : (order ++ queue).Nodup
  waits : ∀ id, waiting id = openEdges edges order id
  queued : ∀ id, id ∈ order ++ queue ↔ id ∈ ids ∧ openEdges edges order id = 0
  ordered : Topological (DependsOn edges) order

theorem KahnState.step (state : KahnState edges ids waiting (id :: queue) order)
    (known : ∀ edge ∈ edges, edge.taskId ∈ ids) :
    KahnState edges ids ((dependents edges id).foldl release (waiting, queue)).1
      ((dependents edges id).foldl release (waiting, queue)).2 (order ++ [id]) := by
  have apart : id ∉ order := fun here =>
    (List.nodup_append.mp state.distinct).2.2 id here id List.mem_cons_self rfl
  have closes := @openEdges_snoc edges _ _ apart
  obtain ⟨counts, added, queued, distinct, members⟩ := @release_spec waiting queue (dependents edges id) fun other => by
    rw [state.waits, closes other]
    omega
  have waits : ∀ other, ((dependents edges id).foldl release (waiting, queue)).1 other =
      openEdges edges (order ++ [id]) other := by
    intro other
    rw [counts, state.waits, closes other]
    omega
  have old : ∀ other, other ∈ order ++ id :: queue → (dependents edges id).count other = 0 ∧
      openEdges edges (order ++ [id]) other = 0 := by
    intro other member
    have zero := ((state.queued other).mp member).2
    rw [closes other] at zero
    omega
  have new : ∀ other, other ∈ added ↔ other ∈ dependents edges id ∧ openEdges edges (order ++ [id]) other = 0 := by
    intro other
    rw [members, state.waits, closes other]
    exact and_congr_right fun _ => by omega
  have same : order ++ [id] ++ (queue ++ added) = (order ++ id :: queue) ++ added := by simp
  refine ⟨?_, waits, fun other => ?_, ?_⟩
  · rw [queued, same]
    refine List.nodup_append.mpr ⟨state.distinct, distinct, ?_⟩
    rintro other member _ again rfl
    exact absurd (List.count_pos_iff.mpr ((new other).mp again).1) (by rw [(old other member).1]; omega)
  · rw [queued, same, List.mem_append, new]
    constructor
    · rintro (member | ⟨dependent, zero⟩)
      · exact ⟨((state.queued other).mp member).1, (old other member).2⟩
      · exact ⟨known _ (mem_dependents.mp dependent), zero⟩
    · rintro ⟨inIds, zero⟩
      by_cases dependent : other ∈ dependents edges id
      · exact .inr ⟨dependent, zero⟩
      · refine .inl ((state.queued other).mpr ⟨inIds, ?_⟩)
        rw [closes other, zero, List.count_eq_zero.mpr dependent]
  · refine .snoc state.ordered (openEdges_eq_zero.mp ?_)
    exact ((state.queued id).mp (List.mem_append_right _ List.mem_cons_self)).2

theorem KahnState.length_le (state : KahnState edges ids waiting queue order) :
    order.length + queue.length ≤ ids.length := by
  have within : order ++ queue ⊆ ids := fun id member => ((state.queued id).mp member).1
  simpa using (List.subperm_of_subset state.distinct within).length_le

theorem KahnState.run (state : KahnState edges ids waiting queue order) (known : ∀ edge ∈ edges, edge.taskId ∈ ids)
    (enough : ids.length ≤ fuel + order.length) : ∃ left,
      KahnState edges ids left [] (kahn edges fuel waiting queue order).1 ∧ (kahn edges fuel waiting queue order).2 = [] := by
  induction fuel generalizing waiting queue order with
  | zero =>
    have bound := state.length_le
    have none : queue = [] := List.eq_nil_of_length_eq_zero (by omega)
    subst none
    exact ⟨waiting, state, rfl⟩
  | succ fuel ih =>
    cases queue with
    | nil => exact ⟨waiting, state, rfl⟩
    | cons id queue =>
      refine ih (state.step known) ?_
      rw [List.length_append, List.length_singleton]
      omega

theorem waitingOn_eq (id : String) : waitingOn edges id = openEdges edges [] id := by
  simp [waitingOn, openEdges]

theorem dependencyOrder_spec (nodes : List TaskGraphNode) (edges : List TaskGraphEdge) : ∃ left,
    KahnState (unfinishedEdges nodes edges) (unfinished nodes) left [] (dependencyOrder nodes edges).1 ∧
      (dependencyOrder nodes edges).2 = [] := by
  refine KahnState.run ⟨?_, waitingOn_eq, fun id => ?_, .nil⟩ (fun edge member => (mem_unfinishedEdges.mp member).2.1) le_self_add
  · exact (unfinished_nodup nodes).filter _
  · simp only [List.nil_append, List.mem_filter, decide_eq_true_eq, waitingOn_eq, Nat.cast_eq_zero]

abbrev Continues (edges : List TaskGraphEdge) (id next : String) : Prop := DependsOn edges next id

theorem mem_dependencyOrder : id ∈ (dependencyOrder nodes edges).1 ↔
    id ∈ unfinished nodes ∧ ¬BehindCycle (Continues (unfinishedEdges nodes edges)) id := by
  obtain ⟨left, state, -⟩ := dependencyOrder_spec nodes edges
  have members : ∀ other, other ∈ (dependencyOrder nodes edges).1 ↔ other ∈ unfinished nodes ∧
      openEdges (unfinishedEdges nodes edges) (dependencyOrder nodes edges).1 other = 0 := fun other => by
    rw [← state.queued, List.append_nil]
  constructor
  · intro member
    exact ⟨((members id).mp member).1, state.ordered.free member⟩
  · rintro ⟨inUnfinished, free⟩
    by_contra absent
    let held := (unfinished nodes).filter fun other => other ∉ (dependencyOrder nodes edges).1
    refine free (@behindCycle_of_preceded _ _ held id ?_ (by simpa [held] using ⟨inUnfinished, absent⟩))
    intro other inHeld
    obtain ⟨here, missing⟩ : other ∈ unfinished nodes ∧ other ∉ (dependencyOrder nodes edges).1 := by
      simpa [held] using inHeld
    have waits : ¬∀ origin, DependsOn (unfinishedEdges nodes edges) other origin →
        origin ∈ (dependencyOrder nodes edges).1 := fun all =>
      missing ((members other).mpr ⟨here, openEdges_eq_zero.mpr all⟩)
    push Not at waits
    obtain ⟨origin, edge, outside⟩ := waits
    refine ⟨origin, ?_, edge⟩
    simpa [held] using ⟨(mem_unfinishedEdges.mp edge).2.2, outside⟩

end Order

section Table

variable {edges : List TaskGraphEdge} {table : ChainTable} {order done rest chain : List String} {id other : String}
  {entry : Nat × Option String} {fuel : Nat}

@[simp] theorem lengthOf_self : ChainTable.lengthOf ((id, entry) :: table) id = entry.1 := by
  simp [ChainTable.lengthOf]

@[simp] theorem successor_self : ChainTable.successor ((id, entry) :: table) id = entry.2 := by
  simp [ChainTable.successor]

theorem lookup_other (different : other ≠ id) : ((id, entry) :: table).lookup other = table.lookup other := by
  rw [List.lookup_cons, beq_eq_false_iff_ne.mpr different]

theorem lengthOf_other (different : other ≠ id) :
    ChainTable.lengthOf ((id, entry) :: table) other = table.lengthOf other := by
  rw [ChainTable.lengthOf, ChainTable.lengthOf, lookup_other different]

theorem successor_other (different : other ≠ id) :
    ChainTable.successor ((id, entry) :: table) other = table.successor other := by
  rw [ChainTable.successor, ChainTable.successor, lookup_other different]

def Followed (table : ChainTable) : List String → Prop
  | [] => True
  | id :: chain => table.successor id = chain.head? ∧ Followed table chain

theorem Followed.keep (followed : Followed table chain) (absent : id ∉ chain) : Followed ((id, entry) :: table) chain := by
  induction chain with
  | nil => trivial
  | cons first chain ih =>
    obtain ⟨different, later⟩ := not_or.mp (List.mem_cons.not.mp absent)
    exact ⟨(successor_other (Ne.symm different)).trans followed.1, ih followed.2 later⟩

theorem Followed.follow (followed : Followed table chain) (enough : chain.length ≤ fuel) :
    followChain table fuel chain.head? = chain := by
  induction chain generalizing fuel with
  | nil => cases fuel <;> rfl
  | cons first chain ih =>
    cases fuel with
    | zero => simp at enough
    | succ fuel =>
      rw [List.head?_cons, followChain, followed.1, ih followed.2 (by simpa using enough)]

/-- What the table says of a task whose dependents are all in it: the best chain from there. -/
structure TableEntry (edges : List TaskGraphEdge) (order rest : List String) (table : ChainTable) (id : String)
    (chain : List String) : Prop where
  best : BestChain codeUnits (ChainFrom (Continues edges) (· ∈ order) id) chain
  length : table.lengthOf id = chain.length
  followed : Followed table chain
  within : ∀ member ∈ chain, member ∈ rest
  short : chain.length ≤ rest.length

theorem TableEntry.keep (known : TableEntry edges order rest table other chain) (member : other ∈ rest) (absent : id ∉ rest) :
    TableEntry edges order (id :: rest) ((id, entry) :: table) other chain where
  best := known.best
  length := (lengthOf_other (ne_of_mem_of_not_mem member absent)).trans known.length
  followed := known.followed.keep fun inside => absent (known.within id inside)
  within step inside := List.mem_cons_of_mem _ (known.within step inside)
  short := by
    rw [List.length_cons]
    exact Nat.le_succ_of_le known.short

theorem TableEntry.positive (known : TableEntry edges order rest table other chain) : 0 < table.lengthOf other := by
  obtain ⟨tail, rfl⟩ := List.head?_eq_some_iff.mp known.best.isCandidate.1
  rw [known.length]
  exact Nat.succ_pos _

structure TableState (edges : List TaskGraphEdge) (order rest : List String) (table : ChainTable) : Prop where
  known : ∀ id ∈ rest, ∃ chain, TableEntry edges order rest table id chain
  absent : ∀ id ∉ rest, table.lengthOf id = 0

/-- The best chain from a task goes on with the best dependent, which is in the table already. -/
theorem TableState.next (state : TableState edges order rest table) (here : id ∈ order) (apart : id ∉ rest)
    (later : ∀ other, Continues edges id other → other ∈ order → other ∈ rest) :
    ∃ chain, TableEntry edges order (id :: rest) (chainEntry edges table id :: table) id chain := by
  have chosen := @choose_spec _ _ _ codeUnits table.lengthOf (dependents edges id)
  rw [chainEntry]
  generalize (dependents edges id).foldl (choose codeUnits table.lengthOf) (0, none) = best at chosen ⊢
  obtain ⟨length, next⟩ := best
  cases next with
  | none =>
    obtain rfl : length = 0 := chosen.absent rfl
    refine ⟨[id], .leaf here fun other edge inOrder => ?_, by simp, by simp [Followed], by simp, by simp⟩
    obtain ⟨chain, known⟩ := state.known other (later other edge inOrder)
    have bound := chosen.bound other (mem_dependents.mpr edge)
    have positive := known.positive
    omega
  | some kept =>
    obtain ⟨dependent, same, positive, least⟩ := chosen.attained kept rfl
    have inRest : kept ∈ rest := by
      by_contra outside
      have none := state.absent kept outside
      omega
    obtain ⟨chain, known⟩ := state.known kept inRest
    have starts := known.best.isCandidate.1
    refine ⟨id :: chain, .cons codeUnits_injective here (mem_dependents.mp dependent) known.best ?_, ?_, ?_, ?_, ?_⟩
    · intro other edge inOrder
      obtain ⟨rival, rivalKnown⟩ := state.known other (later other edge inOrder)
      have bound := chosen.bound other (mem_dependents.mpr edge)
      refine ⟨rival, rivalKnown.best, ?_⟩
      rw [← rivalKnown.length, ← known.length, same]
      rcases Nat.lt_or_eq_of_le bound with less | level
      · exact .inl less
      · exact .inr ⟨level, least other (mem_dependents.mpr edge) level⟩
    · rw [lengthOf_self, List.length_cons, ← known.length, same]
    · exact ⟨successor_self.trans starts.symm, known.followed.keep fun inside => apart (known.within id inside)⟩
    · rintro step (_ | ⟨_, inside⟩)
      · exact List.mem_cons_self
      · exact List.mem_cons_of_mem _ (known.within step inside)
    · simpa using known.short

theorem TableState.cons (state : TableState edges order rest table) (here : id ∈ order) (apart : id ∉ rest)
    (later : ∀ other, Continues edges id other → other ∈ order → other ∈ rest) :
    TableState edges order (id :: rest) (chainEntry edges table id :: table) where
  known other member := by
    rcases List.mem_cons.mp member with rfl | inRest
    · exact state.next here apart later
    · obtain ⟨chain, known⟩ := state.known other inRest
      exact ⟨chain, known.keep inRest apart⟩
  absent other outside := by
    obtain ⟨different, gone⟩ := not_or.mp (List.mem_cons.not.mp outside)
    exact (lengthOf_other different).trans (state.absent other gone)

theorem chainTable_state (ordered : Topological (DependsOn edges) (done ++ rest)) (distinct : (done ++ rest).Nodup) :
    TableState edges (done ++ rest) rest (chainTable edges rest) := by
  generalize whole : done ++ rest = order at *
  induction rest generalizing done with
  | nil => exact ⟨nofun, fun _ _ => rfl⟩
  | cons id rest ih =>
    have apart := (List.nodup_cons.mp (List.nodup_append.mp (whole ▸ distinct)).2.1).1
    refine (@ih (done ++ [id]) (by simpa using whole)).cons ?_ apart fun other edge inOrder => ?_
    · rw [← whole]
      simp
    · subst whole
      exact ordered.after distinct edge inOrder

theorem chooseStart_eq (table : ChainTable) (order : List String) :
    order.foldl (chooseStart table) none = (order.foldl (choose codeUnits table.lengthOf) (0, none)).2 := by
  suffices run : ∀ best : Nat × Option String, best.1 = best.2.elim 0 table.lengthOf →
      order.foldl (chooseStart table) best.2 = (order.foldl (choose codeUnits table.lengthOf) best).2 from run (0, none) rfl
  induction order with
  | nil => exact fun _ _ => rfl
  | cons id order ih =>
    intro best level
    simp only [List.foldl_cons, chooseStart, choose, ← level, Option.any_eq_true, decide_eq_true_eq]
    split
    · exact ih (table.lengthOf id, some id) rfl
    · exact ih best level

end Table

section Path

variable {nodes others : List TaskGraphNode} {edges rows : List TaskGraphEdge} {path first second chain : List String} {id : String}
  {candidate : List String → Prop}

/-- The longest of the chains, of several the least by code units, and nothing when no chain has two tasks. -/
structure LongestChain (candidate : List String → Prop) (path : List String) : Prop where
  best : (∃ chain, candidate chain ∧ 2 ≤ chain.length) → BestChain codeUnits candidate path
  none : (¬∃ chain, candidate chain ∧ 2 ≤ chain.length) → path = []

theorem LongestChain.unique (left : LongestChain candidate first) (right : LongestChain candidate second) :
    first = second := by
  by_cases some : ∃ chain, candidate chain ∧ 2 ≤ chain.length
  · exact (left.best some).unique codeUnits_injective (right.best some)
  · rw [left.none some, right.none some]

/-- Tasks that are not terminal, each of which depends directly on the one before. -/
def DependencyChain (nodes : List TaskGraphNode) (edges : List TaskGraphEdge) : List String → Prop :=
  ChainIn (Continues edges) fun id => ∃ node ∈ nodes, node.taskId = id ∧ node.terminal = false

def OrderedChain (nodes : List TaskGraphNode) (edges : List TaskGraphEdge) (chain : List String) : Prop :=
  DependencyChain nodes edges chain ∧ ∀ id ∈ chain, ¬BehindCycle (Continues (unfinishedEdges nodes edges)) id

theorem orderedChain_iff : OrderedChain nodes edges chain ↔
    ChainIn (Continues (unfinishedEdges nodes edges)) (· ∈ (dependencyOrder nodes edges).1) chain := by
  have inOrder : ∀ id, id ∈ (dependencyOrder nodes edges).1 ↔
      (∃ node ∈ nodes, node.taskId = id ∧ node.terminal = false) ∧
        ¬BehindCycle (Continues (unfinishedEdges nodes edges)) id := fun id => by
    rw [mem_dependencyOrder, mem_unfinished]
  constructor
  · rintro ⟨⟨linked, contained⟩, free⟩
    refine ⟨?_, fun id member => (inOrder id).mpr ⟨contained id member, free id member⟩⟩
    refine (linked.imp_of_mem_imp fun left right inLeft inRight edge => ?_)
    exact mem_unfinishedEdges.mpr
      ⟨edge, mem_unfinished.mpr (contained right inRight), mem_unfinished.mpr (contained left inLeft)⟩
  · rintro ⟨linked, contained⟩
    refine ⟨⟨linked.imp fun left right edge => (mem_unfinishedEdges.mp edge).1, fun id member => ?_⟩, fun id member => ?_⟩
    · exact ((inOrder id).mp (contained id member)).1
    · exact ((inOrder id).mp (contained id member)).2

/-- The path that the table leads through from its best task is the best of the chains in the order. -/
theorem TableState.longest {order : List String} {table : ChainTable} (state : TableState edges order order table) :
    LongestChain (ChainIn (Continues edges) (· ∈ order))
      (if (followChain table order.length (order.foldl (chooseStart table) none)).length < 2 then []
        else followChain table order.length (order.foldl (chooseStart table) none)) := by
  have chosen := @choose_spec _ _ _ codeUnits table.lengthOf order
  rw [chooseStart_eq]
  generalize order.foldl (choose codeUnits table.lengthOf) (0, none) = best at chosen ⊢
  obtain ⟨length, start⟩ := best
  cases start with
  | none =>
    have empty : order = [] := by
      refine List.eq_nil_iff_forall_not_mem.mpr fun id member => ?_
      obtain ⟨chain, known⟩ := state.known id member
      have bound := chosen.bound id member
      have positive := known.positive
      have zero := chosen.absent rfl
      omega
    subst empty
    refine ⟨?_, fun _ => rfl⟩
    rintro ⟨chain, isChain, long⟩
    cases chain with
    | nil => simp at long
    | cons id chain => exact absurd (isChain.contained id List.mem_cons_self) List.not_mem_nil
  | some start =>
    obtain ⟨member, level, -, least⟩ := chosen.attained start rfl
    obtain ⟨chain, known⟩ := state.known start member
    have follows := known.followed.follow known.short
    rw [known.best.isCandidate.1] at follows
    rw [follows]
    have best : BestChain codeUnits (ChainIn (Continues edges) (· ∈ order)) chain := by
      refine known.best.overall codeUnits_injective fun other inOrder => ?_
      obtain ⟨rival, rivalKnown⟩ := state.known other inOrder
      refine ⟨rival, rivalKnown.best, ?_⟩
      rw [← rivalKnown.length, ← known.length, level]
      rcases Nat.lt_or_eq_of_le (chosen.bound other inOrder) with less | equal
      · exact .inl less
      · exact .inr ⟨equal, least other inOrder equal⟩
    constructor
    · rintro ⟨other, isChain, long⟩
      have short : ¬chain.length < 2 := by
        rcases best.precedes other isChain with longer | ⟨equal, -⟩ <;> omega
      rwa [if_neg short]
    · intro none
      refine if_pos ?_
      by_contra long
      exact none ⟨chain, best.isCandidate, by omega⟩

theorem projectLongestDependencyChain_ordered (nodes : List TaskGraphNode) (edges : List TaskGraphEdge) :
    LongestChain (OrderedChain nodes edges) (projectLongestDependencyChain nodes edges) := by
  obtain ⟨left, state, -⟩ := dependencyOrder_spec nodes edges
  have distinct := state.distinct
  rw [List.append_nil] at distinct
  have same : OrderedChain nodes edges = ChainIn (Continues (unfinishedEdges nodes edges))
      (· ∈ (dependencyOrder nodes edges).1) := funext fun chain => propext orderedChain_iff
  rw [same]
  exact (@chainTable_state _ [] _ state.ordered distinct).longest

theorem OrderedChain.perm (sameNodes : nodes.Perm others) (sameEdges : edges.Perm rows) (isChain : OrderedChain nodes edges chain) :
    OrderedChain others rows chain := by
  have unfinishedSame : ∀ id, id ∈ unfinished nodes ↔ id ∈ unfinished others := fun id => by
    simp only [mem_unfinished, sameNodes.mem_iff]
  have edgesSame : Continues (unfinishedEdges others rows) = Continues (unfinishedEdges nodes edges) := by
    funext left right
    simp only [mem_unfinishedEdges, sameEdges.mem_iff, unfinishedSame]
  obtain ⟨⟨linked, contained⟩, free⟩ := isChain
  refine ⟨⟨linked.imp fun _ _ edge => sameEdges.mem_iff.mp edge, fun id member => ?_⟩, by rwa [edgesSame]⟩
  obtain ⟨node, stored, here⟩ := contained id member
  exact ⟨node, sameNodes.mem_iff.mp stored, here⟩

theorem orderedChain_acyclic (acyclic : ∀ id, ¬TransGen (Continues edges) id id) :
    OrderedChain nodes edges = DependencyChain nodes edges := by
  funext chain
  refine propext ⟨And.left, fun isChain => ⟨isChain, ?_⟩⟩
  rintro id - ⟨origin, cycle, -⟩
  exact acyclic origin (TransGen.mono (fun _ _ edge => (mem_unfinishedEdges.mp edge).1) _ _ cycle)

theorem LongestChain.candidate_or_nil (longest : LongestChain candidate path) : candidate path ∨ path = [] := by
  by_cases some : ∃ chain, candidate chain ∧ 2 ≤ chain.length
  · exact .inl (longest.best some).isCandidate
  · exact .inr (longest.none some)

/--
On acyclic edges the result is the longest dependency chain. On all edges it depends on no order of the nodes or of the
edges, and no task of it stands on a cycle of tasks that are not terminal, or behind one.
-/
theorem projectLongestDependencyChain_canonical (nodes : List TaskGraphNode) (edges : List TaskGraphEdge) :
    ((∀ id, ¬TransGen (Continues edges) id id) →
      LongestChain (DependencyChain nodes edges) (projectLongestDependencyChain nodes edges)) ∧
    (∀ others rows, nodes.Perm others → edges.Perm rows →
      projectLongestDependencyChain others rows = projectLongestDependencyChain nodes edges) ∧
    DependencyChain nodes edges (projectLongestDependencyChain nodes edges) ∧
    ∀ id ∈ projectLongestDependencyChain nodes edges, ¬BehindCycle (Continues (unfinishedEdges nodes edges)) id := by
  have longest := projectLongestDependencyChain_ordered nodes edges
  have isChain : OrderedChain nodes edges (projectLongestDependencyChain nodes edges) := by
    rcases longest.candidate_or_nil with isChain | empty
    · exact isChain
    · rw [empty]
      exact ⟨⟨.nil, nofun⟩, nofun⟩
  refine ⟨fun acyclic => orderedChain_acyclic acyclic ▸ longest, fun others rows sameNodes sameEdges => ?_, isChain⟩
  have same : OrderedChain others rows = OrderedChain nodes edges := by
    funext chain
    exact propext ⟨.perm sameNodes.symm sameEdges.symm, .perm sameNodes sameEdges⟩
  exact (same ▸ projectLongestDependencyChain_ordered others rows).unique longest

def graphNodeNamed (id : String) (terminal : Bool) : TaskGraphNode where
  taskId := id
  title := id
  priority := 0
  recordedStatus := if terminal then .completed else .pending
  operationalStatus := if terminal then .completed else .notStarted
  assignedAgent := none
  milestoneIds := []
  milestoneGap := none
  unmetPrerequisiteIds := []
  ready := !terminal
  terminal
  waiting := false
  needsAttention := false
  completionUnblocks := []

def settledCycle : List TaskGraphNode := [graphNodeNamed "a" false, graphNodeNamed "b" false, graphNodeNamed "t" true]

def settledCycleEdges : List TaskGraphEdge := [⟨"a", "t"⟩, ⟨"b", "a"⟩, ⟨"t", "a"⟩]

/-- A cycle that a terminal task breaks keeps no task out of the chain. -/
theorem projectLongestDependencyChain_throughTerminal : (settledCycle.map TaskGraphNode.taskId).Nodup ∧
    settledCycleEdges.Nodup ∧
    ∃ id ∈ projectLongestDependencyChain settledCycle settledCycleEdges, BehindCycle (Continues settledCycleEdges) id := by
  have leads : Continues settledCycleEdges "a" "t" := by simp [settledCycleEdges]
  have back : Continues settledCycleEdges "t" "a" := by simp [settledCycleEdges]
  exact ⟨by decide, by decide, "a", by decide, "a", .tail (.single leads) back, .refl⟩

example : projectLongestDependencyChain settledCycle settledCycleEdges = ["a", "b"] := by decide

end Path

end AiOffice.Application.ReadModels
