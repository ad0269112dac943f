import Mathlib.Data.List.Dedup
import Mathlib.Logic.Relation

namespace AiOffice.Data.Reachability

open Relation

universe u

variable {Node : Type u} {edges others : List (Node × Node)} {source target node start : Node}

def Linked (edges : List (Node × Node)) (source target : Node) : Prop := (source, target) ∈ edges

def Acyclic (edges : List (Node × Node)) : Prop := ∀ node, ¬TransGen (Linked edges) node node

theorem Acyclic.mono (acyclic : Acyclic edges) (part : ∀ edge ∈ others, edge ∈ edges) : Acyclic others :=
  fun node cycle => acyclic node (TransGen.mono (fun _ _ linked => part _ linked) _ _ cycle)

theorem acyclic_nil : Acyclic ([] : List (Node × Node)) := by
  intro node cycle
  obtain ⟨next, linked, -⟩ := TransGen.head'_iff.mp cycle
  exact absurd linked List.not_mem_nil

theorem reach_append (path : ReflTransGen (Linked (edges ++ [(source, target)])) start node) :
    ReflTransGen (Linked edges) start node ∨
      ReflTransGen (Linked edges) start source ∧ ReflTransGen (Linked edges) target node := by
  induction path with
  | refl => exact .inl .refl
  | tail _ last ih =>
    rcases List.mem_append.mp last with old | new
    · rcases ih with before | ⟨first, rest⟩
      · exact .inl (before.tail old)
      · exact .inr ⟨first, rest.tail old⟩
    · obtain ⟨rfl, rfl⟩ := Prod.ext_iff.mp (List.mem_singleton.mp new)
      rcases ih with before | ⟨first, -⟩
      · exact .inr ⟨before, .refl⟩
      · exact .inr ⟨first, .refl⟩

theorem acyclic_append (acyclic : Acyclic edges) :
    Acyclic (edges ++ [(source, target)]) ↔ ¬ReflTransGen (Linked edges) target source := by
  constructor
  · intro extended back
    have edge : Linked (edges ++ [(source, target)]) source target :=
      List.mem_append_right _ (List.mem_singleton_self _)
    have path : ReflTransGen (Linked (edges ++ [(source, target)])) target source :=
      ReflTransGen.mono (fun _ _ linked => List.mem_append_left _ linked) _ _ back
    exact extended source (TransGen.head' edge path)
  · intro back node cycle
    obtain ⟨next, first, rest⟩ := TransGen.head'_iff.mp cycle
    rcases List.mem_append.mp first with old | new
    · rcases reach_append rest with path | ⟨before, after⟩
      · exact acyclic node (TransGen.head' old path)
      · exact back ((after.tail old).trans before)
    · obtain ⟨rfl, rfl⟩ := Prod.ext_iff.mp (List.mem_singleton.mp new)
      rcases reach_append rest with path | ⟨before, -⟩
      · exact back path
      · exact back before

theorem closed_of_reach {nodes : List Node} (closed : ∀ node ∈ nodes, ∀ next, Linked edges node next → next ∈ nodes)
    (member : start ∈ nodes) (path : ReflTransGen (Linked edges) start target) : target ∈ nodes := by
  induction path with
  | refl => exact member
  | tail _ last ih => exact closed _ ih _ last

def Within (edges : List (Node × Node)) (start : Node) : Nat → Node → Prop
  | 0, node => node = start
  | depth + 1, node => Within edges start depth node ∨ ∃ middle, Within edges start depth middle ∧ Linked edges middle node

theorem Within.reached {depth : Nat} (within : Within edges start depth node) :
    ReflTransGen (Linked edges) start node := by
  induction depth generalizing node with
  | zero => exact within ▸ .refl
  | succ depth ih =>
    rcases within with before | ⟨middle, before, linked⟩
    · exact ih before
    · exact (ih before).tail linked

variable [DecidableEq Node]

def successors (edges : List (Node × Node)) (node : Node) : List Node :=
  (edges.filter fun edge => edge.1 = node).map Prod.snd

theorem mem_successors : target ∈ successors edges source ↔ Linked edges source target := by
  simp [successors, Linked]

section Search

def unexplored (edges : List (Node × Node)) (visited : List Node) : Nat :=
  edges.countP fun edge => edge.1 ∉ visited

theorem unexplored_le (edges : List (Node × Node)) (node : Node) (visited : List Node) :
    unexplored edges (node :: visited) ≤ unexplored edges visited := by
  refine List.countP_mono_left fun edge _ outside => ?_
  simp only [decide_eq_true_eq, List.mem_cons, not_or] at outside ⊢
  exact outside.2

theorem unexplored_lt {visited : List Node} (fresh : node ∉ visited) (leaves : successors edges node ≠ []) :
    unexplored edges (node :: visited) < unexplored edges visited := by
  obtain ⟨next, member⟩ := List.exists_mem_of_ne_nil _ leaves
  obtain ⟨first, last, rfl⟩ := List.append_of_mem (mem_successors.mp member)
  have before := unexplored_le first node visited
  have after := unexplored_le last node visited
  have whole (visited : List Node) : unexplored (first ++ (node, next) :: last) visited =
      unexplored first visited + (unexplored last visited + if node ∉ visited then 1 else 0) := by
    simp only [unexplored, List.countP_append, List.countP_cons, decide_eq_true_eq]
  rw [whole, whole visited, if_pos fresh, if_neg (not_not.mpr List.mem_cons_self)]
  omega

def search (edges : List (Node × Node)) (target : Node) (visited : List Node) : List Node → Bool
  | [] => false
  | current :: rest =>
    if current = target then true
    else if current ∈ visited then search edges target visited rest
    else search edges target (current :: visited) (rest ++ successors edges current)
  termination_by queue => (unexplored edges visited, queue.length)
  decreasing_by
    · exact Prod.Lex.right _ (Nat.lt_succ_self _)
    · next fresh =>
        by_cases leaves : successors edges current = []
        · rw [leaves, List.append_nil]
          rcases Nat.lt_or_eq_of_le (unexplored_le edges current visited) with fewer | same
          · exact Prod.Lex.left _ _ fewer
          · rw [same]
            exact Prod.Lex.right _ (Nat.lt_succ_self _)
        · exact Prod.Lex.left _ _ (unexplored_lt fresh leaves)

theorem search_sound {visited queue : List Node} (found : search edges target visited queue = true) :
    ∃ node ∈ queue, ReflTransGen (Linked edges) node target := by
  fun_induction search edges target visited queue with
  | case1 => simp at found
  | case2 => exact ⟨_, List.mem_cons_self, .refl⟩
  | case3 visited current rest _ _ ih =>
    obtain ⟨node, member, path⟩ := ih found
    exact ⟨node, List.mem_cons_of_mem _ member, path⟩
  | case4 visited current rest _ _ ih =>
    obtain ⟨node, member, path⟩ := ih found
    rcases List.mem_append.mp member with waiting | next
    · exact ⟨node, List.mem_cons_of_mem _ waiting, path⟩
    · exact ⟨current, List.mem_cons_self, path.head (mem_successors.mp next)⟩

theorem search_complete {visited queue : List Node}
    (closed : ∀ node ∈ visited, ∀ next, Linked edges node next → next ∈ visited ∨ next ∈ queue)
    (unseen : target ∉ visited) (member : start ∈ visited ∨ start ∈ queue)
    (path : ReflTransGen (Linked edges) start target) : search edges target visited queue = true := by
  fun_induction search edges target visited queue with
  | case1 visited =>
    have inside : start ∈ visited := by simpa using member
    exact absurd (closed_of_reach (fun node known next linked => by simpa using closed node known next linked)
      inside path) unseen
  | case2 => rfl
  | case3 visited current rest _ known ih =>
    have drop (node : Node) (waits : node ∈ visited ∨ node ∈ current :: rest) :
        node ∈ visited ∨ node ∈ rest := by
      rcases waits with old | waits
      · exact .inl old
      · rcases List.mem_cons.mp waits with rfl | later
        · exact .inl known
        · exact .inr later
    exact ih (fun node old next linked => drop next (closed node old next linked)) unseen (drop start member)
  | case4 visited current rest different _ ih =>
    have keep (node : Node) (waits : node ∈ visited ∨ node ∈ current :: rest) :
        node ∈ current :: visited ∨ node ∈ rest ++ successors edges current := by
      simp only [List.mem_cons, List.mem_append] at waits ⊢
      tauto
    refine ih (fun node old next linked => ?_) ?_ (keep start member)
    · rcases List.mem_cons.mp old with rfl | older
      · exact .inr (List.mem_append_right _ (mem_successors.mpr linked))
      · exact keep next (closed node older next linked)
    · simp [unseen, Ne.symm different]

theorem search_iff : search edges target [] [start] = true ↔ ReflTransGen (Linked edges) start target := by
  constructor
  · intro found
    obtain ⟨node, member, path⟩ := search_sound found
    rwa [List.mem_singleton.mp member] at path
  · exact search_complete (fun node member => absurd member List.not_mem_nil) List.not_mem_nil
      (.inr (List.mem_singleton_self _))

end Search

section Closure

def unreached (edges : List (Node × Node)) (seen : List Node) : Nat :=
  edges.countP fun edge => edge.2 ∉ seen

def unseen (edges : List (Node × Node)) (seen : List Node) (node : Node) : List Node :=
  ((successors edges node).filter (· ∉ seen)).dedup

theorem mem_unseen {seen : List Node} :
    target ∈ unseen edges seen source ↔ Linked edges source target ∧ target ∉ seen := by
  simp [unseen, mem_successors]

theorem unreached_lt {seen : List Node} (some : unseen edges seen node ≠ []) :
    unreached edges (seen ++ unseen edges seen node) < unreached edges seen := by
  have fewer (part : List (Node × Node)) : unreached part (seen ++ unseen edges seen node) ≤ unreached part seen := by
    refine List.countP_mono_left fun edge _ outside => ?_
    simp only [decide_eq_true_eq, List.mem_append, not_or] at outside ⊢
    exact outside.1
  obtain ⟨next, member⟩ := List.exists_mem_of_ne_nil _ some
  obtain ⟨linked, outside⟩ := mem_unseen.mp member
  obtain ⟨first, last, split⟩ := List.append_of_mem linked
  have before := fewer first
  have after := fewer last
  have whole (seen : List Node) :
      unreached edges seen = unreached first seen + ((if next ∉ seen then 1 else 0) + unreached last seen) := by
    simp only [split, unreached, List.countP_append, List.countP_cons, decide_eq_true_eq]
    omega
  rw [whole, whole seen, if_pos outside, if_neg (not_not.mpr (List.mem_append_right _ member))]
  omega

/-- The rows of a recursive query that joins the edges to its own rows and drops duplicates. -/
def closure (edges : List (Node × Node)) (seen : List Node) : List Node → List Node
  | [] => seen
  | current :: rest =>
    closure edges (seen ++ unseen edges seen current) (rest ++ unseen edges seen current)
  termination_by queue => (unreached edges seen, queue.length)
  decreasing_by
    by_cases none : unseen edges seen current = []
    · rw [none, List.append_nil, List.append_nil]
      exact Prod.Lex.right _ (Nat.lt_succ_self _)
    · exact Prod.Lex.left _ _ (unreached_lt none)

theorem closure_sound {seen queue : List Node} (waiting : ∀ node ∈ queue, node ∈ seen)
    (member : target ∈ closure edges seen queue) : ∃ node ∈ seen, ReflTransGen (Linked edges) node target := by
  fun_induction closure edges seen queue with
  | case1 seen => exact ⟨target, member, .refl⟩
  | case2 seen current rest ih =>
    have known := waiting current List.mem_cons_self
    obtain ⟨node, inside, path⟩ := ih (fun node waits => by
      rcases List.mem_append.mp waits with later | fresh
      · exact List.mem_append_left _ (waiting node (List.mem_cons_of_mem _ later))
      · exact List.mem_append_right _ fresh) member
    rcases List.mem_append.mp inside with old | fresh
    · exact ⟨node, old, path⟩
    · exact ⟨current, known, path.head (mem_unseen.mp fresh).1⟩

theorem closure_complete {seen queue : List Node}
    (closed : ∀ node ∈ seen, node ∉ queue → ∀ next, Linked edges node next → next ∈ seen)
    (member : start ∈ seen) (path : ReflTransGen (Linked edges) start target) :
    target ∈ closure edges seen queue := by
  fun_induction closure edges seen queue with
  | case1 seen => exact closed_of_reach (fun node known => closed node known List.not_mem_nil) member path
  | case2 seen current rest ih =>
    refine ih (fun node inside done next linked => ?_) (List.mem_append_left _ member)
    simp only [List.mem_append, not_or] at inside done ⊢
    by_cases here : node = current
    · by_cases old : next ∈ seen
      · exact .inl old
      · exact .inr (mem_unseen.mpr ⟨here ▸ linked, old⟩)
    · have known := inside.resolve_right done.2
      exact .inl (closed node known (by simp [here, done.1]) next linked)

def reachable (edges : List (Node × Node)) (start : Node) : List Node :=
  closure edges (unseen edges [] start) (unseen edges [] start)

theorem mem_reachable : target ∈ reachable edges start ↔ TransGen (Linked edges) start target := by
  rw [TransGen.head'_iff]
  constructor
  · intro member
    obtain ⟨node, first, path⟩ := closure_sound (fun _ member => member) member
    exact ⟨node, (mem_unseen.mp first).1, path⟩
  · rintro ⟨node, linked, path⟩
    exact closure_complete (fun node known waits => absurd known waits)
      (mem_unseen.mpr ⟨linked, List.not_mem_nil⟩) path

end Closure

section Walk

/-- Put a node behind those to visit, unless it was seen. -/
def enqueue (state : List Node × List Node) (node : Node) : List Node × List Node :=
  if node ∈ state.1 then state else (state.1 ++ [node], state.2 ++ [node])

def fresh (seen : List Node) : List Node → List Node
  | [] => []
  | node :: nodes => if node ∈ seen then fresh seen nodes else node :: fresh (seen ++ [node]) nodes

theorem foldl_enqueue (nodes seen queue : List Node) :
    nodes.foldl enqueue (seen, queue) = (seen ++ fresh seen nodes, queue ++ fresh seen nodes) := by
  induction nodes generalizing seen queue with
  | nil => simp [fresh]
  | cons node nodes ih =>
    by_cases known : node ∈ seen
    · rw [List.foldl_cons, enqueue, if_pos known, fresh, if_pos known, ih]
    · rw [List.foldl_cons, enqueue, if_neg known, fresh, if_neg known, ih]
      simp

theorem mem_fresh {nodes seen : List Node} : node ∈ fresh seen nodes ↔ node ∈ nodes ∧ node ∉ seen := by
  induction nodes generalizing seen with
  | nil => simp [fresh]
  | cons first nodes ih =>
    by_cases known : first ∈ seen
    · rw [fresh, if_pos known, ih, List.mem_cons]
      refine ⟨fun found => ⟨.inr found.1, found.2⟩, fun found => ⟨found.1.resolve_left ?_, found.2⟩⟩
      rintro rfl
      exact found.2 known
    · rw [fresh, if_neg known, List.mem_cons, ih, List.mem_append, List.mem_singleton, List.mem_cons]
      by_cases here : node = first
      · simp [here, known]
      · simp [here]

theorem nodup_fresh {nodes seen : List Node} (unique : seen.Nodup) : (seen ++ fresh seen nodes).Nodup := by
  induction nodes generalizing seen with
  | nil => simpa [fresh] using unique
  | cons first nodes ih =>
    by_cases known : first ∈ seen
    · rw [fresh, if_pos known]
      exact ih unique
    · rw [fresh, if_neg known, ← List.singleton_append, ← List.append_assoc]
      have apart : ∀ other ∈ seen, ∀ last ∈ [first], other ≠ last := by
        rintro other member last inLast rfl
        exact known (List.mem_singleton.mp inLast ▸ member)
      exact ih (List.nodup_append.mpr ⟨unique, List.nodup_singleton _, apart⟩)

theorem unreached_fresh {seen : List Node} (some : fresh seen (successors edges node) ≠ []) :
    unreached edges (seen ++ fresh seen (successors edges node)) < unreached edges seen := by
  have same : unreached edges (seen ++ fresh seen (successors edges node)) =
      unreached edges (seen ++ unseen edges seen node) := by
    refine List.countP_congr fun edge _ => ?_
    simp only [decide_eq_true_eq, List.mem_append, mem_fresh, mem_unseen, mem_successors]
  obtain ⟨next, member⟩ := List.exists_mem_of_ne_nil _ some
  rw [mem_fresh, mem_successors] at member
  rw [same]
  exact unreached_lt (List.ne_nil_of_mem (mem_unseen.mpr member))

/-- A walk that goes on from the node that was put there last. -/
def walk (edges : List (Node × Node)) (seen stack : List Node) : List Node :=
  match _last : stack.getLast? with
  | none => seen
  | some next =>
    let state := (successors edges next).foldl enqueue (seen, stack.dropLast)
    walk edges state.1 state.2
  termination_by (unreached edges seen, stack.length)
  decreasing_by
    have nonempty : stack ≠ [] := by rintro rfl; simp at _last
    simp only [foldl_enqueue]
    by_cases none : fresh seen (successors edges next) = []
    · rw [none, List.append_nil, List.append_nil, List.length_dropLast]
      have := List.length_pos_of_ne_nil nonempty
      exact Prod.Lex.right _ (by omega)
    · exact Prod.Lex.left _ _ (unreached_fresh none)

theorem walk_spec {seen stack : List Node} (waiting : ∀ node ∈ stack, node ∈ seen)
    (closed : ∀ node ∈ seen, node ∉ stack → ∀ next, Linked edges node next → next ∈ seen) :
    target ∈ walk edges seen stack ↔ ∃ node ∈ seen, ReflTransGen (Linked edges) node target := by
  fun_induction walk edges seen stack with
  | case1 seen stack last =>
    rw [List.getLast?_eq_none_iff] at last
    subst last
    refine ⟨fun member => ⟨target, member, .refl⟩, ?_⟩
    rintro ⟨node, member, path⟩
    exact closed_of_reach (fun node known => closed node known List.not_mem_nil) member path
  | case2 seen stack next last state ih =>
    obtain ⟨rest, rfl⟩ := List.getLast?_eq_some_iff.mp last
    have known : next ∈ seen := waiting next (by simp)
    simp only [state, foldl_enqueue, List.dropLast_concat] at ih ⊢
    rw [ih]
    · constructor
      · rintro ⟨node, member, path⟩
        rcases List.mem_append.mp member with old | new
        · exact ⟨node, old, path⟩
        · exact ⟨next, known, path.head (mem_successors.mp (mem_fresh.mp new).1)⟩
      · rintro ⟨node, member, path⟩
        exact ⟨node, List.mem_append_left _ member, path⟩
    · intro node member
      rcases List.mem_append.mp member with old | new
      · exact List.mem_append_left _ (waiting node (List.mem_append_left _ old))
      · exact List.mem_append_right _ new
    · intro node member outside after linked
      rw [List.mem_append, not_or] at outside
      have old := (List.mem_append.mp member).resolve_right outside.2
      rw [List.mem_append, mem_fresh, mem_successors]
      by_cases here : node = next
      · subst here
        exact (em (after ∈ seen)).imp_right fun unseen => ⟨linked, unseen⟩
      · exact .inl (closed node old (by simp [outside.1, here]) after linked)

theorem walk_nodup {seen stack : List Node} (unique : seen.Nodup) : (walk edges seen stack).Nodup := by
  fun_induction walk edges seen stack with
  | case1 => exact unique
  | case2 seen stack next last state ih =>
    simp only [state, foldl_enqueue] at ih ⊢
    exact ih (nodup_fresh unique)

def walkFrom (edges : List (Node × Node)) (start : Node) : List Node :=
  let state := (successors edges start).foldl enqueue ([], [])
  walk edges state.1 state.2

theorem mem_walkFrom : target ∈ walkFrom edges start ↔ TransGen (Linked edges) start target := by
  rw [walkFrom, foldl_enqueue, TransGen.head'_iff,
    walk_spec (fun _ member => member) fun node known outside => absurd known outside]
  simp only [List.nil_append, mem_fresh, mem_successors, List.not_mem_nil, not_false_eq_true, and_true]

theorem walkFrom_nodup (edges : List (Node × Node)) (start : Node) : (walkFrom edges start).Nodup := by
  rw [walkFrom, foldl_enqueue]
  exact walk_nodup (by simpa using nodup_fresh List.nodup_nil)

end Walk

section Hops

/-- Go one step on from each node of the frontier. -/
def hop (edges : List (Node × Node)) (state : List Node × List Node) : List Node × List Node :=
  state.2.foldl (fun reached node => (successors edges node).foldl enqueue reached) (state.1, [])

def hops (edges : List (Node × Node)) : Nat → List Node × List Node → List Node × List Node
  | 0, state => state
  | depth + 1, state => hop edges (hops edges depth state)

theorem hop_eq (edges : List (Node × Node)) (state : List Node × List Node) : hop edges state =
    (state.1 ++ fresh state.1 (state.2.flatMap (successors edges)), fresh state.1 (state.2.flatMap (successors edges))) := by
  rw [hop, ← List.foldl_flatMap, foldl_enqueue, List.nil_append]

/-- What a number of hops has seen besides the nodes that were known, and where it can still go on. -/
structure Explored (edges : List (Node × Node)) (start : Node) (known : List Node) (depth : Nat)
    (state : List Node × List Node) : Prop where
  seen : ∀ node, node ∈ state.1 ↔ node ∈ known ∨ Within edges start depth node
  waiting : ∀ node ∈ state.2, Within edges start depth node
  done : ∀ node, Within edges start depth node → node ∉ state.2 → ∀ next, Linked edges node next → next ∈ state.1

variable {known : List Node} {depth : Nat} {state : List Node × List Node}

theorem mem_found : node ∈ fresh state.1 (state.2.flatMap (successors edges)) ↔
    (∃ middle ∈ state.2, Linked edges middle node) ∧ node ∉ state.1 := by
  simp only [mem_fresh, List.mem_flatMap, mem_successors]

theorem Explored.mem_hop (explored : Explored edges start known depth state) (node : Node) :
    node ∈ (hop edges state).1 ↔ node ∈ known ∨ Within edges start (depth + 1) node := by
  obtain ⟨seen, waiting, done⟩ := explored
  rw [hop_eq, List.mem_append, mem_found]
  constructor
  · rintro (old | ⟨⟨middle, front, linked⟩, -⟩)
    · exact ((seen node).mp old).imp_right .inl
    · exact .inr (.inr ⟨middle, waiting middle front, linked⟩)
  · by_cases old : node ∈ state.1
    · exact fun _ => .inl old
    rintro (inKnown | before | ⟨middle, before, linked⟩)
    · exact .inl ((seen node).mpr (.inl inKnown))
    · exact .inl ((seen node).mpr (.inr before))
    · by_cases front : middle ∈ state.2
      · exact .inr ⟨⟨middle, front, linked⟩, old⟩
      · exact .inl (done middle before front node linked)

theorem Explored.hop (explored : Explored edges start known depth state)
    (apart : ∀ node ∈ known, Within edges start (depth + 1) node → Within edges start depth node) :
    Explored edges start known (depth + 1) (Reachability.hop edges state) := by
  have all := explored.mem_hop
  obtain ⟨seen, waiting, done⟩ := explored
  rw [hop_eq] at all ⊢
  refine ⟨all, fun node member => ?_, fun node within outside next linked => ?_⟩
  · obtain ⟨⟨middle, front, linked⟩, -⟩ := mem_found.mp member
    exact .inr ⟨middle, waiting middle front, linked⟩
  · have old : node ∈ state.1 := (List.mem_append.mp ((all node).mpr (.inr within))).resolve_right outside
    have before : Within edges start depth node := ((seen node).mp old).elim (fun inKnown => apart node inKnown within) id
    rw [List.mem_append]
    by_cases front : node ∈ state.2
    · rw [mem_found]
      exact (em (next ∈ state.1)).imp_right fun unseen => ⟨⟨node, front, linked⟩, unseen⟩
    · exact .inl (done node before front next linked)

theorem hops_explored (inKnown : start ∈ known)
    (apart : ∀ steps < depth, ∀ node ∈ known, Within edges start (steps + 1) node → Within edges start steps node) :
    Explored edges start known depth (hops edges depth (known, [start])) := by
  induction depth with
  | zero =>
    refine ⟨fun node => ⟨.inl, fun inside => inside.elim id fun same => same ▸ inKnown⟩, fun node member => ?_,
      fun node same outside => absurd (List.mem_singleton.mpr same) outside⟩
    exact List.mem_singleton.mp member
  | succ depth ih => exact (ih fun steps less => apart steps (by omega)).hop (apart depth (by omega))

/-- What is known is only in the way where it was reached in fewer hops. -/
theorem mem_hops (inKnown : start ∈ known)
    (apart : ∀ steps < depth, ∀ node ∈ known, Within edges start (steps + 1) node → Within edges start steps node) :
    node ∈ (hops edges (depth + 1) (known, [start])).1 ↔ node ∈ known ∨ Within edges start (depth + 1) node :=
  (hops_explored inKnown apart).mem_hop node

end Hops

end AiOffice.Data.Reachability
