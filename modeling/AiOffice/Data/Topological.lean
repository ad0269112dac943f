import Mathlib.Data.Finite.Defs
import Mathlib.Data.Fintype.Order
import Mathlib.Data.List.Chain
import Mathlib.Data.List.Induction
import Mathlib.Data.List.Lex
import Mathlib.Data.Set.Finite.List
import Mathlib.Logic.Relation
import Mathlib.Order.WellFounded

namespace AiOffice.Data

open Relation

universe u

variable {Node : Type u} {depends : Node → Node → Prop} {nodes : List Node} {node other : Node}

/-- A list in which the dependencies of each node stand before it. -/
inductive Topological (depends : Node → Node → Prop) : List Node → Prop
  | nil : Topological depends []
  | snoc {nodes : List Node} {node : Node} (ordered : Topological depends nodes)
      (before : ∀ other, depends node other → other ∈ nodes) : Topological depends (nodes ++ [node])

namespace Topological

theorem closed (ordered : Topological depends nodes) (member : node ∈ nodes) (edge : depends node other) :
    other ∈ nodes := by
  induction ordered with
  | nil => cases member
  | snoc _ before ih =>
    rcases List.mem_append.mp member with earlier | last
    · exact List.mem_append_left _ (ih earlier)
    · rw [List.mem_singleton.mp last] at edge
      exact List.mem_append_left _ (before other edge)

theorem reaches (ordered : Topological depends nodes) (member : node ∈ nodes)
    (path : ReflTransGen depends node other) : other ∈ nodes := by
  induction path with
  | refl => exact member
  | tail _ edge ih => exact ordered.closed ih edge

theorem accessible (ordered : Topological depends nodes) (member : node ∈ nodes) :
    Acc (fun next previous => depends previous next) node := by
  induction ordered generalizing node with
  | nil => cases member
  | snoc _ before ih =>
    rcases List.mem_append.mp member with earlier | last
    · exact ih earlier
    · rw [List.mem_singleton.mp last]
      exact ⟨_, fun next edge => ih (before next edge)⟩

theorem acyclic (ordered : Topological depends nodes) (member : node ∈ nodes) : ¬ TransGen depends node node := by
  have start := ordered.accessible member
  induction start with
  | intro node _ ih =>
    intro cycle
    obtain ⟨next, edge, back⟩ := TransGen.head'_iff.mp cycle
    exact ih next edge (ordered.closed member edge) (TransGen.tail'_iff.mpr ⟨node, back, edge⟩)

theorem init (ordered : Topological depends (nodes ++ [node])) :
    Topological depends nodes ∧ ∀ other, depends node other → other ∈ nodes := by
  generalize same : nodes ++ [node] = all at ordered
  cases ordered with
  | nil => simp at same
  | snoc ordered before =>
    obtain ⟨rfl, last⟩ := List.append_inj' same rfl
    obtain rfl := List.singleton_inj.mp last
    exact ⟨ordered, before⟩

theorem initial {later : List Node} (ordered : Topological depends (nodes ++ later)) : Topological depends nodes := by
  induction later using List.reverseRecOn with
  | nil => simpa using ordered
  | append_singleton later last ih =>
    rw [← List.append_assoc] at ordered
    exact ih ordered.init.1

theorem after {later : List Node} (ordered : Topological depends (nodes ++ node :: later))
    (distinct : (nodes ++ node :: later).Nodup) (edge : depends other node)
    (member : other ∈ nodes ++ node :: later) : other ∈ later := by
  have apart : node ∉ nodes := fun here => (List.nodup_append.mp distinct).2.2 node here node List.mem_cons_self rfl
  rcases List.mem_append.mp member with earlier | here
  · exact absurd (ordered.initial.closed earlier edge) apart
  · rcases List.mem_cons.mp here with rfl | later
    · have upTo : Topological depends (nodes ++ [other]) := by
        refine @initial _ depends (nodes ++ [other]) later ?_
        simpa using ordered
      exact absurd (upTo.init.2 other edge) apart
    · exact later

end Topological

end AiOffice.Data

namespace AiOffice.Data

open Relation

universe u v

section Chains

variable {Node : Type u} {Key : Type v} [LinearOrder Key] {key : Node → Key} {next : Node → Node → Prop}
  {inside : Node → Prop} {start following : Node} {chain rest other : List Node} {candidate : List Node → Prop}

/-- A chain comes before the shorter ones, and before those as long that are greater by the keys of their nodes. -/
def Precedes (key : Node → Key) (chain other : List Node) : Prop :=
  other.length < chain.length ∨ chain.length = other.length ∧ chain.map key ≤ other.map key

/-- The longest of the candidates, and of the longest ones the least by key. -/
structure BestChain (key : Node → Key) (candidate : List Node → Prop) (chain : List Node) : Prop where
  isCandidate : candidate chain
  precedes : ∀ other, candidate other → Precedes key chain other

theorem Precedes.antisymm (different : key.Injective) (first : Precedes key chain other)
    (second : Precedes key other chain) : chain = other := by
  rcases first with longer | ⟨same, below⟩
  · rcases second with shorter | ⟨same, -⟩ <;> omega
  · rcases second with shorter | ⟨-, above⟩
    · omega
    · exact different.list_map (le_antisymm below above)

theorem BestChain.unique (different : key.Injective) (first : BestChain key candidate chain)
    (second : BestChain key candidate other) : chain = other :=
  (first.precedes other second.isCandidate).antisymm different (second.precedes chain first.isCandidate)

structure ChainIn (next : Node → Node → Prop) (inside : Node → Prop) (chain : List Node) : Prop where
  linked : chain.IsChain next
  contained : ∀ node ∈ chain, inside node

theorem ChainIn.cons_iff : ChainIn next inside (start :: rest) ↔
    inside start ∧ (∀ following ∈ rest.head?, next start following) ∧ ChainIn next inside rest := by
  constructor
  · rintro ⟨linked, contained⟩
    obtain ⟨first, later⟩ := List.forall_mem_cons.mp contained
    cases rest with
    | nil => exact ⟨first, nofun, .nil, later⟩
    | cons second rest =>
      obtain ⟨edge, tail⟩ := List.isChain_cons_cons.mp linked
      refine ⟨first, ?_, tail, later⟩
      rintro _ ⟨⟩
      exact edge
  · rintro ⟨first, edge, tail, later⟩
    refine ⟨?_, List.forall_mem_cons.mpr ⟨first, later⟩⟩
    cases rest with
    | nil => exact .singleton start
    | cons second rest => exact List.isChain_cons_cons.mpr ⟨edge second rfl, tail⟩

def ChainFrom (next : Node → Node → Prop) (inside : Node → Prop) (start : Node) (chain : List Node) : Prop :=
  chain.head? = some start ∧ ChainIn next inside chain

theorem BestChain.leaf (here : inside start) (none : ∀ following, next start following → ¬inside following) :
    BestChain key (ChainFrom next inside start) [start] where
  isCandidate := ⟨rfl, List.IsChain.singleton start, by simpa using here⟩
  precedes other := by
    rintro ⟨starts, isChain⟩
    obtain ⟨rest, rfl⟩ := List.head?_eq_some_iff.mp starts
    obtain ⟨-, edge, tail⟩ := ChainIn.cons_iff.mp isChain
    cases rest with
    | nil => exact .inr ⟨rfl, le_rfl⟩
    | cons second rest => exact absurd (tail.contained second List.mem_cons_self) (none second (edge second rfl))

theorem BestChain.before (different : key.Injective) {second : Node} {chain other : List Node}
    (best : BestChain key (ChainFrom next inside start) rest) (ofSecond : BestChain key (ChainFrom next inside second) chain)
    (against : chain.length < rest.length ∨ chain.length = rest.length ∧ key start ≤ key second)
    (isChain : ChainFrom next inside second other) : Precedes key rest other := by
  have behind := ofSecond.precedes other isChain
  by_cases same : start = second
  · subst same
    exact best.precedes other isChain
  · have distinct : key start ≠ key second := fun equal => same (different equal)
    obtain ⟨later, rfl⟩ := List.head?_eq_some_iff.mp best.isCandidate.1
    obtain ⟨tail, rfl⟩ := List.head?_eq_some_iff.mp isChain.1
    simp only [Precedes, List.length_cons, List.map_cons] at behind against ⊢
    by_cases shorter : tail.length < later.length
    · exact .inl (by omega)
    · have length : later.length = tail.length := by
        rcases behind with longer | ⟨same, -⟩ <;> omega
      have least : key start ≤ key second := by
        rcases against with fewer | ⟨-, least⟩
        · rcases behind with longer | ⟨same, -⟩ <;> omega
        · exact least
      exact .inr ⟨by omega, le_of_lt (.rel (lt_of_le_of_ne least distinct))⟩

theorem BestChain.cons (different : key.Injective) (here : inside start) (edge : next start following)
    (best : BestChain key (ChainFrom next inside following) rest)
    (chosen : ∀ other, next start other → inside other → ∃ chain, BestChain key (ChainFrom next inside other) chain ∧
      (chain.length < rest.length ∨ chain.length = rest.length ∧ key following ≤ key other)) :
    BestChain key (ChainFrom next inside start) (start :: rest) where
  isCandidate := by
    refine ⟨rfl, ChainIn.cons_iff.mpr ⟨here, ?_, best.isCandidate.2⟩⟩
    rw [best.isCandidate.1]
    rintro _ ⟨⟩
    exact edge
  precedes other := by
    rintro ⟨starts, isChain⟩
    obtain ⟨tail, rfl⟩ := List.head?_eq_some_iff.mp starts
    obtain ⟨-, link, tailChain⟩ := ChainIn.cons_iff.mp isChain
    cases tail with
    | nil =>
      obtain ⟨later, rfl⟩ := List.head?_eq_some_iff.mp best.isCandidate.1
      exact .inl (by simp)
    | cons second tail =>
      have inSecond := tailChain.contained second List.mem_cons_self
      obtain ⟨chain, ofSecond, against⟩ := chosen second (link second rfl) inSecond
      rcases best.before different ofSecond against ⟨rfl, tailChain⟩ with longer | ⟨length, below⟩
      · exact .inl (by simpa using longer)
      · exact .inr ⟨by simpa using length, List.cons_le_cons _ below⟩

theorem BestChain.overall (different : key.Injective) (best : BestChain key (ChainFrom next inside start) chain)
    (chosen : ∀ other, inside other → ∃ rest, BestChain key (ChainFrom next inside other) rest ∧
      (rest.length < chain.length ∨ rest.length = chain.length ∧ key start ≤ key other)) :
    BestChain key (ChainIn next inside) chain where
  isCandidate := best.isCandidate.2
  precedes other isChain := by
    cases other with
    | nil =>
      obtain ⟨later, rfl⟩ := List.head?_eq_some_iff.mp best.isCandidate.1
      exact .inl (by simp)
    | cons second tail =>
      obtain ⟨rest, ofSecond, against⟩ := chosen second (isChain.contained second List.mem_cons_self)
      exact best.before different ofSecond against ⟨rfl, isChain⟩

end Chains

section Selection

variable {Node : Type u} {Key : Type v} [LinearOrder Key] {key : Node → Key} {value : Node → Nat}
  {nodes seen : List Node} {node : Node} {best : Nat × Option Node}

/-- One step of a loop that keeps the node of the greatest value, and of several the least by key. -/
def choose (key : Node → Key) (value : Node → Nat) (best : Nat × Option Node) (node : Node) : Nat × Option Node :=
  if best.1 < value node ∨ value node = best.1 ∧ best.2.any (fun kept => key node < key kept) then (value node, some node)
  else best

/-- What the loop has chosen of the nodes seen so far. A node without value is never chosen. -/
structure Chosen (key : Node → Key) (value : Node → Nat) (seen : List Node) (best : Nat × Option Node) : Prop where
  bound : ∀ node ∈ seen, value node ≤ best.1
  absent : best.2 = none → best.1 = 0
  attained : ∀ kept, best.2 = some kept →
    kept ∈ seen ∧ value kept = best.1 ∧ 0 < best.1 ∧ ∀ node ∈ seen, value node = best.1 → key kept ≤ key node

theorem Chosen.choose (chosen : Chosen key value seen best) (node : Node) :
    Chosen key value (seen ++ [node]) (choose key value best node) := by
  unfold Data.choose
  split
  · next replaces =>
      have most : best.1 ≤ value node := by
        rcases replaces with greater | ⟨same, -⟩ <;> omega
      refine ⟨fun other member => ?_, nofun, ?_⟩
      · rcases List.mem_append.mp member with earlier | last
        · exact (chosen.bound other earlier).trans most
        · rw [List.mem_singleton.mp last]
      · rintro _ ⟨⟩
        refine ⟨by simp, rfl, ?_, fun other member same => ?_⟩
        · rcases replaces with greater | ⟨same, less⟩
          · exact Nat.zero_lt_of_lt greater
          · obtain ⟨kept, isKept, -⟩ := Option.any_eq_true _ _ |>.mp less
            exact same ▸ (chosen.attained kept isKept).2.2.1
        · rcases List.mem_append.mp member with earlier | last
          · rcases replaces with greater | ⟨level, less⟩
            · have bound := chosen.bound other earlier
              omega
            · obtain ⟨kept, isKept, less⟩ := Option.any_eq_true _ _ |>.mp less
              have least := (chosen.attained kept isKept).2.2.2 other earlier (same.trans level)
              exact (of_decide_eq_true less).le.trans least
          · rw [List.mem_singleton.mp last]
  · next keeps =>
      rw [not_or, not_lt, not_and] at keeps
      refine ⟨fun other member => ?_, chosen.absent, fun kept isKept => ?_⟩
      · rcases List.mem_append.mp member with earlier | last
        · exact chosen.bound other earlier
        · rw [List.mem_singleton.mp last]
          exact keeps.1
      · obtain ⟨inSeen, same, positive, least⟩ := chosen.attained kept isKept
        refine ⟨List.mem_append_left _ inSeen, same, positive, fun other member level => ?_⟩
        rcases List.mem_append.mp member with earlier | last
        · exact least other earlier level
        · obtain rfl := List.mem_singleton.mp last
          have above := keeps.2 level
          rw [isKept, Option.any_some, decide_eq_true_eq, not_lt] at above
          exact above

theorem choose_spec (nodes : List Node) : Chosen key value nodes (nodes.foldl (choose key value) (0, none)) := by
  have run : ∀ seen best, Chosen key value seen best →
      Chosen key value (seen ++ nodes) (nodes.foldl (Data.choose key value) best) := by
    induction nodes with
    | nil => simp
    | cons node nodes ih =>
      intro seen best chosen
      have later := ih _ _ (chosen.choose node)
      rwa [List.append_assoc] at later
  exact run [] _ ⟨nofun, fun _ => rfl, nofun⟩

end Selection

section Cycles

variable {Node : Type u} {next : Node → Node → Prop} {nodes : List Node} {node : Node}

def BehindCycle (next : Node → Node → Prop) (node : Node) : Prop :=
  ∃ origin, TransGen next origin origin ∧ ReflTransGen next origin node

theorem behindCycle_of_preceded (preceded : ∀ node ∈ nodes, ∃ origin ∈ nodes, next origin node) (member : node ∈ nodes) :
    BehindCycle next node := by
  by_contra free
  let Ancestor := {origin // origin ∈ nodes ∧ ReflTransGen next origin node}
  have finite : Finite Ancestor := (nodes.finite_toSet.subset fun origin here => here.1).to_subtype
  let earlier : Ancestor → Ancestor → Prop := fun left right => TransGen next left.1 right.1
  have transitive : IsTrans Ancestor earlier := ⟨fun _ _ _ => TransGen.trans⟩
  have irreflexive : Std.Irrefl earlier := ⟨fun origin cycle => free ⟨origin.1, cycle, origin.2.2⟩⟩
  have founded := Finite.wellFounded_of_trans_of_irrefl earlier
  obtain ⟨⟨first, inNodes, leads⟩, -, least⟩ := founded.has_min Set.univ ⟨⟨node, member, .refl⟩, trivial⟩
  obtain ⟨origin, inOrigin, edge⟩ := preceded first inNodes
  exact least ⟨origin, inOrigin, leads.head edge⟩ trivial (.single edge)

theorem Topological.free {depends : Node → Node → Prop} (ordered : Topological depends nodes) (member : node ∈ nodes) :
    ¬BehindCycle (fun origin node => depends node origin) node := by
  rintro ⟨origin, cycle, leads⟩
  have inNodes := ordered.reaches member (Relation.reflTransGen_swap.mpr leads)
  exact ordered.acyclic inNodes (Relation.transGen_swap.mpr cycle)

end Cycles

end AiOffice.Data
