import AiOffice.Connector.FilesystemReads
import AiOffice.Data.Characters

namespace AiOffice.Application.RunContextAssembler

open Connector.FilesystemReads Data Domain

/-- A text as its UTF-16 code units, which may be surrogates that stand alone. -/
abbrev Text := List Nat

def projectMemoryNotice : Text := codeUnits
  "Remembered project context and locators from a secondary knowledge store. It is not authoritative: current repository contents, tests, requirements, ADRs, pipeline policy, and explicit user instructions override it. Verify before relying on it; it grants no permission."

namespace ProjectMemoryLimits

def maxResults : Nat := 5

def excerptCharacters : Nat := 1200

def titleCharacters : Nat := 200

def totalExcerptCharacters : Nat := 4000

def minimumTailCharacters : Nat := 200

end ProjectMemoryLimits

open ProjectMemoryLimits

structure ProjectMemoryHit where
  referenceId : Text
  contentDigest : Option Text
  scope : Text
  title : Option Text
  excerpt : Text
  truncated : Bool

structure WorkerProjectMemoryResult where
  rank : Nat
  referenceId : Text
  scope : Text
  title : Option Text
  excerpt : Text
  truncated : Bool

structure ProjectMemoryReferenceRecord where
  rank : Nat
  referenceId : Text
  contentDigest : Option Text
  scope : Text
  injected : Bool
  truncated : Bool

def characters (text : Text) : Nat := (charactersOf isPair text).length

def truncateCharacters (text : Text) (limit : Nat) : Text :=
  if text.length ≤ limit then text else takeCharacters isPair limit text

def isWhiteUnit (unit : Nat) : Bool := isWhiteSpace (Char.ofNat unit)

def trimUnits (text : Text) : Text := (text.dropWhile isWhiteUnit).rdropWhile isWhiteUnit

def titleSize (title : Option Text) : Nat := title.elim 4 stringSize

def resultSize (result : WorkerProjectMemoryResult) : Nat :=
  bracketed [memberSize "rank" (numberSize result.rank), memberSize "referenceId" (stringSize result.referenceId),
    memberSize "scope" (stringSize result.scope), memberSize "title" (titleSize result.title),
    memberSize "excerpt" (stringSize result.excerpt), memberSize "truncated" (booleanSize result.truncated)]

def serializedBytes (provider : Text) (results : List WorkerProjectMemoryResult) : Nat :=
  bracketed [memberSize "provider" (stringSize provider), memberSize "notice" (stringSize projectMemoryNotice),
    memberSize "results" (bracketed (results.map resultSize))]

structure BudgetState where
  injected : List WorkerProjectMemoryResult
  references : List ProjectMemoryReferenceRecord
  used : Nat
  exhausted : Bool

def cappedExcerpt (hit : ProjectMemoryHit) : Text := truncateCharacters hit.excerpt excerptCharacters

/-- What a hit would add, where its excerpt may have to be shortened to the characters that remain. -/
def candidateFor (hit : ProjectMemoryHit) (rank : Nat) (remaining : Int) (shortens : Bool) : WorkerProjectMemoryResult :=
  let capped := cappedExcerpt hit
  { rank
    referenceId := hit.referenceId
    scope := hit.scope
    title := hit.title.map fun title => truncateCharacters title titleCharacters
    excerpt := if shortens then truncateCharacters capped remaining.toNat else capped
    truncated := shortens || hit.truncated || capped ≠ hit.excerpt }

def applyHit (provider : Text) (maxBytes : Int) (state : BudgetState) (ranked : ProjectMemoryHit × Nat) : BudgetState :=
  let hit := ranked.1
  let rank := ranked.2 + 1
  let remaining : Int := totalExcerptCharacters - state.used
  let exceeds := !state.exhausted && remaining < characters (cappedExcerpt hit)
  let shortens := exceeds && minimumTailCharacters ≤ remaining
  let candidate := candidateFor hit rank remaining shortens
  let exhausted := state.exhausted || exceeds && !shortens ||
    maxBytes < serializedBytes provider (state.injected ++ [candidate])
  let included := !exhausted && trimUnits candidate.excerpt ≠ []
  { injected := if included then state.injected ++ [candidate] else state.injected
    references := state.references ++
      [⟨rank, hit.referenceId, hit.contentDigest, hit.scope, included, included && candidate.truncated⟩]
    used := if included then state.used + characters candidate.excerpt else state.used
    exhausted }

def applyProjectMemoryBudget (hits : List ProjectMemoryHit) (provider : Text) (maxBytes : Int) : BudgetState :=
  (hits.take maxResults).zipIdx.foldl (applyHit provider maxBytes) ⟨[], [], 0, false⟩

section Excerpts

variable {text excerpt : Text} {hit : ProjectMemoryHit} {rank limit : Nat} {remaining : Int} {shortens : Bool}

theorem truncateCharacters_eq (text : Text) (limit : Nat) : truncateCharacters text limit = takeCharacters isPair limit text := by
  rw [truncateCharacters]
  split
  · next short => exact (takeCharacters_long ((characters_le_length text).trans short)).symm
  · rfl

theorem characters_truncate (text : Text) (limit : Nat) :
    characters (truncateCharacters text limit) = min limit (characters text) := by
  rw [truncateCharacters_eq, characters, charactersOf_takeCharacters, List.length_take, characters]

theorem isPair_apart (first second third : Nat) (paired : isPair first second = true) : isPair second third = false := by
  simp only [isPair, Bool.and_eq_true, decide_eq_true_eq, Bool.and_eq_false_iff, decide_eq_false_iff_not] at paired ⊢
  omega

/-- The start of a text, up to a place that lies between no two surrogates of a pair. -/
structure WholePrefix (excerpt text : Text) : Prop where
  starts : excerpt <+: text
  whole : ∀ before high low after, text = before ++ high :: low :: after → excerpt = before ++ [high] →
    isPair high low = false

theorem wholePrefix_take (limit : Nat) (text : Text) : WholePrefix (takeCharacters isPair limit text) text where
  starts := takeCharacters_initial limit text
  whole _ _ _ _ same cut := takeCharacters_whole isPair_apart same cut

theorem takeCharacters_take (text : Text) (first second : Nat) :
    takeCharacters isPair second (takeCharacters isPair first text) = takeCharacters isPair (min second first) text := by
  rw [takeCharacters, charactersOf_takeCharacters, List.take_take, takeCharacters]

structure ShowsOf (hit : ProjectMemoryHit) (result : WorkerProjectMemoryResult) : Prop where
  excerpt : WholePrefix result.excerpt hit.excerpt
  complete : result.truncated = false → result.excerpt = hit.excerpt
  referenceId : result.referenceId = hit.referenceId
  scope : result.scope = hit.scope

theorem candidateFor_shows (hit : ProjectMemoryHit) (rank : Nat) (remaining : Int) (shortens : Bool) :
    ShowsOf hit (candidateFor hit rank remaining shortens) where
  excerpt := by
    simp only [candidateFor, cappedExcerpt, truncateCharacters_eq, takeCharacters_take]
    split <;> exact wholePrefix_take _ _
  complete := by
    simp only [candidateFor, Bool.or_eq_false_iff, decide_eq_false_iff_not, not_not]
    rintro ⟨⟨rfl, -⟩, same⟩
    exact same
  referenceId := rfl
  scope := rfl

end Excerpts

section Budget

variable {provider : Text} {maxBytes : Int} {hits : List ProjectMemoryHit} {hit : ProjectMemoryHit} {state : BudgetState}
  {earlier : List WorkerProjectMemoryResult} {rank : Nat}

def spent (injected : List WorkerProjectMemoryResult) : Nat := (injected.map fun result => characters result.excerpt).sum

def room (earlier : List WorkerProjectMemoryResult) : Int := totalExcerptCharacters - spent earlier

/-- What a hit adds behind the results before it: an excerpt that is too long is shortened when enough of it is left. -/
def candidateBehind (earlier : List WorkerProjectMemoryResult) (hit : ProjectMemoryHit) (rank : Nat) :
    WorkerProjectMemoryResult :=
  candidateFor hit rank (room earlier)
    (room earlier < characters (cappedExcerpt hit) && minimumTailCharacters ≤ room earlier)

/-- Both budgets have room for a hit behind the results before it. -/
structure HasRoom (provider : Text) (maxBytes : Int) (earlier : List WorkerProjectMemoryResult) (hit : ProjectMemoryHit)
    (rank : Nat) : Prop where
  characters : characters (cappedExcerpt hit) ≤ room earlier ∨ minimumTailCharacters ≤ room earlier
  bytes : serializedBytes provider (earlier ++ [candidateBehind earlier hit rank]) ≤ maxBytes

theorem candidateBehind_fits (roomy : characters (cappedExcerpt hit) ≤ room earlier ∨ minimumTailCharacters ≤ room earlier) :
    characters (candidateBehind earlier hit rank).excerpt ≤ room earlier := by
  simp only [candidateBehind, candidateFor]
  split
  · next shortens =>
      simp only [Bool.and_eq_true, decide_eq_true_eq] at shortens
      rw [characters_truncate]
      omega
  · next keeps =>
      simp only [Bool.and_eq_true, decide_eq_true_eq] at keeps
      omega

def skip (state : BudgetState) (hit : ProjectMemoryHit) (index : Nat) (exhausted : Bool) : BudgetState :=
  { state with
    references := state.references ++ [⟨index + 1, hit.referenceId, hit.contentDigest, hit.scope, false, false⟩]
    exhausted }

def inject (state : BudgetState) (hit : ProjectMemoryHit) (candidate : WorkerProjectMemoryResult) : BudgetState :=
  { injected := state.injected ++ [candidate]
    references := state.references ++
      [⟨candidate.rank, hit.referenceId, hit.contentDigest, hit.scope, true, candidate.truncated⟩]
    used := state.used + characters candidate.excerpt
    exhausted := false }

def exhausts (provider : Text) (maxBytes : Int) (earlier : List WorkerProjectMemoryResult) (hit : ProjectMemoryHit)
    (rank : Nat) : Bool :=
  let exceeds := decide (room earlier < characters (cappedExcerpt hit))
  exceeds && !(exceeds && minimumTailCharacters ≤ room earlier) ||
    maxBytes < serializedBytes provider (earlier ++ [candidateBehind earlier hit rank])

theorem exhausts_iff : exhausts provider maxBytes earlier hit rank = true ↔ ¬HasRoom provider maxBytes earlier hit rank := by
  rw [exhausts, Bool.or_eq_true, decide_eq_true_eq]
  simp only [Bool.and_eq_true, Bool.not_eq_true', Bool.and_eq_false_iff, decide_eq_true_eq, decide_eq_false_iff_not]
  constructor
  · rintro exceeded ⟨roomy, bytes⟩
    omega
  · intro full
    by_contra within
    exact full ⟨by omega, by omega⟩

theorem applyHit_open (injected : List WorkerProjectMemoryResult) (references : List ProjectMemoryReferenceRecord) (index : Nat) :
    applyHit provider maxBytes ⟨injected, references, spent injected, false⟩ (hit, index) =
      let candidate := candidateBehind injected hit (index + 1)
      let exhausted := exhausts provider maxBytes injected hit (index + 1)
      let included := !exhausted && trimUnits candidate.excerpt ≠ []
      { injected := if included then injected ++ [candidate] else injected
        references := references ++
          [⟨candidate.rank, hit.referenceId, hit.contentDigest, hit.scope, included, included && candidate.truncated⟩]
        used := if included then spent injected + characters candidate.excerpt else spent injected
        exhausted } := by
  have remaining : (totalExcerptCharacters : Int) - spent injected = room injected := rfl
  simp only [applyHit, remaining, Bool.not_false, Bool.true_and, Bool.false_or]
  rfl

theorem applyHit_cases (counted : state.used = spent state.injected) (index : Nat) :
    ((state.exhausted = true ∨ ¬HasRoom provider maxBytes state.injected hit (index + 1)) ∧
      applyHit provider maxBytes state (hit, index) = skip state hit index true) ∨
    (state.exhausted = false ∧ HasRoom provider maxBytes state.injected hit (index + 1) ∧
      ((trimUnits (candidateBehind state.injected hit (index + 1)).excerpt = [] ∧
        applyHit provider maxBytes state (hit, index) = skip state hit index false) ∨
      (trimUnits (candidateBehind state.injected hit (index + 1)).excerpt ≠ [] ∧
        applyHit provider maxBytes state (hit, index) =
          inject state hit (candidateBehind state.injected hit (index + 1))))) := by
  obtain ⟨injected, references, used, exhausted⟩ := state
  obtain rfl : used = spent injected := counted
  cases exhausted with
  | true => exact .inl ⟨.inl rfl, by simp [applyHit, skip]⟩
  | false =>
    have rank : (candidateBehind injected hit (index + 1)).rank = index + 1 := rfl
    rw [applyHit_open]
    by_cases full : exhausts provider maxBytes injected hit (index + 1) = true
    · exact .inl ⟨.inr (exhausts_iff.mp full), by simp [full, skip, rank]⟩
    · refine .inr ⟨rfl, not_not.mp (exhausts_iff.not.mp full), ?_⟩
      by_cases blank : trimUnits (candidateBehind injected hit (index + 1)).excerpt = []
      · exact .inl ⟨blank, by simp [full, blank, skip, rank]⟩
      · exact .inr ⟨blank, by simp [full, blank, inject]⟩

def before (injected : List WorkerProjectMemoryResult) (index : Nat) : List WorkerProjectMemoryResult :=
  injected.filter fun result => result.rank ≤ index

/-- A budget has no room for a hit behind the results of the hits before it. -/
def Overflows (provider : Text) (maxBytes : Int) (hits : List ProjectMemoryHit) (injected : List WorkerProjectMemoryResult)
    (index : Nat) : Prop :=
  ∃ hit, hits[index]? = some hit ∧ ¬HasRoom provider maxBytes (before injected index) hit (index + 1)

/-- What holds of the results and references of the hits so far. -/
structure WithinBudget (provider : Text) (maxBytes : Int) (hits : List ProjectMemoryHit) (budget : BudgetState) : Prop where
  counted : budget.used = spent budget.injected
  characters : spent budget.injected ≤ totalExcerptCharacters
  bytes : budget.injected ≠ [] → serializedBytes provider budget.injected ≤ maxBytes
  shown : ∀ result ∈ budget.injected, 0 < result.rank ∧ ∃ hit, hits[result.rank - 1]? = some hit ∧ ShowsOf hit result
  ascending : (budget.injected.map WorkerProjectMemoryResult.rank).Pairwise (· < ·)
  ends : ∀ index, Overflows provider maxBytes hits budget.injected index →
    budget.exhausted = true ∧ ∀ result ∈ budget.injected, result.rank ≤ index
  exhausted : budget.exhausted = true → ∃ index, Overflows provider maxBytes hits budget.injected index
  dropped : ∀ index hit, hits[index]? = some hit → (∀ result ∈ budget.injected, result.rank ≠ index + 1) →
    (∃ earlier ≤ index, Overflows provider maxBytes hits budget.injected earlier) ∨
      trimUnits (candidateBehind (before budget.injected index) hit (index + 1)).excerpt = []
  references : (budget.references.map fun record => (record.rank, record.referenceId, record.contentDigest, record.scope)) =
    hits.zipIdx.map fun ranked => (ranked.2 + 1, ranked.1.referenceId, ranked.1.contentDigest, ranked.1.scope)
  flagged : ∀ record ∈ budget.references, record.injected = true ↔
    ∃ result ∈ budget.injected, result.rank = record.rank

theorem WithinBudget.start : WithinBudget provider maxBytes [] ⟨[], [], 0, false⟩ where
  counted := rfl
  characters := Nat.zero_le _
  bytes := nofun
  shown := nofun
  ascending := .nil
  ends index := by simp [Overflows]
  exhausted := nofun
  dropped index hit := by simp
  references := rfl
  flagged := nofun

theorem WithinBudget.rank_le (kept : WithinBudget provider maxBytes hits state) {result : WorkerProjectMemoryResult}
    (member : result ∈ state.injected) : result.rank ≤ hits.length := by
  obtain ⟨positive, hit, known, -⟩ := kept.shown result member
  obtain ⟨inside, -⟩ := List.getElem?_eq_some_iff.mp known
  omega

theorem WithinBudget.record_le (kept : WithinBudget provider maxBytes hits state) {record : ProjectMemoryReferenceRecord}
    (member : record ∈ state.references) : record.rank ≤ hits.length := by
  have inMap := List.mem_map_of_mem (f := fun record : ProjectMemoryReferenceRecord =>
    (record.rank, record.referenceId, record.contentDigest, record.scope)) member
  rw [kept.references] at inMap
  obtain ⟨ranked, inHits, same⟩ := List.mem_map.mp inMap
  have index := List.snd_lt_of_mem_zipIdx inHits
  simp only [Prod.mk.injEq] at same
  omega

theorem WithinBudget.before_all (kept : WithinBudget provider maxBytes hits state) :
    before state.injected hits.length = state.injected :=
  List.filter_eq_self.mpr fun _ member => by simpa using kept.rank_le member

theorem overflows_snoc {injected : List WorkerProjectMemoryResult}
    (same : ∀ index ≤ hits.length, before injected index = before earlier index) (index : Nat) :
    Overflows provider maxBytes (hits ++ [hit]) injected index ↔
      Overflows provider maxBytes hits earlier index ∨
        index = hits.length ∧ ¬HasRoom provider maxBytes (before earlier index) hit (index + 1) := by
  unfold Overflows
  rcases Nat.lt_trichotomy index hits.length with inside | last | outside
  · rw [List.getElem?_append_left inside, same index inside.le]
    simp [inside.ne]
  · subst last
    simp [same hits.length le_rfl]
  · rw [List.getElem?_eq_none (by simpa using Nat.succ_le_of_lt outside), List.getElem?_eq_none outside.le]
    simp [outside.ne']

theorem WithinBudget.skip (kept : WithinBudget provider maxBytes hits state) {exhausted : Bool}
    (whether : exhausted = true ↔ state.exhausted = true ∨ ¬HasRoom provider maxBytes state.injected hit (hits.length + 1))
    (blank : exhausted = false → trimUnits (candidateBehind state.injected hit (hits.length + 1)).excerpt = []) :
    WithinBudget provider maxBytes (hits ++ [hit]) (skip state hit hits.length exhausted) := by
  have overflows : ∀ index, Overflows provider maxBytes (hits ++ [hit]) state.injected index ↔
      Overflows provider maxBytes hits state.injected index ∨
        index = hits.length ∧ ¬HasRoom provider maxBytes (before state.injected index) hit (index + 1) :=
    overflows_snoc fun _ _ => rfl
  refine ⟨kept.counted, kept.characters, kept.bytes, fun result member => ?_, kept.ascending, fun index => ?_, fun full => ?_,
    fun index other known absent => ?_, ?_, fun record member => ?_⟩
  · obtain ⟨positive, other, known, shows⟩ := kept.shown result member
    have inside := kept.rank_le member
    exact ⟨positive, other, by rwa [List.getElem?_append_left (by omega)], shows⟩
  · rintro exceeded
    rcases (overflows index).mp exceeded with earlier | ⟨rfl, full⟩
    · obtain ⟨ended, bound⟩ := kept.ends index earlier
      exact ⟨whether.mpr (.inl ended), bound⟩
    · rw [kept.before_all] at full
      exact ⟨whether.mpr (.inr full), fun result member => kept.rank_le member⟩
  · rcases whether.mp full with ended | roomless
    · obtain ⟨index, exceeded⟩ := kept.exhausted ended
      exact ⟨index, (overflows index).mpr (.inl exceeded)⟩
    · exact ⟨hits.length, (overflows _).mpr (.inr ⟨rfl, by rwa [kept.before_all]⟩)⟩
  · rcases Nat.lt_or_eq_of_le (Nat.le_of_lt_succ (by
      simpa using (List.getElem?_eq_some_iff.mp known).1 : index < hits.length + 1)) with inside | rfl
    · rw [List.getElem?_append_left inside] at known
      rcases kept.dropped index other known absent with ⟨earlier, bound, exceeded⟩ | empty
      · exact .inl ⟨earlier, bound, (overflows earlier).mpr (.inl exceeded)⟩
      · exact .inr empty
    · obtain rfl : hit = other := by simpa using known
      cases exhausted with
      | true =>
        rcases whether.mp rfl with ended | roomless
        · obtain ⟨index, exceeded⟩ := kept.exhausted ended
          refine .inl ⟨index, ?_, (overflows index).mpr (.inl exceeded)⟩
          obtain ⟨_, known, _⟩ := exceeded
          exact (List.getElem?_eq_some_iff.mp known).1.le
        · exact .inl ⟨hits.length, le_rfl, (overflows _).mpr (.inr ⟨rfl, by rwa [kept.before_all]⟩)⟩
      | false =>
        right
        change trimUnits (candidateBehind (before state.injected hits.length) hit (hits.length + 1)).excerpt = []
        rw [kept.before_all]
        exact blank rfl
  · rw [RunContextAssembler.skip, List.map_append, kept.references]
    simp [List.zipIdx_append]
  · rcases List.mem_append.mp member with old | new
    · exact kept.flagged record old
    · rw [List.mem_singleton.mp new]
      refine ⟨nofun, ?_⟩
      rintro ⟨result, inInjected, same⟩
      have bound := kept.rank_le inInjected
      simp only at same
      omega

theorem WithinBudget.inject (kept : WithinBudget provider maxBytes hits state) (continues : state.exhausted = false)
    (roomy : HasRoom provider maxBytes state.injected hit (hits.length + 1)) :
    WithinBudget provider maxBytes (hits ++ [hit])
      (inject state hit (candidateBehind state.injected hit (hits.length + 1))) := by
  have bound := @candidateBehind_fits _ _ (hits.length + 1) roomy.characters
  have shows : ShowsOf hit (candidateBehind state.injected hit (hits.length + 1)) := candidateFor_shows hit _ _ _
  have bytes := roomy.bytes
  have rank : (candidateBehind state.injected hit (hits.length + 1)).rank = hits.length + 1 := rfl
  generalize candidateBehind state.injected hit (hits.length + 1) = candidate at bound shows bytes rank ⊢
  have total : spent (state.injected ++ [candidate]) = spent state.injected + RunContextAssembler.characters candidate.excerpt := by
    simp [spent]
  have same : ∀ index ≤ hits.length, before (state.injected ++ [candidate]) index = before state.injected index := by
    intro index inside
    rw [before, List.filter_append, before]
    simpa [rank] using Nat.lt_succ_of_le inside
  have none : ∀ index, ¬Overflows provider maxBytes (hits ++ [hit]) (state.injected ++ [candidate]) index := by
    intro index exceeded
    rcases (overflows_snoc same index).mp exceeded with earlier | ⟨rfl, full⟩
    · rw [(kept.ends index earlier).1] at continues
      cases continues
    · rw [kept.before_all] at full
      exact full roomy
  refine ⟨?_, ?_, fun _ => bytes, fun result member => ?_, ?_, fun index exceeded => absurd exceeded (none index), nofun,
    fun index other known absent => ?_, ?_, fun record member => ?_⟩
  · rw [RunContextAssembler.inject, total, kept.counted]
  · rw [RunContextAssembler.inject, total]
    rw [room] at bound
    omega
  · rcases List.mem_append.mp member with old | new
    · obtain ⟨positive, other, known, ofHit⟩ := kept.shown result old
      have inside := kept.rank_le old
      exact ⟨positive, other, by rwa [List.getElem?_append_left (by omega)], ofHit⟩
    · obtain rfl := List.mem_singleton.mp new
      exact ⟨by omega, hit, by simp [rank], shows⟩
  · rw [RunContextAssembler.inject, List.map_append, List.pairwise_append]
    refine ⟨kept.ascending, List.pairwise_singleton _ _, fun earlier inEarlier last isLast => ?_⟩
    obtain ⟨result, inInjected, rfl⟩ := List.mem_map.mp inEarlier
    have inside := kept.rank_le inInjected
    rw [List.mem_singleton.mp isLast, rank]
    omega
  · have inside : index < hits.length + 1 := by simpa using (List.getElem?_eq_some_iff.mp known).1
    have missing := absent candidate (List.mem_append_right _ (List.mem_singleton_self candidate))
    rw [List.getElem?_append_left (by omega)] at known
    have old := kept.dropped index other known fun result member => absent result (List.mem_append_left _ member)
    rcases old with ⟨earlier, -, exceeded⟩ | empty
    · rw [(kept.ends earlier exceeded).1] at continues
      cases continues
    · refine .inr ?_
      change trimUnits (candidateBehind (before (state.injected ++ [candidate]) index) other (index + 1)).excerpt = []
      rwa [same index (by omega)]
  · rw [RunContextAssembler.inject, List.map_append, kept.references]
    simp [List.zipIdx_append, rank]
  · rcases List.mem_append.mp member with old | new
    · have inside := kept.record_le old
      rw [kept.flagged record old, RunContextAssembler.inject]
      simp only [List.mem_append, List.mem_singleton, or_and_right, exists_or, exists_eq_left]
      constructor
      · exact .inl
      · rintro (held | last)
        · exact held
        · omega
    · rw [List.mem_singleton.mp new]
      exact ⟨fun _ => ⟨candidate, List.mem_append_right _ (List.mem_singleton_self candidate), rfl⟩, fun _ => rfl⟩

theorem WithinBudget.step (kept : WithinBudget provider maxBytes hits state) (hit : ProjectMemoryHit) :
    WithinBudget provider maxBytes (hits ++ [hit]) (applyHit provider maxBytes state (hit, hits.length)) := by
  rcases @applyHit_cases provider maxBytes hit _ kept.counted hits.length with
    ⟨full, same⟩ | ⟨continues, roomy, ⟨blank, same⟩ | ⟨-, same⟩⟩
  · rw [same]
    exact kept.skip ⟨fun _ => full, fun _ => rfl⟩ nofun
  · rw [same]
    refine kept.skip ⟨nofun, ?_⟩ fun _ => blank
    rintro (ended | roomless)
    · rw [ended] at continues
      cases continues
    · exact absurd roomy roomless
  · rw [same]
    exact kept.inject continues roomy

/-- Whatever the hits and the bound on the bytes, what is injected stays within both budgets. -/
theorem applyProjectMemoryBudget_within (hits : List ProjectMemoryHit) (provider : Text) (maxBytes : Int) :
    WithinBudget provider maxBytes (hits.take maxResults) (applyProjectMemoryBudget hits provider maxBytes) := by
  rw [applyProjectMemoryBudget]
  induction hits.take maxResults using List.reverseRecOn with
  | nil => exact .start
  | append_singleton considered hit ih =>
    rw [List.zipIdx_append, List.foldl_append]
    simpa using ih.step hit

end Budget

end AiOffice.Application.RunContextAssembler
