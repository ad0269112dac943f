import AiOffice.Application.DomainPack.ResolveInstalledPacks
import AiOffice.Data.Topological

namespace AiOffice.Application.DomainPack

open Data Outcome Domain DomainPackContracts Relation

namespace InstalledPackCatalog

variable (catalog : InstalledPackCatalog)

def Loads (pack : PackIdentity) (manifest : DomainPackManifest) : Prop :=
  catalog.load pack.id pack.version = .ok (some manifest) ∧ manifest.identity = pack

def Depends (pack dependency : PackIdentity) : Prop :=
  ∃ manifest, catalog.Loads pack manifest ∧ dependency ∈ manifest.dependencies

def Reaches (requested : List PackIdentity) (pack : PackIdentity) : Prop :=
  ∃ root ∈ requested, ReflTransGen catalog.Depends root pack

/-- Every pack that is reached loads, none depends on itself, and no id is reached twice. -/
structure Resolvable (requested : List PackIdentity) : Prop where
  loads : ∀ pack, catalog.Reaches requested pack → ∃ manifest, catalog.Loads pack manifest
  acyclic : ∀ pack, catalog.Reaches requested pack → ¬ TransGen catalog.Depends pack pack
  single : ∀ pack other, catalog.Reaches requested pack → catalog.Reaches requested other →
    pack.id = other.id → pack = other

end InstalledPackCatalog

variable {catalog : InstalledPackCatalog} {visiting packs others requested : List PackIdentity} {pack : PackIdentity}
  {walk middle after : Walk} {fuel : Nat} {manifest : DomainPackManifest} {hasParent : Bool}
  {closure : List DomainPackManifest}

theorem locate_iff : catalog.locate hasParent pack = .ok manifest ↔ catalog.Loads pack manifest := by
  constructor
  · intro located
    refine ⟨?_, locate_identity located⟩
    obtain ⟨found, loaded, located⟩ := bind_ok located
    cases found with
    | none => cases located
    | some entry =>
      obtain ⟨-, located⟩ := guard_ok located
      obtain ⟨-, located⟩ := guard_ok located
      cases located
      exact loaded
  · rintro ⟨loaded, rfl⟩
    change (catalog.load manifest.id manifest.version).bind _ = _
    have loaded : catalog.load manifest.id manifest.version = .ok (some manifest) := loaded
    rw [loaded]
    simp [Except.bind, DomainPackManifest.identity]

theorem Loads.unique {manifest other : DomainPackManifest} (first : catalog.Loads pack manifest)
    (second : catalog.Loads pack other) : manifest = other :=
  Option.some.inj (Except.ok.inj (first.1.symm.trans second.1))

theorem Reaches.follow (reached : catalog.Reaches requested pack) {dependency : PackIdentity}
    (edge : catalog.Depends pack dependency) : catalog.Reaches requested dependency := by
  obtain ⟨root, member, path⟩ := reached
  exact ⟨root, member, path.tail edge⟩

section Visits

/-- What a visit keeps: what holds when a pack is selected, and when it is resolved behind its dependencies. The packs
that are visited are targets, and so are their dependencies. -/
structure Keeps (catalog : InstalledPackCatalog) (target : PackIdentity → Prop) (holds : Walk → Prop) : Prop where
  follow : ∀ pack manifest, target pack → catalog.Loads pack manifest → ∀ dependency ∈ manifest.dependencies,
    target dependency
  select : ∀ pack walk, target pack → holds walk → holds { walk with selected := pack :: walk.selected }
  resolve : ∀ pack manifest walk, target pack → catalog.Loads pack manifest →
    (∀ dependency ∈ manifest.dependencies, dependency ∈ walk.identities) → holds walk →
    holds { walk with resolved := walk.resolved ++ [manifest] }

variable {target : PackIdentity → Prop} {holds : Walk → Prop}

theorem visits_keep (each : ∀ pack walk after, target pack → holds walk →
      visit catalog fuel visiting pack walk = .ok after → holds after) (targets : ∀ pack ∈ packs, target pack)
    (walked : packs.foldlM (fun walk pack => visit catalog fuel visiting pack walk) walk = .ok after)
    (before : holds walk) : holds after := by
  induction packs generalizing walk with
  | nil =>
    cases walked
    exact before
  | cons pack packs ih =>
    rw [List.foldlM_cons] at walked
    obtain ⟨middle, visited, walked⟩ := bind_ok walked
    obtain ⟨here, later⟩ := List.forall_mem_cons.mp targets
    exact ih later walked (each pack walk middle here before visited)

theorem visit_keeps (keeps : Keeps catalog target holds) (wanted : target pack) (before : holds walk)
    (visited : visit catalog fuel visiting pack walk = .ok after) : holds after := by
  induction fuel generalizing visiting pack walk after with
  | zero => cases visited
  | succ fuel ih =>
    rw [visit] at visited
    obtain ⟨-, visited⟩ := guard_ok visited
    obtain ⟨-, visited⟩ := guard_ok visited
    have selected := keeps.select pack walk wanted before
    split at visited
    · cases visited
      exact selected
    · obtain ⟨manifest, located, visited⟩ := bind_ok visited
      obtain ⟨inside, walked, visited⟩ := bind_ok visited
      cases visited
      have loads := locate_iff.mp located
      have targets := keeps.follow pack manifest wanted loads
      have sorted (dependency : PackIdentity) : dependency ∈ sortedPacks manifest.dependencies ↔
          dependency ∈ manifest.dependencies := mem_sortOn
      have inner := visits_keep (fun _ _ _ => ih) (fun dependency member => targets dependency
        ((sorted dependency).mp member)) walked selected
      have covered := (visits_grown (fun _ _ _ => visit_grown) walked).2
      exact keeps.resolve pack manifest inside wanted loads
        (fun dependency member => covered dependency ((sorted dependency).mpr member)) inner

theorem identities_snoc (loads : catalog.Loads pack manifest) :
    Walk.identities { walk with resolved := walk.resolved ++ [manifest] } = walk.identities ++ [pack] := by
  simp [Walk.identities, loads.2]

theorem keeps_topological : Keeps catalog (fun _ => True) fun walk => Topological catalog.Depends walk.identities where
  follow := fun _ _ _ _ _ _ => trivial
  select := fun _ _ _ ordered => ordered
  resolve := by
    intro pack manifest walk _ loads done ordered
    rw [identities_snoc loads]
    refine ordered.snoc ?_
    rintro other ⟨found, again, member⟩
    rw [← Loads.unique loads again] at member
    exact done other member

theorem keeps_reached : Keeps catalog (catalog.Reaches requested) fun walk =>
    (∀ pack ∈ walk.selected, catalog.Reaches requested pack) ∧
      ∀ pack ∈ walk.identities, catalog.Reaches requested pack where
  follow := fun pack manifest reached loads dependency member => Reaches.follow reached ⟨manifest, loads, member⟩
  select := by
    rintro pack walk reached ⟨selected, resolved⟩
    exact ⟨List.forall_mem_cons.mpr ⟨reached, selected⟩, resolved⟩
  resolve := by
    rintro pack manifest walk reached loads - ⟨selected, resolved⟩
    refine ⟨selected, ?_⟩
    rw [identities_snoc loads]
    intro other member
    rcases List.mem_append.mp member with before | last
    · exact resolved other before
    · rw [List.mem_singleton.mp last]
      exact reached

end Visits

section Returns

/-- Where the reached packs can be resolved, no visit of one of them throws: it conflicts with none that was selected,
none that is being visited depends on it in turn, and it loads. -/
theorem visit_returns (resolvable : catalog.Resolvable requested) (enough : unvisited catalog visiting < fuel)
    (reached : catalog.Reaches requested pack)
    (path : ∀ parent ∈ visiting, catalog.Reaches requested parent ∧ TransGen catalog.Depends parent pack)
    (selected : ∀ pack ∈ walk.selected, catalog.Reaches requested pack) :
    ∃ after, visit catalog fuel visiting pack walk = .ok after ∧
      ∀ pack ∈ after.selected, catalog.Reaches requested pack := by
  induction fuel generalizing visiting pack walk with
  | zero => omega
  | succ fuel ih =>
    have free : conflicts walk.selected pack = false := by
      refine List.any_eq_false.mpr fun previous member => ?_
      have same := resolvable.single previous pack (selected previous member) reached
      simpa using same
    have off : pack ∉ visiting := fun member => resolvable.acyclic pack reached (path pack member).2
    have selects : ∀ other ∈ pack :: walk.selected, catalog.Reaches requested other :=
      List.forall_mem_cons.mpr ⟨reached, selected⟩
    rw [visit, free, if_neg Bool.false_ne_true, if_neg off]
    by_cases done : pack ∈ walk.identities
    · rw [if_pos done]
      exact ⟨_, rfl, selects⟩
    · rw [if_neg done]
      obtain ⟨manifest, loads⟩ := resolvable.loads pack reached
      have located : catalog.locate (!visiting.isEmpty) pack = .ok manifest := locate_iff.mpr loads
      have fewer : unvisited catalog (pack :: visiting) < fuel := by
        obtain ⟨installed, member, named⟩ := locate_installed located
        have less : unvisited catalog (pack :: visiting) < unvisited catalog visiting := by
          unfold unvisited
          rw [List.map_cons, ← named]
          refine unseen_lt member fun visited => off ?_
          obtain ⟨other, inside, same⟩ := List.mem_map.mp visited
          rw [named, Prod.mk.injEq] at same
          rwa [resolvable.single other pack (path other inside).1 reached same.1] at inside
        omega
      have deeper (dependency : PackIdentity) (member : dependency ∈ manifest.dependencies) :
          catalog.Reaches requested dependency ∧ ∀ parent ∈ pack :: visiting,
            catalog.Reaches requested parent ∧ TransGen catalog.Depends parent dependency := by
        have edge : catalog.Depends pack dependency := ⟨manifest, loads, member⟩
        refine ⟨Reaches.follow reached edge, List.forall_mem_cons.mpr ⟨⟨reached, .single edge⟩, ?_⟩⟩
        exact fun parent inside => ⟨(path parent inside).1, (path parent inside).2.tail edge⟩
      have walks : ∃ inside, (sortedPacks manifest.dependencies).foldlM
          (fun walk dependency => visit catalog fuel (pack :: visiting) dependency walk)
          { walk with selected := pack :: walk.selected } = .ok inside ∧
            ∀ pack ∈ inside.selected, catalog.Reaches requested pack := by
        refine Outcome.foldlM_returns (fun walk dependency wanted known => ?_) selects
        obtain ⟨reachedToo, parents⟩ := deeper dependency (mem_sortOn.mp wanted)
        exact ih fewer reachedToo parents known
      obtain ⟨inside, walked, known⟩ := walks
      rw [bind_returns located, bind_returns walked]
      exact ⟨_, rfl, known⟩

theorem checkRoots_returns {earlier roots : List PackIdentity}
    (single : ∀ pack ∈ earlier ++ roots, ∀ other ∈ earlier ++ roots, pack.id = other.id → pack = other) :
    checkRoots earlier roots = .ok ⟨⟩ := by
  induction roots generalizing earlier with
  | nil => rfl
  | cons root roots ih =>
    have free : conflicts earlier root = false := by
      refine List.any_eq_false.mpr fun previous member => ?_
      have same := single previous (List.mem_append_left _ member) root (by simp)
      simpa using same
    rw [checkRoots, free, if_neg Bool.false_ne_true]
    refine ih fun pack member other memberOther => single pack ?_ other ?_ <;>
      simp_all [or_comm, or_assoc]

end Returns

def closureWithin (catalog : InstalledPackCatalog) (fuel : Nat) (requested : List PackIdentity) :
    Except CatalogError (List DomainPackManifest) := do
  let roots := sortedPacks requested
  checkRoots [] roots
  let walk ← roots.foldlM (fun walk root => visit catalog fuel [] root walk) ⟨[], []⟩
  return sortOn (fun manifest => packOrder manifest.identity) walk.resolved

theorem closureWithin_eq (enough : catalog.installed.length < fuel) :
    closureWithin catalog fuel requested = resolveVerifiedPackClosure catalog requested := by
  obtain ⟨extra, rfl⟩ : ∃ extra, fuel = catalog.installed.length + 1 + extra :=
    ⟨fuel - (catalog.installed.length + 1), by omega⟩
  induction extra with
  | zero => rfl
  | succ extra ih =>
    rw [← ih (by omega)]
    have bound : unvisited catalog [] < catalog.installed.length + 1 + extra := by
      have : unvisited catalog [] ≤ catalog.installed.length := List.countP_le_length
      omega
    have walks : (sortedPacks requested).foldlM (fun walk root =>
        visit catalog (catalog.installed.length + 1 + extra) [] root walk) ⟨[], []⟩ =
          (sortedPacks requested).foldlM (fun walk root =>
            visit catalog (catalog.installed.length + 1 + (extra + 1)) [] root walk) ⟨[], []⟩ :=
      visits_congr (fun _ _ consistent => visit_fuel bound consistent) ⟨by simp, by simp⟩
    simp only [closureWithin, walks]

/-- What a successful closure is sorted from: the packs that are reached, each behind its dependencies. -/
structure Walked (catalog : InstalledPackCatalog) (requested : List PackIdentity) (walk : Walk) : Prop where
  covers : ∀ pack, pack ∈ walk.identities ↔ catalog.Reaches requested pack
  ordered : Topological catalog.Depends walk.identities
  nodup : walk.identities.Nodup
  loads : ∀ manifest ∈ walk.resolved, catalog.Loads manifest.identity manifest
  single : ∀ pack ∈ walk.identities, ∀ other ∈ walk.identities, pack.id = other.id → pack = other

theorem closure_walked (resolved : resolveVerifiedPackClosure catalog requested = .ok closure) :
    ∃ walk, Walked catalog requested walk ∧
      closure = sortOn (fun manifest => packOrder manifest.identity) walk.resolved := by
  obtain ⟨⟨⟩, -, walks⟩ := bind_ok resolved
  obtain ⟨walk, walked, sorted⟩ := bind_ok walks
  cases sorted
  obtain ⟨grown, covered⟩ := visits_grown (fun _ _ _ => visit_grown) walked
  have ordered : Topological catalog.Depends walk.identities :=
    visits_keep (fun _ _ _ => visit_keeps keeps_topological) (fun _ _ => trivial) walked .nil
  have reached := visits_keep (fun _ _ _ => visit_keeps (@keeps_reached catalog requested))
    (fun root member => ⟨root, mem_sortOn.mp member, .refl⟩) walked ⟨by simp, by simp [Walk.identities]⟩
  have chosen := grown.chosen (by simp [Walk.identities])
  refine ⟨walk, ⟨fun pack => ⟨reached.2 pack, ?_⟩, ordered, grown.nodup List.nodup_nil, fun manifest member => ?_, ?_⟩, rfl⟩
  · rintro ⟨root, member, path⟩
    exact ordered.reaches (covered root (mem_sortOn.mpr member)) path
  · obtain ⟨hasParent, located⟩ := grown.located (by simp) manifest member
    exact locate_iff.mp located
  · exact fun pack member other memberOther =>
      grown.single (by simp) pack (chosen pack member) other (chosen other memberOther)

theorem Walked.resolvable (walked : Walked catalog requested walk) : catalog.Resolvable requested where
  loads := by
    intro pack reached
    obtain ⟨manifest, member, rfl⟩ := List.mem_map.mp ((walked.covers pack).mpr reached)
    exact ⟨manifest, walked.loads manifest member⟩
  acyclic := fun pack reached => walked.ordered.acyclic ((walked.covers pack).mpr reached)
  single := fun pack other reached reachedOther =>
    walked.single pack ((walked.covers pack).mpr reached) other ((walked.covers other).mpr reachedOther)

theorem closure_returns (resolvable : catalog.Resolvable requested) :
    ∃ closure, resolveVerifiedPackClosure catalog requested = .ok closure := by
  have roots (root : PackIdentity) (member : root ∈ sortedPacks requested) : catalog.Reaches requested root :=
    ⟨root, mem_sortOn.mp member, .refl⟩
  have checked : checkRoots [] (sortedPacks requested) = .ok ⟨⟩ :=
    checkRoots_returns fun pack member other memberOther =>
      resolvable.single pack other (roots pack member) (roots other memberOther)
  have enough : unvisited catalog [] < catalog.installed.length + 1 := Nat.lt_succ_of_le List.countP_le_length
  have walks : ∃ walk, (sortedPacks requested).foldlM
      (fun walk root => visit catalog (catalog.installed.length + 1) [] root walk) ⟨[], []⟩ = .ok walk ∧
        ∀ pack ∈ walk.selected, catalog.Reaches requested pack :=
    Outcome.foldlM_returns (fun walk root member known =>
      visit_returns resolvable enough (roots root member) (by simp) known) (by simp)
  obtain ⟨walk, walked, -⟩ := walks
  unfold resolveVerifiedPackClosure
  dsimp only
  rw [checked, bind_returns rfl, bind_returns walked]
  exact ⟨_, rfl⟩

theorem Walked.mem_resolved (walked : Walked catalog requested walk) :
    manifest ∈ walk.resolved ↔
      catalog.Reaches requested manifest.identity ∧ catalog.Loads manifest.identity manifest := by
  constructor
  · intro member
    exact ⟨(walked.covers _).mp (List.mem_map_of_mem member), walked.loads manifest member⟩
  · rintro ⟨reached, loads⟩
    obtain ⟨other, member, same⟩ := List.mem_map.mp ((walked.covers _).mpr reached)
    have loadsOther := walked.loads other member
    rw [same] at loadsOther
    rwa [Loads.unique loads loadsOther]

theorem closure_of_members (same : ∀ pack, pack ∈ others ↔ pack ∈ requested)
    (resolved : resolveVerifiedPackClosure catalog requested = .ok closure) :
    resolveVerifiedPackClosure catalog others = .ok closure := by
  have reaches : catalog.Reaches others = catalog.Reaches requested := by
    funext pack
    simp only [InstalledPackCatalog.Reaches, same]
  obtain ⟨walk, walked, rfl⟩ := closure_walked resolved
  have resolvable : catalog.Resolvable others := by
    obtain ⟨loads, acyclic, single⟩ := walked.resolvable
    constructor <;> rw [reaches] <;> assumption
  obtain ⟨closure, again⟩ := closure_returns resolvable
  obtain ⟨walkAgain, walkedAgain, rfl⟩ := closure_walked again
  rw [again]
  have members (manifest : DomainPackManifest) : manifest ∈ walkAgain.resolved ↔ manifest ∈ walk.resolved := by
    rw [walked.mem_resolved, walkedAgain.mem_resolved, reaches]
  have reordered : walkAgain.resolved.Perm walk.resolved :=
    (List.perm_ext_iff_of_nodup (List.Nodup.of_map _ walkedAgain.nodup) (List.Nodup.of_map _ walked.nodup)).mpr members
  refine congrArg Except.ok (sortOn_eq_of_keys (fun left inLeft right inRight keys => ?_) reordered)
  exact List.inj_on_of_nodup_map walkedAgain.nodup inLeft inRight (packOrder_injective keys)

theorem resolveInstalledPackManifests_eq
    (versioned : (!isSafeInteger catalog.coreContractVersion || catalog.coreContractVersion < 0) = false)
    (parsed : ∀ pack ∈ requested, parsePack pack = .ok pack) :
    resolveInstalledPackManifests catalog requested = resolveVerifiedPackClosure catalog requested := by
  obtain ⟨roots, accepted⟩ := Outcome.mapM_total fun pack member => ⟨pack, parsed pack member⟩
  rw [resolveInstalledPackManifests, versioned, if_neg Bool.false_ne_true, bind_returns accepted,
    parsePacks_ok accepted]

/-- The closure of a request, whatever the catalog: it succeeds just when the packs that are reached can be resolved,
and then it is their manifests, each once and in order. -/
theorem closure_is_reachable_set (catalog : InstalledPackCatalog) (requested : List PackIdentity) :
    (∀ fuel, catalog.installed.length < fuel →
        closureWithin catalog fuel requested = resolveVerifiedPackClosure catalog requested) ∧
      ((∃ closure, resolveVerifiedPackClosure catalog requested = .ok closure) ↔ catalog.Resolvable requested) ∧
      ∀ closure, resolveVerifiedPackClosure catalog requested = .ok closure →
        (∀ manifest, manifest ∈ closure ↔
          catalog.Reaches requested manifest.identity ∧ catalog.Loads manifest.identity manifest) ∧
        (closure.map DomainPackManifest.identity).Nodup ∧
        closure.Pairwise (fun left right => packOrder left.identity ≤ packOrder right.identity) ∧
        ∀ others, (∀ pack, pack ∈ others ↔ pack ∈ requested) →
          resolveVerifiedPackClosure catalog others = .ok closure := by
  refine ⟨fun fuel enough => closureWithin_eq enough, ⟨?_, closure_returns⟩, fun closure resolved => ?_⟩
  · rintro ⟨closure, resolved⟩
    obtain ⟨walk, walked, -⟩ := closure_walked resolved
    exact walked.resolvable
  · obtain ⟨walk, walked, rfl⟩ := closure_walked resolved
    refine ⟨fun manifest => ?_, ?_, sortOn_sorted _ _, fun others same => closure_of_members same resolved⟩
    · rw [mem_sortOn, walked.mem_resolved]
    · exact ((sortOn_perm _ _).map _).nodup_iff.mpr walked.nodup

end AiOffice.Application.DomainPack
