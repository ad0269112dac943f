import AiOffice.Application.DomainPack.DomainPackManifest
import AiOffice.Data.Keyed

namespace AiOffice.Application.DomainPack

open Data Outcome Domain DomainPackContracts

inductive CatalogErrorCode
  | malformedRequest
  | malformedCatalogEntry
  | malformedDependencyGraph
  | unsupportedSchema
  | manifestDigestMismatch
  | artifactDigestMismatch
  | incompatibleCoreContract
  | untrustedProvenance
  | duplicateConflict
  | versionConflict
  | missingPack
  | missingDependency
  | dependencyDigestMismatch
  | dependencyCycle
  deriving DecidableEq

def CatalogErrorCode.name : CatalogErrorCode → String
  | malformedRequest => "malformed_request"
  | malformedCatalogEntry => "malformed_catalog_entry"
  | malformedDependencyGraph => "malformed_dependency_graph"
  | unsupportedSchema => "unsupported_schema"
  | manifestDigestMismatch => "manifest_digest_mismatch"
  | artifactDigestMismatch => "artifact_digest_mismatch"
  | incompatibleCoreContract => "incompatible_core_contract"
  | untrustedProvenance => "untrusted_provenance"
  | duplicateConflict => "duplicate_conflict"
  | versionConflict => "version_conflict"
  | missingPack => "missing_pack"
  | missingDependency => "missing_dependency"
  | dependencyDigestMismatch => "dependency_digest_mismatch"
  | dependencyCycle => "dependency_cycle"

structure CatalogError where
  code : CatalogErrorCode
  message : String

/-- An installed artifact, with what its verification on this host comes to. -/
structure InstalledPack where
  id : String
  version : String
  verified : Except CatalogError DomainPackManifest

structure InstalledPackCatalog where
  coreContractVersion : Int
  installed : List InstalledPack

def parsePack (pack : PackIdentity) : Except CatalogError PackIdentity :=
  if !packIdPattern pack.id then
    .error ⟨.malformedRequest, "Requested pack: id: expected lower-case reverse-DNS ID"⟩
  else if !versionPattern pack.version then
    .error ⟨.malformedRequest, "Requested pack: version: expected exact MAJOR.MINOR.PATCH"⟩
  else if !digestPattern pack.manifestDigest then
    .error ⟨.malformedRequest, "Requested pack: manifestDigest: expected sha256: and 64 lowercase hex digits"⟩
  else .ok pack

def versionConflict (pack : PackIdentity) : CatalogError :=
  let id := pack.id
  ⟨.versionConflict, s!"Conflicting identities for pack {id}"⟩

def dependencyCycle (pack : PackIdentity) : CatalogError :=
  let id := pack.id
  let version := pack.version
  ⟨.dependencyCycle, s!"Dependency cycle includes {id}@{version}"⟩

def conflicts (selected : List PackIdentity) (pack : PackIdentity) : Bool :=
  selected.any fun previous => previous.id = pack.id && previous ≠ pack

namespace InstalledPackCatalog

variable (catalog : InstalledPackCatalog)

def load (id version : String) : Except CatalogError (Option DomainPackManifest) :=
  match catalog.installed.find? fun pack => pack.id = id && pack.version = version with
  | none => .ok none
  | some pack => pack.verified.map some

/-- The manifest of an exact pack: a requested one, or one that another depends on. -/
def locate (hasParent : Bool) (pack : PackIdentity) : Except CatalogError DomainPackManifest :=
  let id := pack.id
  let version := pack.version
  (catalog.load id version).bind fun found =>
    match found with
    | none => .error ⟨if hasParent then .missingDependency else .missingPack, s!"Pack {id}@{version} is not installed"⟩
    | some manifest =>
      if manifest.id ≠ id ∨ manifest.version ≠ version then
        .error ⟨.malformedCatalogEntry, s!"Catalog entry for {id}@{version} contains a different pack"⟩
      else if manifest.manifestDigest ≠ pack.manifestDigest then
        .error ⟨if hasParent then .dependencyDigestMismatch else .manifestDigestMismatch,
          s!"Pack {id}@{version} has a different manifest digest"⟩
      else .ok manifest

end InstalledPackCatalog

/-- The packs that a walk over dependencies selected, and the manifests that it is done with. -/
structure Walk where
  selected : List PackIdentity
  resolved : List DomainPackManifest

def Walk.identities (walk : Walk) : List PackIdentity := walk.resolved.map DomainPackManifest.identity

/-- A visit of a pack. The packs that are being visited are those from the root to it. -/
def visit (catalog : InstalledPackCatalog) :
    Nat → List PackIdentity → PackIdentity → Walk → Except CatalogError Walk
  | 0, _, pack, _ => .error (dependencyCycle pack)
  | fuel + 1, visiting, pack, walk =>
    if conflicts walk.selected pack then .error (versionConflict pack)
    else if pack ∈ visiting then .error (dependencyCycle pack)
    else if pack ∈ walk.identities then .ok { walk with selected := pack :: walk.selected }
    else do
      let manifest ← catalog.locate (!visiting.isEmpty) pack
      let inside ← (sortedPacks manifest.dependencies).foldlM
        (fun walk dependency => visit catalog fuel (pack :: visiting) dependency walk)
        { walk with selected := pack :: walk.selected }
      return { inside with resolved := inside.resolved ++ [manifest] }

def checkRoots (earlier : List PackIdentity) : List PackIdentity → Except CatalogError Unit
  | [] => .ok ()
  | root :: roots => if conflicts earlier root then .error (versionConflict root) else checkRoots (root :: earlier) roots

/-- The packs that are requested and all that they depend on. No path of dependencies is longer than the catalog. -/
def resolveVerifiedPackClosure (catalog : InstalledPackCatalog) (requested : List PackIdentity) :
    Except CatalogError (List DomainPackManifest) := do
  let roots := sortedPacks requested
  checkRoots [] roots
  let walk ← roots.foldlM (fun walk root => visit catalog (catalog.installed.length + 1) [] root walk) ⟨[], []⟩
  return sortOn (fun manifest => packOrder manifest.identity) walk.resolved

/-- The exact manifests of a selection. The bytes that are verified are those that the resolver examined, so the
manifests need no second verification. -/
def resolveInstalledPackManifests (catalog : InstalledPackCatalog) (requested : List PackIdentity) :
    Except CatalogError (List DomainPackManifest) :=
  if !isSafeInteger catalog.coreContractVersion || catalog.coreContractVersion < 0 then
    .error ⟨.malformedRequest, "Expected explicit pack tuples and a trusted nonnegative core contract version"⟩
  else do
    let roots ← requested.mapM parsePack
    resolveVerifiedPackClosure catalog roots

/-- What a visit adds to a walk: no pack that is being visited, none twice, and only packs that it selects, one for
an id. -/
structure Grown (catalog : InstalledPackCatalog) (visiting : List PackIdentity) (walk after : Walk) : Prop where
  selected : ∀ pack ∈ walk.selected, pack ∈ after.selected
  resolved : ∀ pack ∈ walk.identities, pack ∈ after.identities
  fresh : ∀ pack ∈ visiting, pack ∈ after.identities → pack ∈ walk.identities
  nodup : walk.identities.Nodup → after.identities.Nodup
  chosen : (∀ pack ∈ walk.identities, pack ∈ walk.selected) → ∀ pack ∈ after.identities, pack ∈ after.selected
  single : (∀ pack ∈ walk.selected, ∀ other ∈ walk.selected, pack.id = other.id → pack = other) →
    ∀ pack ∈ after.selected, ∀ other ∈ after.selected, pack.id = other.id → pack = other
  located : (∀ manifest ∈ walk.resolved, ∃ hasParent, catalog.locate hasParent manifest.identity = .ok manifest) →
    ∀ manifest ∈ after.resolved, ∃ hasParent, catalog.locate hasParent manifest.identity = .ok manifest

variable {catalog : InstalledPackCatalog} {visiting packs others : List PackIdentity} {pack : PackIdentity}
  {walk middle after : Walk} {fuel : Nat} {manifest : DomainPackManifest} {hasParent : Bool}
  {closure : List DomainPackManifest}

theorem Grown.refl : Grown catalog visiting walk walk where
  selected := fun _ => id
  resolved := fun _ => id
  fresh := fun _ _ => id
  nodup := id
  chosen := id
  single := id
  located := id

theorem Grown.trans (first : Grown catalog visiting walk middle) (second : Grown catalog visiting middle after) :
    Grown catalog visiting walk after where
  selected := fun pack member => second.selected pack (first.selected pack member)
  resolved := fun pack member => second.resolved pack (first.resolved pack member)
  fresh := fun pack member later => first.fresh pack member (second.fresh pack member later)
  nodup := fun unique => second.nodup (first.nodup unique)
  chosen := fun within => second.chosen (first.chosen within)
  single := fun one => second.single (first.single one)
  located := fun known => second.located (first.located known)

theorem conflicts_free {selected : List PackIdentity} (free : conflicts selected pack = false) :
    ∀ previous ∈ selected, previous.id = pack.id → previous = pack := by
  intro previous member same
  have each := List.any_eq_false.mp free previous member
  simpa [same] using each

theorem Grown.select (free : conflicts walk.selected pack = false) :
    Grown catalog visiting walk { walk with selected := pack :: walk.selected } where
  selected := fun _ member => List.mem_cons_of_mem _ member
  resolved := fun _ => id
  fresh := fun _ _ => id
  nodup := id
  chosen := fun within pack member => List.mem_cons_of_mem _ (within pack member)
  single := by
    intro one first inFirst second inSecond same
    have only := conflicts_free free
    rcases List.mem_cons.mp inFirst with rfl | old
    · rcases List.mem_cons.mp inSecond with rfl | older
      · rfl
      · exact (only second older same.symm).symm
    · rcases List.mem_cons.mp inSecond with rfl | older
      · exact only first old same
      · exact one first old second older same
  located := id

theorem locate_identity (located : catalog.locate hasParent pack = .ok manifest) : manifest.identity = pack := by
  obtain ⟨found, -, located⟩ := bind_ok located
  cases found with
  | none => cases located
  | some entry =>
    obtain ⟨named, located⟩ := guard_ok located
    obtain ⟨exact_, located⟩ := guard_ok located
    cases located
    rw [not_or, not_not, not_not] at named
    obtain ⟨id, version⟩ := named
    rw [not_not] at exact_
    rcases pack with ⟨_, _, _⟩
    subst id version exact_
    rfl

/-- A walk that is done with a pack that it was visiting. -/
theorem Grown.close (grown : Grown catalog (pack :: visiting) walk after) (new : pack ∉ walk.identities)
    (off : pack ∉ visiting) (selected : pack ∈ after.selected) (located : catalog.locate hasParent pack = .ok manifest) :
    Grown catalog visiting walk { after with resolved := after.resolved ++ [manifest] } := by
  have identities : Walk.identities { after with resolved := after.resolved ++ [manifest] } = after.identities ++ [pack] := by
    simp [Walk.identities, locate_identity located]
  constructor
  · exact grown.selected
  · intro other member
    rw [identities]
    exact List.mem_append_left _ (grown.resolved other member)
  · intro other member later
    rw [identities] at later
    rcases List.mem_append.mp later with before | last
    · exact grown.fresh other (List.mem_cons_of_mem _ member) before
    · rw [List.mem_singleton.mp last] at member
      exact absurd member off
  · intro unique
    rw [identities]
    have absent : pack ∉ after.identities := fun inside => new (grown.fresh pack List.mem_cons_self inside)
    rw [List.nodup_append']
    exact ⟨grown.nodup unique, List.nodup_singleton _, by simpa using absent⟩
  · intro within other member
    rw [identities] at member
    rcases List.mem_append.mp member with before | last
    · exact grown.chosen within other before
    · rw [List.mem_singleton.mp last]
      exact selected
  · exact grown.single
  · intro known entry member
    rcases List.mem_append.mp member with before | last
    · exact grown.located known entry before
    · rw [List.mem_singleton.mp last, locate_identity located]
      exact ⟨hasParent, located⟩

theorem visits_grown (each : ∀ pack walk after, visit catalog fuel visiting pack walk = .ok after →
      Grown catalog visiting walk after ∧ pack ∈ after.identities)
    (walked : packs.foldlM (fun walk pack => visit catalog fuel visiting pack walk) walk = .ok after) :
    Grown catalog visiting walk after ∧ ∀ pack ∈ packs, pack ∈ after.identities := by
  induction packs generalizing walk with
  | nil =>
    cases walked
    exact ⟨.refl, by simp⟩
  | cons pack packs ih =>
    rw [List.foldlM_cons] at walked
    obtain ⟨middle, visited, walked⟩ := bind_ok walked
    obtain ⟨first, here⟩ := each pack walk middle visited
    obtain ⟨later, rest⟩ := ih walked
    refine ⟨first.trans later, ?_⟩
    intro other member
    rcases List.mem_cons.mp member with rfl | member
    · exact later.resolved other here
    · exact rest other member

theorem visit_grown (visited : visit catalog fuel visiting pack walk = .ok after) :
    Grown catalog visiting walk after ∧ pack ∈ after.identities := by
  induction fuel generalizing visiting pack walk after with
  | zero => cases visited
  | succ fuel ih =>
    rw [visit] at visited
    obtain ⟨conflicting, visited⟩ := guard_ok visited
    obtain ⟨off, visited⟩ := guard_ok visited
    have free : conflicts walk.selected pack = false := by simpa using conflicting
    split at visited
    · next done =>
      cases visited
      exact ⟨.select free, done⟩
    · next new =>
      obtain ⟨manifest, located, visited⟩ := bind_ok visited
      obtain ⟨inside, walked, visited⟩ := bind_ok visited
      cases visited
      have inner := (visits_grown (fun _ _ _ => ih) walked).1
      have selected := inner.selected pack List.mem_cons_self
      refine ⟨Grown.close ((Grown.select free).trans inner) new off selected located, ?_⟩
      simp [Walk.identities, locate_identity located]

def unvisited (catalog : InstalledPackCatalog) (visiting : List PackIdentity) : Nat :=
  unseen (fun installed : InstalledPack => (installed.id, installed.version))
    (visiting.map fun pack => (pack.id, pack.version)) catalog.installed

theorem locate_installed (located : catalog.locate hasParent pack = .ok manifest) :
    ∃ installed ∈ catalog.installed, (installed.id, installed.version) = (pack.id, pack.version) := by
  obtain ⟨found, loaded, located⟩ := bind_ok located
  unfold InstalledPackCatalog.load at loaded
  cases lookup : catalog.installed.find? fun installed => installed.id = pack.id && installed.version = pack.version with
  | none =>
    rw [lookup] at loaded
    cases loaded
    cases located
  | some installed =>
    refine ⟨installed, List.mem_of_find?_eq_some lookup, ?_⟩
    simpa using List.find?_some lookup

/-- A walk in which every pack that is being visited is selected, with one pack for an id. -/
structure Consistent (visiting : List PackIdentity) (walk : Walk) : Prop where
  selected : ∀ pack ∈ visiting, pack ∈ walk.selected
  single : ∀ pack ∈ walk.selected, ∀ other ∈ walk.selected, pack.id = other.id → pack = other

theorem Consistent.grown (consistent : Consistent visiting walk) (grown : Grown catalog visiting walk after) :
    Consistent visiting after where
  selected := fun pack member => grown.selected pack (consistent.selected pack member)
  single := grown.single consistent.single

theorem Consistent.visit (consistent : Consistent visiting walk) (free : conflicts walk.selected pack = false) :
    Consistent (pack :: visiting) { walk with selected := pack :: walk.selected } where
  selected := by
    intro other member
    rcases List.mem_cons.mp member with rfl | member
    · exact List.mem_cons_self
    · exact List.mem_cons_of_mem _ (consistent.selected other member)
  single := by
    have selects : Grown ⟨0, []⟩ visiting walk { walk with selected := pack :: walk.selected } := Grown.select free
    exact selects.single consistent.single

theorem visits_congr (same : ∀ pack walk, Consistent visiting walk →
      visit catalog fuel visiting pack walk = visit catalog (fuel + 1) visiting pack walk)
    (consistent : Consistent visiting walk) :
    packs.foldlM (fun walk pack => visit catalog fuel visiting pack walk) walk =
      packs.foldlM (fun walk pack => visit catalog (fuel + 1) visiting pack walk) walk := by
  induction packs generalizing walk with
  | nil => rfl
  | cons pack packs ih =>
    rw [List.foldlM_cons, List.foldlM_cons, ← same pack walk consistent]
    cases visited : visit catalog fuel visiting pack walk with
    | error thrown => rfl
    | ok middle => exact ih (consistent.grown (visit_grown visited).1)

/-- A visit that has fuel for every installed pack that it can still meet does not depend on how much it has. -/
theorem visit_fuel (enough : unvisited catalog visiting < fuel) (consistent : Consistent visiting walk) :
    visit catalog fuel visiting pack walk = visit catalog (fuel + 1) visiting pack walk := by
  induction fuel generalizing visiting pack walk with
  | zero => omega
  | succ fuel ih =>
    rw [visit, visit]
    cases conflicting : conflicts walk.selected pack with
    | true => rfl
    | false =>
      by_cases off : pack ∈ visiting
      · simp [off]
      · by_cases done : pack ∈ walk.identities
        · simp [done]
        · simp only [off, done, if_false, Bool.false_eq_true]
          cases located : catalog.locate (!visiting.isEmpty) pack with
          | error thrown => rfl
          | ok manifest =>
            obtain ⟨installed, member, named⟩ := locate_installed located
            have fewer : unvisited catalog (pack :: visiting) < unvisited catalog visiting := by
              unfold unvisited
              rw [List.map_cons, ← named]
              refine unseen_lt member fun visited => off ?_
              obtain ⟨other, inside, same⟩ := List.mem_map.mp visited
              rw [named, Prod.mk.injEq] at same
              rw [conflicts_free conflicting other (consistent.selected other inside) same.1] at inside
              exact inside
            have deeper : ∀ other walk, Consistent (pack :: visiting) walk →
                visit catalog fuel (pack :: visiting) other walk =
                  visit catalog (fuel + 1) (pack :: visiting) other walk := by
              intro other walk consistentWalk
              exact ih (by omega) consistentWalk
            exact congrArg (fun walked : Except CatalogError Walk => walked.bind fun inside =>
              .ok { inside with resolved := inside.resolved ++ [manifest] })
              (visits_congr deeper (consistent.visit conflicting))

theorem parsePack_ok {parsed : PackIdentity} (accepted : parsePack pack = .ok parsed) : parsed = pack := by
  obtain ⟨-, accepted⟩ := guard_ok accepted
  obtain ⟨-, accepted⟩ := guard_ok accepted
  obtain ⟨-, accepted⟩ := guard_ok accepted
  exact (Except.ok.inj accepted).symm

theorem parsePacks_ok {roots : List PackIdentity} (accepted : packs.mapM parsePack = .ok roots) : roots = packs := by
  have same := Outcome.mapM_keys accepted fun item result parsed => parsePack_ok parsed
  simpa using same

theorem closure_ok (resolved : resolveInstalledPackManifests catalog packs = .ok closure) :
    (∀ pack ∈ packs, pack ∈ closure.map DomainPackManifest.identity) ∧
      (closure.map fun manifest => manifest.id).Nodup ∧
      ∀ manifest ∈ closure, ∃ hasParent, catalog.locate hasParent manifest.identity = .ok manifest := by
  obtain ⟨-, parses⟩ := guard_ok resolved
  obtain ⟨roots, parsed, walks⟩ := bind_ok parses
  rw [parsePacks_ok parsed] at walks
  obtain ⟨⟨⟩, -, walks⟩ := bind_ok walks
  obtain ⟨walk, walked, sorted⟩ := bind_ok walks
  cases sorted
  obtain ⟨grown, covered⟩ := visits_grown (fun _ _ _ => visit_grown) walked
  have members {manifest : DomainPackManifest} :
      manifest ∈ sortOn (fun manifest => packOrder manifest.identity) walk.resolved ↔ manifest ∈ walk.resolved := mem_sortOn
  refine ⟨?_, ?_, ?_⟩
  · intro pack member
    have visited := covered pack (mem_sortOn.mpr member)
    obtain ⟨manifest, inWalk, rfl⟩ := List.mem_map.mp visited
    exact List.mem_map_of_mem (members.mpr inWalk)
  · refine ((sortOn_perm _ _).map _).nodup_iff.mpr ?_
    have unique := grown.nodup List.nodup_nil
    have chosen := grown.chosen (by simp [Walk.identities])
    have single := grown.single (by simp)
    have ids : walk.resolved.map (fun manifest => manifest.id) = walk.identities.map DomainPackDependency.id := by
      simp [Walk.identities, DomainPackManifest.identity]
    rw [ids]
    exact unique.map_on fun first inFirst second inSecond same =>
      single first (chosen first inFirst) second (chosen second inSecond) same
  · intro manifest member
    exact grown.located (by simp) manifest (members.mp member)

theorem closure_perm (reordered : packs.Perm others) (resolved : resolveInstalledPackManifests catalog packs = .ok closure) :
    resolveInstalledPackManifests catalog others = .ok closure := by
  obtain ⟨versioned, resolved⟩ := guard_ok resolved
  obtain ⟨roots, parsed, resolved⟩ := bind_ok resolved
  obtain ⟨again, parsedAgain⟩ : ∃ results, others.mapM parsePack = .ok results := by
    refine Outcome.mapM_total fun pack member => ?_
    obtain ⟨result, -, accepted⟩ := Outcome.mapM_covers parsed (reordered.mem_iff.mpr member)
    exact ⟨result, accepted⟩
  rw [parsePacks_ok parsed, resolveVerifiedPackClosure] at resolved
  have sameRoots : sortedPacks packs = sortedPacks others := sortOn_eq packOrder_injective reordered
  rw [sameRoots] at resolved
  rw [resolveInstalledPackManifests, if_neg versioned, bind_returns parsedAgain, parsePacks_ok parsedAgain,
    resolveVerifiedPackClosure]
  exact resolved

end AiOffice.Application.DomainPack
