/-
  Aegis.Architecture.PrivilegeReach — which capabilities P7-B finds.

  - `acquirable_iff`: a fact is returned for exactly the pairs of an entry principal and a target
    capability where some walk reaches a principal that holds the capability, or some walk that visits no
    principal twice uses a transition that grants it. The walk that leads to a holder may be of any shape;
    a transition that only leads back to a principal already visited grants nothing.
  - `Sample.return_grants_nothing`: such a transition, and no fact for what it grants.
-/

import Aegis.Architecture.PathsExact
import Aegis.Architecture.PrivilegePaths

namespace Aegis.Architecture.PrivilegePaths

open Data Data.Checks Data.BoundedSearch
open Agentic (Dict sameSet)
open Assurance (Runtime isSha256)
open Assurance.Posture (ControlStatus)
open AttackPaths (ArchitectureAsset ArchitectureFlow ArchitectureManifest VerifiedAttackPathAssessment canonicalArchitectureManifest)

/-! ## Walks along transitions -/

/-- `walk` leads from `a` to `b` along privilege transitions. -/
def PrivilegeWalk (m : IdentityCapabilityManifest) : String → List PrivilegeTransition → String → Prop
  | a, [], b => a = b
  | a, t :: walk, b => t ∈ m.transitions ∧ t.sourcePrincipalId = a ∧ PrivilegeWalk m t.targetPrincipalId walk b

/-- The principals of a walk are visited once each. -/
def VisitsOnce (entry : String) (walk : List PrivilegeTransition) : Prop :=
  (entry :: walk.map PrivilegeTransition.targetPrincipalId).Nodup

/-- A principal holds a capability natively. -/
def Holds (m : IdentityCapabilityManifest) (i c : String) : Prop := ∃ x ∈ m.principals, x.principalId = i ∧ c ∈ x.nativeCapabilityIds

/-- What can be acquired: what a principal holds that can be reached, and what is granted on a walk without return. -/
def Acquirable (m : IdentityCapabilityManifest) (entry c : String) : Prop :=
  (∃ walk last, PrivilegeWalk m entry walk last ∧ Holds m last c) ∨
    ∃ walk last, PrivilegeWalk m entry walk last ∧ VisitsOnce entry walk ∧ ∃ t ∈ walk, c ∈ t.grantedCapabilityIds

/-- The document of a path, which its id is made from. -/
def documentOf (entry c : String) (walk : List PrivilegeTransition) : Json :=
  pathDocument entry c (entry :: walk.map PrivilegeTransition.targetPrincipalId) (walk.map PrivilegeTransition.edgeId)

/-- No two documents of paths that can be reported have the same id. -/
def IdsApart (rt : Runtime) (p : PrivilegePathPolicy) (m : IdentityCapabilityManifest) : Prop :=
  ∀ entry ∈ p.entryPrincipalIds, ∀ entry' ∈ p.entryPrincipalIds, ∀ c ∈ p.targetCapabilityIds, ∀ c' ∈ p.targetCapabilityIds,
    ∀ walk last walk' last', PrivilegeWalk m entry walk last → VisitsOnce entry walk → PrivilegeWalk m entry' walk' last' →
      VisitsOnce entry' walk' → privilegePathIdentifier rt (documentOf entry c walk) = privilegePathIdentifier rt (documentOf entry' c' walk') →
      documentOf entry c walk = documentOf entry' c' walk'

variable {rt : Runtime} {p : PrivilegePathPolicy} {r : PrivilegePathRequest} {m : IdentityCapabilityManifest}
  {architecture : ArchitectureManifest} {a : VerifiedAttackPathAssessment} {s : SecurityPosture} {g : IdentityGraph}
  {assets : AttackPaths.AssetGraph} {controls : Dict ControlStatus} {entry : String} {walk : List PrivilegeTransition}

/-- The graph that is read off a manifest. -/
def graphOf (rt : Runtime) (m : IdentityCapabilityManifest) : IdentityGraph :=
  ⟨m.principals, m.capabilities, m.transitions, identityCapabilityManifestDigest rt m⟩

variable (rt) in
theorem privilegeWalk_iff {i last : String} :
    PrivilegeWalk m i walk last ↔ Trail (graph (graphOf rt m)) i walk ∧ arrival (graph (graphOf rt m)) i walk = last := by
  induction walk generalizing i with
  | nil => simp [PrivilegeWalk, Trail]
  | cons t walk ih =>
    rw [PrivilegeWalk, ih, Trail, arrival_cons]
    simp only [graph, graphOf, mem_sortOn, List.mem_filter, decide_eq_true_eq]
    tauto

/-- The search goes along exactly the walks that visit no principal twice. -/
theorem open_iff_visitsOnce :
    Open (graph (graphOf rt m)) entry [] [entry] walk ↔ (∃ last, PrivilegeWalk m entry walk last) ∧ VisitsOnce entry walk := by
  rw [open_iff, VisitsOnce, List.nodup_cons]
  constructor
  · rintro ⟨htrail, hnodup, havoid, -⟩
    refine ⟨⟨_, (privilegeWalk_iff rt).mpr ⟨htrail, rfl⟩⟩, fun hmem => ?_, hnodup⟩
    obtain ⟨t, ht, heq⟩ := List.mem_map.mp hmem
    exact havoid t ht (List.mem_singleton.mpr heq)
  · rintro ⟨⟨last, hwalk⟩, hnew, hnodup⟩
    refine ⟨((privilegeWalk_iff rt).mp hwalk).1, hnodup, fun t ht hmem => ?_, fun _ _ _ _ => rfl⟩
    exact hnew (List.mem_map.mpr ⟨t, ht, List.mem_singleton.mp hmem⟩)

/-! ## What is acquired along a path -/

variable {path walk' : List PrivilegeTransition} {c : String} {t : PrivilegeTransition}

theorem acquired_concat : acquired g entry (path ++ [t]) = acquired g entry path ++ candidates g t := by
  simp [acquired]

theorem newlyAcquired_concat :
    c ∈ newlyAcquired g entry (path ++ [t]) ↔ c ∈ candidates g t ∧ c ∉ acquired g entry path := by
  simp [newlyAcquired]

theorem acquired_of_newlyAcquired (h : c ∈ newlyAcquired g entry path) : c ∈ acquired g entry path := by
  induction path using List.reverseRecOn with
  | nil => simpa [acquired, newlyAcquired] using h
  | append_singleton path t _ =>
    rw [acquired_concat]
    exact List.mem_append_right _ (newlyAcquired_concat.mp h).1

/-- What is acquired along a path is gained at the end of some part of it. -/
theorem exists_newlyAcquired (h : c ∈ acquired g entry path) :
    ∃ pre post, path = pre ++ post ∧ c ∈ newlyAcquired g entry pre := by
  induction path using List.reverseRecOn with
  | nil => exact ⟨[], [], rfl, by simpa [acquired, newlyAcquired] using h⟩
  | append_singleton path t ih =>
    by_cases hbefore : c ∈ acquired g entry path
    · obtain ⟨pre, post, rfl, hnew⟩ := ih hbefore
      exact ⟨pre, post ++ [t], List.append_assoc pre post [t], hnew⟩
    · rw [acquired_concat, List.mem_append] at h
      refine ⟨path ++ [t], [], (List.append_nil _).symm, newlyAcquired_concat.mpr ⟨?_, hbefore⟩⟩
      exact h.resolve_left hbefore

section

variable (hids : (m.principals.map IdentityPrincipal.principalId).Nodup)
include hids

theorem mem_native {i c : String} : c ∈ native (graphOf rt m) i ↔ Holds m i c := by
  constructor
  · intro h
    unfold native at h
    cases hx : (graphOf rt m).principal i with
    | none => simp [hx] at h
    | some x =>
      rw [hx] at h
      obtain ⟨hmem, hid⟩ := Dict.ofItems_mem hx
      exact ⟨x, hmem, hid, h⟩
  · rintro ⟨x, hx, rfl, hc⟩
    have hself : (graphOf rt m).principal x.principalId = some x := Dict.ofItems_self hids hx
    rw [native, hself]
    exact hc

/-- What a path acquires is held by a principal it visits, or granted by a transition it uses. -/
theorem mem_acquired : c ∈ acquired (graphOf rt m) entry path ↔
      Holds m entry c ∨ ∃ t ∈ path, c ∈ t.grantedCapabilityIds ∨ Holds m t.targetPrincipalId c := by
  simp only [acquired, candidates, List.mem_append, List.mem_flatMap, mem_native hids]

end

variable (rt) in
/-- A pair can be acquired exactly if a path that visits no principal twice acquires it. -/
theorem acquirable_iff_acquired (hids : (m.principals.map IdentityPrincipal.principalId).Nodup) :
    Acquirable m entry c ↔ ∃ path, Open (graph (graphOf rt m)) entry [] [entry] path ∧ c ∈ acquired (graphOf rt m) entry path := by
  constructor
  · rintro (⟨walk, last, hwalk, hholds⟩ | ⟨walk, last, hwalk, honce, t, ht, hgrant⟩)
    · -- the walk to the holder is shortened to one that visits no principal twice
      obtain ⟨htrail, harrive⟩ := (privilegeWalk_iff rt).mp hwalk
      obtain ⟨simple, hsimple, hsame, hnodup, -⟩ := exists_simple htrail
      refine ⟨simple, open_iff_visitsOnce.mpr ⟨⟨_, (privilegeWalk_iff rt).mpr ⟨hsimple, rfl⟩⟩, hnodup⟩, (mem_acquired hids).mpr ?_⟩
      have hlast : last ∈ entry :: simple.map PrivilegeTransition.targetPrincipalId := by
        rw [← harrive, ← hsame]
        exact arrival_mem simple
      rcases List.mem_cons.mp hlast with rfl | hmem
      · exact .inl hholds
      · obtain ⟨t, ht, rfl⟩ := List.mem_map.mp hmem
        exact .inr ⟨t, ht, .inr hholds⟩
    · exact ⟨walk, open_iff_visitsOnce.mpr ⟨⟨last, hwalk⟩, honce⟩, (mem_acquired hids).mpr (.inr ⟨t, ht, .inl hgrant⟩)⟩
  · rintro ⟨path, hopen, hc⟩
    obtain ⟨⟨last, hwalk⟩, honce⟩ := open_iff_visitsOnce.mp hopen
    rcases (mem_acquired hids).mp hc with hholds | ⟨t, ht, hgrant | hholds⟩
    · exact .inl ⟨[], entry, rfl, hholds⟩
    · exact .inr ⟨path, last, hwalk, honce, t, ht, hgrant⟩
    · -- the holder is met at the end of a part of the path
      have hmem : t.targetPrincipalId ∈ entry :: path.map (graph (graphOf rt m)).target :=
        List.mem_cons_of_mem _ (List.mem_map_of_mem ht)
      obtain ⟨pre, post, rfl, harrive⟩ := exists_prefix hmem
      have htrail := trail_append.mp ((privilegeWalk_iff rt).mp hwalk).1
      exact .inl ⟨pre, t.targetPrincipalId, (privilegeWalk_iff rt).mpr ⟨htrail.1, harrive⟩, hholds⟩

/-! ## The facts that are kept -/

theorem documentOf_inj {entry' c c' : String} (h : documentOf entry c walk = documentOf entry' c' walk') :
    entry = entry' ∧ c = c' := by
  simp only [documentOf, pathDocument, Json.obj, List.foldr_cons, Json.field.injEq, true_and, Json.str.injEq] at h
  exact ⟨h.1, h.2.2.1⟩

theorem unique_spec (results : List PrivilegePathFact) : (∀ x ∈ unique results, x ∈ results) ∧
    ∀ x ∈ results, ∃ y ∈ unique results, y.pathId = x.pathId := by
  unfold unique
  induction results using List.reverseRecOn with
  | nil => simp
  | append_singleton results x ih =>
    rw [List.foldl_append, List.foldl_cons, List.foldl_nil]
    obtain ⟨hfrom, hkept⟩ := ih
    split_ifs with hseen
    · refine ⟨fun y hy => List.mem_append_left _ (hfrom y hy), fun y hy => ?_⟩
      rcases List.mem_append.mp hy with hy | hy
      · exact hkept y hy
      · obtain rfl := List.mem_singleton.mp hy
        obtain ⟨z, hz, heq⟩ := List.mem_map.mp hseen
        exact ⟨z, hz, heq⟩
    · constructor
      · intro y hy
        rcases List.mem_append.mp hy with hy | hy
        · exact List.mem_append_left _ (hfrom y hy)
        · exact List.mem_append_right _ hy
      · intro y hy
        rcases List.mem_append.mp hy with hy | hy
        · obtain ⟨z, hz, heq⟩ := hkept y hy
          exact ⟨z, List.mem_append_left _ hz, heq⟩
        · exact ⟨y, List.mem_append_right _ hy, rfl⟩

/-- What a fact says of its path. -/
structure Names (rt : Runtime) (f : PrivilegePathFact) (entry c : String) (path : List PrivilegeTransition) : Prop where
  entryPrincipalId : f.entryPrincipalId = entry
  targetCapabilityId : f.targetCapabilityId = c
  pathId : f.pathId = privilegePathIdentifier rt (documentOf entry c path)

theorem pathFact_names {c : Capability} {f : PrivilegePathFact}
    (h : pathFact rt g controls entry c (entry :: path.map PrivilegeTransition.targetPrincipalId) (path.map PrivilegeTransition.edgeId) = .ok f) :
    Names rt f entry c.capabilityId path := by
  simp only [pathFact, ok_bind] at h
  obtain ⟨_, -, _, -, _, -, h⟩ := h
  obtain rfl := Except.ok.inj h
  exact ⟨rfl, rfl, rfl⟩

/-- At the end of a path, a fact is appended for each target capability that is gained there. -/
theorem emits_names {current : String} {fs : List PrivilegePathFact}
    (h : (walkFrom rt g controls p entry).emits current path = .ok fs) :
    (∀ f ∈ fs, ∃ c ∈ p.targetCapabilityIds, c ∈ newlyAcquired g entry path ∧ Names rt f entry c path) ∧
      ∀ c ∈ p.targetCapabilityIds, c ∈ newlyAcquired g entry path → ∃ f ∈ fs, Names rt f entry c path := by
  have hnames : ∀ i f, (do
      let c ← getItem g.capability i
      pathFact rt g controls entry c (entry :: path.map PrivilegeTransition.targetPrincipalId) (path.map PrivilegeTransition.edgeId)) =
        .ok f → Names rt f entry i path := by
    intro i f hf
    obtain ⟨c, hc, hfact⟩ := ok_bind.mp hf
    obtain ⟨-, rfl⟩ := Dict.ofItems_mem (getItem_ok.mp hc)
    exact pathFact_names hfact
  constructor
  · intro f hf
    obtain ⟨i, hi, hfact⟩ := exists_of_forall₂ (gather_ok.mp h) hf
    obtain ⟨htarget, hnew⟩ := List.mem_filter.mp (mem_distinct.mp hi)
    exact ⟨i, htarget, by simpa using hnew, hnames i f hfact⟩
  · intro i htarget hnew
    obtain ⟨f, hf, hfact⟩ := mem_gather h (mem_distinct.mpr (List.mem_filter.mpr ⟨htarget, by simpa using hnew⟩))
    exact ⟨f, hf, hnames i f hfact⟩

/-- The facts that are enumerated name the simple walks that gain a target capability at their end, and every such walk has its id among them. -/
theorem enumerate_names {facts : List PrivilegePathFact} (h : enumeratePrivilegePaths rt (graphOf rt m) controls p = .ok facts) :
    (∀ f ∈ facts, ∃ entry ∈ p.entryPrincipalIds, ∃ c ∈ p.targetCapabilityIds, ∃ path,
      Open (graph (graphOf rt m)) entry [] [entry] path ∧ c ∈ newlyAcquired (graphOf rt m) entry path ∧ Names rt f entry c path) ∧
    ∀ entry ∈ p.entryPrincipalIds, ∀ c ∈ p.targetCapabilityIds, ∀ path, Open (graph (graphOf rt m)) entry [] [entry] path →
      c ∈ newlyAcquired (graphOf rt m) entry path → ∃ f ∈ facts, f.pathId = privilegePathIdentifier rt (documentOf entry c path) := by
  simp only [enumeratePrivilegePaths, ok_bind, exists_const, forEach_ok, raiseIf_ok, Bool.not_eq_true] at h
  obtain ⟨-, ⟨results, truncated⟩, hwalks, htrunc, h⟩ := h
  obtain rfl := Except.ok.inj h
  obtain ⟨hemits, hst⟩ := walks_ok (walkFrom rt (graphOf rt m) controls p) id hwalks
  obtain ⟨rfl, rfl⟩ := Prod.mk.inj hst
  have hcut : ∀ entry ∈ p.entryPrincipalIds, cut (graph (graphOf rt m)) p.maxPathHops.toNat entry [] [entry] = false :=
    fun entry hentry => (Bool.not_eq_true _).mp (List.any_eq_false.mp htrunc entry (mem_distinct.mpr hentry))
  obtain ⟨hfrom, hkept⟩ := unique_spec ((distinct p.entryPrincipalIds).flatMap fun entry =>
    (trails (graph (graphOf rt m)) p.maxPathHops.toNat entry [] [entry]).flatMap (found (walkFrom rt (graphOf rt m) controls p entry) entry))
  constructor
  · intro f hf
    obtain ⟨entry, hentry, hf⟩ := List.mem_flatMap.mp (hfrom f (mem_sortOn.mp hf))
    obtain ⟨path, hpath, hf⟩ := List.mem_flatMap.mp hf
    obtain ⟨c, hc, hnew, hnames⟩ := (emits_names (hemits entry hentry path hpath)).1 f hf
    exact ⟨entry, mem_distinct.mp hentry, c, hc, path, (mem_trails.mp hpath).1, hnew, hnames⟩
  · intro entry hentry c hc path hopen hnew
    have hpath := (mem_trails_of_not_cut (hcut entry hentry)).mpr hopen
    obtain ⟨f, hf, hnames⟩ := (emits_names (hemits entry (mem_distinct.mpr hentry) path hpath)).2 c hc hnew
    obtain ⟨y, hy, heq⟩ := hkept f (List.mem_flatMap.mpr ⟨entry, mem_distinct.mpr hentry, List.mem_flatMap.mpr ⟨path, hpath, hf⟩⟩)
    exact ⟨y, mem_sortOn.mpr hy, heq.trans hnames.pathId⟩

/-! ## An accepted identity graph -/

theorem graphOf_valid (h : validateIdentityManifest rt m assets controls r p = .ok g) :
    g = graphOf rt m ∧ (m.principals.map IdentityPrincipal.principalId).Nodup := by
  simp only [validateIdentityManifest, ok_bind, exists_const, rejectIf_ok, forEach_ok] at h
  obtain ⟨-, -, -, -, _, hprincipals, -, -, _, -, -, -, -, _, -, -, -, -, hg⟩ := h
  have hstep : ∀ seen x, validatePrincipal assets p seen x = .ok () ↔
      validatePrincipal assets p [] x = .ok () ∧ x.principalId ∉ seen.map IdentityPrincipal.principalId := by
    intro seen x
    simp only [validatePrincipal, ok_seq, rejectIf_ok, List.map_nil, List.not_mem_nil, not_false_eq_true, true_and]
    tauto
  exact ⟨(Except.ok.inj hg).symm, ((scan_keys_ok hstep).mp hprincipals).2⟩

theorem evaluate_paths {result : VerifiedPrivilegeEscalationAssessment} (h : evaluate rt p r m architecture a s = .ok result) :
    (m.principals.map IdentityPrincipal.principalId).Nodup ∧
      ∃ controls, enumeratePrivilegePaths rt (graphOf rt m) controls p = .ok result.paths := by
  simp only [evaluate, ok_bind, exists_const, rejectIf_ok] at h
  obtain ⟨_, -, _, -, _, -, controls, -, g, hg, paths, hpaths, -, -, h⟩ := h
  obtain rfl := Except.ok.inj h
  obtain ⟨rfl, hids⟩ := graphOf_valid hg
  exact ⟨hids, controls, hpaths⟩

/-- For an accepted identity graph. -/
theorem acquirable_iff (hapart : IdsApart rt p m) {result : VerifiedPrivilegeEscalationAssessment}
    (h : evaluate rt p r m architecture a s = .ok result) (entry c : String) :
    (∃ f ∈ result.paths, f.entryPrincipalId = entry ∧ f.targetCapabilityId = c) ↔
      entry ∈ p.entryPrincipalIds ∧ c ∈ p.targetCapabilityIds ∧ Acquirable m entry c := by
  obtain ⟨hids, controls, hpaths⟩ := evaluate_paths h
  obtain ⟨hsound, hcomplete⟩ := enumerate_names hpaths
  constructor
  · rintro ⟨f, hf, rfl, rfl⟩
    obtain ⟨entry, hentry, c, hc, path, hopen, hnew, hnames⟩ := hsound f hf
    rw [hnames.entryPrincipalId, hnames.targetCapabilityId]
    exact ⟨hentry, hc, (acquirable_iff_acquired rt hids).mpr ⟨path, hopen, acquired_of_newlyAcquired hnew⟩⟩
  · rintro ⟨hentry, hc, hacquirable⟩
    obtain ⟨path, hopen, hacquired⟩ := (acquirable_iff_acquired rt hids).mp hacquirable
    obtain ⟨pre, post, rfl, hnew⟩ := exists_newlyAcquired hacquired
    have hpre := open_prefix hopen
    obtain ⟨f, hf, hid⟩ := hcomplete entry hentry c hc pre hpre hnew
    obtain ⟨entry', hentry', c', hc', path', hopen', -, hnames⟩ := hsound f hf
    obtain ⟨⟨_, hwalk⟩, honce⟩ := open_iff_visitsOnce.mp hpre
    obtain ⟨⟨_, hwalk'⟩, honce'⟩ := open_iff_visitsOnce.mp hopen'
    -- the id is that of the walk which the fact names, so both have one document
    have hdocument := hapart entry hentry entry' hentry' c hc c' hc' _ _ _ _ hwalk honce hwalk' honce' (hid.symm.trans hnames.pathId)
    obtain ⟨rfl, rfl⟩ := documentOf_inj hdocument
    exact ⟨f, hf, hnames.entryPrincipalId, hnames.targetCapabilityId⟩

/-! ## A transition that leads back -/

namespace Sample

open Agentic (hex)
open AttackPaths.Sample (gateway store call posture)

def reply : ArchitectureFlow := ⟨"reply", "store", "gateway", .retrieval, "owner", ["auth"], "returns vectors"⟩

def bothWays : ArchitectureManifest := { AttackPaths.Sample.manifest with flows := [call, reply] }

def user : IdentityPrincipal := ⟨"user", .externalUser, "gateway", "owner", .tenant, .tenant, [], "asks"⟩

def agent : IdentityPrincipal := ⟨"agent", .serviceIdentity, "store", "owner", .tenant, .tenant, ["cap-read"], "answers"⟩

def login : PrivilegeTransition := ⟨"login", "user", "agent", .authenticatedSession, "owner", ["call"], ["auth"], [], "opens a session"⟩

/-- The agent delegates to the user, and grants it a capability. -/
def handback : PrivilegeTransition :=
  ⟨"handback", "agent", "user", .toolAuthorization, "owner", ["reply"], ["auth"], ["cap-write"], "hands a right back"⟩

def manifest : IdentityCapabilityManifest where
  identityGraphId := "identities"
  version := "1"
  architectureSha256 := hex '0'
  createdAtEpoch := 10
  principals := [user, agent]
  capabilities := [⟨"cap-read", "store", "owner", .low, .tenant, "reads"⟩, ⟨"cap-write", "store", "owner", .low, .tenant, "writes"⟩]
  transitions := [login, handback]

def walks : List (List PrivilegeTransition) := [[], [login]]

/-- What can be reported of the user: two walks, and two capabilities. -/
def documents : List Json := walks.flatMap fun walk => ["cap-read", "cap-write"].map fun c => documentOf "user" c walk

def runtime : Runtime := .tabled
  (canonicalArchitectureManifest bothWays :: canonicalIdentityCapabilityManifest (.tabled []) manifest :: documents)

def policy : PrivilegePathPolicy where
  expectedIdentityGraphId := "identities"
  expectedIdentityGraphVersion := "1"
  expectedIdentityGraphSha256 := hex '1'
  expectedArchitectureSha256 := hex '0'
  expectedP7aAssessmentEvidenceSha256 := hex 'e'
  expectedPostureEvidenceSha256 := hex 'a'
  expectedControlCatalogSha256 := hex 'b'
  requiredPrincipalIds := ["user", "agent"]
  requiredCapabilityIds := ["cap-read", "cap-write"]
  requiredTransitionIds := ["login", "handback"]
  entryPrincipalIds := ["user"]
  targetCapabilityIds := ["cap-read", "cap-write"]
  trustedOwnerIds := ["owner"]
  expectedHomeAssetByPrincipal := [("user", "gateway"), ("agent", "store")]
  expectedTypeByPrincipal := [("user", .externalUser), ("agent", .serviceIdentity)]
  expectedTierByPrincipal := [("user", .tenant), ("agent", .tenant)]
  expectedScopeByPrincipal := [("user", .tenant), ("agent", .tenant)]
  expectedNativeCapabilitiesByPrincipal := [("user", []), ("agent", ["cap-read"])]
  expectedTargetAssetByCapability := [("cap-read", "store"), ("cap-write", "store")]
  minimumSensitivityByCapability := [("cap-read", .low), ("cap-write", .low)]
  minimumTierByCapability := [("cap-read", .tenant), ("cap-write", .tenant)]
  expectedTransitionEndpoints := [("login", "user", "agent"), ("handback", "agent", "user")]
  expectedFlowIdsByTransition := [("login", ["call"]), ("handback", ["reply"])]
  expectedControlIdsByTransition := [("login", ["auth"]), ("handback", ["auth"])]
  expectedGrantedCapabilityIdsByTransition := [("login", []), ("handback", ["cap-write"])]

def request : PrivilegePathRequest :=
  ⟨"identities", "1", hex '1', hex '0', hex 'e', hex 'a', ["user"], ["cap-read", "cap-write"], 20, [], 0⟩

/-- What P7-A says of the architecture: its store is the target, and nothing is exposed. -/
def assessment : VerifiedAttackPathAssessment where
  architectureId := "architecture"
  architectureVersion := "1"
  architectureSha256 := hex '0'
  postureEvidenceSha256 := hex 'a'
  controlCatalogSha256 := hex 'b'
  attackerProfileId := "outsider"
  entryAssetIds := ["gateway"]
  targetAssetIds := ["store"]
  topologyPathCount := 0
  exposedPathCount := 0
  controlledPathCount := 0
  criticalExposedPathCount := 0
  maxExposedRiskScore := 0
  prioritizedExposedPathIds := []
  paths := []
  assessmentEvidenceSha256 := hex 'e'

theorem evaluate_returns : ∃ result, evaluate runtime policy request manifest bothWays assessment posture = .ok result ∧
    result.paths.map (fun f => (f.entryPrincipalId, f.targetCapabilityId)) = [("user", "cap-read")] := by
  refine ok_of_map (f := fun result : VerifiedPrivilegeEscalationAssessment =>
    result.paths.map fun f => (f.entryPrincipalId, f.targetCapabilityId)) ?_
  decide +kernel

/-- The user reaches the agent and comes back along a transition that grants it to write; no fact says so. -/
theorem return_grants_nothing : ∃ result, evaluate runtime policy request manifest bothWays assessment posture = .ok result ∧
    "user" ∈ policy.entryPrincipalIds ∧ "cap-write" ∈ policy.targetCapabilityIds ∧
    PrivilegeWalk manifest "user" [login, handback] "user" ∧ "cap-write" ∈ handback.grantedCapabilityIds ∧
    ¬ ∃ f ∈ result.paths, f.entryPrincipalId = "user" ∧ f.targetCapabilityId = "cap-write" := by
  obtain ⟨result, hresult, hpaths⟩ := evaluate_returns
  refine ⟨result, hresult, by simp [policy], by simp [policy], ?_, by simp [handback], ?_⟩
  · simp [PrivilegeWalk, manifest, login, handback]
  · rintro ⟨f, hf, hentry, htarget⟩
    have hmem := List.mem_map_of_mem (f := fun f : PrivilegePathFact => (f.entryPrincipalId, f.targetCapabilityId)) hf
    rw [hpaths, hentry, htarget] at hmem
    simp at hmem

theorem walks_of_user {last : String} (hwalk : PrivilegeWalk manifest "user" walk last)
    (honce : VisitsOnce "user" walk) : walk ∈ walks := by
  cases walk with
  | nil => simp [walks]
  | cons t walk =>
    obtain ⟨ht, hsource, hrest⟩ := hwalk
    obtain rfl : t = login := by
      rcases List.mem_pair.mp ht with rfl | rfl
      · rfl
      · simp [handback] at hsource
    cases walk with
    | nil => simp [walks]
    | cons t walk =>
      -- the agent only leads back to the user
      obtain ⟨ht, hsource, -⟩ := hrest
      rcases List.mem_pair.mp ht with rfl | rfl
      · simp [login] at hsource
      · simp [VisitsOnce, login, handback] at honce

theorem ids_apart : IdsApart runtime policy manifest := by
  have hall : ∀ d ∈ documents, ∀ d' ∈ documents, privilegePathIdentifier runtime d = privilegePathIdentifier runtime d' → d = d' := by
    decide +kernel
  have hdocument : ∀ entry ∈ policy.entryPrincipalIds, ∀ c ∈ policy.targetCapabilityIds, ∀ walk last, PrivilegeWalk manifest entry walk last →
      VisitsOnce entry walk → documentOf entry c walk ∈ documents := by
    intro entry hentry c hc walk last hwalk honce
    obtain rfl := List.mem_singleton.mp hentry
    exact List.mem_flatMap.mpr ⟨walk, walks_of_user hwalk honce, List.mem_map.mpr ⟨c, hc, rfl⟩⟩
  intro entry hentry entry' hentry' c hc c' hc' walk last walk' last' hwalk honce hwalk' honce'
  exact hall _ (hdocument entry hentry c hc walk last hwalk honce) _ (hdocument entry' hentry' c' hc' walk' last' hwalk' honce')

/-- The agent holds what the user can acquire. -/
theorem read_acquired : ∃ result, evaluate runtime policy request manifest bothWays assessment posture = .ok result ∧
    ∃ f ∈ result.paths, f.entryPrincipalId = "user" ∧ f.targetCapabilityId = "cap-read" := by
  obtain ⟨result, hresult, -⟩ := evaluate_returns
  refine ⟨result, hresult, (acquirable_iff ids_apart hresult "user" "cap-read").mpr ⟨by simp [policy], by simp [policy], .inl ?_⟩⟩
  exact ⟨[login], "agent", by simp [PrivilegeWalk, manifest, login], agent, by simp [manifest], rfl, by simp [agent]⟩

end Sample

end Aegis.Architecture.PrivilegePaths
