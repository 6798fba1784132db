/-
  Aegis.Architecture.SinkReach — which sinks P7-C and P7-D report.

  Their walks stop at the first target they come to, so what lies behind a target is not looked at.
  - `sinks_reported_iff`: in an assessment that is returned, every target that an entry object (secret) can
    be moved to has a fact exactly if each of them is reached without passing another target, and none is
    where the object starts.
  - `Sample.sinks_unreported`: two targets in a row, and no fact for the second, with either analyzer.
-/

import Aegis.Architecture.PathsExact
import Aegis.Architecture.SecretPaths

namespace Aegis.Architecture

open Data Data.Checks Data.BoundedSearch
open Agentic (Dict sameSet)
open Assurance (Runtime isSha256)
open Assurance.Posture (ControlStatus)
open AttackPaths (ArchitectureAsset ArchitectureFlow ArchitectureManifest VerifiedAttackPathAssessment canonicalArchitectureManifest)
open PrivilegePaths (VerifiedPrivilegeEscalationAssessment)
open DataPaths (DataObject DataFlowEdge DataFlowManifest DataPathPolicy DataPathRequest DataPathFact VerifiedDataExfiltrationAssessment)
open SecretPaths (ExposureSurface SecretMaterial SecretTransferEdge SecretExposureManifest SecretExposurePolicy SecretExposureRequest
  SecretExposurePathFact VerifiedSecretExposureAssessment)

variable {rt : Runtime}

/-- Entries are looked up by ids of their own. -/
theorem entries_found {ρ α : Type} {key : α → String} {items entries : List α} {ids : List String} (hids : (items.map key).Nodup)
    (h : gather (getItem (Dict.ofItems key items) : String → Except (Raised ρ) α) ids = .ok entries) {x : α} (hx : x ∈ items) (hentry : key x ∈ ids) :
    x ∈ entries ∧ ∀ y ∈ entries, ∀ z ∈ entries, key y = key z → y = z := by
  have hmem : ∀ y ∈ entries, y ∈ items := by
    intro y hy
    obtain ⟨i, -, hi⟩ := exists_of_forall₂ (gather_ok.mp h) hy
    exact (Dict.ofItems_mem (getItem_ok.mp hi)).1
  refine ⟨?_, fun y hy z hz => List.inj_on_of_nodup_map hids (hmem y hy) (hmem z hz)⟩
  obtain ⟨y, hy, hi⟩ := mem_gather h hentry
  obtain rfl := Option.some.inj ((Dict.ofItems_self hids hx).symm.trans (getItem_ok.mp hi))
  exact hy

/-- What a walk appends where it comes to a target. -/
theorem emitted {ε φ : Type} {c : Prop} [Decidable c] {made : Except ε φ} {fs : List φ}
    (h : (if c then made >>= fun f => pure [f] else .ok []) = .ok fs) : (∀ f ∈ fs, made = .ok f) ∧ (c → fs ≠ []) := by
  split_ifs at h with hc
  · obtain ⟨f, hf, h⟩ := ok_bind.mp h
    obtain rfl := Except.ok.inj h
    exact ⟨fun g hg => List.mem_singleton.mp hg ▸ hf, fun _ => List.cons_ne_nil _ _⟩
  · obtain rfl := Except.ok.inj h
    exact ⟨fun f hf => absurd hf List.not_mem_nil, fun h => absurd h hc⟩

/-! ## Data objects -/

namespace DataPaths

/-- `walk` leads a data object from asset `a` to asset `b` along its own edges. -/
def DataWalk (m : DataFlowManifest) (dataId : String) : String → List DataFlowEdge → String → Prop
  | a, [], b => a = b
  | a, e :: walk, b => e ∈ m.edges ∧ e.dataId = dataId ∧ e.sourceAssetId = a ∧ DataWalk m dataId e.targetAssetId walk b

/-- Some sequence of the object's edges leads from its origin to `sink`. -/
def Reaches (m : DataFlowManifest) (x : DataObject) (sink : String) : Prop :=
  ∃ walk, walk ≠ [] ∧ DataWalk m x.dataId x.originAssetId walk sink

/-- Such a sequence passes no target on its way. -/
def ReachesClear (m : DataFlowManifest) (targets : List String) (x : DataObject) (sink : String) : Prop :=
  ∃ walk, DataWalk m x.dataId x.originAssetId walk sink ∧ ∀ v ∈ (walk.map DataFlowEdge.targetAssetId).dropLast, v ∉ targets

/-- Every target sink that an entry object reaches has a fact. -/
def SinksReported (p : DataPathPolicy) (m : DataFlowManifest) (result : VerifiedDataExfiltrationAssessment) : Prop :=
  ∀ x ∈ m.dataObjects, x.dataId ∈ p.entryDataIds → ∀ sink ∈ p.targetSinkAssetIds, Reaches m x sink →
    ∃ f ∈ result.paths, f.dataId = x.dataId ∧ f.targetSinkAssetId = sink

/-- Every target sink that an entry object reaches is not its origin, and is reached past no other target. -/
def SinksClear (p : DataPathPolicy) (m : DataFlowManifest) : Prop :=
  ∀ x ∈ m.dataObjects, x.dataId ∈ p.entryDataIds → ∀ sink ∈ p.targetSinkAssetIds, Reaches m x sink →
    sink ≠ x.originAssetId ∧ ReachesClear m p.targetSinkAssetIds x sink

variable {p : DataPathPolicy} {r : DataPathRequest} {m : DataFlowManifest} {architecture : ArchitectureManifest}
  {a : VerifiedAttackPathAssessment} {b : VerifiedPrivilegeEscalationAssessment} {s : SecurityPosture}
  {controls : Dict ControlStatus} {assets : AttackPaths.AssetGraph} {g : DataGraph} {rest walk tail : List DataFlowEdge}
  {first : DataFlowEdge} {d x : DataObject}

theorem dataWalk_iff (targets : List String) {dataId : String} {i last : String} :
    DataWalk m dataId i walk last ↔ Trail (graph m.edges targets dataId) i walk ∧ arrival (graph m.edges targets dataId) i walk = last := by
  induction walk generalizing i with
  | nil => simp [DataWalk, Trail]
  | cons e walk ih =>
    rw [DataWalk, ih, Trail, arrival_cons]
    simp only [graph, mem_sortOn, List.mem_filter, decide_eq_true_eq]
    tauto

theorem pathFact_names {f : DataPathFact} (h : pathFact rt controls p d first rest = .ok f) :
    f.dataId = d.dataId ∧ f.targetSinkAssetId = (rest.getLast?.getD first).targetAssetId := by
  simp only [pathFact, ok_bind] at h
  obtain ⟨_, -, _, -, _, -, _, -, _, -, h⟩ := h
  obtain rfl := Except.ok.inj h
  exact ⟨rfl, rfl⟩

theorem arrival_last {targets : List String} {dataId i : String} :
    arrival (graph m.edges targets dataId) i (first :: rest) = (rest.getLast?.getD first).targetAssetId := by
  rcases List.eq_nil_or_concat rest with rfl | ⟨init, e, rfl⟩
  · rfl
  · rw [List.concat_eq_append, ← List.cons_append, arrival_concat]
    simp [graph]

/-- A walk appends one fact where it comes to a target, and names it. -/
theorem emits_names {fs : List DataPathFact} (h : (walkFrom rt m.edges controls p d).emits
      (arrival (graph m.edges p.targetSinkAssetIds d.dataId) d.originAssetId tail) tail = .ok fs) :
    (∀ f ∈ fs, tail ≠ [] ∧ f.dataId = d.dataId ∧
      ∀ sink, f.targetSinkAssetId = sink ↔ arrival (graph m.edges p.targetSinkAssetIds d.dataId) d.originAssetId tail = sink) ∧
    (arrival (graph m.edges p.targetSinkAssetIds d.dataId) d.originAssetId tail ∈ p.targetSinkAssetIds → tail ≠ [] → fs ≠ []) := by
  cases tail with
  | nil =>
    obtain rfl := Except.ok.inj h
    simp
  | cons first rest =>
    obtain ⟨hmade, hsome⟩ := emitted h
    refine ⟨fun f hf => ?_, fun htarget _ => hsome htarget⟩
    obtain ⟨hdata, hsink⟩ := pathFact_names (hmade f hf)
    refine ⟨List.cons_ne_nil _ _, hdata, fun sink => ?_⟩
    rw [hsink, arrival_last]

theorem manifest_valid (h : validateManifest rt m r p assets controls = .ok g) :
    g = ⟨m.dataObjects, m.edges, dataFlowManifestDigest rt m⟩ ∧ (m.dataObjects.map DataObject.dataId).Nodup := by
  simp only [validateManifest, ok_bind, exists_const, rejectIf_ok, forEach_ok] at h
  obtain ⟨-, -, -, -, _, hobjects, -, -, _, -, -, -, hg⟩ := h
  have hstep : ∀ seen x, validateDataObject assets p seen x = .ok () ↔
      validateDataObject assets p [] x = .ok () ∧ x.dataId ∉ seen.map DataObject.dataId := by
    intro seen x
    simp only [validateDataObject, ok_seq, rejectIf_ok, List.map_nil, List.not_mem_nil, not_false_eq_true, true_and]
    tauto
  exact ⟨(Except.ok.inj hg).symm, ((scan_keys_ok hstep).mp hobjects).2⟩

/-- The target sinks that have a fact, for an entry object. -/
theorem reported_iff {result : VerifiedDataExfiltrationAssessment} (h : evaluate rt p r m architecture a b s = .ok result) (hx : x ∈ m.dataObjects) (hentry : x.dataId ∈ p.entryDataIds) {sink : String} (hsink : sink ∈ p.targetSinkAssetIds) :
    (∃ f ∈ result.paths, f.dataId = x.dataId ∧ f.targetSinkAssetId = sink) ↔
      sink ≠ x.originAssetId ∧ ReachesClear m p.targetSinkAssetIds x sink := by
  simp only [evaluate, ok_bind, exists_const, rejectIf_ok] at h
  obtain ⟨_, -, _, -, _, -, controls, -, g, hg, paths, hpaths, -, -, h⟩ := h
  obtain rfl := Except.ok.inj h
  obtain ⟨rfl, hids⟩ := manifest_valid hg
  simp only [enumeratePaths, ok_bind, exists_const, raiseIf_ok, Bool.not_eq_true] at hpaths
  obtain ⟨entries, hentries, ⟨results, truncated⟩, hwalks, rfl, -, hpaths⟩ := hpaths
  obtain rfl := Except.ok.inj hpaths
  obtain ⟨hmem, hkeys⟩ := entries_found hids hentries hx (mem_distinct.mpr hentry)
  have hreach := walks_reach (walkFrom rt m.edges controls p) DataObject.originAssetId (fun d v path => decide_eq_true_iff)
    (fun d tail fs => emits_names) hwalks hkeys hmem hsink
  simp only [mem_sortOn]
  rw [hreach, ReachesClear]
  refine and_congr_right fun _ => exists_congr fun walk => ?_
  rw [dataWalk_iff p.targetSinkAssetIds, and_assoc]
  rfl

end DataPaths

/-! ## Secrets -/

namespace SecretPaths

/-- `walk` leads a secret from surface `a` to surface `b` along its own transfers. -/
def SecretWalk (m : SecretExposureManifest) (secretId : String) : String → List SecretTransferEdge → String → Prop
  | a, [], b => a = b
  | a, e :: walk, b => e ∈ m.edges ∧ e.secretId = secretId ∧ e.sourceSurfaceId = a ∧ SecretWalk m secretId e.targetSurfaceId walk b

/-- Some sequence of the secret's transfers leads from its home to `sink`. -/
def Reaches (m : SecretExposureManifest) (x : SecretMaterial) (sink : String) : Prop :=
  ∃ walk, walk ≠ [] ∧ SecretWalk m x.secretId x.homeSurfaceId walk sink

/-- Such a sequence passes no target on its way. -/
def ReachesClear (m : SecretExposureManifest) (targets : List String) (x : SecretMaterial) (sink : String) : Prop :=
  ∃ walk, SecretWalk m x.secretId x.homeSurfaceId walk sink ∧ ∀ v ∈ (walk.map SecretTransferEdge.targetSurfaceId).dropLast, v ∉ targets

/-- Every target surface that an entry secret reaches has a fact. -/
def SinksReported (p : SecretExposurePolicy) (m : SecretExposureManifest) (result : VerifiedSecretExposureAssessment) : Prop :=
  ∀ x ∈ m.secrets, x.secretId ∈ p.entrySecretIds → ∀ sink ∈ p.targetSurfaceIds, Reaches m x sink →
    ∃ f ∈ result.paths, f.secretId = x.secretId ∧ f.surfaceIds.getLast? = some sink

/-- Every target surface that an entry secret reaches is not its home, and is reached past no other target. -/
def SinksClear (p : SecretExposurePolicy) (m : SecretExposureManifest) : Prop :=
  ∀ x ∈ m.secrets, x.secretId ∈ p.entrySecretIds → ∀ sink ∈ p.targetSurfaceIds, Reaches m x sink →
    sink ≠ x.homeSurfaceId ∧ ReachesClear m p.targetSurfaceIds x sink

variable {p : SecretExposurePolicy} {r : SecretExposureRequest} {m : SecretExposureManifest} {architecture : ArchitectureManifest}
  {a : VerifiedAttackPathAssessment} {b : VerifiedPrivilegeEscalationAssessment} {c : VerifiedDataExfiltrationAssessment}
  {s : SecurityPosture} {controls : Dict ControlStatus} {assets : AttackPaths.AssetGraph} {g : SecretGraph} {evaluatedAtEpoch : Int}
  {rest edges walk tail : List SecretTransferEdge} {x : SecretMaterial} {first : SecretTransferEdge}

theorem secretWalk_iff (targets : List String) {secretId : String} {i last : String} :
    SecretWalk m secretId i walk last ↔ Trail (graph m.edges targets secretId) i walk ∧ arrival (graph m.edges targets secretId) i walk = last := by
  induction walk generalizing i with
  | nil => simp [SecretWalk, Trail]
  | cons e walk ih =>
    rw [SecretWalk, ih, Trail, arrival_cons]
    simp only [graph, mem_sortOn, List.mem_filter, decide_eq_true_eq]
    tauto

theorem pathFact_names {f : SecretExposurePathFact}
    (h : pathFact rt g controls p evaluatedAtEpoch x first rest = .ok f) : f.secretId = x.secretId ∧
      f.surfaceIds = first.sourceSurfaceId :: (first :: rest).map SecretTransferEdge.targetSurfaceId := by
  simp only [pathFact, ok_bind] at h
  obtain ⟨_, -, _, -, _, -, _, -, _, -, _, -, _, -, h⟩ := h
  obtain rfl := Except.ok.inj h
  exact ⟨rfl, rfl⟩

theorem arrival_last {targets : List String} {secretId i j : String} : (j :: (first :: rest).map SecretTransferEdge.targetSurfaceId).getLast? =
      some (arrival (graph edges targets secretId) i (first :: rest)) := by
  obtain ⟨init, e, heq⟩ := (List.eq_nil_or_concat (first :: rest)).resolve_left (List.cons_ne_nil _ _)
  rw [heq, List.concat_eq_append, arrival_concat, List.map_append, ← List.cons_append]
  exact List.getLast?_concat

/-- A walk appends one fact where it comes to a target, and names it. -/
theorem emits_names {fs : List SecretExposurePathFact} (h : (walkFrom rt g controls p evaluatedAtEpoch x).emits
      (arrival (graph g.edges p.targetSurfaceIds x.secretId) x.homeSurfaceId tail) tail = .ok fs) :
    (∀ f ∈ fs, tail ≠ [] ∧ f.secretId = x.secretId ∧
      ∀ sink, f.surfaceIds.getLast? = some sink ↔ arrival (graph g.edges p.targetSurfaceIds x.secretId) x.homeSurfaceId tail = sink) ∧
    (arrival (graph g.edges p.targetSurfaceIds x.secretId) x.homeSurfaceId tail ∈ p.targetSurfaceIds → tail ≠ [] → fs ≠ []) := by
  cases tail with
  | nil =>
    obtain rfl := Except.ok.inj h
    simp
  | cons first rest =>
    obtain ⟨hmade, hsome⟩ := emitted h
    refine ⟨fun f hf => ?_, fun htarget _ => hsome htarget⟩
    obtain ⟨hsecret, hsurfaces⟩ := pathFact_names (hmade f hf)
    refine ⟨List.cons_ne_nil _ _, hsecret, fun sink => ?_⟩
    rw [hsurfaces, arrival_last, Option.some_inj]

theorem manifest_valid (h : validateManifest rt m r p assets controls = .ok g) :
    g = ⟨m.surfaces, m.secrets, m.edges, secretExposureManifestDigest rt m⟩ ∧ (m.secrets.map SecretMaterial.secretId).Nodup := by
  simp only [validateManifest, ok_bind, exists_const, rejectIf_ok, forEach_ok, not_not] at h
  obtain ⟨-, -, -, -, -, -, hids, -, -, -, -, -, -, -, hg⟩ := h
  exact ⟨(Except.ok.inj hg).symm, hids⟩

/-- The target surfaces that have a fact, for an entry secret. -/
theorem reported_iff {result : VerifiedSecretExposureAssessment} (h : evaluate rt p r m architecture a b c s = .ok result) (hx : x ∈ m.secrets) (hentry : x.secretId ∈ p.entrySecretIds) {sink : String} (hsink : sink ∈ p.targetSurfaceIds) :
    (∃ f ∈ result.paths, f.secretId = x.secretId ∧ f.surfaceIds.getLast? = some sink) ↔
      sink ≠ x.homeSurfaceId ∧ ReachesClear m p.targetSurfaceIds x sink := by
  simp only [evaluate, ok_bind, exists_const, rejectIf_ok] at h
  obtain ⟨_, -, _, -, ⟨_, controls⟩, -, g, hg, paths, hpaths, -, -, h⟩ := h
  obtain rfl := Except.ok.inj h
  obtain ⟨rfl, hids⟩ := manifest_valid hg
  simp only [enumeratePaths, ok_bind, exists_const, raiseIf_ok, Bool.not_eq_true] at hpaths
  obtain ⟨entries, hentries, ⟨results, truncated⟩, hwalks, rfl, -, hpaths⟩ := hpaths
  obtain rfl := Except.ok.inj hpaths
  obtain ⟨hmem, hkeys⟩ := entries_found hids hentries hx (mem_distinct.mpr hentry)
  have hreach := walks_reach (walkFrom rt ⟨m.surfaces, m.secrets, m.edges, secretExposureManifestDigest rt m⟩ controls p r.evaluatedAtEpoch)
    SecretMaterial.homeSurfaceId (fun y v path => decide_eq_true_iff) (fun y tail fs => emits_names) hwalks hkeys hmem hsink
  simp only [mem_sortOn]
  rw [hreach, ReachesClear]
  refine and_congr_right fun _ => exists_congr fun walk => ?_
  rw [secretWalk_iff p.targetSurfaceIds, and_assoc]
  rfl

end SecretPaths

namespace Sample

open Agentic (hex)
open AttackPaths.Sample (gateway store posture)

def console : ArchitectureAsset := ⟨"console", .externalActor, "edge", "owner", .low, "shows answers"⟩

def deployed : ArchitectureManifest where
  architectureId := "architecture"
  version := "1"
  createdAtEpoch := 10
  assets := [gateway, store, console]
  flows := [⟨"reply", "store", "gateway", .retrieval, "owner", ["auth"], "returns vectors"⟩,
    ⟨"show", "gateway", "console", .userInput, "owner", ["auth"], "shows an answer"⟩]

def record : DataObject := ⟨"record", "acme", .tenantContent, .confidential, "store", "owner", "what a tenant wrote"⟩

def answer : DataFlowEdge :=
  ⟨"answer", "record", "store", "gateway", "acme", .untransformed, "owner", ["reply"], ["auth"], "answers the tenant"⟩

/-- The record goes on from the gateway to another tenant. -/
def leak : DataFlowEdge :=
  ⟨"leak", "record", "gateway", "console", "rival", .untransformed, "owner", ["show"], ["auth"], "shows it to another"⟩

def dataManifest : DataFlowManifest where
  dataGraphId := "data"
  version := "1"
  architectureSha256 := hex '0'
  createdAtEpoch := 10
  dataObjects := [record]
  edges := [answer, leak]

def vault : ExposureSurface := ⟨"vault", .keyVault, .workload, "core", "owner", some "store", false, "keeps secrets"⟩

def runner : ExposureSurface := ⟨"runner", .buildRunner, .workload, "core", "owner", none, false, "builds"⟩

def outlet : ExposureSurface := ⟨"outlet", .externalEgress, .external, "edge", "owner", some "console", true, "leads outside"⟩

def token : SecretMaterial := ⟨"token", .apiToken, .medium, .workload, "owner", "vault", 10, 1000, false, "opens the gateway"⟩

def mount : SecretTransferEdge := ⟨"mount", "token", "vault", "runner", .fileMount, "owner", [], [], false, false, "gives it to the build"⟩

/-- The build writes the token to a log that leads outside. -/
def log : SecretTransferEdge := ⟨"log", "token", "runner", "outlet", .logging, "owner", [], [], true, false, "writes it to a log"⟩

def secretManifest : SecretExposureManifest where
  secretGraphId := "secrets"
  version := "1"
  architectureSha256 := hex '0'
  createdAtEpoch := 10
  surfaces := [vault, runner, outlet]
  secrets := [token]
  edges := [mount, log]

def runtime : Runtime := .tabled [canonicalArchitectureManifest deployed, DataPaths.canonicalDataFlowManifest (.tabled []) dataManifest,
  SecretPaths.canonicalSecretExposureManifest (.tabled []) secretManifest]

def dataPolicy (targets : List String) : DataPathPolicy where
  expectedDataGraphId := "data"
  expectedDataGraphVersion := "1"
  expectedDataGraphSha256 := hex '1'
  expectedArchitectureSha256 := hex '0'
  expectedP7aAssessmentEvidenceSha256 := hex 'd'
  expectedP7bAssessmentEvidenceSha256 := hex 'e'
  expectedPostureEvidenceSha256 := hex 'a'
  expectedControlCatalogSha256 := hex 'b'
  requiredDataIds := ["record"]
  requiredEdgeIds := ["answer", "leak"]
  entryDataIds := ["record"]
  targetSinkAssetIds := targets
  trustedOwnerIds := ["owner"]
  expectedTenantByData := [("record", "acme")]
  expectedKindByData := [("record", .tenantContent)]
  expectedOriginAssetByData := [("record", "store")]
  minimumClassificationByData := [("record", .confidential)]
  expectedDataIdByEdge := [("answer", "record"), ("leak", "record")]
  expectedEndpointsByEdge := [("answer", "store", "gateway"), ("leak", "gateway", "console")]
  expectedFlowIdsByEdge := [("answer", ["reply"]), ("leak", ["show"])]
  expectedControlIdsByEdge := [("answer", ["auth"]), ("leak", ["auth"])]
  allowedTransformsByEdge := [("answer", [.untransformed]), ("leak", [.untransformed])]
  allowedDestinationTenantsByData := [("record", ["acme"])]
  allowedSinkAssetsByData := [("record", ["gateway"])]
  maxClassificationBySinkAsset := [("gateway", .confidential), ("console", .publicData)]
  allowedFinalTransformsBySinkAsset := [("gateway", [.untransformed]), ("console", [.untransformed])]
  egressSinkAssetIds := []

def dataRequest (targets : List String) : DataPathRequest :=
  ⟨"data", "1", hex '1', hex '0', hex 'd', hex 'e', hex 'a', ["record"], targets, 20, [], 0⟩

def secretPolicy (targets : List String) : SecretExposurePolicy where
  expectedSecretGraphId := "secrets"
  expectedSecretGraphVersion := "1"
  expectedSecretGraphSha256 := hex '2'
  expectedArchitectureSha256 := hex '0'
  expectedP7aAssessmentEvidenceSha256 := hex 'd'
  expectedP7bAssessmentEvidenceSha256 := hex 'e'
  expectedP7cAssessmentEvidenceSha256 := hex 'f'
  expectedPostureEvidenceSha256 := hex 'a'
  expectedControlCatalogSha256 := hex 'b'
  requiredSurfaceIds := ["vault", "runner", "outlet"]
  requiredSecretIds := ["token"]
  requiredEdgeIds := ["mount", "log"]
  entrySecretIds := ["token"]
  targetSurfaceIds := targets
  trustedOwnerIds := ["owner"]
  expectedSurfaceType := [("vault", .keyVault), ("runner", .buildRunner), ("outlet", .externalEgress)]
  expectedSurfaceScope := [("vault", .workload), ("runner", .workload), ("outlet", .external)]
  expectedSurfaceZone := [("vault", "core"), ("runner", "core"), ("outlet", "edge")]
  expectedArchitectureAssetBySurface := [("vault", some "store"), ("runner", none), ("outlet", some "console")]
  expectedKindBySecret := [("token", .apiToken)]
  expectedScopeBySecret := [("token", .workload)]
  expectedHomeSurfaceBySecret := [("token", "vault")]
  minimumSensitivityBySecret := [("token", .medium)]
  expectedTrustRootBySecret := [("token", false)]
  maxRotationAgeSecondsBySecret := [("token", 100)]
  allowedTargetSurfacesBySecret := [("token", ["runner"])]
  allowedSurfaceScopesBySecret := [("token", [.workload])]
  forbidPlaintextBySecret := [("token", true)]
  forbidPersistentCopyBySecret := [("token", true)]
  expectedSecretIdByEdge := [("mount", "token"), ("log", "token")]
  expectedEndpointsByEdge := [("mount", "vault", "runner"), ("log", "runner", "outlet")]
  expectedChannelByEdge := [("mount", .fileMount), ("log", .logging)]
  expectedFlowIdsByEdge := [("mount", []), ("log", [])]
  expectedControlIdsByEdge := [("mount", []), ("log", [])]

def secretRequest (targets : List String) : SecretExposureRequest :=
  ⟨"secrets", "1", hex '2', hex '0', hex 'd', hex 'e', hex 'f', hex 'a', ["token"], targets, 20, [], 0⟩

def p7a : VerifiedAttackPathAssessment where
  architectureId := "architecture"
  architectureVersion := "1"
  architectureSha256 := hex '0'
  postureEvidenceSha256 := hex 'a'
  controlCatalogSha256 := hex 'b'
  attackerProfileId := "outsider"
  entryAssetIds := ["console"]
  targetAssetIds := ["store"]
  topologyPathCount := 0
  exposedPathCount := 0
  controlledPathCount := 0
  criticalExposedPathCount := 0
  maxExposedRiskScore := 0
  prioritizedExposedPathIds := []
  paths := []
  assessmentEvidenceSha256 := hex 'd'

def p7b : VerifiedPrivilegeEscalationAssessment where
  identityGraphId := "identities"
  identityGraphVersion := "1"
  identityGraphSha256 := hex '3'
  architectureSha256 := hex '0'
  p7aAssessmentEvidenceSha256 := hex 'd'
  postureEvidenceSha256 := hex 'a'
  controlCatalogSha256 := hex 'b'
  entryPrincipalIds := ["user"]
  targetCapabilityIds := ["cap-read"]
  topologyPathCount := 0
  exposedPathCount := 0
  controlledPathCount := 0
  criticalExposedPathCount := 0
  maxExposedRiskScore := 0
  prioritizedExposedPathIds := []
  paths := []
  assessmentEvidenceSha256 := hex 'e'

def p7c : VerifiedDataExfiltrationAssessment where
  dataGraphId := "data"
  dataGraphVersion := "1"
  dataGraphSha256 := hex '1'
  architectureSha256 := hex '0'
  p7aAssessmentEvidenceSha256 := hex 'd'
  p7bAssessmentEvidenceSha256 := hex 'e'
  postureEvidenceSha256 := hex 'a'
  controlCatalogSha256 := hex 'b'
  entryDataIds := ["record"]
  targetSinkAssetIds := ["gateway"]
  topologyPathCount := 0
  exposedPathCount := 0
  controlledPathCount := 0
  restrictedOrSecretExposedPathCount := 0
  crossTenantExposedPathCount := 0
  externalEgressExposedPathCount := 0
  maxExposedRiskScore := 0
  prioritizedExposedPathIds := []
  paths := []
  assessmentEvidenceSha256 := hex 'f'

def dataResult (targets : List String) : DataPaths.Gate VerifiedDataExfiltrationAssessment :=
  DataPaths.evaluate runtime (dataPolicy targets) (dataRequest targets) dataManifest deployed p7a p7b posture

def secretResult (targets : List String) : SecretPaths.Gate VerifiedSecretExposureAssessment :=
  SecretPaths.evaluate runtime (secretPolicy targets) (secretRequest targets) secretManifest deployed p7a p7b p7c posture

theorem data_returns : ∃ result, dataResult ["gateway", "console"] = .ok result ∧ result.paths.map DataPathFact.targetSinkAssetId = ["gateway"] := by
  refine ok_of_map (f := fun result : VerifiedDataExfiltrationAssessment => result.paths.map DataPathFact.targetSinkAssetId) ?_
  decide +kernel

theorem secret_returns : ∃ result, secretResult ["runner", "outlet"] = .ok result ∧
    result.paths.map SecretExposurePathFact.surfaceIds = [["vault", "runner"]] := by
  refine ok_of_map (f := fun result : VerifiedSecretExposureAssessment => result.paths.map SecretExposurePathFact.surfaceIds) ?_
  decide +kernel

theorem data_unreported {result : VerifiedDataExfiltrationAssessment}
    (hpaths : result.paths.map DataPathFact.targetSinkAssetId = ["gateway"]) :
    ¬ DataPaths.SinksReported (dataPolicy ["gateway", "console"]) dataManifest result := by
  intro hreported
  have hreaches : DataPaths.Reaches dataManifest record "console" :=
    ⟨[answer, leak], by simp, by simp [DataPaths.DataWalk, dataManifest, answer, leak, record]⟩
  obtain ⟨f, hf, -, hsink⟩ := hreported record (by simp [dataManifest]) (by simp [dataPolicy, record]) "console" (by simp [dataPolicy]) hreaches
  have hmem := List.mem_map_of_mem (f := DataPathFact.targetSinkAssetId) hf
  rw [hpaths, hsink] at hmem
  simp at hmem

theorem secret_unreported {result : VerifiedSecretExposureAssessment}
    (hpaths : result.paths.map SecretExposurePathFact.surfaceIds = [["vault", "runner"]]) :
    ¬ SecretPaths.SinksReported (secretPolicy ["runner", "outlet"]) secretManifest result := by
  intro hreported
  have hreaches : SecretPaths.Reaches secretManifest token "outlet" :=
    ⟨[mount, log], by simp, by simp [SecretPaths.SecretWalk, secretManifest, mount, log, token]⟩
  obtain ⟨f, hf, -, hsink⟩ := hreported token (by simp [secretManifest]) (by simp [secretPolicy, token]) "outlet" (by simp [secretPolicy]) hreaches
  have hmem := List.mem_map_of_mem (f := SecretExposurePathFact.surfaceIds) hf
  rw [hpaths, List.mem_singleton] at hmem
  rw [hmem] at hsink
  simp at hsink

end Sample

end Aegis.Architecture
