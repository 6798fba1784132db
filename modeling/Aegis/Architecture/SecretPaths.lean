/-
  Aegis.Architecture.SecretPaths — the P7-D analyzer, which follows secrets from their home to the
  surfaces the policy watches (secrets_exposure.py).

  `evaluate` validates policy, request, upstream evidence and manifest, and follows the transfers of every
  entry secret until they reach a target surface.
-/

import Aegis.Architecture.DataPaths

namespace Aegis.Architecture.SecretPaths

open Data Data.Checks Data.BoundedSearch
open Agentic (Dict sameSet)
open Assurance (Runtime isSha256)
open Assurance.Posture (ControlStatus ControlPostureAssessment)
open AttackPaths (ArchitectureAsset ArchitectureFlow ArchitectureManifest AssetGraph VerifiedAttackPathAssessment architectureManifestDigest)
open PrivilegePaths (VerifiedPrivilegeEscalationAssessment)
open DataPaths (VerifiedDataExfiltrationAssessment)

def P7D_SECRET_MANIFEST_SCHEMA_VERSION : String := "aegis-secret-exposure-manifest-v1"

inductive SecretKind where
  | apiToken
  | serviceCredential
  | databaseCredential
  | modelPublisherKey
  | releaseSigningKey
  | telemetryCredential
  | buildToken
  | rootSigningKey
  deriving DecidableEq, Repr

def SecretKind.value : SecretKind → String
  | apiToken => "api_token"
  | serviceCredential => "service_credential"
  | databaseCredential => "database_credential"
  | modelPublisherKey => "model_publisher_key"
  | releaseSigningKey => "release_signing_key"
  | telemetryCredential => "telemetry_credential"
  | buildToken => "build_token"
  | rootSigningKey => "root_signing_key"

inductive SecretSensitivity where
  | medium
  | high
  | critical
  deriving DecidableEq, Repr

def SecretSensitivity.value : SecretSensitivity → String
  | medium => "medium"
  | high => "high"
  | critical => "critical"

/-- `_sensitivity_rank`. -/
def sensitivityRank : SecretSensitivity → Int
  | .medium => 1
  | .high => 2
  | .critical => 3

inductive SecretScope where
  | tenant
  | workload
  | platform
  | modelSupplyChain
  | security
  | globalTrustRoot
  deriving DecidableEq, Repr

def SecretScope.value : SecretScope → String
  | tenant => "tenant"
  | workload => "workload"
  | platform => "platform"
  | modelSupplyChain => "model_supply_chain"
  | security => "security"
  | globalTrustRoot => "global_trust_root"

/-- `_scope_rank`. -/
def scopeRank : SecretScope → Int
  | .tenant => 1
  | .workload => 2
  | .platform => 3
  | .modelSupplyChain => 3
  | .security => 4
  | .globalTrustRoot => 5

inductive ExposureScope where
  | tenant
  | workload
  | platform
  | modelSupplyChain
  | security
  | external
  deriving DecidableEq, Repr

def ExposureScope.value : ExposureScope → String
  | tenant => "tenant"
  | workload => "workload"
  | platform => "platform"
  | modelSupplyChain => "model_supply_chain"
  | security => "security"
  | external => "external"

inductive ExposureSurfaceType where
  | applicationConfig
  | buildRunner
  | releaseArtifact
  | keyVault
  | toolGateway
  | modelRegistry
  | modelRuntime
  | telemetryPipeline
  | externalEgress
  deriving DecidableEq, Repr

def ExposureSurfaceType.value : ExposureSurfaceType → String
  | applicationConfig => "application_config"
  | buildRunner => "build_runner"
  | releaseArtifact => "release_artifact"
  | keyVault => "key_vault"
  | toolGateway => "tool_gateway"
  | modelRegistry => "model_registry"
  | modelRuntime => "model_runtime"
  | telemetryPipeline => "telemetry_pipeline"
  | externalEgress => "external_egress"

inductive SecretTransferChannel where
  | configInjection
  | environmentInjection
  | fileMount
  | buildSecret
  | artifactEmbedding
  | toolCredentialBroker
  | modelReleaseSigning
  | runtimeCredentialInjection
  | telemetryExport
  | logging
  deriving DecidableEq, Repr

def SecretTransferChannel.value : SecretTransferChannel → String
  | configInjection => "config_injection"
  | environmentInjection => "environment_injection"
  | fileMount => "file_mount"
  | buildSecret => "build_secret"
  | artifactEmbedding => "artifact_embedding"
  | toolCredentialBroker => "tool_credential_broker"
  | modelReleaseSigning => "model_release_signing"
  | runtimeCredentialInjection => "runtime_credential_injection"
  | telemetryExport => "telemetry_export"
  | logging => "logging"

inductive SecretExposureRejectReason where
  | policyInvalid
  | requestInvalid
  | architectureInvalid
  | architectureDigestMismatch
  | p7aAssessmentUnverified
  | p7aAssessmentMismatch
  | p7bAssessmentUnverified
  | p7bAssessmentMismatch
  | p7cAssessmentUnverified
  | p7cAssessmentMismatch
  | postureUnverified
  | postureDigestMismatch
  | controlCatalogMismatch
  | controlEvidenceInvalid
  | manifestInvalid
  | manifestDigestMismatch
  | manifestStale
  | manifestFuture
  | surfaceDuplicate
  | surfaceCoverageMismatch
  | surfaceOwnerUntrusted
  | surfaceTypeDrift
  | surfaceZoneDrift
  | surfaceScopeDrift
  | surfaceArchitectureDrift
  | secretDuplicate
  | secretCoverageMismatch
  | secretOwnerUntrusted
  | secretHomeDrift
  | secretKindDrift
  | secretScopeDrift
  | secretSensitivityDowngrade
  | secretTrustRootDrift
  | secretRotationInvalid
  | edgeDuplicate
  | edgeCoverageMismatch
  | edgeOwnerUntrusted
  | edgeReferenceInvalid
  | edgeSelfLoop
  | edgeSecretDrift
  | edgeEndpointDrift
  | edgeChannelDrift
  | edgeFlowDrift
  | edgeControlDrift
  | edgeControlUnknown
  | edgeArchitectureRouteInvalid
  | entrySecretScopeMismatch
  | targetSurfaceScopeMismatch
  | pathLimitExceeded
  | declaredPathMismatch
  | declaredBlastRadiusMismatch
  deriving DecidableEq, Repr

structure SecretExposureRejected where
  reason : SecretExposureRejectReason
  message : String
  surfaceId : Option String := none
  secretId : Option String := none
  edgeId : Option String := none
  controlId : Option String := none
  deriving DecidableEq, Repr

abbrev Gate (α : Type) := Checked SecretExposureRejected α

structure ExposureSurface where
  surfaceId : String
  surfaceType : ExposureSurfaceType
  exposureScope : ExposureScope
  trustZone : String
  ownerId : String
  architectureAssetId : Option String
  externalEgress : Bool
  description : String
  deriving DecidableEq

structure SecretMaterial where
  secretId : String
  kind : SecretKind
  sensitivity : SecretSensitivity
  authorityScope : SecretScope
  ownerId : String
  homeSurfaceId : String
  rotatedAtEpoch : Int
  expiresAtEpoch : Int
  trustRoot : Bool
  description : String
  deriving DecidableEq

structure SecretTransferEdge where
  edgeId : String
  secretId : String
  sourceSurfaceId : String
  targetSurfaceId : String
  channel : SecretTransferChannel
  ownerId : String
  viaFlowIds : List String
  requiredControlIds : List String
  plaintextExposure : Bool
  persistentCopy : Bool
  purpose : String
  deriving DecidableEq

structure SecretExposureManifest where
  secretGraphId : String
  version : String
  architectureSha256 : String
  createdAtEpoch : Int
  surfaces : List ExposureSurface
  secrets : List SecretMaterial
  edges : List SecretTransferEdge
  schemaVersion : String := P7D_SECRET_MANIFEST_SCHEMA_VERSION

structure SecretExposureRequest where
  secretGraphId : String
  secretGraphVersion : String
  secretGraphSha256 : String
  architectureSha256 : String
  p7aAssessmentEvidenceSha256 : String
  p7bAssessmentEvidenceSha256 : String
  p7cAssessmentEvidenceSha256 : String
  postureEvidenceSha256 : String
  entrySecretIds : List String
  targetSurfaceIds : List String
  evaluatedAtEpoch : Int
  declaredExposedPathIds : List String
  declaredMaxBlastRadiusScore : Int

structure SecretExposurePolicy where
  expectedSecretGraphId : String
  expectedSecretGraphVersion : String
  expectedSecretGraphSha256 : String
  expectedArchitectureSha256 : String
  expectedP7aAssessmentEvidenceSha256 : String
  expectedP7bAssessmentEvidenceSha256 : String
  expectedP7cAssessmentEvidenceSha256 : String
  expectedPostureEvidenceSha256 : String
  expectedControlCatalogSha256 : String
  requiredSurfaceIds : List String
  requiredSecretIds : List String
  requiredEdgeIds : List String
  entrySecretIds : List String
  targetSurfaceIds : List String
  trustedOwnerIds : List String
  expectedSurfaceType : List (String × ExposureSurfaceType)
  expectedSurfaceScope : List (String × ExposureScope)
  expectedSurfaceZone : List (String × String)
  expectedArchitectureAssetBySurface : List (String × Option String)
  expectedKindBySecret : List (String × SecretKind)
  expectedScopeBySecret : List (String × SecretScope)
  expectedHomeSurfaceBySecret : List (String × String)
  minimumSensitivityBySecret : List (String × SecretSensitivity)
  expectedTrustRootBySecret : List (String × Bool)
  maxRotationAgeSecondsBySecret : List (String × Int)
  allowedTargetSurfacesBySecret : List (String × List String)
  allowedSurfaceScopesBySecret : List (String × List ExposureScope)
  forbidPlaintextBySecret : List (String × Bool)
  forbidPersistentCopyBySecret : List (String × Bool)
  expectedSecretIdByEdge : List (String × String)
  expectedEndpointsByEdge : List (String × (String × String))
  expectedChannelByEdge : List (String × SecretTransferChannel)
  expectedFlowIdsByEdge : List (String × List String)
  expectedControlIdsByEdge : List (String × List String)
  maxManifestAgeSeconds : Int := 86400
  maxFutureSkewSeconds : Int := 30
  maxPathHops : Int := 10
  maxPaths : Int := 128

structure SecretExposurePathFact where
  pathId : String
  secretId : String
  secretKind : SecretKind
  secretSensitivity : SecretSensitivity
  authorityScope : SecretScope
  trustRoot : Bool
  surfaceIds : List String
  edgeIds : List String
  architectureFlowIds : List String
  channelSequence : List String
  satisfiedControlIds : List String
  exceptionedControlIds : List String
  notEvaluatedControlIds : List String
  unauthorizedSurfaceIds : List String
  scopeViolationSurfaceIds : List String
  plaintextEdgeIds : List String
  persistentCopyEdgeIds : List String
  rotationOverdue : Bool
  expired : Bool
  externalEgress : Bool
  exposed : Bool
  blastRadiusScore : Int
  exposureReasons : List String
  mitigatingControlIds : List String
  deriving DecidableEq

structure VerifiedSecretExposureAssessment where
  secretGraphId : String
  secretGraphVersion : String
  secretGraphSha256 : String
  architectureSha256 : String
  p7aAssessmentEvidenceSha256 : String
  p7bAssessmentEvidenceSha256 : String
  p7cAssessmentEvidenceSha256 : String
  postureEvidenceSha256 : String
  controlCatalogSha256 : String
  entrySecretIds : List String
  targetSurfaceIds : List String
  topologyPathCount : Int
  exposedPathCount : Int
  controlledPathCount : Int
  criticalExposedPathCount : Int
  trustRootExposedPathCount : Int
  externalEgressExposedPathCount : Int
  maxBlastRadiusScore : Int
  prioritizedExposedPathIds : List String
  paths : List SecretExposurePathFact
  assessmentEvidenceSha256 : String
  exactSecretGraphBindingVerified : Bool := true
  blastRadiusDerivedFromEvidence : Bool := true

/-! ## Canonical documents -/

def canonicalEdge (e : SecretTransferEdge) : Json := .obj [
  ("channel", .str e.channel.value), ("edge_id", .str e.edgeId), ("owner_id", .str e.ownerId),
  ("persistent_copy", .bool e.persistentCopy), ("plaintext_exposure", .bool e.plaintextExposure),
  ("purpose", .str e.purpose), ("required_control_ids", texts (sortOn id e.requiredControlIds)),
  ("secret_id", .str e.secretId), ("source_surface_id", .str e.sourceSurfaceId),
  ("target_surface_id", .str e.targetSurfaceId), ("via_flow_ids", texts e.viaFlowIds)]

def canonicalSecret (x : SecretMaterial) : Json := .obj [
  ("authority_scope", .str x.authorityScope.value), ("description", .str x.description),
  ("expires_at_epoch", .int x.expiresAtEpoch), ("home_surface_id", .str x.homeSurfaceId), ("kind", .str x.kind.value),
  ("owner_id", .str x.ownerId), ("rotated_at_epoch", .int x.rotatedAtEpoch), ("secret_id", .str x.secretId),
  ("sensitivity", .str x.sensitivity.value), ("trust_root", .bool x.trustRoot)]

def canonicalSurface (x : ExposureSurface) : Json := .obj [
  ("architecture_asset_id", .opt .str x.architectureAssetId), ("description", .str x.description),
  ("exposure_scope", .str x.exposureScope.value), ("external_egress", .bool x.externalEgress),
  ("owner_id", .str x.ownerId), ("surface_id", .str x.surfaceId), ("surface_type", .str x.surfaceType.value),
  ("trust_zone", .str x.trustZone)]

section
variable (rt : Runtime)

/-- `canonical_secret_exposure_manifest_bytes`. -/
def canonicalSecretExposureManifest (m : SecretExposureManifest) : Json := .obj [
  ("architecture_sha256", .str (rt.casefold m.architectureSha256)), ("created_at_epoch", .int m.createdAtEpoch),
  ("edges", .arr ((sortOn SecretTransferEdge.edgeId m.edges).map canonicalEdge)),
  ("schema_version", .str m.schemaVersion), ("secret_graph_id", .str m.secretGraphId),
  ("secrets", .arr ((sortOn SecretMaterial.secretId m.secrets).map canonicalSecret)),
  ("surfaces", .arr ((sortOn ExposureSurface.surfaceId m.surfaces).map canonicalSurface)), ("version", .str m.version)]

def secretExposureManifestDigest (m : SecretExposureManifest) : String := rt.sha256 (canonicalSecretExposureManifest rt m)

def pathDocument (secretId : String) (surfaceIds edgeIds : List String) : Json := .obj [
  ("edge_ids", texts edgeIds), ("secret_id", .str secretId), ("surface_ids", texts surfaceIds)]

def secretExposurePathIdentifier (secretId : String) (surfaceIds edgeIds : List String) : String :=
  "secret-path-" ++ String.ofList ((rt.sha256 (pathDocument secretId surfaceIds edgeIds)).toList.take 20)

/-! ## Policy and request -/

def plain (reason : SecretExposureRejectReason) (message : String) : SecretExposureRejected := ⟨reason, message, none, none, none, none⟩

def ofSurface (reason : SecretExposureRejectReason) (message i : String) : SecretExposureRejected := ⟨reason, message, some i, none, none, none⟩

def ofSecret (reason : SecretExposureRejectReason) (message i : String) : SecretExposureRejected := ⟨reason, message, none, some i, none, none⟩

def ofEdge (reason : SecretExposureRejectReason) (message i : String) : SecretExposureRejected := ⟨reason, message, none, none, some i, none⟩

/-- The mappings of the policy, by their keys, with the inventory each is for. -/
def mappings (p : SecretExposurePolicy) : List (List String × List String × String) := [
  (p.expectedSurfaceType.map Prod.fst, p.requiredSurfaceIds, "surface-type"),
  (p.expectedSurfaceScope.map Prod.fst, p.requiredSurfaceIds, "surface-scope"),
  (p.expectedSurfaceZone.map Prod.fst, p.requiredSurfaceIds, "surface-zone"),
  (p.expectedArchitectureAssetBySurface.map Prod.fst, p.requiredSurfaceIds, "surface-architecture"),
  (p.expectedKindBySecret.map Prod.fst, p.requiredSecretIds, "secret-kind"),
  (p.expectedScopeBySecret.map Prod.fst, p.requiredSecretIds, "secret-scope"),
  (p.expectedHomeSurfaceBySecret.map Prod.fst, p.requiredSecretIds, "secret-home"),
  (p.minimumSensitivityBySecret.map Prod.fst, p.requiredSecretIds, "secret-sensitivity"),
  (p.expectedTrustRootBySecret.map Prod.fst, p.requiredSecretIds, "secret-trust-root"),
  (p.maxRotationAgeSecondsBySecret.map Prod.fst, p.requiredSecretIds, "secret-rotation-age"),
  (p.allowedTargetSurfacesBySecret.map Prod.fst, p.requiredSecretIds, "secret-target-surfaces"),
  (p.allowedSurfaceScopesBySecret.map Prod.fst, p.requiredSecretIds, "secret-surface-scopes"),
  (p.forbidPlaintextBySecret.map Prod.fst, p.requiredSecretIds, "secret-plaintext-policy"),
  (p.forbidPersistentCopyBySecret.map Prod.fst, p.requiredSecretIds, "secret-persistence-policy"),
  (p.expectedSecretIdByEdge.map Prod.fst, p.requiredEdgeIds, "edge-secret"),
  (p.expectedEndpointsByEdge.map Prod.fst, p.requiredEdgeIds, "edge-endpoints"),
  (p.expectedChannelByEdge.map Prod.fst, p.requiredEdgeIds, "edge-channel"),
  (p.expectedFlowIdsByEdge.map Prod.fst, p.requiredEdgeIds, "edge-flows"),
  (p.expectedControlIdsByEdge.map Prod.fst, p.requiredEdgeIds, "edge-controls")]

/-- `_require_exact_keys`. -/
def requireExactKeys (keys expected : List String) (label : String) : Gate Unit :=
  rejectIf (¬ sameSet keys expected) (plain .policyInvalid ("policy " ++ label ++ " keys must exactly match required inventory"))

/-- `_validate_policy`. -/
def validatePolicy (p : SecretExposurePolicy) : Gate Unit := do
  rejectIf (p.expectedSecretGraphId = "" ∨ p.expectedSecretGraphVersion = "")
    (plain .policyInvalid "secret exposure policy identity is incomplete")
  forEach (fun digest => rejectIf (¬ isSha256 rt digest) (plain .policyInvalid "policy contains an invalid SHA-256 pin"))
    [p.expectedSecretGraphSha256, p.expectedArchitectureSha256, p.expectedP7aAssessmentEvidenceSha256, p.expectedP7bAssessmentEvidenceSha256,
      p.expectedP7cAssessmentEvidenceSha256, p.expectedPostureEvidenceSha256, p.expectedControlCatalogSha256]
  rejectIf (p.entrySecretIds = [] ∨ p.targetSurfaceIds = [])
    (plain .policyInvalid "entry-secret and target-surface scopes must be non-empty")
  rejectIf (∃ i ∈ p.entrySecretIds, i ∉ p.requiredSecretIds)
    (plain .policyInvalid "entry secret scope is outside required secret inventory")
  rejectIf (∃ i ∈ p.targetSurfaceIds, i ∉ p.requiredSurfaceIds)
    (plain .policyInvalid "target surface scope is outside required surface inventory")
  forEach (fun (keys, expected, label) => requireExactKeys keys expected label) (mappings p)
  rejectIf (∃ age ∈ p.maxRotationAgeSecondsBySecret.map Prod.snd, age ≤ 0) (plain .policyInvalid "rotation age bounds must be positive")
  rejectIf ([] ∈ p.allowedTargetSurfacesBySecret.map Prod.snd)
    (plain .policyInvalid "every secret needs at least one authorized surface")
  rejectIf ([] ∈ p.allowedSurfaceScopesBySecret.map Prod.snd)
    (plain .policyInvalid "every secret needs at least one authorized exposure scope")
  rejectIf (p.maxManifestAgeSeconds ≤ 0 ∨ p.maxFutureSkewSeconds < 0 ∨ p.maxPathHops ≤ 0 ∨ p.maxPaths ≤ 0)
    (plain .policyInvalid "policy freshness/path bounds are invalid")

/-- `_validate_request`. -/
def validateRequest (r : SecretExposureRequest) (p : SecretExposurePolicy) : Gate Unit := do
  rejectIf (r.secretGraphId ≠ p.expectedSecretGraphId ∨ r.secretGraphVersion ≠ p.expectedSecretGraphVersion)
    (plain .requestInvalid "request secret graph identity differs from policy")
  forEach (fun (actual, expected) => rejectIf (¬ isSha256 rt actual ∨ rt.casefold actual ≠ rt.casefold expected)
    (plain .requestInvalid "request digest binding differs from policy"))
    [(r.secretGraphSha256, p.expectedSecretGraphSha256), (r.architectureSha256, p.expectedArchitectureSha256),
      (r.p7aAssessmentEvidenceSha256, p.expectedP7aAssessmentEvidenceSha256),
      (r.p7bAssessmentEvidenceSha256, p.expectedP7bAssessmentEvidenceSha256),
      (r.p7cAssessmentEvidenceSha256, p.expectedP7cAssessmentEvidenceSha256), (r.postureEvidenceSha256, p.expectedPostureEvidenceSha256)]
  rejectIf (¬ sameSet r.entrySecretIds p.entrySecretIds) (plain .entrySecretScopeMismatch "request entry secrets differ from policy")
  rejectIf (¬ sameSet r.targetSurfaceIds p.targetSurfaceIds) (plain .targetSurfaceScopeMismatch "request target surfaces differ from policy")
  rejectIf (¬ r.entrySecretIds.Nodup ∨ ¬ r.targetSurfaceIds.Nodup)
    (plain .requestInvalid "request contains duplicate entry or target identifiers")
  rejectIf (r.evaluatedAtEpoch ≤ 0 ∨ r.declaredMaxBlastRadiusScore < 0)
    (plain .requestInvalid "request time or declared blast radius is invalid")

/-! ## Upstream evidence -/

/-- `_validate_upstream`; a digest is compared by `==`, and the flags asked for are fewer than those of P7-C. -/
def validateUpstream (r : SecretExposureRequest) (p : SecretExposurePolicy) (m : ArchitectureManifest) (a : VerifiedAttackPathAssessment)
    (b : VerifiedPrivilegeEscalationAssessment) (c : VerifiedDataExfiltrationAssessment) (s : SecurityPosture) :
    Gate (AssetGraph × Dict ControlStatus) := do
  let sha := architectureManifestDigest rt m
  rejectIf (rt.casefold sha ≠ rt.casefold p.expectedArchitectureSha256 ∨ rt.casefold r.architectureSha256 ≠ rt.casefold sha)
    (plain .architectureDigestMismatch "architecture digest differs from request/policy")
  rejectIf (¬ (m.assets.map ArchitectureAsset.assetId).Nodup ∨ ¬ (m.flows.map ArchitectureFlow.flowId).Nodup)
    (plain .architectureInvalid "architecture contains duplicate assets or flows")
  rejectIf (¬ (a.exactArchitectureBindingVerified ∧ a.requiredGraphCoverageVerified ∧ a.missingAndExceptionedControlsVisible))
    (plain .p7aAssessmentUnverified "P7-A evidence is not verified")
  rejectIf (rt.casefold a.architectureSha256 ≠ rt.casefold sha ∨
    rt.casefold a.assessmentEvidenceSha256 ≠ rt.casefold r.p7aAssessmentEvidenceSha256)
    (plain .p7aAssessmentMismatch "P7-A evidence binding differs")
  rejectIf (¬ (b.exactIdentityGraphBindingVerified ∧ b.exactArchitectureBindingVerified ∧ b.mitigatingControlsVisible))
    (plain .p7bAssessmentUnverified "P7-B evidence is not verified")
  rejectIf (rt.casefold b.architectureSha256 ≠ rt.casefold sha ∨
    rt.casefold b.assessmentEvidenceSha256 ≠ rt.casefold r.p7bAssessmentEvidenceSha256)
    (plain .p7bAssessmentMismatch "P7-B evidence binding differs")
  rejectIf (¬ (c.exactDataGraphBindingVerified ∧ c.exactArchitectureBindingVerified ∧ c.mitigatingControlsVisible))
    (plain .p7cAssessmentUnverified "P7-C evidence is not verified")
  rejectIf (rt.casefold c.architectureSha256 ≠ rt.casefold sha ∨
    rt.casefold c.assessmentEvidenceSha256 ≠ rt.casefold r.p7cAssessmentEvidenceSha256)
    (plain .p7cAssessmentMismatch "P7-C evidence binding differs")
  rejectIf (¬ (s.exactReleaseIdentityVerified ∧ s.exactUpstreamEvidenceBindingVerified ∧ s.controlCatalogVerified ∧
    s.statusDerivedFromEvidence ∧ s.missingEvidenceVisible)) (plain .postureUnverified "P6-D posture is not verified")
  rejectIf (rt.casefold s.postureEvidenceSha256 ≠ rt.casefold r.postureEvidenceSha256)
    (plain .postureDigestMismatch "posture digest differs")
  rejectIf (rt.casefold s.controlCatalogSha256 ≠ rt.casefold p.expectedControlCatalogSha256)
    (plain .controlCatalogMismatch "control catalog digest differs")
  scan (fun seen x => rejectIf (x.controlId ∈ seen.map ControlPostureAssessment.controlId)
    ⟨.controlEvidenceInvalid, "duplicate posture control assessment", none, none, none, some x.controlId⟩) [] s.assessments
  forEach (fun (status, identifiers) => rejectIf (¬ sameSet identifiers (controlsWith s.assessments status))
    (plain .controlEvidenceInvalid "posture control status summary is inconsistent"))
    [(ControlStatus.satisfied, s.satisfiedControlIds), (.exceptioned, s.exceptionedControlIds), (.notEvaluated, s.notEvaluatedControlIds)]
  return (⟨m.assets, m.flows, sha⟩, controlStatuses s.assessments)

/-! ## The secret graph -/

/-- The surfaces, secrets and transfers of a manifest, each with an id of its own, and its digest. -/
structure SecretGraph where
  surfaces : List ExposureSurface
  secrets : List SecretMaterial
  edges : List SecretTransferEdge
  sha256 : String

def SecretGraph.surface (g : SecretGraph) : Dict ExposureSurface := Dict.ofItems ExposureSurface.surfaceId g.surfaces

def SecretGraph.secret (g : SecretGraph) : Dict SecretMaterial := Dict.ofItems SecretMaterial.secretId g.secrets

def compareSurface (assets : AssetGraph) (p : SecretExposurePolicy) (x : ExposureSurface) : Gate Unit := do
  rejectIf (x.ownerId ∉ p.trustedOwnerIds) (ofSurface .surfaceOwnerUntrusted "surface owner is not trusted" x.surfaceId)
  let type ← getItem (Dict.mapping p.expectedSurfaceType) x.surfaceId
  rejectIf (x.surfaceType ≠ type) (ofSurface .surfaceTypeDrift "surface type differs from policy" x.surfaceId)
  let scope ← getItem (Dict.mapping p.expectedSurfaceScope) x.surfaceId
  rejectIf (x.exposureScope ≠ scope) (ofSurface .surfaceScopeDrift "surface exposure scope differs from policy" x.surfaceId)
  let zone ← getItem (Dict.mapping p.expectedSurfaceZone) x.surfaceId
  rejectIf (x.trustZone ≠ zone) (ofSurface .surfaceZoneDrift "surface trust zone differs from policy" x.surfaceId)
  let asset ← getItem (Dict.mapping p.expectedArchitectureAssetBySurface) x.surfaceId
  rejectIf (x.architectureAssetId ≠ asset) (ofSurface .surfaceArchitectureDrift "surface architecture mapping differs from policy" x.surfaceId)
  rejectIf (∃ i ∈ x.architectureAssetId, assets.asset i = none)
    (ofSurface .surfaceArchitectureDrift "surface references unknown architecture asset" x.surfaceId)

def compareSecret (g : SecretGraph) (r : SecretExposureRequest) (p : SecretExposurePolicy) (x : SecretMaterial) : Gate Unit := do
  rejectIf (x.ownerId ∉ p.trustedOwnerIds) (ofSecret .secretOwnerUntrusted "secret owner is not trusted" x.secretId)
  let home ← getItem (Dict.mapping p.expectedHomeSurfaceBySecret) x.secretId
  rejectIf (x.homeSurfaceId ≠ home ∨ g.surface x.homeSurfaceId = none)
    (ofSecret .secretHomeDrift "secret home surface differs from policy" x.secretId)
  let kind ← getItem (Dict.mapping p.expectedKindBySecret) x.secretId
  rejectIf (x.kind ≠ kind) (ofSecret .secretKindDrift "secret kind differs from policy" x.secretId)
  let scope ← getItem (Dict.mapping p.expectedScopeBySecret) x.secretId
  rejectIf (x.authorityScope ≠ scope) (ofSecret .secretScopeDrift "secret authority scope differs from policy" x.secretId)
  let minimum ← getItem (Dict.mapping p.minimumSensitivityBySecret) x.secretId
  rejectIf (sensitivityRank x.sensitivity < sensitivityRank minimum)
    (ofSecret .secretSensitivityDowngrade "secret sensitivity is below policy floor" x.secretId)
  let root ← getItem (Dict.mapping p.expectedTrustRootBySecret) x.secretId
  rejectIf (x.trustRoot ≠ root) (ofSecret .secretTrustRootDrift "secret trust-root classification differs from policy" x.secretId)
  rejectIf (x.rotatedAtEpoch ≤ 0 ∨ x.expiresAtEpoch ≤ x.rotatedAtEpoch ∨ x.rotatedAtEpoch > r.evaluatedAtEpoch + p.maxFutureSkewSeconds)
    (ofSecret .secretRotationInvalid "secret rotation/expiry metadata is invalid" x.secretId)

/-- The route of a transfer through the architecture, where it has one. -/
def validateRoute (g : SecretGraph) (e : SecretTransferEdge) (route : List ArchitectureFlow) : Gate Unit :=
  match route.head?, route.getLast? with
  | some first, some last => do
    rejectIf (∃ pair ∈ route.zip route.tail, pair.1.targetAssetId ≠ pair.2.sourceAssetId)
      (ofEdge .edgeArchitectureRouteInvalid "edge architecture route is not contiguous" e.edgeId)
    let source ← getItem g.surface e.sourceSurfaceId
    let target ← getItem g.surface e.targetSurfaceId
    rejectIf (∃ i ∈ source.architectureAssetId, first.sourceAssetId ≠ i)
      (ofEdge .edgeArchitectureRouteInvalid "edge route source differs from mapped architecture asset" e.edgeId)
    rejectIf (∃ i ∈ target.architectureAssetId, last.targetAssetId ≠ i)
      (ofEdge .edgeArchitectureRouteInvalid "edge route target differs from mapped architecture asset" e.edgeId)
    rejectIf (∃ c ∈ e.requiredControlIds, c ∉ route.flatMap ArchitectureFlow.requiredControlIds)
      (ofEdge .edgeArchitectureRouteInvalid "edge control is not present on its architecture route" e.edgeId)
  | _, _ => .ok ()

def compareEdge (assets : AssetGraph) (controls : Dict ControlStatus) (g : SecretGraph) (p : SecretExposurePolicy) (e : SecretTransferEdge) :
    Gate Unit := do
  rejectIf (e.ownerId ∉ p.trustedOwnerIds) (ofEdge .edgeOwnerUntrusted "secret transfer owner is not trusted" e.edgeId)
  rejectIf (g.secret e.secretId = none ∨ g.surface e.sourceSurfaceId = none ∨ g.surface e.targetSurfaceId = none)
    (ofEdge .edgeReferenceInvalid "secret transfer references unknown inventory" e.edgeId)
  rejectIf (e.sourceSurfaceId = e.targetSurfaceId) (ofEdge .edgeSelfLoop "secret transfer self-loop is invalid" e.edgeId)
  let secretId ← getItem (Dict.mapping p.expectedSecretIdByEdge) e.edgeId
  rejectIf (e.secretId ≠ secretId) (ofEdge .edgeSecretDrift "edge secret binding differs from policy" e.edgeId)
  let endpoints ← getItem (Dict.mapping p.expectedEndpointsByEdge) e.edgeId
  rejectIf ((e.sourceSurfaceId, e.targetSurfaceId) ≠ endpoints) (ofEdge .edgeEndpointDrift "edge endpoints differ from policy" e.edgeId)
  let channel ← getItem (Dict.mapping p.expectedChannelByEdge) e.edgeId
  rejectIf (e.channel ≠ channel) (ofEdge .edgeChannelDrift "edge channel differs from policy" e.edgeId)
  let flows ← getItem (Dict.mapping p.expectedFlowIdsByEdge) e.edgeId
  rejectIf (e.viaFlowIds ≠ flows) (ofEdge .edgeFlowDrift "edge architecture route differs from policy" e.edgeId)
  let expected ← getItem (Dict.mapping p.expectedControlIdsByEdge) e.edgeId
  rejectIf (¬ sameSet e.requiredControlIds expected ∨ ¬ e.requiredControlIds.Nodup)
    (ofEdge .edgeControlDrift "edge controls differ from policy" e.edgeId)
  forEach (fun c => rejectIf (controls c = none)
    ⟨.edgeControlUnknown, "edge references unknown posture control", none, none, some e.edgeId, some c⟩) e.requiredControlIds
  forEach (fun i => rejectIf (assets.flow i = none)
    (ofEdge .edgeArchitectureRouteInvalid "edge references unknown architecture flow" e.edgeId)) e.viaFlowIds
  let route ← gather (getItem assets.flow) e.viaFlowIds
  validateRoute g e route

/-- `_validate_manifest`. -/
def validateManifest (m : SecretExposureManifest) (r : SecretExposureRequest) (p : SecretExposurePolicy) (assets : AssetGraph)
    (controls : Dict ControlStatus) : Gate SecretGraph := do
  rejectIf (m.schemaVersion ≠ P7D_SECRET_MANIFEST_SCHEMA_VERSION ∨ m.secretGraphId ≠ p.expectedSecretGraphId ∨
    m.version ≠ p.expectedSecretGraphVersion) (plain .manifestInvalid "secret exposure manifest identity/schema is invalid")
  rejectIf (rt.casefold m.architectureSha256 ≠ rt.casefold assets.sha256)
    (plain .architectureDigestMismatch "secret manifest architecture binding differs")
  let sha := secretExposureManifestDigest rt m
  rejectIf (rt.casefold sha ≠ rt.casefold p.expectedSecretGraphSha256 ∨ rt.casefold r.secretGraphSha256 ≠ rt.casefold sha)
    (plain .manifestDigestMismatch "secret manifest digest differs")
  let age := r.evaluatedAtEpoch - m.createdAtEpoch
  rejectIf (age > p.maxManifestAgeSeconds) (plain .manifestStale "secret exposure manifest is stale")
  rejectIf (age < -p.maxFutureSkewSeconds) (plain .manifestFuture "secret exposure manifest is from the future")
  rejectIf (¬ (m.surfaces.map ExposureSurface.surfaceId).Nodup) (plain .surfaceDuplicate "duplicate exposure surface")
  rejectIf (¬ (m.secrets.map SecretMaterial.secretId).Nodup) (plain .secretDuplicate "duplicate secret identity")
  rejectIf (¬ (m.edges.map SecretTransferEdge.edgeId).Nodup) (plain .edgeDuplicate "duplicate secret transfer edge")
  rejectIf (¬ sameSet (m.surfaces.map ExposureSurface.surfaceId) p.requiredSurfaceIds)
    (plain .surfaceCoverageMismatch "surface inventory differs from policy")
  rejectIf (¬ sameSet (m.secrets.map SecretMaterial.secretId) p.requiredSecretIds)
    (plain .secretCoverageMismatch "secret inventory differs from policy")
  rejectIf (¬ sameSet (m.edges.map SecretTransferEdge.edgeId) p.requiredEdgeIds)
    (plain .edgeCoverageMismatch "secret transfer inventory differs from policy")
  let g : SecretGraph := ⟨m.surfaces, m.secrets, m.edges, sha⟩
  forEach (compareSurface assets p) m.surfaces
  forEach (compareSecret g r p) m.secrets
  forEach (compareEdge assets controls g p) m.edges
  return g

/-! ## Paths -/

/-- `_path_fact` of the path that begins with `first`. -/
def pathFact (g : SecretGraph) (controls : Dict ControlStatus) (p : SecretExposurePolicy) (evaluatedAtEpoch : Int) (x : SecretMaterial)
    (first : SecretTransferEdge) (rest : List SecretTransferEdge) : Gate SecretExposurePathFact := do
  let path := first :: rest
  let visited := path.map SecretTransferEdge.targetSurfaceId
  let surfaceIds := first.sourceSurfaceId :: visited
  let edgeIds := path.map SecretTransferEdge.edgeId
  let t ← tally controls (path.flatMap SecretTransferEdge.requiredControlIds)
  let allowed ← getItem (Dict.mapping p.allowedTargetSurfacesBySecret) x.secretId
  let unauthorized := distinct (visited.filter fun i => i ∉ allowed)
  let surfaces ← gather (getItem g.surface) visited
  let scopes ← getItem (Dict.mapping p.allowedSurfaceScopesBySecret) x.secretId
  let scopeViolations := distinct ((surfaces.filter fun y => y.exposureScope ∉ scopes).map ExposureSurface.surfaceId)
  let forbidPlaintext ← getItem (Dict.mapping p.forbidPlaintextBySecret) x.secretId
  let plaintextEdges := sortOn id ((path.filter fun e => e.plaintextExposure ∧ forbidPlaintext).map SecretTransferEdge.edgeId)
  let forbidPersistent ← getItem (Dict.mapping p.forbidPersistentCopyBySecret) x.secretId
  let persistentEdges := sortOn id ((path.filter fun e => e.persistentCopy ∧ forbidPersistent).map SecretTransferEdge.edgeId)
  let maxAge ← getItem (Dict.mapping p.maxRotationAgeSecondsBySecret) x.secretId
  let rotationOverdue : Bool := evaluatedAtEpoch - x.rotatedAtEpoch > maxAge
  let expired : Bool := evaluatedAtEpoch ≥ x.expiresAtEpoch
  let externalEgress : Bool := surfaces.any fun y => y.externalEgress
  let reasons := unauthorized.map ("unauthorized_surface:" ++ ·) ++ scopeViolations.map ("scope_violation:" ++ ·) ++
    plaintextEdges.map ("plaintext_exposure:" ++ ·) ++ persistentEdges.map ("persistent_copy:" ++ ·) ++
    (if rotationOverdue then ["rotation_overdue"] else []) ++ (if expired then ["secret_expired"] else []) ++
    t.exceptioned.map ("exceptioned_control:" ++ ·) ++ t.notEvaluated.map ("not_evaluated_control:" ++ ·) ++
    (if x.trustRoot ∧ externalEgress then ["trust_root_external_egress"] else [])
  return {
    pathId := secretExposurePathIdentifier rt x.secretId surfaceIds edgeIds
    secretId := x.secretId
    secretKind := x.kind
    secretSensitivity := x.sensitivity
    authorityScope := x.authorityScope
    trustRoot := x.trustRoot
    surfaceIds := surfaceIds
    edgeIds := edgeIds
    architectureFlowIds := path.flatMap SecretTransferEdge.viaFlowIds
    channelSequence := path.map fun e => e.channel.value
    satisfiedControlIds := t.satisfied
    exceptionedControlIds := t.exceptioned
    notEvaluatedControlIds := t.notEvaluated
    unauthorizedSurfaceIds := unauthorized
    scopeViolationSurfaceIds := scopeViolations
    plaintextEdgeIds := plaintextEdges
    persistentCopyEdgeIds := persistentEdges
    rotationOverdue := rotationOverdue
    expired := expired
    externalEgress := externalEgress
    exposed := reasons ≠ []
    blastRadiusScore := 10 + sensitivityRank x.sensitivity * 28 + scopeRank x.authorityScope * 5 + path.length * 2 + unauthorized.length * 18 +
      scopeViolations.length * 14 + plaintextEdges.length * 22 + persistentEdges.length * 15 + t.exceptioned.length * 10 +
      t.notEvaluated.length * 6 + (if rotationOverdue then 18 else 0) + (if expired then 24 else 0) + (if x.trustRoot then 30 else 0) +
      (if externalEgress then 25 else 0)
    exposureReasons := sortOn id reasons
    mitigatingControlIds := t.satisfied }

/-- `adjacency` of a secret; the walk stops at the first target surface it comes to. -/
def graph (edges : List SecretTransferEdge) (targets : List String) (secretId : String) : BoundedSearch.Graph String SecretTransferEdge where
  outgoing i := sortOn SecretTransferEdge.edgeId (edges.filter fun e => e.secretId = secretId ∧ e.sourceSurfaceId = i)
  target := SecretTransferEdge.targetSurfaceId
  halts current path := current ∈ targets ∧ path ≠ []

def pathLimit (message : String) : Raised SecretExposureRejected := .rejected (plain .pathLimitExceeded message)

/-- `walk(secret, …)`. -/
def walkFrom (g : SecretGraph) (controls : Dict ControlStatus) (p : SecretExposurePolicy) (evaluatedAtEpoch : Int) (x : SecretMaterial) :
    Search String SecretTransferEdge SecretExposurePathFact (Raised SecretExposureRejected) where
  toGraph := graph g.edges p.targetSurfaceIds x.secretId
  emits current path := match path with
    | [] => .ok []
    | first :: rest => if current ∈ p.targetSurfaceIds then do
        let fact ← pathFact rt g controls p evaluatedAtEpoch x first rest
        return [fact]
      else .ok []
  maxResults := p.maxPaths
  tooMany := pathLimit "secret topology exceeds path bound"

/-- `_enumerate_paths`; every entry secret is looked up, and followed from its home. -/
def enumeratePaths (g : SecretGraph) (controls : Dict ControlStatus) (p : SecretExposurePolicy) (evaluatedAtEpoch : Int) :
    Gate (List SecretExposurePathFact) := do
  let entries ← gather (getItem g.secret) (distinct p.entrySecretIds)
  let (results, truncated) ← entries.foldlM (fun st x =>
    walk (walkFrom rt g controls p evaluatedAtEpoch x) p.maxPathHops.toNat x.homeSurfaceId [] [x.homeSurfaceId] st) ([], false)
  raiseIf truncated (pathLimit "secret path hop bound truncated reachable topology")
  raiseIf (¬ (results.map SecretExposurePathFact.pathId).Nodup) (pathLimit "secret path identifier collision detected")
  return sortOn SecretExposurePathFact.pathId results

/-! ## The assessment -/

/-- `asdict(item)`. -/
def factDocument (f : SecretExposurePathFact) : Json := .obj [
  ("architecture_flow_ids", texts f.architectureFlowIds), ("authority_scope", .str f.authorityScope.value),
  ("blast_radius_score", .int f.blastRadiusScore), ("channel_sequence", texts f.channelSequence),
  ("edge_ids", texts f.edgeIds), ("exceptioned_control_ids", texts f.exceptionedControlIds),
  ("expired", .bool f.expired), ("exposed", .bool f.exposed), ("exposure_reasons", texts f.exposureReasons),
  ("external_egress", .bool f.externalEgress), ("mitigating_control_ids", texts f.mitigatingControlIds),
  ("not_evaluated_control_ids", texts f.notEvaluatedControlIds), ("path_id", .str f.pathId),
  ("persistent_copy_edge_ids", texts f.persistentCopyEdgeIds), ("plaintext_edge_ids", texts f.plaintextEdgeIds),
  ("rotation_overdue", .bool f.rotationOverdue), ("satisfied_control_ids", texts f.satisfiedControlIds),
  ("scope_violation_surface_ids", texts f.scopeViolationSurfaceIds), ("secret_id", .str f.secretId),
  ("secret_kind", .str f.secretKind.value), ("secret_sensitivity", .str f.secretSensitivity.value),
  ("surface_ids", texts f.surfaceIds), ("trust_root", .bool f.trustRoot),
  ("unauthorized_surface_ids", texts f.unauthorizedSurfaceIds)]

/-- `sorted(exposed, key=(-blast_radius_score, secret_id, path_id))`. -/
def prioritized (exposed : List SecretExposurePathFact) : List String :=
  (sortOn SecretExposurePathFact.pathId exposed |> sortOn SecretExposurePathFact.secretId |> sortOn fun f => -f.blastRadiusScore).map
    SecretExposurePathFact.pathId

/-- `max(…, default=0)`; no score is negative. -/
def maxScore (exposed : List SecretExposurePathFact) : Int := (exposed.map SecretExposurePathFact.blastRadiusScore).foldl max 0

/-- `SecretsCredentialTrustRootExposureAnalyzer.evaluate`. -/
def evaluate (p : SecretExposurePolicy) (r : SecretExposureRequest) (m : SecretExposureManifest) (architecture : ArchitectureManifest)
    (a : VerifiedAttackPathAssessment) (b : VerifiedPrivilegeEscalationAssessment) (c : VerifiedDataExfiltrationAssessment)
    (s : SecurityPosture) : Gate VerifiedSecretExposureAssessment := do
  validatePolicy rt p
  validateRequest rt r p
  let (assets, controls) ← validateUpstream rt r p architecture a b c s
  let g ← validateManifest rt m r p assets controls
  let paths ← enumeratePaths rt g controls p r.evaluatedAtEpoch
  let exposed := paths.filter fun f => f.exposed
  let controlled := paths.filter fun f => ¬ f.exposed
  rejectIf (¬ sameSet r.declaredExposedPathIds (prioritized exposed))
    (plain .declaredPathMismatch "caller-declared exposed secret paths differ from derived evidence")
  rejectIf (r.declaredMaxBlastRadiusScore ≠ maxScore exposed)
    (plain .declaredBlastRadiusMismatch "caller-declared blast radius differs from derived evidence")
  let document : Json := .obj [
    ("architecture_sha256", .str assets.sha256), ("control_catalog_sha256", .str (rt.casefold s.controlCatalogSha256)),
    ("entry_secret_ids", texts (sortOn id r.entrySecretIds)), ("exposed_path_ids", texts (prioritized exposed)),
    ("max_blast_radius_score", .int (maxScore exposed)),
    ("p7a_assessment_evidence_sha256", .str (rt.casefold a.assessmentEvidenceSha256)),
    ("p7b_assessment_evidence_sha256", .str (rt.casefold b.assessmentEvidenceSha256)),
    ("p7c_assessment_evidence_sha256", .str (rt.casefold c.assessmentEvidenceSha256)),
    ("path_facts", .arr (paths.map factDocument)),
    ("posture_evidence_sha256", .str (rt.casefold s.postureEvidenceSha256)), ("secret_graph_sha256", .str g.sha256),
    ("target_surface_ids", texts (sortOn id r.targetSurfaceIds))]
  return {
    secretGraphId := m.secretGraphId
    secretGraphVersion := m.version
    secretGraphSha256 := g.sha256
    architectureSha256 := assets.sha256
    p7aAssessmentEvidenceSha256 := rt.casefold a.assessmentEvidenceSha256
    p7bAssessmentEvidenceSha256 := rt.casefold b.assessmentEvidenceSha256
    p7cAssessmentEvidenceSha256 := rt.casefold c.assessmentEvidenceSha256
    postureEvidenceSha256 := rt.casefold s.postureEvidenceSha256
    controlCatalogSha256 := rt.casefold s.controlCatalogSha256
    entrySecretIds := sortOn id r.entrySecretIds
    targetSurfaceIds := sortOn id r.targetSurfaceIds
    topologyPathCount := paths.length
    exposedPathCount := exposed.length
    controlledPathCount := controlled.length
    criticalExposedPathCount := exposed.countP fun f => f.secretSensitivity = .critical
    trustRootExposedPathCount := exposed.countP fun f => f.trustRoot
    externalEgressExposedPathCount := exposed.countP fun f => f.externalEgress
    maxBlastRadiusScore := maxScore exposed
    prioritizedExposedPathIds := prioritized exposed
    paths := paths
    assessmentEvidenceSha256 := rt.sha256 document }

end

end Aegis.Architecture.SecretPaths
