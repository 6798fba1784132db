/-
  Aegis.Architecture.PrivilegePaths — the P7-B analyzer, which enumerates the ways a principal can come
  to hold a capability (privilege_types.py, privilege_core.py, privilege_evidence.py,
  privilege_manifest.py, privilege_paths.py).

  `evaluate` validates policy, request, upstream evidence and identity graph, follows the privilege
  transitions from every entry principal, and records each target capability where it is first gained.
-/

import Aegis.Architecture.AttackPaths

namespace Aegis.Architecture.PrivilegePaths

open Data Data.Checks Data.BoundedSearch
open Agentic (Dict sameSet)
open Assurance (Runtime isSha256)
open Assurance.Posture (ControlStatus)
open AttackPaths (ArchitectureAsset ArchitectureFlow ArchitectureManifest AssetGraph VerifiedAttackPathAssessment
  P7A_ARCHITECTURE_SCHEMA_VERSION architectureManifestDigest)

def P7B_IDENTITY_SCHEMA_VERSION : String := "aegis-identity-capability-graph-v1"
def P7B_ASSESSMENT_SCHEMA_VERSION : String := "aegis-privilege-escalation-assessment-v1"

inductive PrincipalType where
  | externalUser
  | tenantUser
  | serviceIdentity
  | toolIdentity
  | modelPublisher
  | modelRuntime
  | securityIdentity
  deriving DecidableEq, Repr

def PrincipalType.value : PrincipalType → String
  | externalUser => "external_user"
  | tenantUser => "tenant_user"
  | serviceIdentity => "service_identity"
  | toolIdentity => "tool_identity"
  | modelPublisher => "model_publisher"
  | modelRuntime => "model_runtime"
  | securityIdentity => "security_identity"

inductive PrivilegeTier where
  | untrusted
  | tenant
  | service
  | privileged
  | security
  deriving DecidableEq, Repr

def PrivilegeTier.value : PrivilegeTier → String
  | untrusted => "untrusted"
  | tenant => "tenant"
  | service => "service"
  | privileged => "privileged"
  | security => "security"

/-- `_tier_rank`. -/
def tierRank : PrivilegeTier → Int
  | .untrusted => 0
  | .tenant => 1
  | .service => 2
  | .privileged => 3
  | .security => 4

inductive PrivilegeScope where
  | publicScope
  | tenant
  | workload
  | security
  deriving DecidableEq, Repr

def PrivilegeScope.value : PrivilegeScope → String
  | .publicScope => "public"
  | .tenant => "tenant"
  | .workload => "workload"
  | .security => "security"

/-- `_scope_rank`. -/
def scopeRank : PrivilegeScope → Int
  | .publicScope => 0
  | .tenant => 1
  | .workload => 2
  | .security => 3

inductive CapabilitySensitivity where
  | low
  | medium
  | high
  | critical
  deriving DecidableEq, Repr

def CapabilitySensitivity.value : CapabilitySensitivity → String
  | low => "low"
  | medium => "medium"
  | high => "high"
  | critical => "critical"

/-- `_sensitivity_rank`. -/
def sensitivityRank : CapabilitySensitivity → Int
  | .low => 1
  | .medium => 2
  | .high => 3
  | .critical => 4

inductive DelegationType where
  | authenticatedSession
  | serverPrincipalInjection
  | toolAuthorization
  | credentialBroker
  | modelReleaseAdmission
  | runtimeInvocation
  | telemetryDelegation
  deriving DecidableEq, Repr

def DelegationType.value : DelegationType → String
  | authenticatedSession => "authenticated_session"
  | serverPrincipalInjection => "server_principal_injection"
  | toolAuthorization => "tool_authorization"
  | credentialBroker => "credential_broker"
  | modelReleaseAdmission => "model_release_admission"
  | runtimeInvocation => "runtime_invocation"
  | telemetryDelegation => "telemetry_delegation"

inductive PrivilegePathRejectReason where
  | policyInvalid
  | requestInvalid
  | architectureInvalid
  | architectureDigestMismatch
  | p7aAssessmentUnverified
  | p7aAssessmentMismatch
  | postureUnverified
  | postureDigestMismatch
  | controlCatalogMismatch
  | controlEvidenceInvalid
  | controlStatusMismatch
  | identityManifestInvalid
  | identityManifestDigestMismatch
  | identityManifestStale
  | identityManifestFuture
  | principalDuplicate
  | principalRequiredMissing
  | principalOwnerUntrusted
  | principalAssetInvalid
  | principalTypeDrift
  | principalTierDrift
  | principalScopeDrift
  | principalCapabilityDrift
  | capabilityDuplicate
  | capabilityRequiredMissing
  | capabilityOwnerUntrusted
  | capabilityTargetInvalid
  | capabilitySensitivityDowngrade
  | capabilityTierDowngrade
  | edgeDuplicate
  | edgeRequiredMissing
  | edgeOwnerUntrusted
  | edgeReferenceInvalid
  | edgeSelfLoop
  | edgeEndpointDrift
  | edgeFlowDrift
  | edgeControlDrift
  | edgeGrantDrift
  | edgeFlowInvalid
  | edgeControlUnknown
  | edgeControlNotOnRoute
  | attestedEntryScopeMismatch
  | targetCapabilityScopeMismatch
  | pathLimitExceeded
  | declaredPathMismatch
  | declaredRiskMismatch
  deriving DecidableEq, Repr

structure PrivilegePathRejected where
  reason : PrivilegePathRejectReason
  message : String
  principalId : Option String := none
  capabilityId : Option String := none
  edgeId : Option String := none
  controlId : Option String := none
  deriving DecidableEq, Repr

abbrev Gate (α : Type) := Checked PrivilegePathRejected α

structure IdentityPrincipal where
  principalId : String
  principalType : PrincipalType
  homeAssetId : String
  ownerId : String
  privilegeTier : PrivilegeTier
  privilegeScope : PrivilegeScope
  nativeCapabilityIds : List String
  description : String
  deriving DecidableEq

structure Capability where
  capabilityId : String
  targetAssetId : String
  ownerId : String
  sensitivity : CapabilitySensitivity
  minimumPrivilegeTier : PrivilegeTier
  description : String
  deriving DecidableEq

structure PrivilegeTransition where
  edgeId : String
  sourcePrincipalId : String
  targetPrincipalId : String
  delegationType : DelegationType
  ownerId : String
  viaFlowIds : List String
  requiredControlIds : List String
  grantedCapabilityIds : List String
  description : String
  deriving DecidableEq

structure IdentityCapabilityManifest where
  identityGraphId : String
  version : String
  architectureSha256 : String
  createdAtEpoch : Int
  principals : List IdentityPrincipal
  capabilities : List Capability
  transitions : List PrivilegeTransition
  schemaVersion : String := P7B_IDENTITY_SCHEMA_VERSION

structure PrivilegePathRequest where
  identityGraphId : String
  identityGraphVersion : String
  identityGraphSha256 : String
  architectureSha256 : String
  p7aAssessmentEvidenceSha256 : String
  postureEvidenceSha256 : String
  entryPrincipalIds : List String
  targetCapabilityIds : List String
  evaluatedAtEpoch : Int
  declaredExposedPathIds : List String
  declaredMaxExposedRiskScore : Int

structure PrivilegePathPolicy where
  expectedIdentityGraphId : String
  expectedIdentityGraphVersion : String
  expectedIdentityGraphSha256 : String
  expectedArchitectureSha256 : String
  expectedP7aAssessmentEvidenceSha256 : String
  expectedPostureEvidenceSha256 : String
  expectedControlCatalogSha256 : String
  requiredPrincipalIds : List String
  requiredCapabilityIds : List String
  requiredTransitionIds : List String
  entryPrincipalIds : List String
  targetCapabilityIds : List String
  trustedOwnerIds : List String
  expectedHomeAssetByPrincipal : List (String × String)
  expectedTypeByPrincipal : List (String × PrincipalType)
  expectedTierByPrincipal : List (String × PrivilegeTier)
  expectedScopeByPrincipal : List (String × PrivilegeScope)
  expectedNativeCapabilitiesByPrincipal : List (String × List String)
  expectedTargetAssetByCapability : List (String × String)
  minimumSensitivityByCapability : List (String × CapabilitySensitivity)
  minimumTierByCapability : List (String × PrivilegeTier)
  expectedTransitionEndpoints : List (String × (String × String))
  expectedFlowIdsByTransition : List (String × List String)
  expectedControlIdsByTransition : List (String × List String)
  expectedGrantedCapabilityIdsByTransition : List (String × List String)
  maxManifestAgeSeconds : Int := 86400
  maxFutureSkewSeconds : Int := 30
  maxPathHops : Int := 8
  maxPaths : Int := 128

structure PrivilegePathFact where
  pathId : String
  entryPrincipalId : String
  finalPrincipalId : String
  targetCapabilityId : String
  principalIds : List String
  transitionIds : List String
  architectureFlowIds : List String
  privilegeTierSequence : List String
  privilegeScopeSequence : List String
  privilegeIncrease : Int
  scopeIncrease : Int
  satisfiedControlIds : List String
  exceptionedControlIds : List String
  notEvaluatedControlIds : List String
  capabilitySensitivity : CapabilitySensitivity
  exposed : Bool
  riskScore : Int
  exposureReasons : List String
  mitigatingControlIds : List String
  deriving DecidableEq

structure VerifiedPrivilegeEscalationAssessment where
  identityGraphId : String
  identityGraphVersion : String
  identityGraphSha256 : String
  architectureSha256 : String
  p7aAssessmentEvidenceSha256 : String
  postureEvidenceSha256 : String
  controlCatalogSha256 : String
  entryPrincipalIds : List String
  targetCapabilityIds : List String
  topologyPathCount : Int
  exposedPathCount : Int
  controlledPathCount : Int
  criticalExposedPathCount : Int
  maxExposedRiskScore : Int
  prioritizedExposedPathIds : List String
  paths : List PrivilegePathFact
  assessmentEvidenceSha256 : String
  exactIdentityGraphBindingVerified : Bool := true
  exactArchitectureBindingVerified : Bool := true
  exactP7aAssessmentBindingVerified : Bool := true
  exactP6dPostureBindingVerified : Bool := true
  principalCapabilityPolicyPinned : Bool := true
  delegationRoutesPolicyPinned : Bool := true
  privilegeAmplificationDerivedFromEvidence : Bool := true
  mitigatingControlsVisible : Bool := true
  callerSummaryTrusted : Bool := false
  networkOperations : Int := 0
  schemaVersion : String := P7B_ASSESSMENT_SCHEMA_VERSION

/-- The flags that a reader of P7-B evidence asks for. -/
def VerifiedPrivilegeEscalationAssessment.Intact (a : VerifiedPrivilegeEscalationAssessment) : Prop :=
  a.schemaVersion = P7B_ASSESSMENT_SCHEMA_VERSION ∧ a.exactIdentityGraphBindingVerified ∧ a.exactArchitectureBindingVerified ∧
    a.exactP7aAssessmentBindingVerified ∧ a.exactP6dPostureBindingVerified ∧ a.principalCapabilityPolicyPinned ∧
    a.delegationRoutesPolicyPinned ∧ a.privilegeAmplificationDerivedFromEvidence ∧ a.mitigatingControlsVisible ∧
    ¬ a.callerSummaryTrusted ∧ a.networkOperations = 0

instance decidableIntactAssessment (a : VerifiedPrivilegeEscalationAssessment) : Decidable a.Intact :=
  inferInstanceAs (Decidable (_ ∧ _))

/-! ## Canonical documents -/

/-- `_canonical_principal`. -/
def canonicalPrincipal (x : IdentityPrincipal) : Json := .obj [
  ("description", .str x.description), ("home_asset_id", .str x.homeAssetId),
  ("native_capability_ids", texts (sortOn id x.nativeCapabilityIds)), ("owner_id", .str x.ownerId),
  ("principal_id", .str x.principalId), ("principal_type", .str x.principalType.value),
  ("privilege_scope", .str x.privilegeScope.value), ("privilege_tier", .str x.privilegeTier.value)]

/-- `_canonical_capability`. -/
def canonicalCapability (c : Capability) : Json := .obj [
  ("capability_id", .str c.capabilityId), ("description", .str c.description),
  ("minimum_privilege_tier", .str c.minimumPrivilegeTier.value), ("owner_id", .str c.ownerId),
  ("sensitivity", .str c.sensitivity.value), ("target_asset_id", .str c.targetAssetId)]

/-- `_canonical_transition`. -/
def canonicalTransition (t : PrivilegeTransition) : Json := .obj [
  ("delegation_type", .str t.delegationType.value), ("description", .str t.description), ("edge_id", .str t.edgeId),
  ("granted_capability_ids", texts (sortOn id t.grantedCapabilityIds)), ("owner_id", .str t.ownerId),
  ("required_control_ids", texts (sortOn id t.requiredControlIds)), ("source_principal_id", .str t.sourcePrincipalId),
  ("target_principal_id", .str t.targetPrincipalId), ("via_flow_ids", texts t.viaFlowIds)]

section
variable (rt : Runtime)

/-- `canonical_identity_capability_manifest_bytes`. -/
def canonicalIdentityCapabilityManifest (m : IdentityCapabilityManifest) : Json := .obj [
  ("architecture_sha256", .str (rt.casefold m.architectureSha256)),
  ("capabilities", .arr ((sortOn Capability.capabilityId m.capabilities).map canonicalCapability)),
  ("created_at_epoch", .int m.createdAtEpoch), ("identity_graph_id", .str m.identityGraphId),
  ("principals", .arr ((sortOn IdentityPrincipal.principalId m.principals).map canonicalPrincipal)),
  ("schema_version", .str m.schemaVersion),
  ("transitions", .arr ((sortOn PrivilegeTransition.edgeId m.transitions).map canonicalTransition)),
  ("version", .str m.version)]

def identityCapabilityManifestDigest (m : IdentityCapabilityManifest) : String := rt.sha256 (canonicalIdentityCapabilityManifest rt m)

def pathDocument (entryPrincipalId targetCapabilityId : String) (principalIds transitionIds : List String) : Json := .obj [
  ("entry_principal_id", .str entryPrincipalId), ("principal_ids", texts principalIds),
  ("target_capability_id", .str targetCapabilityId), ("transition_ids", texts transitionIds)]

/-- `privilege_path_identifier` of a path's document. -/
def privilegePathIdentifier (document : Json) : String := "privpath-" ++ String.ofList ((rt.sha256 document).toList.take 20)

/-! ## Policy and request -/

def policyInvalid (message : String) : PrivilegePathRejected := ⟨.policyInvalid, message, none, none, none, none⟩

/-- `_validate_policy`. -/
def validatePolicy (p : PrivilegePathPolicy) : Gate Unit := do
  rejectIf (p.expectedIdentityGraphId = "" ∨ p.expectedIdentityGraphVersion = "" ∨ ¬ isSha256 rt p.expectedIdentityGraphSha256 ∨
    ¬ isSha256 rt p.expectedArchitectureSha256 ∨ ¬ isSha256 rt p.expectedP7aAssessmentEvidenceSha256 ∨
    ¬ isSha256 rt p.expectedPostureEvidenceSha256 ∨ ¬ isSha256 rt p.expectedControlCatalogSha256 ∨ p.requiredPrincipalIds = [] ∨
    p.requiredCapabilityIds = [] ∨ p.requiredTransitionIds = [] ∨ p.entryPrincipalIds = [] ∨ p.targetCapabilityIds = [] ∨
    p.trustedOwnerIds = [] ∨ (∃ i ∈ p.entryPrincipalIds, i ∉ p.requiredPrincipalIds) ∨
    (∃ i ∈ p.targetCapabilityIds, i ∉ p.requiredCapabilityIds) ∨ p.maxManifestAgeSeconds < 0 ∨ p.maxFutureSkewSeconds < 0 ∨
    p.maxPathHops ≤ 0 ∨ p.maxPaths ≤ 0) (policyInvalid "privilege-path policy metadata is invalid")
  rejectIf (¬ covers p.requiredPrincipalIds p.expectedHomeAssetByPrincipal ∨ ¬ covers p.requiredPrincipalIds p.expectedTypeByPrincipal ∨
    ¬ covers p.requiredPrincipalIds p.expectedTierByPrincipal ∨ ¬ covers p.requiredPrincipalIds p.expectedScopeByPrincipal ∨
    ¬ covers p.requiredPrincipalIds p.expectedNativeCapabilitiesByPrincipal)
    (policyInvalid "required principals lack complete policy pins")
  rejectIf (¬ covers p.requiredCapabilityIds p.expectedTargetAssetByCapability ∨
    ¬ covers p.requiredCapabilityIds p.minimumSensitivityByCapability ∨ ¬ covers p.requiredCapabilityIds p.minimumTierByCapability)
    (policyInvalid "required capabilities lack complete policy pins")
  rejectIf (¬ covers p.requiredTransitionIds p.expectedTransitionEndpoints ∨
    ¬ covers p.requiredTransitionIds p.expectedFlowIdsByTransition ∨ ¬ covers p.requiredTransitionIds p.expectedControlIdsByTransition ∨
    ¬ covers p.requiredTransitionIds p.expectedGrantedCapabilityIdsByTransition)
    (policyInvalid "required transitions lack complete policy pins")
  forEach (fun (i, source, target) => rejectIf (i = "" ∨ source = "" ∨ target = "" ∨ source = target)
    (policyInvalid "transition endpoint policy pin is invalid")) p.expectedTransitionEndpoints
  forEach (fun (i, flows) => rejectIf (i = "" ∨ flows = [] ∨ ¬ flows.Nodup ∨ "" ∈ flows)
    (policyInvalid "transition route policy pin is invalid")) p.expectedFlowIdsByTransition
  forEach (fun mapping => rejectIf (∃ values ∈ mapping.map Prod.snd, "" ∈ values)
    (policyInvalid "policy contains an empty capability/control identifier"))
    [p.expectedControlIdsByTransition, p.expectedGrantedCapabilityIdsByTransition, p.expectedNativeCapabilitiesByPrincipal]

/-- `_validate_request`. -/
def validateRequest (r : PrivilegePathRequest) (p : PrivilegePathPolicy) : Gate Unit := do
  rejectIf (r.identityGraphId = "" ∨ r.identityGraphVersion = "" ∨ ¬ isSha256 rt r.identityGraphSha256 ∨
    ¬ isSha256 rt r.architectureSha256 ∨ ¬ isSha256 rt r.p7aAssessmentEvidenceSha256 ∨ ¬ isSha256 rt r.postureEvidenceSha256 ∨
    r.entryPrincipalIds = [] ∨ r.targetCapabilityIds = [] ∨ r.evaluatedAtEpoch ≤ 0 ∨ r.declaredMaxExposedRiskScore < 0 ∨
    ¬ r.entryPrincipalIds.Nodup ∨ ¬ r.targetCapabilityIds.Nodup ∨ ¬ r.declaredExposedPathIds.Nodup)
    ⟨.requestInvalid, "privilege-path request metadata is invalid", none, none, none, none⟩
  rejectIf (¬ sameSet r.entryPrincipalIds p.entryPrincipalIds)
    ⟨.attestedEntryScopeMismatch, "entry principals differ from policy", none, none, none, none⟩
  rejectIf (¬ sameSet r.targetCapabilityIds p.targetCapabilityIds)
    ⟨.targetCapabilityScopeMismatch, "target capabilities differ from policy", none, none, none, none⟩

/-! ## Upstream evidence -/

def plain (reason : PrivilegePathRejectReason) (message : String) : PrivilegePathRejected := ⟨reason, message, none, none, none, none⟩

/-- `_validate_architecture`, which reads the architecture, the P7-A assessment and the posture. -/
def validateArchitecture (m : ArchitectureManifest) (a : VerifiedAttackPathAssessment) (s : SecurityPosture) (r : PrivilegePathRequest)
    (p : PrivilegePathPolicy) : Gate AssetGraph := do
  rejectIf (m.schemaVersion ≠ P7A_ARCHITECTURE_SCHEMA_VERSION ∨ m.architectureId = "" ∨ m.version = "" ∨ m.assets = [] ∨ m.flows = [])
    (plain .architectureInvalid "P7-B requires a valid P7-A architecture manifest")
  let sha := architectureManifestDigest rt m
  rejectIf (sha ≠ rt.casefold p.expectedArchitectureSha256 ∨ rt.casefold r.architectureSha256 ≠ sha)
    (plain .architectureDigestMismatch "request/policy do not bind to exact P7-A architecture")
  rejectIf (¬ a.Intact ∨ ¬ isSha256 rt a.assessmentEvidenceSha256)
    (plain .p7aAssessmentUnverified "P7-B requires intact P7-A attack-path evidence")
  let mismatch := plain .p7aAssessmentMismatch "P7-A assessment does not bind to exact architecture/policy/request"
  rejectIf (a.architectureId ≠ m.architectureId ∨ a.architectureVersion ≠ m.version) mismatch
  rejectUnequal (rt.casefold a.architectureSha256) sha mismatch
  rejectIf (rt.casefold a.assessmentEvidenceSha256 ≠ rt.casefold p.expectedP7aAssessmentEvidenceSha256 ∨
    rt.casefold r.p7aAssessmentEvidenceSha256 ≠ rt.casefold a.assessmentEvidenceSha256) mismatch
  rejectIf (¬ s.Intact ∨ ¬ isSha256 rt s.postureEvidenceSha256 ∨ ¬ isSha256 rt s.controlCatalogSha256)
    (plain .postureUnverified "P7-B requires intact P6-D posture evidence")
  let unbound := plain .postureDigestMismatch "P7-A/P7-B request/policy do not bind to exact P6-D posture evidence"
  rejectIf (rt.casefold s.postureEvidenceSha256 ≠ rt.casefold p.expectedPostureEvidenceSha256 ∨
    rt.casefold r.postureEvidenceSha256 ≠ rt.casefold s.postureEvidenceSha256) unbound
  rejectUnequal (rt.casefold a.postureEvidenceSha256) (rt.casefold s.postureEvidenceSha256) unbound
  let uncatalogued := plain .controlCatalogMismatch "P7-A/P7-B control catalog differs from policy"
  rejectIf (rt.casefold s.controlCatalogSha256 ≠ rt.casefold p.expectedControlCatalogSha256) uncatalogued
  rejectUnequal (rt.casefold a.controlCatalogSha256) (rt.casefold s.controlCatalogSha256) uncatalogued
  scan (fun seen x => rejectIf (x.assetId = "" ∨ x.assetId ∈ seen.map ArchitectureAsset.assetId)
    (plain .architectureInvalid "architecture asset IDs are empty or duplicate")) [] m.assets
  let g : AssetGraph := ⟨m.assets, m.flows, sha⟩
  scan (fun seen f => rejectIf (f.flowId = "" ∨ f.flowId ∈ seen.map ArchitectureFlow.flowId ∨ g.asset f.sourceAssetId = none ∨
    g.asset f.targetAssetId = none) (plain .architectureInvalid "architecture flows are invalid or duplicate")) [] m.flows
  return g

/-- `_posture_controls`. -/
def controlRejections : ControlRejections PrivilegePathRejected where
  invalid c := ⟨.controlEvidenceInvalid, "P6-D control assessment is invalid or duplicate", none, none, none, orNone c⟩
  duplicate c := ⟨.controlEvidenceInvalid, "P6-D control assessment is invalid or duplicate", none, none, none, orNone c⟩
  count := plain .controlEvidenceInvalid "P6-D control count does not match assessment coverage"
  status := plain .controlStatusMismatch "P6-D aggregate control status differs from per-control evidence"

/-! ## The identity graph -/

/-- The principals, capabilities and transitions of a manifest, each with an id of its own, and its digest. -/
structure IdentityGraph where
  principals : List IdentityPrincipal
  capabilities : List Capability
  transitions : List PrivilegeTransition
  sha256 : String

def IdentityGraph.principal (g : IdentityGraph) : Dict IdentityPrincipal := Dict.ofItems IdentityPrincipal.principalId g.principals

def IdentityGraph.capability (g : IdentityGraph) : Dict Capability := Dict.ofItems Capability.capabilityId g.capabilities

def IdentityGraph.transition (g : IdentityGraph) : Dict PrivilegeTransition := Dict.ofItems PrivilegeTransition.edgeId g.transitions

def validatePrincipal (assets : AssetGraph) (p : PrivilegePathPolicy) (seen : List IdentityPrincipal) (x : IdentityPrincipal) : Gate Unit := do
  rejectIf (x.principalId = "" ∨ x.homeAssetId = "" ∨ x.ownerId = "" ∨ ¬ x.nativeCapabilityIds.Nodup ∨ "" ∈ x.nativeCapabilityIds ∨
    x.description = "") ⟨.identityManifestInvalid, "identity graph contains an invalid principal", orNone x.principalId, none, none, none⟩
  rejectIf (x.principalId ∈ seen.map IdentityPrincipal.principalId)
    ⟨.principalDuplicate, "identity graph contains duplicate principal IDs", some x.principalId, none, none, none⟩
  rejectIf (x.ownerId ∉ p.trustedOwnerIds)
    ⟨.principalOwnerUntrusted, "principal owner is not trusted", some x.principalId, none, none, none⟩
  rejectIf (assets.asset x.homeAssetId = none)
    ⟨.principalAssetInvalid, "principal home asset is absent from P7-A architecture", some x.principalId, none, none, none⟩

/-- The comparison of a required principal with what the policy pins. -/
def comparePrincipal (g : IdentityGraph) (p : PrivilegePathPolicy) (i : String) : Gate Unit := do
  let x ← getItem g.principal i
  let home ← getItem (Dict.mapping p.expectedHomeAssetByPrincipal) i
  rejectIf (x.homeAssetId ≠ home) ⟨.principalAssetInvalid, "principal home asset differs from policy", some i, none, none, none⟩
  let type ← getItem (Dict.mapping p.expectedTypeByPrincipal) i
  rejectIf (x.principalType ≠ type) ⟨.principalTypeDrift, "principal type differs from policy", some i, none, none, none⟩
  let tier ← getItem (Dict.mapping p.expectedTierByPrincipal) i
  rejectIf (x.privilegeTier ≠ tier) ⟨.principalTierDrift, "principal privilege tier differs from policy", some i, none, none, none⟩
  let scope ← getItem (Dict.mapping p.expectedScopeByPrincipal) i
  rejectIf (x.privilegeScope ≠ scope) ⟨.principalScopeDrift, "principal privilege scope differs from policy", some i, none, none, none⟩
  let native ← getItem (Dict.mapping p.expectedNativeCapabilitiesByPrincipal) i
  rejectIf (¬ sameSet x.nativeCapabilityIds native)
    ⟨.principalCapabilityDrift, "principal native capabilities differ from policy", some i, none, none, none⟩

def validateCapability (assets : AssetGraph) (p : PrivilegePathPolicy) (seen : List Capability) (c : Capability) : Gate Unit := do
  rejectIf (c.capabilityId = "" ∨ c.targetAssetId = "" ∨ c.ownerId = "" ∨ c.description = "")
    ⟨.identityManifestInvalid, "identity graph contains an invalid capability", none, orNone c.capabilityId, none, none⟩
  rejectIf (c.capabilityId ∈ seen.map Capability.capabilityId)
    ⟨.capabilityDuplicate, "identity graph contains duplicate capability IDs", none, some c.capabilityId, none, none⟩
  rejectIf (c.ownerId ∉ p.trustedOwnerIds)
    ⟨.capabilityOwnerUntrusted, "capability owner is not trusted", none, some c.capabilityId, none, none⟩
  rejectIf (assets.asset c.targetAssetId = none)
    ⟨.capabilityTargetInvalid, "capability target is absent from P7-A architecture", none, some c.capabilityId, none, none⟩

/-- The comparison of a required capability with what the policy pins. -/
def compareCapability (g : IdentityGraph) (p : PrivilegePathPolicy) (i : String) : Gate Unit := do
  let c ← getItem g.capability i
  let target ← getItem (Dict.mapping p.expectedTargetAssetByCapability) i
  rejectIf (c.targetAssetId ≠ target) ⟨.capabilityTargetInvalid, "capability target differs from policy", none, some i, none, none⟩
  let sensitivity ← getItem (Dict.mapping p.minimumSensitivityByCapability) i
  rejectIf (sensitivityRank c.sensitivity < sensitivityRank sensitivity)
    ⟨.capabilitySensitivityDowngrade, "capability sensitivity is below policy minimum", none, some i, none, none⟩
  let tier ← getItem (Dict.mapping p.minimumTierByCapability) i
  rejectIf (tierRank c.minimumPrivilegeTier < tierRank tier)
    ⟨.capabilityTierDowngrade, "capability minimum tier is below policy minimum", none, some i, none, none⟩

/-- A principal's native capabilities are known, and it has the tier they ask for. -/
def validateNative (g : IdentityGraph) (x : IdentityPrincipal) : Gate Unit := forEach (fun i => do
  let c ← orRaise (.rejected ⟨.principalCapabilityDrift, "principal references an unknown native capability", some x.principalId, some i,
    none, none⟩) (g.capability i)
  rejectIf (tierRank x.privilegeTier < tierRank c.minimumPrivilegeTier)
    ⟨.principalCapabilityDrift, "principal tier is below a declared native capability minimum", some x.principalId, some i, none, none⟩)
  x.nativeCapabilityIds

def validateTransition (g : IdentityGraph) (p : PrivilegePathPolicy) (seen : List PrivilegeTransition) (t : PrivilegeTransition) :
    Gate Unit := do
  rejectIf (t.edgeId = "" ∨ t.sourcePrincipalId = "" ∨ t.targetPrincipalId = "" ∨ t.ownerId = "" ∨ t.viaFlowIds = [] ∨
    ¬ t.viaFlowIds.Nodup ∨ "" ∈ t.viaFlowIds ∨ ¬ t.requiredControlIds.Nodup ∨ "" ∈ t.requiredControlIds ∨
    ¬ t.grantedCapabilityIds.Nodup ∨ "" ∈ t.grantedCapabilityIds ∨ t.description = "")
    ⟨.identityManifestInvalid, "identity graph contains an invalid privilege transition", none, none, orNone t.edgeId, none⟩
  rejectIf (t.edgeId ∈ seen.map PrivilegeTransition.edgeId)
    ⟨.edgeDuplicate, "identity graph contains duplicate transition IDs", none, none, some t.edgeId, none⟩
  rejectIf (t.ownerId ∉ p.trustedOwnerIds) ⟨.edgeOwnerUntrusted, "transition owner is not trusted", none, none, some t.edgeId, none⟩
  rejectIf (g.principal t.sourcePrincipalId = none ∨ g.principal t.targetPrincipalId = none)
    ⟨.edgeReferenceInvalid, "transition references an unknown principal", none, none, some t.edgeId, none⟩
  rejectIf (t.sourcePrincipalId = t.targetPrincipalId)
    ⟨.edgeSelfLoop, "privilege transition may not self-loop", none, none, some t.edgeId, none⟩
  forEach (fun i => do
    let c ← orRaise (.rejected ⟨.edgeReferenceInvalid, "transition grants an unknown capability", none, some i, some t.edgeId, none⟩)
      (g.capability i)
    let target ← getItem g.principal t.targetPrincipalId
    rejectIf (tierRank target.privilegeTier < tierRank c.minimumPrivilegeTier)
      ⟨.edgeReferenceInvalid, "transition target tier is below granted capability minimum", none, some i, some t.edgeId, none⟩)
    t.grantedCapabilityIds

/-- The comparison of a required transition with what the policy pins. -/
def compareTransition (g : IdentityGraph) (p : PrivilegePathPolicy) (i : String) : Gate Unit := do
  let t ← getItem g.transition i
  let endpoints ← getItem (Dict.mapping p.expectedTransitionEndpoints) i
  rejectIf ((t.sourcePrincipalId, t.targetPrincipalId) ≠ endpoints)
    ⟨.edgeEndpointDrift, "transition endpoints differ from policy", none, none, some i, none⟩
  let flows ← getItem (Dict.mapping p.expectedFlowIdsByTransition) i
  rejectIf (t.viaFlowIds ≠ flows) ⟨.edgeFlowDrift, "transition architecture route differs from policy", none, none, some i, none⟩
  let controls ← getItem (Dict.mapping p.expectedControlIdsByTransition) i
  rejectIf (¬ sameSet t.requiredControlIds controls)
    ⟨.edgeControlDrift, "transition control mapping differs from policy", none, none, some i, none⟩
  let granted ← getItem (Dict.mapping p.expectedGrantedCapabilityIdsByTransition) i
  rejectIf (¬ sameSet t.grantedCapabilityIds granted)
    ⟨.edgeGrantDrift, "transition capability grants differ from policy", none, none, some i, none⟩

/-- The loop over `via_flow_ids`: where the route leads, and the controls on it. -/
def followRoute (assets : AssetGraph) (edgeId : String) (current : String) : List String → Gate (String × List String)
  | [] => .ok (current, [])
  | i :: rest => do
    let invalid : Raised PrivilegePathRejected :=
      .rejected ⟨.edgeFlowInvalid, "transition route is not contiguous in P7-A architecture", none, none, some edgeId, none⟩
    let f ← orRaise invalid (assets.flow i)
    raiseIf (f.sourceAssetId ≠ current) invalid
    let (last, controls) ← followRoute assets edgeId f.targetAssetId rest
    return (last, f.requiredControlIds ++ controls)

/-- The route of a transition through the architecture, and its controls. -/
def validateRoute (assets : AssetGraph) (controls : Dict ControlStatus) (g : IdentityGraph) (t : PrivilegeTransition) : Gate Unit := do
  let source ← getItem g.principal t.sourcePrincipalId
  let target ← getItem g.principal t.targetPrincipalId
  let (last, routeControls) ← followRoute assets t.edgeId source.homeAssetId t.viaFlowIds
  rejectIf (last ≠ target.homeAssetId)
    ⟨.edgeFlowInvalid, "transition route does not terminate at target principal home asset", none, none, some t.edgeId, none⟩
  forEach (fun c => do
    rejectIf (controls c = none)
      ⟨.edgeControlUnknown, "transition references control absent from P6-D posture", none, none, some t.edgeId, some c⟩
    rejectIf (c ∉ routeControls)
      ⟨.edgeControlNotOnRoute, "transition control is not mapped to its exact P7-A route", none, none, some t.edgeId, some c⟩)
    t.requiredControlIds

/-- `_validate_identity_manifest`. -/
def validateIdentityManifest (m : IdentityCapabilityManifest) (assets : AssetGraph) (controls : Dict ControlStatus) (r : PrivilegePathRequest)
    (p : PrivilegePathPolicy) : Gate IdentityGraph := do
  rejectIf (m.schemaVersion ≠ P7B_IDENTITY_SCHEMA_VERSION ∨ m.identityGraphId = "" ∨ m.version = "" ∨ ¬ isSha256 rt m.architectureSha256 ∨
    m.createdAtEpoch ≤ 0 ∨ m.principals = [] ∨ m.capabilities = [] ∨ m.transitions = [])
    (plain .identityManifestInvalid "identity/capability manifest metadata is invalid")
  let digest := identityCapabilityManifestDigest rt m
  rejectIf (m.identityGraphId ≠ p.expectedIdentityGraphId ∨ m.version ≠ p.expectedIdentityGraphVersion ∨
    r.identityGraphId ≠ m.identityGraphId ∨ r.identityGraphVersion ≠ m.version ∨ digest ≠ rt.casefold p.expectedIdentityGraphSha256 ∨
    rt.casefold r.identityGraphSha256 ≠ digest ∨ rt.casefold m.architectureSha256 ≠ rt.casefold p.expectedArchitectureSha256)
    (plain .identityManifestDigestMismatch "identity graph is not exactly policy/request/architecture bound")
  rejectIf (m.createdAtEpoch > r.evaluatedAtEpoch + p.maxFutureSkewSeconds)
    (plain .identityManifestFuture "identity graph is future-dated")
  rejectIf (r.evaluatedAtEpoch - m.createdAtEpoch > p.maxManifestAgeSeconds)
    (plain .identityManifestStale "identity graph is older than policy permits")
  let g : IdentityGraph := ⟨m.principals, m.capabilities, m.transitions, digest⟩
  scan (validatePrincipal assets p) [] m.principals
  let missing := distinct (p.requiredPrincipalIds.filter fun i => i ∉ m.principals.map IdentityPrincipal.principalId)
  rejectIf (missing ≠ []) ⟨.principalRequiredMissing, "required principal is missing", missing.head?, none, none, none⟩
  forEach (comparePrincipal g p) p.requiredPrincipalIds
  scan (validateCapability assets p) [] m.capabilities
  let missing := distinct (p.requiredCapabilityIds.filter fun i => i ∉ m.capabilities.map Capability.capabilityId)
  rejectIf (missing ≠ []) ⟨.capabilityRequiredMissing, "required capability is missing", none, missing.head?, none, none⟩
  forEach (compareCapability g p) p.requiredCapabilityIds
  forEach (validateNative g) m.principals
  scan (validateTransition g p) [] m.transitions
  let missing := distinct (p.requiredTransitionIds.filter fun i => i ∉ m.transitions.map PrivilegeTransition.edgeId)
  rejectIf (missing ≠ []) ⟨.edgeRequiredMissing, "required privilege transition is missing", none, none, missing.head?, none⟩
  forEach (compareTransition g p) p.requiredTransitionIds
  forEach (validateRoute assets controls g) m.transitions
  return g

/-! ## Paths -/

/-- `max(ranks) - ranks[0]`, where it is positive. -/
def increase (ranks : List Int) : Int := max 0 (ranks.foldl max 0 - ranks.head?.getD 0)

/-- `_path_fact`; a path has at least one principal, and no rank is negative. -/
def pathFact (g : IdentityGraph) (controls : Dict ControlStatus) (entry : String) (c : Capability) (principalIds transitionIds : List String) :
    Gate PrivilegePathFact := do
  let principals ← gather (getItem g.principal) principalIds
  let privilegeIncrease := increase (principals.map fun x => tierRank x.privilegeTier)
  let scopeIncrease := increase (principals.map fun x => scopeRank x.privilegeScope)
  let path ← gather (getItem g.transition) transitionIds
  let t ← tally controls (path.flatMap PrivilegeTransition.requiredControlIds)
  return {
    pathId := privilegePathIdentifier rt (pathDocument entry c.capabilityId principalIds transitionIds)
    entryPrincipalId := entry
    finalPrincipalId := principalIds.getLast?.getD ""
    targetCapabilityId := c.capabilityId
    principalIds := principalIds
    transitionIds := transitionIds
    architectureFlowIds := path.flatMap PrivilegeTransition.viaFlowIds
    privilegeTierSequence := principals.map fun x => x.privilegeTier.value
    privilegeScopeSequence := principals.map fun x => x.privilegeScope.value
    privilegeIncrease := privilegeIncrease
    scopeIncrease := scopeIncrease
    satisfiedControlIds := t.satisfied
    exceptionedControlIds := t.exceptioned
    notEvaluatedControlIds := t.notEvaluated
    capabilitySensitivity := c.sensitivity
    exposed := (privilegeIncrease ≠ 0 ∨ scopeIncrease ≠ 0 ∨ 3 ≤ sensitivityRank c.sensitivity) ∧ (t.exceptioned ≠ [] ∨ t.notEvaluated ≠ [])
    riskScore := sensitivityRank c.sensitivity * 20 + privilegeIncrease * 7 + scopeIncrease * 5 + t.exceptioned.length * 12 +
      t.notEvaluated.length * 7 + max 0 (8 - (transitionIds.length : Int))
    exposureReasons := sortOn id (t.exceptioned.map ("exceptioned_control:" ++ ·) ++ t.notEvaluated.map ("not_evaluated_control:" ++ ·))
    mitigatingControlIds := t.satisfied }

/-- `principals[i].native_capability_ids`; every principal that is visited is known. -/
def native (g : IdentityGraph) (i : String) : List String := ((g.principal i).map IdentityPrincipal.nativeCapabilityIds).getD []

/-- The capabilities of `target` and of the transition to it. -/
def candidates (g : IdentityGraph) (t : PrivilegeTransition) : List String := t.grantedCapabilityIds ++ (native g t.targetPrincipalId)

/-- `acquired_capabilities` after a path. -/
def acquired (g : IdentityGraph) (entry : String) (path : List PrivilegeTransition) : List String :=
  native g entry ++ path.flatMap (candidates g)

/-- `newly_acquired_capabilities` at the end of a path. -/
def newlyAcquired (g : IdentityGraph) (entry : String) (path : List PrivilegeTransition) : List String :=
  match path.getLast? with
  | none => native g entry
  | some t => (candidates g t).filter fun c => c ∉ acquired g entry path.dropLast

/-- `adjacency`. -/
def graph (g : IdentityGraph) : BoundedSearch.Graph String PrivilegeTransition where
  outgoing i := sortOn PrivilegeTransition.edgeId (g.transitions.filter fun t => t.sourcePrincipalId = i)
  target := PrivilegeTransition.targetPrincipalId
  halts _ _ := false

def pathLimit (message : String) : Raised PrivilegePathRejected := .rejected (plain .pathLimitExceeded message)

/-- `walk(entry, …)`: it appends a fact for every target capability that is gained, and goes on. -/
def walkFrom (g : IdentityGraph) (controls : Dict ControlStatus) (p : PrivilegePathPolicy) (entry : String) :
    Search String PrivilegeTransition PrivilegePathFact (Raised PrivilegePathRejected) where
  toGraph := graph g
  emits _ path := gather (fun i => do
    let c ← getItem g.capability i
    pathFact rt g controls entry c (entry :: path.map PrivilegeTransition.targetPrincipalId) (path.map PrivilegeTransition.edgeId))
    (distinct (p.targetCapabilityIds.filter fun i => i ∈ newlyAcquired g entry path))
  maxResults := p.maxPaths
  tooMany := pathLimit "identity graph produced more privilege paths than policy permits"

/-- The loop that keeps the first fact of every id. -/
def unique (results : List PrivilegePathFact) : List PrivilegePathFact :=
  results.foldl (fun kept x => if x.pathId ∈ kept.map PrivilegePathFact.pathId then kept else kept ++ [x]) []

/-- `_enumerate_privilege_paths`; `len(edge_path)` reaches `max_path_hops` when no edge is left to go. -/
def enumeratePrivilegePaths (g : IdentityGraph) (controls : Dict ControlStatus) (p : PrivilegePathPolicy) : Gate (List PrivilegePathFact) := do
  forEach (fun (t : PrivilegeTransition) => raiseIf (g.principal t.sourcePrincipalId = none) (.key t.sourcePrincipalId)) g.transitions
  let (results, truncated) ← (distinct p.entryPrincipalIds).foldlM (fun st entry =>
    walk (walkFrom rt g controls p entry) p.maxPathHops.toNat entry [] [entry] st) ([], false)
  raiseIf truncated (pathLimit "privilege-path hop bound truncated a reachable identity frontier")
  return sortOn PrivilegePathFact.pathId (unique results)

/-! ## The assessment -/

/-- `asdict(path)`. -/
def factDocument (f : PrivilegePathFact) : Json := .obj [
  ("architecture_flow_ids", texts f.architectureFlowIds),
  ("capability_sensitivity", .str f.capabilitySensitivity.value), ("entry_principal_id", .str f.entryPrincipalId),
  ("exceptioned_control_ids", texts f.exceptionedControlIds), ("exposed", .bool f.exposed),
  ("exposure_reasons", texts f.exposureReasons), ("final_principal_id", .str f.finalPrincipalId),
  ("mitigating_control_ids", texts f.mitigatingControlIds),
  ("not_evaluated_control_ids", texts f.notEvaluatedControlIds), ("path_id", .str f.pathId),
  ("principal_ids", texts f.principalIds), ("privilege_increase", .int f.privilegeIncrease),
  ("privilege_scope_sequence", texts f.privilegeScopeSequence),
  ("privilege_tier_sequence", texts f.privilegeTierSequence), ("risk_score", .int f.riskScore),
  ("satisfied_control_ids", texts f.satisfiedControlIds), ("scope_increase", .int f.scopeIncrease),
  ("target_capability_id", .str f.targetCapabilityId), ("transition_ids", texts f.transitionIds)]

/-- `sorted(exposed, key=(-risk_score, target_capability_id, path_id))`. -/
def prioritized (exposed : List PrivilegePathFact) : List String :=
  (sortOn PrivilegePathFact.pathId exposed |> sortOn PrivilegePathFact.targetCapabilityId |> sortOn fun f => -f.riskScore).map
    PrivilegePathFact.pathId

/-- `max(…, default=0)`; no score is negative. -/
def maxRisk (exposed : List PrivilegePathFact) : Int := (exposed.map PrivilegePathFact.riskScore).foldl max 0

/-- `IdentityPrivilegeCapabilityAnalyzer.evaluate`. -/
def evaluate (p : PrivilegePathPolicy) (r : PrivilegePathRequest) (m : IdentityCapabilityManifest) (architecture : ArchitectureManifest)
    (a : VerifiedAttackPathAssessment) (s : SecurityPosture) : Gate VerifiedPrivilegeEscalationAssessment := do
  validatePolicy rt p
  validateRequest rt r p
  let assets ← validateArchitecture rt architecture a s r p
  let controls ← postureControls rt controlRejections s
  let g ← validateIdentityManifest rt m assets controls r p
  let paths ← enumeratePrivilegePaths rt g controls p
  let exposed := paths.filter fun f => f.exposed
  let controlled := paths.filter fun f => ¬ f.exposed
  let critical := exposed.filter fun f => f.capabilitySensitivity = .critical
  rejectIf (¬ sameSet r.declaredExposedPathIds (prioritized exposed))
    (plain .declaredPathMismatch "caller-declared exposed privilege paths differ from evidence-derived paths")
  rejectIf (r.declaredMaxExposedRiskScore ≠ maxRisk exposed)
    (plain .declaredRiskMismatch "caller-declared privilege risk differs from evidence-derived risk")
  let document : Json := .obj [
    ("architecture_sha256", .str (rt.casefold r.architectureSha256)),
    ("control_catalog_sha256", .str (rt.casefold s.controlCatalogSha256)),
    ("entry_principal_ids", texts (sortOn id r.entryPrincipalIds)), ("exposed_path_ids", texts (prioritized exposed)),
    ("identity_graph_sha256", .str g.sha256), ("max_exposed_risk_score", .int (maxRisk exposed)),
    ("p7a_assessment_evidence_sha256", .str (rt.casefold a.assessmentEvidenceSha256)),
    ("path_facts", .arr (paths.map factDocument)),
    ("posture_evidence_sha256", .str (rt.casefold s.postureEvidenceSha256)),
    ("target_capability_ids", texts (sortOn id r.targetCapabilityIds))]
  return {
    identityGraphId := m.identityGraphId
    identityGraphVersion := m.version
    identityGraphSha256 := g.sha256
    architectureSha256 := rt.casefold r.architectureSha256
    p7aAssessmentEvidenceSha256 := rt.casefold a.assessmentEvidenceSha256
    postureEvidenceSha256 := rt.casefold s.postureEvidenceSha256
    controlCatalogSha256 := rt.casefold s.controlCatalogSha256
    entryPrincipalIds := sortOn id r.entryPrincipalIds
    targetCapabilityIds := sortOn id r.targetCapabilityIds
    topologyPathCount := paths.length
    exposedPathCount := exposed.length
    controlledPathCount := controlled.length
    criticalExposedPathCount := critical.length
    maxExposedRiskScore := maxRisk exposed
    prioritizedExposedPathIds := prioritized exposed
    paths := paths
    assessmentEvidenceSha256 := rt.sha256 document }

end

end Aegis.Architecture.PrivilegePaths
