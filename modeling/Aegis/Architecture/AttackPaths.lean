/-
  Aegis.Architecture.AttackPaths — the P7-A analyzer, which enumerates the paths an attacker can take
  through an architecture (attack_paths.py).

  `evaluate` validates policy, request, manifest and posture, enumerates the simple paths from every
  entry to every target, and compares what they expose with what the caller declared.
-/

import Aegis.Architecture.Evidence
import Aegis.Data.BoundedSearch

namespace Aegis.Architecture.AttackPaths

open Data Data.Checks Data.BoundedSearch
open Agentic (Dict sameSet)
open Assurance (Runtime isSha256)
open Assurance.Posture (ControlStatus)

def P7A_ARCHITECTURE_SCHEMA_VERSION : String := "aegis-ai-security-architecture-v1"
def P7A_ASSESSMENT_SCHEMA_VERSION : String := "aegis-attack-path-assessment-v1"

inductive AssetType where
  | externalActor
  | apiGateway
  | agentOrchestrator
  | retriever
  | vectorStore
  | toolGateway
  | secretStore
  | modelRegistry
  | modelRuntime
  | securityTelemetry
  deriving DecidableEq, Repr

def AssetType.value : AssetType → String
  | externalActor => "external_actor"
  | apiGateway => "api_gateway"
  | agentOrchestrator => "agent_orchestrator"
  | retriever => "retriever"
  | vectorStore => "vector_store"
  | toolGateway => "tool_gateway"
  | secretStore => "secret_store"
  | modelRegistry => "model_registry"
  | modelRuntime => "model_runtime"
  | securityTelemetry => "security_telemetry"

inductive AssetSensitivity where
  | low
  | medium
  | high
  | critical
  deriving DecidableEq, Repr

def AssetSensitivity.value : AssetSensitivity → String
  | low => "low"
  | medium => "medium"
  | high => "high"
  | critical => "critical"

/-- `_sensitivity_rank`. -/
def sensitivityRank : AssetSensitivity → Int
  | .low => 1
  | .medium => 2
  | .high => 3
  | .critical => 4

inductive FlowType where
  | userInput
  | agentControl
  | retrieval
  | dataAccess
  | toolCall
  | secretAccess
  | modelAcquisition
  | inference
  | securityTelemetry
  deriving DecidableEq, Repr

def FlowType.value : FlowType → String
  | userInput => "user_input"
  | agentControl => "agent_control"
  | retrieval => "retrieval"
  | dataAccess => "data_access"
  | toolCall => "tool_call"
  | secretAccess => "secret_access"
  | modelAcquisition => "model_acquisition"
  | inference => "inference"
  | securityTelemetry => "security_telemetry"

inductive AttackPathRejectReason where
  | policyInvalid
  | requestInvalid
  | manifestInvalid
  | manifestDigestMismatch
  | manifestStale
  | manifestFuture
  | assetDuplicate
  | assetRequiredMissing
  | assetOwnerUntrusted
  | trustZoneInvalid
  | trustZoneDrift
  | sensitivityDowngrade
  | flowDuplicate
  | flowRequiredMissing
  | flowOwnerUntrusted
  | flowReferenceInvalid
  | flowSelfLoop
  | flowEndpointDrift
  | flowControlDuplicate
  | flowControlDrift
  | unguardedTrustBoundary
  | postureUnverified
  | postureDigestMismatch
  | controlCatalogMismatch
  | controlEvidenceInvalid
  | controlStatusMismatch
  | controlUnknown
  | attackerProfileMismatch
  | entryScopeMismatch
  | targetScopeMismatch
  | pathLimitExceeded
  | declaredPathMismatch
  | declaredRiskMismatch
  deriving DecidableEq, Repr

structure AttackPathRejected where
  reason : AttackPathRejectReason
  message : String
  assetId : Option String := none
  flowId : Option String := none
  controlId : Option String := none
  deriving DecidableEq, Repr

abbrev Gate (α : Type) := Checked AttackPathRejected α

structure ArchitectureAsset where
  assetId : String
  assetType : AssetType
  trustZone : String
  ownerId : String
  sensitivity : AssetSensitivity
  description : String
  deriving DecidableEq

structure ArchitectureFlow where
  flowId : String
  sourceAssetId : String
  targetAssetId : String
  flowType : FlowType
  ownerId : String
  requiredControlIds : List String
  description : String
  deriving DecidableEq

structure ArchitectureManifest where
  architectureId : String
  version : String
  createdAtEpoch : Int
  assets : List ArchitectureAsset
  flows : List ArchitectureFlow
  schemaVersion : String := P7A_ARCHITECTURE_SCHEMA_VERSION

structure AttackPathRequest where
  architectureId : String
  architectureVersion : String
  architectureSha256 : String
  postureEvidenceSha256 : String
  attackerProfileId : String
  entryAssetIds : List String
  targetAssetIds : List String
  evaluatedAtEpoch : Int
  declaredExposedPathIds : List String
  declaredMaxExposedRiskScore : Int

/-- A `Mapping` is the list of its items. -/
structure AttackPathPolicy where
  expectedArchitectureId : String
  expectedArchitectureVersion : String
  expectedArchitectureSha256 : String
  expectedPostureEvidenceSha256 : String
  expectedControlCatalogSha256 : String
  attackerProfileId : String
  requiredAssetIds : List String
  requiredFlowIds : List String
  requiredEntryAssetIds : List String
  requiredTargetAssetIds : List String
  trustedOwnerIds : List String
  allowedTrustZones : List String
  expectedTrustZoneByAsset : List (String × String)
  minimumSensitivityByAsset : List (String × AssetSensitivity)
  expectedFlowEndpoints : List (String × (String × String))
  expectedControlIdsByFlow : List (String × List String)
  allowUnguardedFlowIds : List String := []
  maxManifestAgeSeconds : Int := 86400
  maxFutureSkewSeconds : Int := 30
  maxPathHops : Int := 8
  maxPaths : Int := 128

structure AttackPathFact where
  pathId : String
  entryAssetId : String
  targetAssetId : String
  assetIds : List String
  flowIds : List String
  trustZoneSequence : List String
  trustBoundaryCrossings : Int
  satisfiedControlIds : List String
  exceptionedControlIds : List String
  notEvaluatedControlIds : List String
  unguardedFlowIds : List String
  exposed : Bool
  targetSensitivity : AssetSensitivity
  riskScore : Int
  exposureReasons : List String
  mitigatingControlIds : List String
  deriving DecidableEq

structure VerifiedAttackPathAssessment where
  architectureId : String
  architectureVersion : String
  architectureSha256 : String
  postureEvidenceSha256 : String
  controlCatalogSha256 : String
  attackerProfileId : String
  entryAssetIds : List String
  targetAssetIds : List String
  topologyPathCount : Int
  exposedPathCount : Int
  controlledPathCount : Int
  criticalExposedPathCount : Int
  maxExposedRiskScore : Int
  prioritizedExposedPathIds : List String
  paths : List AttackPathFact
  assessmentEvidenceSha256 : String
  exactArchitectureBindingVerified : Bool := true
  requiredGraphCoverageVerified : Bool := true
  trustBoundariesPolicyPinned : Bool := true
  exactPostureBindingVerified : Bool := true
  controlStatusDerivedFromP6d : Bool := true
  missingAndExceptionedControlsVisible : Bool := true
  callerSummaryTrusted : Bool := false
  networkOperations : Int := 0
  schemaVersion : String := P7A_ASSESSMENT_SCHEMA_VERSION

/-- The flags that a reader of P7-A evidence asks for. -/
def VerifiedAttackPathAssessment.Intact (a : VerifiedAttackPathAssessment) : Prop :=
  a.schemaVersion = P7A_ASSESSMENT_SCHEMA_VERSION ∧ a.exactArchitectureBindingVerified ∧ a.requiredGraphCoverageVerified ∧
    a.trustBoundariesPolicyPinned ∧ a.exactPostureBindingVerified ∧ a.controlStatusDerivedFromP6d ∧
    a.missingAndExceptionedControlsVisible ∧ ¬ a.callerSummaryTrusted ∧ a.networkOperations = 0

instance decidableIntactAssessment (a : VerifiedAttackPathAssessment) : Decidable a.Intact := inferInstanceAs (Decidable (_ ∧ _))

/-! ## Canonical documents -/

/-- `_canonical_asset`. -/
def canonicalAsset (a : ArchitectureAsset) : Json := .obj [
  ("asset_id", .str a.assetId), ("asset_type", .str a.assetType.value), ("description", .str a.description),
  ("owner_id", .str a.ownerId), ("sensitivity", .str a.sensitivity.value), ("trust_zone", .str a.trustZone)]

/-- `_canonical_flow`. -/
def canonicalFlow (f : ArchitectureFlow) : Json := .obj [
  ("description", .str f.description), ("flow_id", .str f.flowId), ("flow_type", .str f.flowType.value),
  ("owner_id", .str f.ownerId), ("required_control_ids", texts (sortOn id f.requiredControlIds)),
  ("source_asset_id", .str f.sourceAssetId), ("target_asset_id", .str f.targetAssetId)]

/-- `canonical_architecture_manifest_bytes`. -/
def canonicalArchitectureManifest (m : ArchitectureManifest) : Json := .obj [
  ("architecture_id", .str m.architectureId),
  ("assets", .arr ((sortOn ArchitectureAsset.assetId m.assets).map canonicalAsset)),
  ("created_at_epoch", .int m.createdAtEpoch),
  ("flows", .arr ((sortOn ArchitectureFlow.flowId m.flows).map canonicalFlow)),
  ("schema_version", .str m.schemaVersion), ("version", .str m.version)]

section
variable (rt : Runtime)

def architectureManifestDigest (m : ArchitectureManifest) : String := rt.sha256 (canonicalArchitectureManifest m)

def pathDocument (entryAssetId targetAssetId : String) (assetIds flowIds : List String) : Json := .obj [
  ("asset_ids", texts assetIds), ("entry_asset_id", .str entryAssetId), ("flow_ids", texts flowIds),
  ("target_asset_id", .str targetAssetId)]

/-- `attack_path_identifier`. -/
def attackPathIdentifier (entryAssetId targetAssetId : String) (assetIds flowIds : List String) : String :=
  "path-" ++ String.ofList ((rt.sha256 (pathDocument entryAssetId targetAssetId assetIds flowIds)).toList.take 20)

/-! ## Validation -/

/-- `_validate_policy`. -/
def validatePolicy (p : AttackPathPolicy) : Gate Unit := do
  rejectIf (p.expectedArchitectureId = "" ∨ p.expectedArchitectureVersion = "" ∨ ¬ isSha256 rt p.expectedArchitectureSha256 ∨
    ¬ isSha256 rt p.expectedPostureEvidenceSha256 ∨ ¬ isSha256 rt p.expectedControlCatalogSha256 ∨ p.attackerProfileId = "" ∨
    p.requiredAssetIds = [] ∨ p.requiredFlowIds = [] ∨ p.requiredEntryAssetIds = [] ∨ p.requiredTargetAssetIds = [] ∨
    p.trustedOwnerIds = [] ∨ p.allowedTrustZones = [] ∨ (∃ a ∈ p.requiredEntryAssetIds, a ∈ p.requiredTargetAssetIds) ∨
    (∃ a ∈ p.requiredEntryAssetIds, a ∉ p.requiredAssetIds) ∨ (∃ a ∈ p.requiredTargetAssetIds, a ∉ p.requiredAssetIds) ∨
    p.maxManifestAgeSeconds < 0 ∨ p.maxFutureSkewSeconds < 0 ∨ p.maxPathHops ≤ 0 ∨ p.maxPaths ≤ 0)
    ⟨.policyInvalid, "attack-path policy metadata is invalid", none, none, none⟩
  rejectIf (∃ a ∈ p.requiredAssetIds, a ∉ p.expectedTrustZoneByAsset.map Prod.fst)
    ⟨.policyInvalid, "required assets lack policy-pinned trust zones", none, none, none⟩
  rejectIf (∃ f ∈ p.requiredFlowIds, f ∉ p.expectedFlowEndpoints.map Prod.fst)
    ⟨.policyInvalid, "required flows lack policy-pinned endpoints", none, none, none⟩
  rejectIf (∃ f ∈ p.requiredFlowIds, f ∉ p.expectedControlIdsByFlow.map Prod.fst)
    ⟨.policyInvalid, "required flows lack policy-pinned control mappings", none, none, none⟩
  rejectIf (∃ a ∈ p.minimumSensitivityByAsset.map Prod.fst, a ∉ p.requiredAssetIds)
    ⟨.policyInvalid, "minimum sensitivity policy references a non-required asset", none, none, none⟩
  rejectIf (∃ f ∈ p.allowUnguardedFlowIds, f ∉ p.requiredFlowIds)
    ⟨.policyInvalid, "unguarded flow allowlist references a non-required flow", none, none, none⟩
  forEach (fun (a, zone) => rejectIf (a = "" ∨ zone ∉ p.allowedTrustZones)
    ⟨.policyInvalid, "policy-pinned trust-zone mapping is invalid", none, none, none⟩) p.expectedTrustZoneByAsset
  forEach (fun (a, _) => rejectIf (a = "") ⟨.policyInvalid, "minimum sensitivity mapping is invalid", none, none, none⟩)
    p.minimumSensitivityByAsset
  forEach (fun (f, source, target) => rejectIf (f = "" ∨ source = "" ∨ target = "" ∨ source = target)
    ⟨.policyInvalid, "policy-pinned flow endpoints are invalid", none, none, none⟩) p.expectedFlowEndpoints
  forEach (fun (f, controls) => rejectIf (f = "" ∨ "" ∈ controls)
    ⟨.policyInvalid, "policy-pinned flow controls are invalid", none, none, none⟩) p.expectedControlIdsByFlow

/-- `_validate_request`. -/
def validateRequest (r : AttackPathRequest) (p : AttackPathPolicy) : Gate Unit := do
  rejectIf (r.architectureId = "" ∨ r.architectureVersion = "" ∨ ¬ isSha256 rt r.architectureSha256 ∨
    ¬ isSha256 rt r.postureEvidenceSha256 ∨ r.attackerProfileId = "" ∨ r.entryAssetIds = [] ∨ r.targetAssetIds = [] ∨
    r.evaluatedAtEpoch ≤ 0 ∨ r.declaredMaxExposedRiskScore < 0 ∨ ¬ r.entryAssetIds.Nodup ∨ ¬ r.targetAssetIds.Nodup ∨
    ¬ r.declaredExposedPathIds.Nodup) ⟨.requestInvalid, "attack-path request metadata is invalid", none, none, none⟩
  rejectIf (r.attackerProfileId ≠ p.attackerProfileId)
    ⟨.attackerProfileMismatch, "attacker profile is not policy-authorized", none, none, none⟩
  rejectIf (¬ sameSet r.entryAssetIds p.requiredEntryAssetIds)
    ⟨.entryScopeMismatch, "attacker entry scope differs from policy", none, none, none⟩
  rejectIf (¬ sameSet r.targetAssetIds p.requiredTargetAssetIds)
    ⟨.targetScopeMismatch, "sensitive target scope differs from policy", none, none, none⟩

/-- The checks of one asset, after the assets before it. -/
def validateAsset (p : AttackPathPolicy) (seen : List ArchitectureAsset) (a : ArchitectureAsset) : Gate Unit := do
  rejectIf (a.assetId = "" ∨ a.trustZone = "" ∨ a.ownerId = "" ∨ a.description = "")
    ⟨.manifestInvalid, "architecture contains an invalid asset", orNone a.assetId, none, none⟩
  rejectIf (a.assetId ∈ seen.map ArchitectureAsset.assetId)
    ⟨.assetDuplicate, "architecture contains duplicate asset IDs", some a.assetId, none, none⟩
  rejectIf (a.ownerId ∉ p.trustedOwnerIds)
    ⟨.assetOwnerUntrusted, "asset owner is not trusted by architecture policy", some a.assetId, none, none⟩
  rejectIf (a.trustZone ∉ p.allowedTrustZones)
    ⟨.trustZoneInvalid, "asset uses an unrecognized trust zone", some a.assetId, none, none⟩

/-- `assets[i].trust_zone`. -/
def trustZone (assets : Dict ArchitectureAsset) (i : String) : Gate String := do
  let a ← getItem assets i
  return a.trustZone

/-- `assets[flow.source_asset_id].trust_zone != assets[flow.target_asset_id].trust_zone`. -/
def crossesBoundary (assets : Dict ArchitectureAsset) (f : ArchitectureFlow) : Gate Bool := do
  let source ← trustZone assets f.sourceAssetId
  let target ← trustZone assets f.targetAssetId
  return source ≠ target

/-- The checks of one flow, after the flows before it. -/
def validateFlow (p : AttackPathPolicy) (assets : Dict ArchitectureAsset) (seen : List ArchitectureFlow) (f : ArchitectureFlow) :
    Gate Unit := do
  rejectIf (f.flowId = "" ∨ f.sourceAssetId = "" ∨ f.targetAssetId = "" ∨ f.ownerId = "" ∨ f.description = "")
    ⟨.manifestInvalid, "architecture contains an invalid flow", none, orNone f.flowId, none⟩
  rejectIf (f.flowId ∈ seen.map ArchitectureFlow.flowId)
    ⟨.flowDuplicate, "architecture contains duplicate flow IDs", none, some f.flowId, none⟩
  rejectIf (f.ownerId ∉ p.trustedOwnerIds)
    ⟨.flowOwnerUntrusted, "flow owner is not trusted by architecture policy", none, some f.flowId, none⟩
  rejectIf (assets f.sourceAssetId = none ∨ assets f.targetAssetId = none)
    ⟨.flowReferenceInvalid, "flow references an unknown asset", none, some f.flowId, none⟩
  rejectIf (f.sourceAssetId = f.targetAssetId)
    ⟨.flowSelfLoop, "architecture flow may not self-loop", none, some f.flowId, none⟩
  rejectIf (¬ f.requiredControlIds.Nodup ∨ "" ∈ f.requiredControlIds)
    ⟨.flowControlDuplicate, "flow contains duplicate or empty control IDs", none, some f.flowId, none⟩
  let crosses ← crossesBoundary assets f
  rejectIf (crosses ∧ f.requiredControlIds = [] ∧ f.flowId ∉ p.allowUnguardedFlowIds)
    ⟨.unguardedTrustBoundary, "cross-zone flow has no explicit control mapping", none, some f.flowId, none⟩

/-- The assets and flows of a manifest, each with an id of its own, and its digest. -/
structure AssetGraph where
  assets : List ArchitectureAsset
  flows : List ArchitectureFlow
  sha256 : String

def AssetGraph.asset (g : AssetGraph) : Dict ArchitectureAsset := Dict.ofItems ArchitectureAsset.assetId g.assets

def AssetGraph.flow (g : AssetGraph) : Dict ArchitectureFlow := Dict.ofItems ArchitectureFlow.flowId g.flows

/-- `_validate_manifest`. -/
def validateManifest (m : ArchitectureManifest) (r : AttackPathRequest) (p : AttackPathPolicy) : Gate AssetGraph := do
  rejectIf (m.schemaVersion ≠ P7A_ARCHITECTURE_SCHEMA_VERSION ∨ m.architectureId = "" ∨ m.version = "" ∨ m.createdAtEpoch ≤ 0 ∨
    m.assets = [] ∨ m.flows = []) ⟨.manifestInvalid, "architecture manifest metadata is invalid", none, none, none⟩
  let sha := architectureManifestDigest rt m
  rejectIf (m.architectureId ≠ p.expectedArchitectureId ∨ m.version ≠ p.expectedArchitectureVersion ∨
    r.architectureId ≠ m.architectureId ∨ r.architectureVersion ≠ m.version ∨ sha ≠ rt.casefold p.expectedArchitectureSha256 ∨
    rt.casefold r.architectureSha256 ≠ sha)
    ⟨.manifestDigestMismatch, "request/policy do not bind to the exact architecture manifest", none, none, none⟩
  rejectIf (m.createdAtEpoch > r.evaluatedAtEpoch + p.maxFutureSkewSeconds)
    ⟨.manifestFuture, "architecture manifest is future-dated", none, none, none⟩
  rejectIf (r.evaluatedAtEpoch - m.createdAtEpoch > p.maxManifestAgeSeconds)
    ⟨.manifestStale, "architecture manifest is older than policy permits", none, none, none⟩
  scan (validateAsset p) [] m.assets
  let g : AssetGraph := ⟨m.assets, m.flows, sha⟩
  let missing := distinct (p.requiredAssetIds.filter fun a => a ∉ m.assets.map ArchitectureAsset.assetId)
  rejectIf (missing ≠ []) ⟨.assetRequiredMissing, "required architecture asset is missing", missing.head?, none, none⟩
  forEach (fun (a, zone) => rejectIf ((g.asset a).map ArchitectureAsset.trustZone ≠ some zone)
    ⟨.trustZoneDrift, "asset trust zone differs from policy", some a, none, none⟩) p.expectedTrustZoneByAsset
  forEach (fun (a, minimum) => rejectIf (¬ ∃ x ∈ g.asset a, sensitivityRank minimum ≤ sensitivityRank x.sensitivity)
    ⟨.sensitivityDowngrade, "sensitive asset criticality is below policy minimum", some a, none, none⟩) p.minimumSensitivityByAsset
  scan (validateFlow p g.asset) [] m.flows
  let missing := distinct (p.requiredFlowIds.filter fun f => f ∉ m.flows.map ArchitectureFlow.flowId)
  rejectIf (missing ≠ []) ⟨.flowRequiredMissing, "required architecture flow is missing", none, missing.head?, none⟩
  forEach (fun (f, endpoints) => rejectIf ((g.flow f).map (fun x => (x.sourceAssetId, x.targetAssetId)) ≠ some endpoints)
    ⟨.flowEndpointDrift, "flow endpoints differ from policy", none, some f, none⟩) p.expectedFlowEndpoints
  forEach (fun (f, controls) => rejectIf (¬ ∃ x ∈ g.flow f, sameSet x.requiredControlIds controls)
    ⟨.flowControlDrift, "flow control mapping differs from policy", none, some f, none⟩) p.expectedControlIdsByFlow
  return g

def controlRejections : ControlRejections AttackPathRejected where
  invalid c := ⟨.controlEvidenceInvalid, "P6-D control assessment is invalid", none, none, orNone c⟩
  duplicate c := ⟨.controlEvidenceInvalid, "P6-D posture contains duplicate control assessments", none, none, some c⟩
  count := ⟨.controlEvidenceInvalid, "P6-D control count does not match assessment coverage", none, none, none⟩
  status := ⟨.controlStatusMismatch, "P6-D aggregate control-status lists do not match assessments", none, none, none⟩

/-- `_validate_posture`. -/
def validatePosture (s : SecurityPosture) (r : AttackPathRequest) (p : AttackPathPolicy) (flows : List ArchitectureFlow) :
    Gate (Dict ControlStatus) := do
  rejectIf (¬ s.Intact ∨ ¬ isSha256 rt s.postureEvidenceSha256 ∨ ¬ isSha256 rt s.controlCatalogSha256)
    ⟨.postureUnverified, "attack-path analysis requires intact P6-D posture evidence", none, none, none⟩
  rejectIf (rt.casefold s.postureEvidenceSha256 ≠ rt.casefold p.expectedPostureEvidenceSha256 ∨
    rt.casefold r.postureEvidenceSha256 ≠ rt.casefold s.postureEvidenceSha256)
    ⟨.postureDigestMismatch, "request/policy do not bind to exact P6-D posture evidence", none, none, none⟩
  rejectIf (rt.casefold s.controlCatalogSha256 ≠ rt.casefold p.expectedControlCatalogSha256)
    ⟨.controlCatalogMismatch, "P6-D control catalog differs from architecture policy", none, none, none⟩
  let controls ← postureControls rt controlRejections s
  forEach (fun (f : ArchitectureFlow) => forEach (fun c => rejectIf (controls c = none)
    ⟨.controlUnknown, "architecture flow references control absent from P6-D posture", none, some f.flowId, some c⟩)
    f.requiredControlIds) flows
  return controls

/-! ## Paths -/

/-- The flows of a path that cross a trust boundary without a control. -/
def unguardedFlows (assets : Dict ArchitectureAsset) (path : List ArchitectureFlow) : Gate (List String) := do
  let crossing ← gather (fun f => do
    let crosses ← crossesBoundary assets f
    return (f, crosses)) path
  return distinct ((crossing.filter fun (f, crosses) => crosses ∧ f.requiredControlIds = []).map fun (f, _) => f.flowId)

/-- `_path_fact`; a path has at least one asset. -/
def pathFact (g : AssetGraph) (controls : Dict ControlStatus) (assetIds flowIds : List String) : Gate AttackPathFact := do
  let entry := assetIds.head?.getD ""
  let target := assetIds.getLast?.getD ""
  let zones ← gather (trustZone g.asset) assetIds
  let crossings : Int := (zones.zip zones.tail).countP fun (left, right) => left ≠ right
  let path ← gather (getItem g.flow) flowIds
  let unguarded ← unguardedFlows g.asset path
  let t ← tally controls (path.flatMap ArchitectureFlow.requiredControlIds)
  let exposed := t.exceptioned ≠ [] ∨ t.notEvaluated ≠ [] ∨ unguarded ≠ []
  let a ← getItem g.asset target
  return {
    pathId := attackPathIdentifier rt entry target assetIds flowIds
    entryAssetId := entry
    targetAssetId := target
    assetIds := assetIds
    flowIds := flowIds
    trustZoneSequence := zones
    trustBoundaryCrossings := crossings
    satisfiedControlIds := t.satisfied
    exceptionedControlIds := t.exceptioned
    notEvaluatedControlIds := t.notEvaluated
    unguardedFlowIds := unguarded
    exposed := exposed
    targetSensitivity := a.sensitivity
    riskScore := sensitivityRank a.sensitivity * 20 + crossings * 3 + t.exceptioned.length * 10 + t.notEvaluated.length * 6 +
      unguarded.length * 12 + max 0 (8 - (flowIds.length : Int))
    exposureReasons := sortOn id (t.exceptioned.map ("exceptioned_control:" ++ ·) ++ t.notEvaluated.map ("not_evaluated_control:" ++ ·) ++
      unguarded.map ("unguarded_flow:" ++ ·))
    mitigatingControlIds := t.satisfied }

def pathLimit (message : String) : Raised AttackPathRejected := .rejected ⟨.pathLimitExceeded, message, none, none, none⟩

/-- `adjacency`, and the return at the target. -/
def graphTo (g : AssetGraph) (target : String) : BoundedSearch.Graph String ArchitectureFlow where
  outgoing a := sortOn ArchitectureFlow.flowId (g.flows.filter fun f => f.sourceAssetId = a)
  target := ArchitectureFlow.targetAssetId
  halts current _ := current = target

/-- `walk(entry, target, …)`: it appends a fact at the target. -/
def walkTo (g : AssetGraph) (controls : Dict ControlStatus) (p : AttackPathPolicy) (entry target : String) :
    Search String ArchitectureFlow AttackPathFact (Raised AttackPathRejected) where
  toGraph := graphTo g target
  emits current path :=
    if current = target ∧ path ≠ [] then do
      let fact ← pathFact rt g controls (entry :: path.map ArchitectureFlow.targetAssetId) (path.map ArchitectureFlow.flowId)
      return [fact]
    else .ok []
  maxResults := p.maxPaths
  tooMany := pathLimit "topology produced more paths than policy permits"

/-- The pairs of an entry and a target, in the order of the two loops. -/
def pairs (p : AttackPathPolicy) : List (String × String) :=
  (distinct p.requiredEntryAssetIds).flatMap fun entry => (distinct p.requiredTargetAssetIds).map fun target => (entry, target)

/-- `_enumerate_paths`; `len(flow_path)` reaches `max_path_hops` when no edge is left to go. -/
def enumeratePaths (g : AssetGraph) (controls : Dict ControlStatus) (p : AttackPathPolicy) : Gate (List AttackPathFact) := do
  forEach (fun (f : ArchitectureFlow) => raiseIf (g.asset f.sourceAssetId = none) (.key f.sourceAssetId)) g.flows
  let (results, truncated) ← (pairs p).foldlM (fun st pair =>
    walk (walkTo rt g controls p pair.1 pair.2) p.maxPathHops.toNat pair.1 [] [pair.1] st) ([], false)
  raiseIf truncated (pathLimit "path-hop bound truncated a reachable topology frontier")
  raiseIf (¬ (results.map AttackPathFact.pathId).Nodup) (pathLimit "deterministic path identifier collision detected")
  return sortOn AttackPathFact.pathId results

/-! ## The assessment -/

/-- `asdict(path)`. -/
def factDocument (f : AttackPathFact) : Json := .obj [
  ("asset_ids", texts f.assetIds), ("entry_asset_id", .str f.entryAssetId),
  ("exceptioned_control_ids", texts f.exceptionedControlIds), ("exposed", .bool f.exposed),
  ("exposure_reasons", texts f.exposureReasons), ("flow_ids", texts f.flowIds),
  ("mitigating_control_ids", texts f.mitigatingControlIds),
  ("not_evaluated_control_ids", texts f.notEvaluatedControlIds), ("path_id", .str f.pathId),
  ("risk_score", .int f.riskScore), ("satisfied_control_ids", texts f.satisfiedControlIds),
  ("target_asset_id", .str f.targetAssetId), ("target_sensitivity", .str f.targetSensitivity.value),
  ("trust_boundary_crossings", .int f.trustBoundaryCrossings), ("trust_zone_sequence", texts f.trustZoneSequence),
  ("unguarded_flow_ids", texts f.unguardedFlowIds)]

/-- `sorted(exposed, key=(-risk_score, target_asset_id, path_id))`. -/
def prioritized (exposed : List AttackPathFact) : List String :=
  (sortOn AttackPathFact.pathId exposed |> sortOn AttackPathFact.targetAssetId |> sortOn fun f => -f.riskScore).map AttackPathFact.pathId

/-- `max(…, default=0)`; no score is negative. -/
def maxRisk (exposed : List AttackPathFact) : Int := (exposed.map AttackPathFact.riskScore).foldl max 0

/-- `TrustBoundaryAttackPathAnalyzer.evaluate`. -/
def evaluate (p : AttackPathPolicy) (r : AttackPathRequest) (m : ArchitectureManifest) (s : SecurityPosture) :
    Gate VerifiedAttackPathAssessment := do
  validatePolicy rt p
  validateRequest rt r p
  let g ← validateManifest rt m r p
  let controls ← validatePosture rt s r p g.flows
  let paths ← enumeratePaths rt g controls p
  let exposed := paths.filter fun f => f.exposed
  let controlled := paths.filter fun f => ¬ f.exposed
  let critical := exposed.filter fun f => f.targetSensitivity = .critical
  rejectIf (¬ sameSet r.declaredExposedPathIds (prioritized exposed))
    ⟨.declaredPathMismatch, "caller-declared exposed paths differ from evidence-derived paths", none, none, none⟩
  rejectIf (r.declaredMaxExposedRiskScore ≠ maxRisk exposed)
    ⟨.declaredRiskMismatch, "caller-declared maximum risk differs from evidence-derived risk", none, none, none⟩
  let document : Json := .obj [
    ("architecture_sha256", .str g.sha256), ("attacker_profile_id", .str r.attackerProfileId),
    ("control_catalog_sha256", .str (rt.casefold s.controlCatalogSha256)),
    ("entry_asset_ids", texts (sortOn id r.entryAssetIds)), ("exposed_path_ids", texts (prioritized exposed)),
    ("max_exposed_risk_score", .int (maxRisk exposed)), ("path_facts", .arr (paths.map factDocument)),
    ("posture_evidence_sha256", .str (rt.casefold s.postureEvidenceSha256)),
    ("target_asset_ids", texts (sortOn id r.targetAssetIds))]
  return {
    architectureId := m.architectureId
    architectureVersion := m.version
    architectureSha256 := g.sha256
    postureEvidenceSha256 := rt.casefold s.postureEvidenceSha256
    controlCatalogSha256 := rt.casefold s.controlCatalogSha256
    attackerProfileId := r.attackerProfileId
    entryAssetIds := sortOn id r.entryAssetIds
    targetAssetIds := sortOn id r.targetAssetIds
    topologyPathCount := paths.length
    exposedPathCount := exposed.length
    controlledPathCount := controlled.length
    criticalExposedPathCount := critical.length
    maxExposedRiskScore := maxRisk exposed
    prioritizedExposedPathIds := prioritized exposed
    paths := paths
    assessmentEvidenceSha256 := rt.sha256 document }

end

end Aegis.Architecture.AttackPaths
